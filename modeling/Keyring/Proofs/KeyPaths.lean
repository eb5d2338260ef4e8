import Keyring.Proofs.Loading
import Mathlib.Data.List.Basic

/-!
Where the files of keys are.

A path is read from what stands between the slashes of a text, so a name of a key that has slashes
is more than the name of a file. Whatever the name, the path ends in what stands behind the last
slash, with the suffix. A name without a slash is that of a file in the key directory itself, one
for each name (`keyPath_layout`). A name with slashes may lead out of the directory: a part `..`
steps back, and behind a slash in front neither the directory nor the home counts any more
(`keyPath_within_iff`).
-/

namespace Keyring

namespace Path

/-! ## The parts of a text between slashes -/

theorem segments_eq_splitOn (text : RawText) : segments text = text.splitOn (.char '/') := by
  induction text with
  | nil => rfl
  | cons c text ih =>
    rw [segments, List.splitOn_cons_eq_if_modifyHead, ih]
    by_cases slash : c = '/'
    · simp [slash]
    · rw [if_neg slash, if_neg (by simpa using slash)]
      cases parts : text.splitOn (.char '/') with
      | nil => exact absurd parts (List.splitOn_ne_nil _ _)
      | cons first others => rfl

theorem names_ofText (text : RawText) :
    (ofText text).names = (text.splitOn (.char '/')).filter isName := by
  rw [ofText, segments_eq_splitOn]

/-- Of a text with a slash the names are read from either side. -/
theorem names_ofText_append_slash (front back : RawText) :
    (ofText (front ++ "/" ++ back)).names = (ofText front).names ++ (ofText back).names := by
  have slash : front ++ "/" ++ back = front ++ .char '/' :: back := List.append_assoc _ _ _
  rw [names_ofText, names_ofText, names_ofText, slash, List.splitOn_append_cons_self,
    List.filter_append]

/-- A text without a slash is itself the only name. -/
theorem names_ofText_of_whole {text : RawText} (whole : .char '/' ∉ text)
    (counts : isName text = true) : (ofText text).names = [text] := by
  rw [names_ofText, List.splitOn_eq_singleton whole, List.filter_cons_of_pos counts]
  rfl

theorem eq_of_mem_names_of_whole {text part : RawText} (whole : .char '/' ∉ text)
    (member : part ∈ (ofText text).names) : part = text := by
  rw [names_ofText, List.splitOn_eq_singleton whole] at member
  exact List.mem_singleton.mp (List.mem_of_mem_filter member)

theorem isName_of_long {segment : RawText} (long : 2 ≤ segment.length) :
    isName segment = true := by
  have other : segment ≠ "." := by
    rintro rfl
    exact absurd long (by decide)
  cases segment with
  | nil => cases long
  | cons c rest => simpa [isName] using other

/-! ## The last part, and the parts before it -/

/-- What stands behind the last slash of a text; the whole text when it has none. -/
def IsLastPart (part text : RawText) : Prop :=
  .char '/' ∉ part ∧ (text = part ∨ ∃ front : RawText, text = front ++ "/" ++ part)

theorem exists_isLastPart (text : RawText) : ∃ part, IsLastPart part text := by
  by_cases slash : .char '/' ∈ text.reverse
  · obtain ⟨last, front, split, whole⟩ := List.eq_append_cons_of_mem slash
    refine ⟨last.reverse, by simpa using whole, .inr ⟨front.reverse, ?_⟩⟩
    have text_eq : text = front.reverse ++ .char '/' :: last.reverse := by
      simpa using congrArg List.reverse split
    rw [text_eq, List.append_assoc]
    rfl
  · exact ⟨text, fun member => slash (List.mem_reverse.mpr member), .inl rfl⟩

/-- A text in which a part stands: at the start or behind a slash, and at the end or before a
slash. -/
def HasPart (text part : RawText) : Prop :=
  ∃ front back, text = front ++ part ++ back ∧
    (front = [] ∨ ∃ before : RawText, front = before ++ "/") ∧
    (back = [] ∨ ∃ after : RawText, back = "/" ++ after)

/-- With a slash behind it a text keeps its parts. -/
theorem HasPart.append_slash {text part : RawText} (has : HasPart text part) (back : RawText) :
    HasPart (text ++ "/" ++ back) part := by
  obtain ⟨front, rest, rfl, opens, rfl | ⟨after, rfl⟩⟩ := has
  · exact ⟨front, "/" ++ back, by simp, opens, .inr ⟨back, rfl⟩⟩
  · exact ⟨front, "/" ++ (after ++ "/" ++ back), by simp, opens, .inr ⟨_, rfl⟩⟩

/-- A name that is read from a text is a part of it. The induction goes from slash to slash, from
the end to the start. -/
theorem hasPart_of_mem_names {text part : RawText} (member : part ∈ (ofText text).names) :
    HasPart text part := by
  induction length : text.length using Nat.strongRecOn generalizing text with
  | ind count ih =>
    obtain ⟨last, whole, rfl | ⟨front, rfl⟩⟩ := exists_isLastPart text
    · rw [eq_of_mem_names_of_whole whole member]
      exact ⟨[], [], by simp, .inl rfl, .inl rfl⟩
    · rw [names_ofText_append_slash, List.mem_append] at member
      rcases member with before | here
      · have shorter : front.length < count := by
          have slash : (RawText.ofString "/").length = 1 := rfl
          rw [← length, List.length_append, List.length_append, slash]
          omega
        exact (ih front.length shorter before rfl).append_slash last
      · rw [eq_of_mem_names_of_whole whole here]
        exact ⟨front ++ "/", [], by simp, .inr ⟨front, rfl⟩, .inl rfl⟩

/-- The names that are read from a text are the parts that count as names. -/
theorem mem_names_iff_hasPart {text part : RawText} (whole : .char '/' ∉ part)
    (counts : isName part = true) :
    part ∈ (ofText text).names ↔ HasPart text part := by
  constructor
  · exact hasPart_of_mem_names
  · have itself : part ∈ (ofText part).names := by
      rw [names_ofText_of_whole whole counts]
      exact List.mem_singleton_self part
    rintro ⟨front, back, rfl, opens, closes⟩
    have opened : part ∈ (ofText (front ++ part)).names := by
      rcases opens with rfl | ⟨before, rfl⟩
      · exact itself
      · rw [names_ofText_append_slash]
        exact List.mem_append_right _ itself
    rcases closes with rfl | ⟨after, rfl⟩
    · rw [List.append_nil]
      exact opened
    · rw [← List.append_assoc, names_ofText_append_slash]
      exact List.mem_append_left _ opened

/-! ## Where a path starts, and what it stays within -/

/-- A text that begins with a slash. -/
def Rooted (text : RawText) : Prop :=
  ∃ rest : RawText, text = "/" ++ rest

theorem rooted_iff {text : RawText} : Rooted text ↔ text.head? = some (.char '/') :=
  List.head?_eq_some_iff.symm

theorem not_rooted_of_whole {text : RawText} (whole : .char '/' ∉ text) : ¬Rooted text := by
  rintro ⟨rest, rfl⟩
  exact whole List.mem_cons_self

/-- A path is relative unless the text begins with a slash. -/
theorem anchor_ofText_eq_relative_iff {text : RawText} :
    (ofText text).anchor = .relative ↔ ¬Rooted text := by
  rw [rooted_iff]
  change anchorOf text = .relative ↔ _
  cases text with
  | nil => simp [anchorOf]
  | cons c rest =>
    by_cases slash : c = '/'
    · simp only [anchorOf, slash, List.head?_cons]
      rw [List.takeWhile_cons_of_pos (by simp), List.length_cons]
      split <;> simp_all
    · simp [anchorOf, slash]

theorem join_of_relative {path other : Path} (relative : other.anchor = .relative) :
    path.join other = ⟨path.anchor, path.names ++ other.names⟩ := by
  rw [join, relative]

theorem join_of_absolute {path other : Path} (absolute : other.anchor ≠ .relative) :
    path.join other = other := by
  unfold join
  split
  case h_1 relative => exact absurd relative absolute
  case h_2 => rfl

/-- A path leads on from a directory without a step back: the directory is its leading part, and no
`..` follows. -/
def Within (path directory : Path) : Prop :=
  ∃ names : List RawText, path = ⟨directory.anchor, directory.names ++ names⟩ ∧
    RawText.ofString ".." ∉ names

/-! ## What a path shows -/

theorem intercalate_concat (separator last : RawText) {names : List RawText}
    (nonempty : names ≠ []) :
    List.intercalate separator (names ++ [last]) =
      List.intercalate separator names ++ separator ++ last := by
  induction names with
  | nil => exact absurd rfl nonempty
  | cons first rest ih =>
    cases rest with
    | nil => simp [List.intercalate_cons_cons]
    | cons second others =>
      have onwards := ih (List.cons_ne_nil _ _)
      simp only [List.cons_append, List.intercalate_cons_cons] at onwards ⊢
      simp only [onwards, List.append_assoc]

/-- A path that ends in a name shows itself, as it is not empty. -/
theorem text_concat (anchor : Anchor) (names : List RawText) {last : RawText}
    (solid : last ≠ []) :
    text ⟨anchor, names ++ [last]⟩ =
      anchorText anchor ++ List.intercalate "/" (names ++ [last]) := by
  have ends : ∃ front, anchorText anchor ++ List.intercalate "/" (names ++ [last]) =
      front ++ last := by
    by_cases none : names = []
    · exact ⟨anchorText anchor, by simp [none]⟩
    · refine ⟨anchorText anchor ++ List.intercalate "/" names ++ "/", ?_⟩
      rw [intercalate_concat _ _ none]
      simp only [List.append_assoc]
  obtain ⟨front, shown⟩ := ends
  rw [text, shown, if_neg]
  simp [solid]

/-- A path with one more name shows it behind a slash. -/
theorem text_concat_concat (anchor : Anchor) (names : List RawText) {directory last : RawText}
    (solid : directory ≠ []) (solid' : last ≠ []) :
    text ⟨anchor, names ++ [directory] ++ [last]⟩ =
      text ⟨anchor, names ++ [directory]⟩ ++ "/" ++ last := by
  rw [text_concat _ _ solid', text_concat _ _ solid, intercalate_concat _ _ (by simp)]
  simp only [List.append_assoc]

end Path

namespace KeyStore

open Keyring.Path

/-! ## Names of files -/

theorem isName_append_suffix (part : RawText) : isName (part ++ suffix) = true := by
  apply isName_of_long
  rw [List.length_append]
  exact Nat.le_add_left_of_le (by decide)

/-- The suffix belongs to the last part of a name, and is not read as a part of its own. -/
theorem names_append_suffix_of_whole {part : RawText} (whole : .char '/' ∉ part) :
    (ofText (part ++ suffix)).names = [part ++ suffix] := by
  refine names_ofText_of_whole ?_ (isName_append_suffix part)
  rw [List.mem_append, not_or]
  exact ⟨whole, by decide⟩

theorem names_append_suffix_of_slash (front : RawText) {part : RawText}
    (whole : .char '/' ∉ part) :
    (ofText (front ++ "/" ++ part ++ suffix)).names =
      (ofText front).names ++ [part ++ suffix] := by
  rw [List.append_assoc, names_ofText_append_slash, names_append_suffix_of_whole whole]

theorem exists_names_append_suffix {part name : RawText} (last : IsLastPart part name) :
    ∃ front, (ofText (name ++ suffix)).names = front ++ [part ++ suffix] := by
  obtain ⟨whole, rfl | ⟨front, rfl⟩⟩ := last
  · exact ⟨[], names_append_suffix_of_whole whole⟩
  · exact ⟨_, names_append_suffix_of_slash front whole⟩

/-! ## Paths of files -/

section PathBelow

variable {home : Path} {name part : RawText}

theorem rooted_append_suffix_iff : Rooted (name ++ suffix) ↔ Rooted name := by
  rw [rooted_iff, rooted_iff]
  cases name with
  | nil => decide
  | cons c rest => rw [List.cons_append, List.head?_cons, List.head?_cons]

/-- The file of a name that does not begin with a slash is below the key directory. -/
theorem pathBelow_of_not_rooted (relative : ¬Rooted name) :
    pathBelow home name =
      ⟨home.anchor, (home.join directory).names ++ (ofText (name ++ suffix)).names⟩ := by
  have anchor := anchor_ofText_eq_relative_iff.mpr (mt rooted_append_suffix_iff.mp relative)
  rw [pathBelow, join_of_relative anchor, join_of_relative rfl]

/-- The file of a name that begins with a slash is where the name says, wherever the home
directory is. -/
theorem pathBelow_of_rooted (rooted : Rooted name) :
    pathBelow home name = ofText (name ++ suffix) := by
  apply join_of_absolute
  rw [Ne, anchor_ofText_eq_relative_iff, not_not]
  exact rooted_append_suffix_iff.mpr rooted

theorem pathBelow_of_whole (whole : .char '/' ∉ name) :
    pathBelow home name = ⟨home.anchor, (home.join directory).names ++ [name ++ suffix]⟩ := by
  rw [pathBelow_of_not_rooted (not_rooted_of_whole whole), names_append_suffix_of_whole whole]

/-- Every path of a key's file ends in the last part of the name, with the suffix. -/
theorem exists_names_pathBelow (home : Path) (last : IsLastPart part name) :
    ∃ front, (pathBelow home name).names = front ++ [part ++ suffix] := by
  obtain ⟨front, names⟩ := exists_names_append_suffix last
  by_cases rooted : Rooted name
  · exact ⟨front, by rw [pathBelow_of_rooted rooted, names]⟩
  · refine ⟨(home.join directory).names ++ front, ?_⟩
    rw [pathBelow_of_not_rooted rooted, names, List.append_assoc]

theorem name_pathBelow (home : Path) (last : IsLastPart part name) :
    (pathBelow home name).name = part ++ suffix := by
  obtain ⟨front, names⟩ := exists_names_pathBelow home last
  rw [Path.name, names, List.getLastD_concat]

theorem parent_pathBelow_of_whole (whole : .char '/' ∉ name) :
    (pathBelow home name).parent = home.join directory := by
  rw [pathBelow_of_whole whole, Path.parent]
  simp only [List.dropLast_concat]
  rfl

/-- The file of a name without a slash is shown behind the key directory. -/
theorem text_pathBelow_of_whole (home : Path) (whole : .char '/' ∉ name) :
    (pathBelow home name).text = (home.join directory).text ++ "/" ++ (name ++ suffix) := by
  have solid : name ++ suffix ≠ [] := List.append_ne_nil_of_right_ne_nil _ (by decide)
  rw [pathBelow_of_whole whole]
  have shown := text_concat_concat home.anchor (home.names ++ [RawText.ofString ".sawtooth"])
    (by decide : RawText.ofString "keys" ≠ []) solid
  rw [List.append_assoc home.names] at shown
  exact shown

end PathBelow

/-- Wherever the home directory of a store's identity is, the file of a key has the suffix behind
what stands behind the last slash of its name. A name without a slash is that of a file of the key
directory itself, which is shown behind it, and two such names are those of two files. -/
theorem keyPath_layout {store : KeyStore} {host : Host} {home : Path}
    (has : store.identity.HasHome host home) (name : RawText) :
    ∃ path, (store.keyPath host name).result = .ok path ∧
      (∃ part, IsLastPart part name ∧ path.name = part ++ ".priv") ∧
      (.char '/' ∉ name →
        path.parent = ⟨home.anchor, home.names ++ ([".sawtooth", "keys"] : List RawText)⟩ ∧
        path.name = name ++ ".priv" ∧
        path.text = path.parent.text ++ "/" ++ (name ++ ".priv") ∧
        ∀ other, .char '/' ∉ other → other ≠ name →
          ∃ path', (store.keyPath host other).result = .ok path' ∧
            path' ≠ path ∧ path'.text ≠ path.text) := by
  have found (name : RawText) : (store.keyPath host name).result = .ok (pathBelow home name) :=
    keyPath_eq_ok_iff.mpr ⟨home, has, rfl⟩
  obtain ⟨part, last⟩ := exists_isLastPart name
  refine ⟨pathBelow home name, found name, ⟨part, last, name_pathBelow home last⟩, ?_⟩
  intro whole
  have shown := text_pathBelow_of_whole home whole
  refine ⟨parent_pathBelow_of_whole whole, name_pathBelow home ⟨whole, .inl rfl⟩, ?_, ?_⟩
  · rw [parent_pathBelow_of_whole whole]
    exact shown
  · intro other whole' different
    have apart : (pathBelow home other).text ≠ (pathBelow home name).text := by
      rw [shown, text_pathBelow_of_whole home whole', Ne, List.append_cancel_left_eq,
        List.append_cancel_right_eq]
      exact different
    exact ⟨pathBelow home other, found other, fun same => apart (congrArg text same), apart⟩

/-- The name of two dots, below the directory `/home`: a file of the key directory like any
other. -/
theorem keyPath_layout_dots :
    let store : KeyStore := ⟨⟨0, ()⟩, .fixed none none (some (.path ⟨.root, ["home"]⟩))⟩
    let host : Host := ⟨[], none, 0, (FileTree.empty []).disk⟩
    store.identity.HasHome host ⟨.root, ["home"]⟩ ∧ .char '/' ∉ RawText.ofString ".." ∧
      ∃ path, (store.keyPath host "..").result = .ok path ∧
        path.parent = ⟨.root, ["home", ".sawtooth", "keys"]⟩ ∧ path.name = "...priv" := by
  intro store host
  have has : store.identity.HasHome host ⟨.root, ["home"]⟩ := .path _
  have whole : .char '/' ∉ RawText.ofString ".." := by decide
  obtain ⟨path, found, -, layout⟩ := keyPath_layout has ".."
  obtain ⟨parent, name, -⟩ := layout whole
  exact ⟨has, whole, path, found, parent, name⟩

/-! ## Names that lead out of the key directory -/

/-- A part `..` stands before a slash of the name. -/
def StepsBack (name : RawText) : Prop :=
  ∃ front back : RawText, name = front ++ "/" ++ back ∧ HasPart front ".."

theorem append_suffix_ne_dots (part : RawText) : part ++ suffix ≠ ".." := by
  intro same
  have length := congrArg List.length same
  rw [List.length_append] at length
  have long : suffix.length = 5 := rfl
  have short : (RawText.ofString "..").length = 2 := rfl
  omega

/-- The path of a key's file has a step back when its name does; the last part is none, as the
suffix belongs to it. -/
theorem mem_names_append_suffix_iff {name : RawText} :
    RawText.ofString ".." ∈ (ofText (name ++ suffix)).names ↔ StepsBack name := by
  constructor
  · intro member
    obtain ⟨part, whole, rfl | ⟨front, rfl⟩⟩ := exists_isLastPart name
    · -- Without a slash there is only the last part, which the suffix keeps from being `..`.
      rw [names_append_suffix_of_whole whole, List.mem_singleton] at member
      exact absurd member.symm (append_suffix_ne_dots name)
    · rw [names_append_suffix_of_slash front whole, List.mem_append] at member
      rcases member with before | here
      · exact ⟨front, part, rfl, hasPart_of_mem_names before⟩
      · exact absurd (List.mem_singleton.mp here).symm (append_suffix_ne_dots part)
  · rintro ⟨front, back, rfl, has⟩
    rw [List.append_assoc, names_ofText_append_slash]
    exact List.mem_append_left _ ((mem_names_iff_hasPart (by decide) (by decide)).mpr has)

theorem within_pathBelow_iff_of_not_rooted {home : Path} {name : RawText}
    (relative : ¬Rooted name) :
    (pathBelow home name).Within (home.join directory) ↔ ¬StepsBack name := by
  rw [pathBelow_of_not_rooted relative, ← mem_names_append_suffix_iff]
  constructor
  · rintro ⟨names, same, forward⟩
    obtain ⟨-, names_eq⟩ := Path.mk.inj same
    rwa [List.append_cancel_left names_eq]
  · intro forward
    exact ⟨_, rfl, forward⟩

/-- Wherever the home directory of a store's identity is, the file that is opened for a name is
within the key directory when the name neither begins with a slash nor has a part `..` before one;
a name that begins with a slash is taken for the path itself, which is within the directory only
when it says so. -/
theorem keyPath_within_iff {store : KeyStore} {host : Host} {home : Path}
    (has : store.identity.HasHome host home) (name : RawText) :
    ∃ path, (store.keyPath host name).result = .ok path ∧
      (∀ given, store.identity.Names host given name →
        (store.loadKey host given).result = (loadFile host.disk path).result) ∧
      (path.Within ⟨home.anchor, home.names ++ ([".sawtooth", "keys"] : List RawText)⟩ ↔
        ¬Rooted name ∧ ¬StepsBack name ∨
        Rooted name ∧ (ofText (name ++ ".priv")).Within
          ⟨home.anchor, home.names ++ ([".sawtooth", "keys"] : List RawText)⟩) ∧
      (Rooted name → path = ofText (name ++ ".priv")) := by
  have found : (store.keyPath host name).result = .ok (pathBelow home name) :=
    keyPath_eq_ok_iff.mpr ⟨home, has, rfl⟩
  refine ⟨pathBelow home name, found, ?_, ?_, pathBelow_of_rooted⟩
  · intro given names
    exact result_loadKey_of_leadsTo ⟨name, chooseName_eq_ok_iff.mpr names, found⟩
  · by_cases rooted : Rooted name
    · rw [pathBelow_of_rooted rooted]
      simp only [rooted, not_true_eq_false, false_and, false_or, true_and]
      rfl
    · have within : (pathBelow home name).Within
          ⟨home.anchor, home.names ++ ([".sawtooth", "keys"] : List RawText)⟩ ↔ ¬StepsBack name :=
        within_pathBelow_iff_of_not_rooted rooted
      simpa only [rooted, not_false_eq_true, true_and, false_and, or_false] using within

/-- A name that steps back, below the directory `/home`. -/
theorem keyPath_within_iff_parent :
    let store : KeyStore := ⟨⟨0, ()⟩, .fixed none none (some (.path ⟨.root, ["home"]⟩))⟩
    let host : Host := ⟨[], none, 0, (FileTree.empty []).disk⟩
    store.identity.HasHome host ⟨.root, ["home"]⟩ ∧ StepsBack "../alice" ∧
      ∃ path, (store.keyPath host "../alice").result = .ok path ∧
        ¬path.Within ⟨.root, ["home", ".sawtooth", "keys"]⟩ := by
  intro store host
  have has : store.identity.HasHome host ⟨.root, ["home"]⟩ := .path _
  have back : StepsBack "../alice" :=
    ⟨"..", "alice", by decide, [], [], by decide, .inl rfl, .inl rfl⟩
  have relative : ¬Rooted "../alice" := by
    rw [rooted_iff]
    decide
  obtain ⟨path, found, -, within, -⟩ := keyPath_within_iff has "../alice"
  refine ⟨has, back, path, found, fun inside => ?_⟩
  rcases within.mp inside with ⟨-, forward⟩ | ⟨rooted, -⟩
  · exact forward back
  · exact relative rooted

/-- Not every name is that of a file within the key directory: with a slash in front it is that of
one anywhere. -/
theorem not_forall_keyPath_within :
    ¬∀ (store : KeyStore) (host : Host) (home : Path) (name : RawText) (path : Path),
      store.identity.HasHome host home → (store.keyPath host name).result = .ok path →
        path.Within ⟨home.anchor, home.names ++ ([".sawtooth", "keys"] : List RawText)⟩ := by
  intro always
  let store : KeyStore := ⟨⟨0, ()⟩, .fixed none none (some (.path ⟨.root, ["h"]⟩))⟩
  let host : Host := ⟨[], none, 0, (FileTree.empty []).disk⟩
  have has : store.identity.HasHome host ⟨.root, ["h"]⟩ := .path _
  have below : pathBelow ⟨.root, ["h"]⟩ "/abs" = ofString "/abs.priv" :=
    pathBelow_of_rooted ⟨"abs", by decide⟩
  have found : (store.keyPath host "/abs").result = .ok (ofString "/abs.priv") :=
    keyPath_eq_ok_iff.mpr ⟨_, has, below.symm⟩
  obtain ⟨names, same, -⟩ := always store host _ _ _ has found
  have elsewhere : (ofString "/abs.priv").names = [RawText.ofString "abs.priv"] := by
    decide +kernel
  rw [same] at elsewhere
  exact absurd (List.cons.inj elsewhere).1 (by decide)

end KeyStore

end Keyring
