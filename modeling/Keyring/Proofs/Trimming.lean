import Keyring.Text.Blank
import Mathlib.Data.List.Basic
import Mathlib.Data.List.TakeWhile

/-!
What trimming leaves of a text.

The core of a text is what stands between the white space at its ends (`IsCoreOf`). Every
text has one core and trimming finds it (`trim_eq_iff`), so white space added at an end
changes nothing.
-/

namespace Keyring.Text

/-- `core` is `text` without the white space at its ends: white space stands around it, and
it starts and ends with none. -/
def IsCoreOf (core text : List Char) : Prop :=
  ∃ front back, text = front ++ core ++ back ∧
    (∀ c ∈ front, isBlank c = true) ∧ (∀ c ∈ back, isBlank c = true) ∧
    (∀ c ∈ core.head?, isBlank c = false) ∧ ∀ c ∈ core.getLast?, isBlank c = false

/-! ## One end -/

/-- Dropping white space in front of a text that starts with none leaves the text. -/
theorem dropWhile_isBlank_append {front text : List Char}
    (blank : ∀ c ∈ front, isBlank c = true) (solid : ∀ c ∈ text.head?, isBlank c = false) :
    (front ++ text).dropWhile isBlank = text := by
  rw [List.dropWhile_append_of_pos blank]
  cases text with
  | nil => rfl
  | cons c rest =>
    have solid : isBlank c = false := solid c rfl
    rw [List.dropWhile_cons_of_neg]
    simp [solid]

theorem trimEnd_append {text back : List Char} (blank : ∀ c ∈ back, isBlank c = true)
    (solid : ∀ c ∈ text.getLast?, isBlank c = false) : trimEnd (text ++ back) = text := by
  have blank' : ∀ c ∈ back.reverse, isBlank c = true := fun c member =>
    blank c (List.mem_reverse.mp member)
  rw [trimEnd, List.reverse_append, dropWhile_isBlank_append blank' (by rwa [List.head?_reverse]),
    List.reverse_reverse]

/-- What is left of a text in front starts with no white space. -/
theorem head?_dropWhile_isBlank (text : List Char) :
    ∀ c ∈ (text.dropWhile isBlank).head?, isBlank c = false := by
  intro c first
  have solid := List.head?_dropWhile_not isBlank text
  rw [Option.mem_def.mp first] at solid
  exact solid

/-! ## Both ends -/

/-- A text is white space, what is left at the end and white space. -/
theorem exists_eq_trimEnd_append (text : List Char) :
    ∃ back, text = trimEnd text ++ back ∧ ∀ c ∈ back, isBlank c = true := by
  refine ⟨(text.reverse.takeWhile isBlank).reverse, ?_, ?_⟩
  · rw [trimEnd, ← List.reverse_append, List.takeWhile_append_dropWhile, List.reverse_reverse]
  · intro c member
    exact List.mem_takeWhile_imp (List.mem_reverse.mp member)

/-- Trimming finds the core of a text. -/
theorem isCoreOf_trim (text : List Char) : IsCoreOf (trim text) text := by
  obtain ⟨back, split, blank⟩ := exists_eq_trimEnd_append (text.dropWhile isBlank)
  refine ⟨text.takeWhile isBlank, back, ?_, fun c => List.mem_takeWhile_imp, blank, ?_, ?_⟩
  · rw [trim, List.append_assoc, ← split, List.takeWhile_append_dropWhile]
  · intro c first
    apply head?_dropWhile_isBlank text
    rw [split]
    exact List.mem_head?_append_of_mem_head? first
  · intro c last
    rw [trim, trimEnd, List.getLast?_reverse] at last
    exact head?_dropWhile_isBlank _ c last

/-- Nothing is left to be trimmed from a core. -/
theorem IsCoreOf.itself {text core : List Char} (isCore : IsCoreOf core text) :
    IsCoreOf core core := by
  obtain ⟨_, _, -, -, -, ends⟩ := isCore
  exact ⟨[], [], by simp, by simp, by simp, ends⟩

/-- A text has one core, which trimming finds. -/
theorem trim_eq_iff {text core : List Char} : trim text = core ↔ IsCoreOf core text := by
  constructor
  · rintro rfl
    exact isCoreOf_trim text
  · rintro ⟨front, back, rfl, blankFront, blankBack, first, last⟩
    rw [List.append_assoc, trim]
    cases core with
    | nil =>
      rw [List.nil_append, List.dropWhile_append_of_pos blankFront,
        List.dropWhile_eq_nil_iff.mpr blankBack]
      rfl
    | cons c rest =>
      have stripped : (front ++ (c :: rest ++ back)).dropWhile isBlank = c :: rest ++ back :=
        dropWhile_isBlank_append blankFront first
      rw [stripped]
      exact trimEnd_append blankBack last

/-- A text without white space is the core of what has white space around it. -/
theorem isCoreOf_append {front core back : List Char} (blank : ∀ c ∈ front, isBlank c = true)
    (solid : ∀ c ∈ core, isBlank c = false) (blank' : ∀ c ∈ back, isBlank c = true) :
    IsCoreOf core (front ++ core ++ back) := by
  refine ⟨front, back, rfl, blank, blank', ?_, ?_⟩
  · exact fun c first => solid c (List.mem_of_mem_head? first)
  · exact fun c last => solid c (List.mem_of_getLast? last)

/-- A text without white space has none to be trimmed. -/
theorem trim_eq_self {text : List Char} (solid : ∀ c ∈ text, isBlank c = false) :
    trim text = text := by
  have isCore := isCoreOf_append (List.forall_mem_nil _) solid (List.forall_mem_nil _)
  rw [List.nil_append, List.append_nil] at isCore
  exact trim_eq_iff.mpr isCore

/-- Nothing is left of a text when it holds nothing but white space. -/
theorem trim_eq_nil_iff {text : List Char} : trim text = [] ↔ ∀ c ∈ text, isBlank c = true := by
  rw [trim_eq_iff]
  constructor
  · rintro ⟨front, back, rfl, blankFront, blankBack, -⟩ c member
    rw [List.append_nil, List.mem_append] at member
    exact member.elim (blankFront c) (blankBack c)
  · intro blank
    exact ⟨text, [], by simp, blank, by simp, by simp, by simp⟩

/-- White space behind a text is trimmed with what stands before it. -/
theorem trim_concat_of_isBlank (text : List Char) {c : Char} (blank : isBlank c = true) :
    trim (text ++ [c]) = trim text := by
  obtain ⟨front, back, split, blankFront, blankBack, ends⟩ := isCoreOf_trim text
  refine trim_eq_iff.mpr ⟨front, back ++ [c], ?_, blankFront, ?_, ends⟩
  · conv => lhs; rw [split]
    rw [List.append_assoc]
  · intro d member
    rcases List.mem_append.mp member with before | last
    · exact blankBack d before
    · rwa [List.mem_singleton.mp last]

end Keyring.Text
