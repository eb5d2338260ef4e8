import Keyring.Proofs.RunResult

/-!
Flags in front of a line of words, and words that give a key and a message as they are.

What is settled before a line is read stays settled beside what the line settles. So a change of
what is settled that no word undoes can as well be made in the arguments that are read
(`Persists.readLine`), and a flag in front of a line changes its arguments and nothing else
(`parse_flag_cons`): the flag for a verbose run (`parse_verbose_cons`), and the name of a key,
which holds unless the line gives another one (`parse_key_cons`).

Whatever stands behind the first equals sign is the name, and whatever stands behind the marker
is the message: any key can be asked to sign any message, and signs it if it is a Unicode text
(`run_signs_as_given`).
-/

namespace Keyring.CommandLine

/-! ## What stays settled -/

/-- A change of what is settled that no word undoes, with the change of arguments that it comes
to. -/
structure Persists (change : Settled → Settled) (change' : Arguments → Arguments) : Prop where
  key : ∀ settled name, { change settled with key := some name } =
    change { settled with key := some name }
  verbose : ∀ settled, { change settled with verbose := true } =
    change { settled with verbose := true }
  leave : ∀ settled word, (change settled).leave word = change (settled.leave word)
  leftOver : ∀ settled, (change settled).leftOver = settled.leftOver
  arguments : ∀ settled command,
    (⟨(change settled).key, (change settled).verbose, command⟩ : Arguments) =
      change' ⟨settled.key, settled.verbose, command⟩

namespace Persists

variable {change : Settled → Settled} {change' : Arguments → Arguments}
  (persists : Persists change change')

include persists

theorem choose (settled : Settled) (choices : List Choice) :
    (change settled).choose choices = (settled.choose choices).map change := by
  induction choices generalizing settled with
  | nil => rfl
  | cons choice rest ih =>
    cases choice with
    | help => rfl
    | key name =>
      rw [Settled.choose, Settled.choose, persists.key]
      exact ih _
    | verbose =>
      rw [Settled.choose, Settled.choose, persists.verbose]
      exact ih _
    | leave word =>
      rw [Settled.choose, Settled.choose, persists.leave]
      exact ih _

theorem command (settled : Settled) (name : RawText) (words : List RawText) :
    (change settled).command name words = (settled.command name words).map change' := by
  unfold Settled.command
  rw [persists.leftOver]
  cases commandOf name words with
  | error stop => rfl
  | ok found =>
    rcases found with ⟨command, leftOver⟩
    dsimp only [bind, Except.bind]
    cases settled.leftOver ++ leftOver with
    | nil => exact congrArg Except.ok (persists.arguments settled command)
    | cons word rest => rfl

/-- What comes of the choices is changed alike when what follows them is. -/
theorem choose_bind {next : Settled → Except Stop Arguments}
    (follows : ∀ settled, next (change settled) = (next settled).map change')
    (settled : Settled) (choices : List Choice) :
    ((change settled).choose choices >>= next) =
      (settled.choose choices >>= next).map change' := by
  rw [persists.choose]
  cases settled.choose choices with
  | error stop => rfl
  | ok chosen => exact follows chosen

/-- Whether the change is made before a line is read or in its arguments is the same. -/
theorem readLine (settled : Settled) (words : List (RawText × Word)) :
    readLine (change settled) words = (readLine settled words).map change' := by
  -- A word either is a flag, and what follows it is changed alike, or ends the line or is left.
  fun_induction CommandLine.readLine settled words with
  | case1 settled => rfl
  | case2 settled word => rfl
  | case3 settled word flag short attached value rest misuse refused =>
    rw [CommandLine.readLine, refused]
    rfl
  | case4 settled word flag short attached value rest choices chosen ih =>
    rw [CommandLine.readLine, chosen]
    exact persists.choose_bind ih settled choices
  | case5 settled word flag short attached value rest choices chosen ih =>
    rw [CommandLine.readLine, chosen]
    exact persists.choose_bind ih settled _
  | case6 settled word flag short attached rest alone misuse refused =>
    rw [CommandLine.readLine, refused]
    · rfl
    · exact alone
  | case7 settled word flag short attached rest alone choices chosen ih =>
    rw [CommandLine.readLine, chosen]
    · exact persists.choose_bind ih settled choices
    · exact alone
  | case8 settled word flag short attached rest alone choices chosen =>
    rw [CommandLine.readLine, chosen]
    · rfl
    · exact alone
  | case9 settled word rest ih =>
    rw [CommandLine.readLine, persists.leave]
    exact ih
  | case10 settled word kind rest marker valued flagged unknown =>
    rw [CommandLine.readLine]
    · exact persists.command settled word _
    all_goals assumption

end Persists

/-! ## Flags in front of a line -/

section Flag

variable {word : RawText} {flag : Flag} {short : Bool} {attached : Option Attached}
  {choices : List Choice}
  (settles : settleFlag commonSpellings flag short attached = .ok (choices, false))

include settles

/-- A flag that wants no value of the next word settles what it does, whatever follows. -/
theorem readLine_flag_cons (settled : Settled) (words : List (RawText × Word)) :
    readLine settled ((word, .flag flag short attached) :: words) =
      settled.choose choices >>= fun chosen => readLine chosen words := by
  by_cases operand : ∃ value rest, words = (value, .operand) :: rest
  · rcases operand with ⟨value, rest, rfl⟩
    rw [readLine, settles]
  · rw [readLine, settles]
    intro value rest same
    exact operand ⟨value, rest, same⟩

/-- In front of a line such a flag changes the arguments, and not whether there are any. -/
theorem parse_flag_cons {change : Settled → Settled} {change' : Arguments → Arguments}
    (persists : Persists change change') (other : word ≠ "--")
    (read : readWord commonSpellings word = .ok (.flag flag short attached))
    (chosen : Settled.choose ⟨none, false, []⟩ choices = .ok (change ⟨none, false, []⟩))
    (words : List RawText) : parse (word :: words) = (parse words).map change' := by
  have front : readWords commonSpellings (word :: words) =
      (readWords commonSpellings words).map ((word, .flag flag short attached) :: ·) := by
    rw [readWords, if_neg other, read]
    cases readWords commonSpellings words <;> rfl
  unfold parse
  rw [front]
  cases readWords commonSpellings words with
  | error ambiguity => rfl
  | ok words =>
    change readLine _ (_ :: words) = (readLine _ words).map change'
    rw [readLine_flag_cons settles, chosen]
    exact persists.readLine _ words

end Flag

/-! ## The flag for a verbose run -/

/-- What is settled, with the flag for a verbose run. -/
def Settled.verbosely (settled : Settled) : Settled :=
  { settled with verbose := true }

/-- Arguments with the flag for a verbose run. -/
def Arguments.verbosely (arguments : Arguments) : Arguments :=
  { arguments with verbose := true }

theorem persists_verbosely : Persists Settled.verbosely Arguments.verbosely where
  key _ _ := rfl
  verbose _ := rfl
  leave _ _ := rfl
  leftOver _ := rfl
  arguments _ _ := rfl

/-- The short flag in front changes nothing but the flag: the same words are read, with the same
fault if there is one. -/
theorem parse_verbose_cons (words : List RawText) :
    parse ("-v" :: words) = (parse words).map .verbosely := by
  have settles : settleFlag commonSpellings .verbose true none = .ok ([.verbose], false) := rfl
  exact parse_flag_cons settles persists_verbosely (by decide) rfl rfl words

/-! ## The name of a key -/

/-- What is settled, with the name of a key if none is settled. -/
def Settled.orKey (settled : Settled) (name : RawText) : Settled :=
  { settled with key := settled.key <|> some name }

/-- Arguments with the name of a key if they have none. -/
def Arguments.orKey (arguments : Arguments) (name : RawText) : Arguments :=
  { arguments with key := arguments.key <|> some name }

theorem persists_orKey (name : RawText) : Persists (·.orKey name) (·.orKey name) where
  key _ _ := rfl
  verbose _ := rfl
  leave _ _ := rfl
  leftOver _ := rfl
  arguments _ _ := rfl

/-- Whatever stands behind the first equals sign is attached to the flag. -/
theorem readWord_key (name : RawText) :
    readWord commonSpellings ("--key=" ++ name) =
      .ok (.flag .key false (some ⟨true, name⟩)) := by
  have long : (RawText.ofString "--key=" ++ name).length ≠ 1 := by
    rw [List.length_append]
    have front : (RawText.ofString "--key=").length = 6 := rfl
    omega
  unfold readWord
  rw [if_neg long]
  rfl

/-- Whatever is attached to the flag is the name. -/
theorem settleFlag_key (spellings : Spellings) (short : Bool) (attached : Attached) :
    settleFlag spellings .key short (some attached) =
      .ok ([.key attached.text], false) := by
  rcases attached with ⟨behindEquals, text⟩
  cases text <;> rfl

/-- The name of a key in front is the name in the arguments, unless the line gives another one;
nothing else changes. -/
theorem parse_key_cons (name : RawText) (words : List RawText) :
    parse (("--key=" ++ name) :: words) = (parse words).map (·.orKey name) := by
  have other : "--key=" ++ name ≠ "--" := by
    intro same
    cases same
  exact parse_flag_cons (settleFlag_key _ _ _) (persists_orKey name) other (readWord_key name) rfl
    words

/-! ## Words as they are -/

theorem parse_sign_marker (message : RawText) :
    parse ["sign", "--", message] = .ok ⟨none, false, .sign message⟩ := by
  rfl

/-- Any key can be asked to sign any message. Whatever the name and the message hold, they are
read as they are. A run that has its settings shows the signature of a message that is a Unicode
text, by the signer that a new store makes for this name, or why there is none. It does not sign any
other message: where there is a signer, the fault of the message's encoding leaves the run. A single
dash is no message but stands for the input channel. -/
theorem run_signs_as_given (name message : RawText) (given : message ≠ "-") :
    let words : List RawText := ["--key=" ++ name, "sign", "--", message]
    parse words = .ok ⟨some name, false, .sign message⟩ ∧
    ∀ host cache mark settings, (Settings.get cache mark host).result = .ok settings →
      ∀ context input,
        let made := (KeyStore.signer ⟨context, .process none⟩ host (some name)).result
        let outcome := (run host cache mark words input).1
        (∀ text : String, message = text →
          outcome.Shows (made.bind fun signer => signer.sign (Utf8.encode text))) ∧
        ((¬∃ text : String, message = text) → ∃ fault, message.encode = .error fault ∧
          outcome.Shows (made.bind fun _ => .error (.unencodable fault))) := by
  intro words
  have parsed : parse words = .ok ⟨some name, false, .sign message⟩ := by
    rw [parse_key_cons, parse_sign_marker]
    rfl
  refine ⟨parsed, fun host cache mark settings done context input => ?_⟩
  intro made outcome
  have shows : outcome.Shows (made.bind fun signer =>
      (messageBytes message input).bind signer.sign) :=
    shows_run parsed done context input
  constructor
  · rintro text rfl
    have stands : StandsFor text input (Utf8.encode text) := .inr ⟨given, text, rfl, rfl⟩
    rw [messageBytes_eq_ok_iff.mpr stands] at shows
    exact shows
  · intro strange
    have meaningless : ¬∃ bytes, StandsFor message input bytes := by
      rintro ⟨bytes, ⟨dash, -⟩ | ⟨-, text, same, -⟩⟩
      · exact given dash
      · exact strange ⟨text, same⟩
    rcases exists_messageBytes_eq_error meaningless with ⟨fault, refused, written⟩
    rw [written] at shows
    exact ⟨fault, refused, shows⟩

/-- A host on which all there is is a key with the name of the marker, the key one. -/
def hostOfMarkerKey : Host :=
  ⟨[("HOME", "/home")], none, 0,
    Disk.ofAnswers [(KeyStore.pathBelow ⟨.root, ["home"]⟩ "--", .ok (.file contentOfOne))]⟩

theorem signer_hostOfMarkerKey (context : Context) :
    (KeyStore.signer ⟨context, .process none⟩ hostOfMarkerKey (some "--")).result =
      .ok (Signer.ofKey context (.curve ⟨1, by decide⟩)) := by
  have leads : KeyStore.LeadsTo ⟨context, .process none⟩ hostOfMarkerKey (some "--")
      (KeyStore.pathBelow ⟨.root, ["home"]⟩ "--") :=
    ⟨"--", rfl, rfl⟩
  exact KeyStore.result_signer_of_holdsKey leads (by decide +kernel) rfl (Bytes.holdsKey_hex _)

/-- The signature of the empty message by a key with the name of the marker is printed, and a
message that is spelled like a flag is read as it is. -/
theorem run_signs_as_given_marker :
    let words (message : RawText) : List RawText := ["--key=--", "sign", "--", message]
    parse (words "-v") = .ok ⟨some "--", false, .sign "-v"⟩ ∧
      (Settings.get none 0 hostOfMarkerKey).result = .ok ⟨0, none, false⟩ ∧
      (run hostOfMarkerKey none 0 (words "") []).1.Prints Scheme.oneEmpty := by
  intro words
  have done : (Settings.get none 0 hostOfMarkerKey).result = .ok ⟨0, none, false⟩ := by rfl
  have spelled := run_signs_as_given "--" "-v" (by decide)
  have empty := run_signs_as_given "--" "" (by decide)
  have shows := (empty.2 hostOfMarkerKey none 0 _ done ⟨1, ()⟩ []).1 "" rfl
  rw [signer_hostOfMarkerKey] at shows
  change Outcome.Shows _ (Scheme.sign (.curve ⟨1, by decide⟩) []) at shows
  rw [Scheme.sign_one_empty] at shows
  exact ⟨spelled.1, done, shows⟩

/-- Not every message is signed by the key that it is asked for: one that is no Unicode text is
not, although the key is there. -/
theorem not_forall_run_signs_as_given :
    ¬∀ (name message : RawText) (host : Host) (cache : Settings.Cache) (mark : Nat)
      (settings : Marked Settings) (context : Context) (input : Bytes) (signer : Signer),
      message ≠ "-" → (Settings.get cache mark host).result = .ok settings →
      (KeyStore.signer ⟨context, .process none⟩ host (some name)).result = .ok signer →
      ∃ bytes, (run host cache mark ["--key=" ++ name, "sign", "--", message] input).1.Shows
        (signer.sign bytes) := by
  intro signs
  have done : (Settings.get none 0 hostOfMarkerKey).result = .ok ⟨0, none, false⟩ := by rfl
  have made := signer_hostOfMarkerKey ⟨1, ()⟩
  rcases signs "--" strayMessage hostOfMarkerKey none 0 _ ⟨1, ()⟩ [] _ (by decide) done made with
    ⟨bytes, shows⟩
  have parsed : parse ["--key=--", "sign", "--", strayMessage] =
      .ok ⟨some "--", false, .sign strayMessage⟩ := by
    rfl
  rcases escapes_of_meaningless parsed done made rfl (not_standsFor_strayMessage []) with
    ⟨fault, -, escapes⟩
  change Outcome.Shows _ (Scheme.sign (.curve ⟨1, by decide⟩) bytes) at shows
  cases signed : Scheme.sign (.curve ⟨1, by decide⟩) bytes with
  | ok signature =>
    rw [signed] at shows
    cases shows.1.symm.trans escapes.1
  | error failure =>
    rw [signed, Scheme.sign_fails signed] at shows
    cases shows.1.symm.trans escapes.1

end Keyring.CommandLine
