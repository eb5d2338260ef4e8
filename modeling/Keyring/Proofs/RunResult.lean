import Keyring.Proofs.PointForms
import Keyring.Proofs.RawText
import Keyring.Proofs.RunSecrecy
import Keyring.Proofs.SignVerify

/-!
What a run of the command line comes to.

A run that has its settings does what a new key store does for the chosen name
(`shows_perform`): it prints the answer of the signer that the store makes, or reports why
there is none, and passes on all else. So the command line and the library agree
(`run_agrees_with_store`), and a Unicode text is signed alike on the command line and on the
input channel. A message on the command line that is no Unicode text is not signed: it stands for
no bytes, and its fault is one of those that are passed on.
-/

namespace Keyring

/-- A computation that has a result went through its first part. -/
theorem Logged.exists_of_bind_eq_ok {α β : Type} {first : Logged α} {next : α → Logged β}
    {value : β} (done : (first >>= next).result = .ok value) :
    ∃ middle, first.result = .ok middle ∧ (next middle).result = .ok value := by
  rw [result_bind] at done
  cases result : first.result with
  | error failure => rw [result] at done; cases done
  | ok middle => rw [result] at done; exact ⟨middle, rfl, done⟩

namespace KeyStore

/-! ## Keys that are loaded -/

/-- The key in a file is one of the curve. -/
theorem exists_secret_of_loadFile {disk : Disk} {path : Path} {key : PrivateKey}
    (loaded : (loadFile disk path).result = .ok key) : ∃ secret, key = .curve secret := by
  obtain ⟨there, -, loaded⟩ := Logged.exists_of_bind_eq_ok loaded
  split at loaded
  case isFalse => cases loaded
  case isTrue =>
    obtain ⟨-, -, loaded⟩ := Logged.exists_of_bind_eq_ok loaded
    obtain ⟨bytes, -, loaded⟩ := Logged.exists_of_bind_eq_ok loaded
    obtain ⟨secret, -, loaded⟩ := Logged.exists_of_bind_eq_ok loaded
    cases loaded
    exact ⟨secret, rfl⟩

section ByName

variable {store : KeyStore} {host : Host} {given : Option RawText}

theorem exists_secret_of_loadKey {key : PrivateKey}
    (loaded : (store.loadKey host given).result = .ok key) : ∃ secret, key = .curve secret := by
  obtain ⟨name, -, loaded⟩ := Logged.exists_of_bind_eq_ok loaded
  obtain ⟨path, -, loaded⟩ := Logged.exists_of_bind_eq_ok loaded
  exact exists_secret_of_loadFile loaded

/-- The key that is loaded is bound to whatever scheme the store has. -/
theorem signer_eq_ok_iff {signer : Signer} :
    (store.signer host given).result = .ok signer ↔
      ∃ secret, (store.loadKey host given).result = .ok (.curve secret) ∧
        signer = Signer.ofKey store.context (.curve secret) := by
  rw [result_signer]
  constructor
  · intro made
    cases loaded : (store.loadKey host given).result with
    | error failure => rw [loaded] at made; cases made
    | ok key =>
      obtain ⟨secret, rfl⟩ := exists_secret_of_loadKey loaded
      rw [loaded] at made
      cases made
      exact ⟨secret, rfl, rfl⟩
  · rintro ⟨secret, loaded, rfl⟩
    rw [loaded]
    rfl

section HoldsKey

variable {path : Path} {content : Bytes} {secret : Secret} (leads : store.LeadsTo host given path)
  (speakable : Disk.speakable path = true) (there : host.disk.entry path = .ok (.file content))
  (holds : content.HoldsKey secret)

include leads speakable there holds

/-- The key is loaded of which the file is found. -/
theorem result_loadKey_of_holdsKey : (store.loadKey host given).result = .ok (.curve secret) := by
  rw [result_loadKey_of_leadsTo leads]
  exact loadFile_of_holdsKey speakable there holds

theorem result_signer_of_holdsKey :
    (store.signer host given).result = .ok (Signer.ofKey store.context (.curve secret)) := by
  rw [result_signer, result_loadKey_of_holdsKey leads speakable there holds]
  rfl

end HoldsKey

/-- Loading by name fails with a load fault or with the refusal of a path. -/
theorem loadKey_fails_with {failure : Failure}
    (failed : (store.loadKey host given).result = .error failure) :
    (∃ fault, failure = .load fault) ∨ ∃ path fault, failure = .refused path fault := by
  rcases loadKey_fails failed with typed | ⟨path, -, failed⟩
  · exact .inl typed
  · rcases loadFile_fails failed with ⟨fault, -, refused⟩ | ⟨fault, typed, -⟩
    · exact .inr ⟨path, fault, refused⟩
    · exact .inl ⟨fault, typed⟩

end ByName

end KeyStore

namespace Hex

/-- One line of so many digits in lower case. -/
def IsLine (count : Nat) (line : String) : Prop :=
  line.length = count ∧ ∀ c ∈ line.toList, c ∈ lowerDigits

theorem isLine_encode (bytes : Bytes) : IsLine (2 * bytes.length) (encode bytes) := by
  rw [IsLine, ← String.length_toList, toList_encode, length_encodeChars]
  exact ⟨rfl, mem_lowerDigits_of_mem_encodeChars⟩

end Hex

namespace Scheme

theorem isLine_publicKey (secret : Secret) :
    Hex.IsLine 66 (PublicKey.curve (publicPoint secret)).hex := by
  have length : (publicPoint secret).compressed.length = 33 := by
    cases finite : publicPoint secret with
    | infinity => exact absurd finite (publicPoint_ne_infinity secret)
    | affine x y =>
      rw [Curve.compressed_affine, Curve.Form.write, List.length_cons,
        Curve.length_coordinateBytes]
      rfl
  have line := Hex.isLine_encode (publicPoint secret).compressed
  rw [length] at line
  exact line

theorem isLine_of_sign {secret : Secret} {message : Bytes} {text : String}
    (signed : sign (.curve secret) message = .ok text) : Hex.IsLine 128 text :=
  ⟨(isCompact_of_sign signed).1, (isCompact_of_sign signed).2.1⟩

end Scheme

namespace CommandLine

/-! ## Outcomes -/

/-- A run that succeeds and puts out one line. -/
def Outcome.Prints (outcome : Outcome) (line : String) : Prop :=
  outcome.ending = .returned 0 ∧ outcome.output = line ++ "\n"

/-- A run that fails, puts nothing out, and last shows a message on the error channel. -/
def Outcome.Reports (outcome : Outcome) (message : RawText) : Prop :=
  outcome.ending = .returned 1 ∧ outcome.output = "" ∧
    ∃ before, outcome.errors = before ++ [.text ("Error: " ++ message ++ "\n")]

/-- A run that a failure leaves without output. -/
def Outcome.Escapes (outcome : Outcome) (failure : Failure) : Prop :=
  outcome.ending = .escaped failure ∧ outcome.output = ""

/-- A run that shows a result: it prints the line, reports a signing failure, and passes on
any other. -/
def Outcome.Shows (outcome : Outcome) : Except Failure String → Prop
  | .ok line => outcome.Prints line
  | .error failure =>
    if failure.isSigning then outcome.Reports failure.message else outcome.Escapes failure

/-- An outcome with something shown before it. -/
def Outcome.behind (outcome : Outcome) (shown : List Shown) : Outcome :=
  { outcome with errors := shown ++ outcome.errors }

theorem Outcome.Reports.behind {outcome : Outcome} {message : RawText}
    (reports : outcome.Reports message) (shown : List Shown) :
    (outcome.behind shown).Reports message := by
  obtain ⟨ending, output, before, errors⟩ := reports
  refine ⟨ending, output, shown ++ before, ?_⟩
  rw [List.append_assoc, ← errors]
  rfl

theorem Outcome.Shows.behind {outcome : Outcome} {result : Except Failure String}
    (shows : outcome.Shows result) (shown : List Shown) : (outcome.behind shown).Shows result := by
  cases result with
  | ok line => exact shows
  | error failure =>
    rw [Outcome.Shows] at shows ⊢
    split at shows
    case isTrue signing => rw [if_pos signing]; exact shows.behind shown
    case isFalse other => rw [if_neg other]; exact shows

/-- Outcomes that show one result end alike and put out the same. -/
theorem Outcome.Shows.unique {first second : Outcome} {result : Except Failure String}
    (here : first.Shows result) (there : second.Shows result) :
    first.ending = second.ending ∧ first.output = second.output := by
  cases result with
  | ok line => exact ⟨here.1.trans there.1.symm, here.2.trans there.2.symm⟩
  | error failure =>
    rw [Outcome.Shows] at here there
    split at here
    case isTrue signing =>
      rw [if_pos signing] at there
      exact ⟨here.1.trans there.1.symm, here.2.1.trans there.2.1.symm⟩
    case isFalse other =>
      rw [if_neg other] at there
      exact ⟨here.1.trans there.1.symm, here.2.trans there.2.symm⟩

/-- Only a line makes a run succeed. -/
theorem Outcome.Shows.exists_line {outcome : Outcome} {result : Except Failure String}
    (shows : outcome.Shows result) (succeeds : outcome.ending = .returned 0) :
    ∃ line, result = .ok line := by
  cases result with
  | ok line => exact ⟨line, rfl⟩
  | error failure =>
    rw [Outcome.Shows] at shows
    split at shows <;> cases shows.1.symm.trans succeeds

/-! ## What is signed -/

/-- The bytes that a message stands for: those on the input channel for a single dash, else those
of the text in UTF-8. A text with stray halves of surrogate pairs stands for none. -/
def StandsFor (message : RawText) (input bytes : Bytes) : Prop :=
  message = "-" ∧ bytes = input ∨
    message ≠ "-" ∧ ∃ text : String, message = text ∧ bytes = Utf8.encode text

section Message

variable {message : RawText} {input bytes : Bytes}

theorem messageBytes_eq_ok_iff :
    messageBytes message input = .ok bytes ↔ StandsFor message input bytes := by
  unfold messageBytes StandsFor
  by_cases dash : message = "-"
  · simp [dash, eq_comm]
  · rw [if_neg dash, ← RawText.encode_eq_ok_iff]
    cases message.encode <;> simp [dash, Except.mapError]

/-- Only a message that is no Unicode text stands for no bytes. -/
theorem messageBytes_fails {failure : Failure}
    (refused : messageBytes message input = .error failure) :
    ∃ fault, message.encode = .error fault ∧ failure = .unencodable fault := by
  unfold messageBytes at refused
  split at refused
  case isTrue => cases refused
  case isFalse =>
    cases encoded : message.encode with
    | ok bytes => rw [encoded] at refused; cases refused
    | error fault => rw [encoded] at refused; cases refused; exact ⟨fault, rfl, rfl⟩

theorem exists_messageBytes_eq_error (meaningless : ¬∃ bytes, StandsFor message input bytes) :
    ∃ fault, message.encode = .error fault ∧
      messageBytes message input = .error (.unencodable fault) := by
  cases written : messageBytes message input with
  | ok bytes => exact absurd ⟨bytes, messageBytes_eq_ok_iff.mp written⟩ meaningless
  | error failure =>
    obtain ⟨fault, refused, rfl⟩ := messageBytes_fails written
    exact ⟨fault, refused, rfl⟩

theorem standsFor_ofString {text : String} (other : text ≠ "-") (input : Bytes) :
    StandsFor text input (Utf8.encode text) :=
  .inr ⟨fun same => other (RawText.ofString_injective same), text, rfl, rfl⟩

/-- A word of the command line stands for the bytes that it was given in if they are UTF-8, and for
none if they are not. -/
theorem standsFor_ofSystemBytes_iff {word : Bytes} (other : RawText.ofSystemBytes word ≠ "-") :
    StandsFor (.ofSystemBytes word) input bytes ↔
      bytes = word ∧ ∃ text, Utf8.encode text = word := by
  rw [← messageBytes_eq_ok_iff, messageBytes, if_neg other,
    ← RawText.encode_ofSystemBytes_eq_ok_iff]
  cases (RawText.ofSystemBytes word).encode <;> simp [Except.mapError]

end Message

/-! ## What a run does with its settings -/

/-- What a command makes of the signer of a new store for a name. -/
def response (host : Host) (context : Context) (name : Option RawText) (command : Command)
    (input : Bytes) : Except Failure String :=
  (KeyStore.signer ⟨context, .process none⟩ host name).result.bind fun signer =>
    answer signer command input

section Response

variable {host : Host} {context : Context} {name : Option RawText} {input : Bytes}

/-- The scheme of the store does not matter. -/
theorem response_context (context' : Context) (command : Command) :
    response host context name command input = response host context' name command input := by
  have loaded : KeyStore.loadKey ⟨context, .process none⟩ host name =
      KeyStore.loadKey ⟨context', .process none⟩ host name := rfl
  rw [response, response, KeyStore.result_signer, KeyStore.result_signer, loaded]
  cases loaded' : (KeyStore.loadKey ⟨context', .process none⟩ host name).result with
  | error failure => rfl
  | ok key =>
    obtain ⟨secret, rfl⟩ := KeyStore.exists_secret_of_loadKey loaded'
    cases command <;> rfl

/-- A signer of a loaded key fails to answer only for a message that stands for no bytes, and by a
search that does not end. -/
theorem answer_fails {command : Command} {signer : Signer} {failure : Failure}
    (made : (KeyStore.signer ⟨context, .process none⟩ host name).result = .ok signer)
    (failed : answer signer command input = .error failure) :
    (∃ fault, failure = .unencodable fault) ∨ failure = .noNonce := by
  obtain ⟨secret, -, rfl⟩ := KeyStore.signer_eq_ok_iff.mp made
  cases command with
  | publicKey => cases failed
  | sign message =>
    rw [answer_sign] at failed
    cases written : messageBytes message input with
    | ok bytes =>
      rw [written] at failed
      exact .inr (Scheme.sign_fails failed)
    | error failure' =>
      rw [written] at failed
      cases failed
      obtain ⟨fault, -, same⟩ := messageBytes_fails written
      exact .inl ⟨fault, same⟩

theorem response_fails {command : Command} {failure : Failure}
    (failed : response host context name command input = .error failure) :
    (∃ fault, failure = .load fault) ∨ (∃ path fault, failure = .refused path fault) ∨
      (∃ fault, failure = .unencodable fault) ∨ failure = .noNonce := by
  cases made : (KeyStore.signer ⟨context, .process none⟩ host name).result with
  | ok signer =>
    rw [response, made] at failed
    exact .inr (.inr (answer_fails made failed))
  | error failure' =>
    rw [response, made] at failed
    cases failed
    rcases KeyStore.loadKey_fails_with (KeyStore.signer_fails_iff.mp made) with typed | refused
    · exact .inl typed
    · exact .inr (.inl refused)

theorem response_of_failure {failure : Failure}
    (failed : (KeyStore.signer ⟨context, .process none⟩ host name).result = .error failure)
    (command : Command) (input : Bytes) :
    response host context name command input = .error failure := by
  rw [response, failed]
  rfl

section Made

variable {signer : Signer}
  (made : (KeyStore.signer ⟨context, .process none⟩ host name).result = .ok signer)

include made

theorem response_publicKey (mark : Nat) (input : Bytes) :
    ∃ key after, signer.publicKey mark = .ok (key, after) ∧ Hex.IsLine 66 key.value.hex ∧
      response host context name .publicKey input = .ok key.value.hex := by
  obtain ⟨secret, -, rfl⟩ := KeyStore.signer_eq_ok_iff.mp made
  refine ⟨⟨mark, .curve (Scheme.publicPoint secret)⟩, _, rfl, Scheme.isLine_publicKey secret, ?_⟩
  rw [response, made]
  rfl

theorem response_sign (message : RawText) (input : Bytes) :
    response host context name (.sign message) input =
      (messageBytes message input).bind signer.sign := by
  rw [response, made]
  rfl

theorem response_sign_of_standsFor {message : RawText} {input bytes : Bytes}
    (stands : StandsFor message input bytes) :
    response host context name (.sign message) input = signer.sign bytes := by
  rw [response_sign made, messageBytes_eq_ok_iff.mpr stands]
  rfl

theorem isLine_of_sign {bytes : Bytes} {signature : String}
    (signed : signer.sign bytes = .ok signature) : Hex.IsLine 128 signature := by
  obtain ⟨secret, -, rfl⟩ := KeyStore.signer_eq_ok_iff.mp made
  exact Scheme.isLine_of_sign signed

theorem sign_fails {bytes : Bytes} (unsigned : ¬∃ signature, signer.sign bytes = .ok signature) :
    signer.sign bytes = .error .noNonce := by
  obtain ⟨secret, -, rfl⟩ := KeyStore.signer_eq_ok_iff.mp made
  change Scheme.sign (.curve secret) bytes = _
  cases signed : Scheme.sign (.curve secret) bytes with
  | ok signature => exact absurd ⟨signature, signed⟩ unsigned
  | error failure => rw [Scheme.sign_fails signed]

/-- A signature that the signer makes is accepted under the public key whose text it gives. -/
theorem verify_of_sign {bytes : Bytes} {signature : String}
    (signed : signer.sign bytes = .ok signature) (input : Bytes) :
    ∃ text point, response host context name .publicKey input = .ok text ∧
      PublicKey.pointOfText text = .ok point ∧
      (Scheme.verify (.curve point) bytes signature).result = .ok true := by
  obtain ⟨secret, -, rfl⟩ := KeyStore.signer_eq_ok_iff.mp made
  refine ⟨(PublicKey.curve (Scheme.publicPoint secret)).hex, Scheme.publicPoint secret, ?_, ?_,
    Scheme.verify_publicPoint_of_sign signed⟩
  · rw [response, made]
    rfl
  · exact PublicKey.pointOfText_hex (Scheme.onCurve_publicPoint secret)
      (Scheme.publicPoint_ne_infinity secret)

end Made

/-- A message is signed alike where it is given and where its bytes are the input. -/
theorem response_typed_eq_piped {message : String} (other : message ≠ "-") (input : Bytes) :
    response host context name (.sign message) input =
      response host context name (.sign "-") (Utf8.encode message) := by
  cases made : (KeyStore.signer ⟨context, .process none⟩ host name).result with
  | error failure => rw [response_of_failure made, response_of_failure made]
  | ok signer =>
    rw [response_sign_of_standsFor made (standsFor_ofString other input),
      response_sign_of_standsFor made (.inl ⟨rfl, rfl⟩)]

theorem shows_perform (host : Host) (context : Context) (arguments : Arguments)
    (settings : Settings) (input : Bytes) :
    (perform host context arguments settings input).Shows
      (response host context (chosenName arguments settings) arguments.command input) := by
  rw [perform, response]
  cases made :
      (KeyStore.signer ⟨context, .process none⟩ host (chosenName arguments settings)).result with
  | ok signer =>
    change Outcome.Shows _ (answer signer arguments.command input)
    dsimp only
    cases answered : answer signer arguments.command input with
    | ok line => exact ⟨rfl, rfl⟩
    | error failure =>
      rcases answer_fails made answered with ⟨fault, rfl⟩ | rfl <;> exact ⟨rfl, rfl⟩
  | error failure =>
    change Outcome.Shows _ (.error failure)
    dsimp only
    rw [Outcome.Shows]
    split
    · exact ⟨rfl, rfl, _, rfl⟩
    · exact ⟨rfl, rfl⟩

end Response

/-! ## Whole runs -/

/-- Words that ask for a command, with the name of a key or without. -/
def Asks (words : List RawText) (key : Option RawText) (command : Command) : Prop :=
  ∃ verbose, parse words = .ok ⟨key, verbose, command⟩

section Run

variable {host : Host} {cache : Settings.Cache} {mark : Nat} {words : List RawText}
  {arguments : Arguments} {settings : Marked Settings}

/-- A run whose words can be read warns of unreadable lines and goes on with the settings, or
without. -/
theorem run_of_parsed (parsed : parse words = .ok arguments) (host : Host)
    (cache : Settings.Cache) (mark : Nat) (input : Bytes) :
    (run host cache mark words input).1 =
      (runSettled host mark arguments input (Settings.get cache mark host).result).behind
        ((Settings.get cache mark host).unreadable.map lineWarning) := by
  rw [run, parsed]
  rfl

/-- A run that has its settings shows what its command makes of the signer for the name on the
command line, or else in the settings. -/
theorem shows_run (parsed : parse words = .ok arguments)
    (given : (Settings.get cache mark host).result = .ok settings) (context : Context)
    (input : Bytes) :
    (run host cache mark words input).1.Shows
      (response host context (arguments.key <|> settings.value.keyName.map .ofString)
        arguments.command input) := by
  rw [run_of_parsed parsed, given, response_context ⟨mark, ()⟩]
  exact (shows_perform host _ arguments settings.value input).behind _

/-- A run that has its settings and a signer is left by the fault of a message that stands for no
bytes. -/
theorem escapes_of_meaningless {message : RawText} {context : Context} {signer : Signer}
    {input : Bytes} (parsed : parse words = .ok arguments)
    (given : (Settings.get cache mark host).result = .ok settings)
    (made : (KeyStore.signer ⟨context, .process none⟩ host
      (arguments.key <|> settings.value.keyName.map .ofString)).result = .ok signer)
    (asks : arguments.command = .sign message)
    (meaningless : ¬∃ bytes, StandsFor message input bytes) :
    ∃ fault, message.encode = .error fault ∧
      (run host cache mark words input).1.Escapes (.unencodable fault) := by
  have shows := shows_run parsed given context input
  obtain ⟨fault, refused, written⟩ := exists_messageBytes_eq_error meaningless
  rw [asks, response_sign made, written] at shows
  exact ⟨fault, refused, shows⟩

/-- What the command line makes of what the library gives. A run that has its settings prints
what the signer answers that a new store makes for the name on the command line, or else in the
settings: the public key, or the signature of the bytes that the message stands for, on one line.
It comes to no end when the search for the signature does not. A message that stands for no bytes
is not signed: its fault leaves the run. When there is no signer for a signing failure, the run
reports the failure. So a Unicode text is signed alike on the command line and on the input channel,
and the signature is accepted under the key that is printed for the same name. -/
theorem run_agrees_with_store (parsed : parse words = .ok arguments)
    (given : (Settings.get cache mark host).result = .ok settings) (context : Context)
    (input : Bytes) :
    let name := arguments.key <|> settings.value.keyName.map .ofString
    let made := (KeyStore.signer ⟨context, .process none⟩ host name).result
    let outcome := (run host cache mark words input).1
    (∀ signer, made = .ok signer →
      match arguments.command with
      | .publicKey => ∃ key after, signer.publicKey mark = .ok (key, after) ∧
          Hex.IsLine 66 key.value.hex ∧ outcome.Prints key.value.hex
      | .sign message =>
        (∀ bytes, StandsFor message input bytes →
          (∀ signature, signer.sign bytes = .ok signature →
            Hex.IsLine 128 signature ∧ outcome.Prints signature) ∧
          ((¬∃ signature, signer.sign bytes = .ok signature) → ¬outcome.Ends)) ∧
        ((¬∃ bytes, StandsFor message input bytes) →
          ∃ fault, message.encode = .error fault ∧ outcome.Escapes (.unencodable fault))) ∧
    (∀ failure, made = .error failure → failure.isSigning = true →
      outcome.Reports failure.message) ∧
    ∀ key (message : String) typed piped asked, message ≠ "-" →
      Asks typed key (.sign message) → Asks piped key (.sign "-") → Asks asked key .publicKey →
      let written := (run host cache mark typed input).1
      let read := (run host cache mark piped (Utf8.encode message)).1
      written.ending = read.ending ∧ written.output = read.output ∧
      (written.ending = .returned 0 →
        ∃ signature text point, written.Prints signature ∧ read.Prints signature ∧
          (run host cache mark asked input).1.Prints text ∧
          PublicKey.pointOfText text = .ok point ∧
          (Scheme.verify (.curve point) (Utf8.encode message) signature).result = .ok true) := by
  intro name made outcome
  have shows : outcome.Shows (response host context name arguments.command input) :=
    shows_run parsed given context input
  refine ⟨fun signer made => ?_, fun failure failed signing => ?_, ?_⟩
  · cases command : arguments.command with
    | publicKey =>
      obtain ⟨key, after, asked, line, answered⟩ := response_publicKey made mark input
      rw [command, answered] at shows
      exact ⟨key, after, asked, line, shows⟩
    | sign message =>
      rw [command] at shows
      refine ⟨fun bytes stands => ?_, escapes_of_meaningless parsed given made command⟩
      rw [response_sign_of_standsFor made stands] at shows
      refine ⟨fun signature signed => ?_, fun unsigned ends => ?_⟩
      · rw [signed] at shows
        exact ⟨isLine_of_sign made signed, shows⟩
      · rw [sign_fails made unsigned] at shows
        exact ends shows.1
  · rw [response_of_failure failed, Outcome.Shows, if_pos signing] at shows
    exact shows
  · rintro key message typed piped asked other ⟨_, parsedTyped⟩ ⟨_, parsedPiped⟩ ⟨_, parsedKey⟩
    have written := shows_run parsedTyped given context input
    have read := shows_run parsedPiped given context (Utf8.encode message)
    have shown := shows_run parsedKey given context input
    rw [response_typed_eq_piped other] at written
    obtain ⟨endings, outputs⟩ := written.unique read
    refine ⟨endings, outputs, fun succeeds => ?_⟩
    obtain ⟨signature, answered⟩ := written.exists_line succeeds
    cases made : (KeyStore.signer ⟨context, .process none⟩ host
        (key <|> settings.value.keyName.map .ofString)).result with
    | error failure =>
      have failed := (response_of_failure made _ _).symm.trans answered
      cases failed
    | ok signer =>
      have signed : signer.sign (Utf8.encode message) = .ok signature :=
        (response_sign_of_standsFor made (.inl ⟨rfl, rfl⟩)).symm.trans answered
      obtain ⟨text, point, asked', readBack, accepted⟩ := verify_of_sign made signed input
      rw [answered] at written read
      rw [asked'] at shown
      exact ⟨signature, text, point, written, read, shown, readBack, accepted⟩

/-- What is in the file of the key one. -/
def contentOfOne : Bytes := Utf8.encode (PrivateKey.curve ⟨1, by decide⟩).hex

/-- A host on which all there is is the file of one user's key, which is the key one. -/
def hostOfAlice : Host :=
  ⟨[("HOME", "/home")], none, 0, (FileTree.aliceTree contentOfOne).disk⟩

theorem settings_hostOfAlice : (Settings.get none 0 hostOfAlice).result = .ok ⟨0, none, false⟩ := by
  rfl

/-- The user's key is found by its name. -/
theorem signer_hostOfAlice (context : Context) :
    (KeyStore.signer ⟨context, .process none⟩ hostOfAlice (some "alice")).result =
      .ok (Signer.ofKey context (.curve ⟨1, by decide⟩)) := by
  have there : hostOfAlice.disk.entry FileTree.aliceFile = .ok (.file contentOfOne) :=
    FileTree.entry_aliceFile contentOfOne
  have leads : KeyStore.LeadsTo ⟨context, .process none⟩ hostOfAlice (some "alice")
      FileTree.aliceFile :=
    ⟨"alice", rfl, rfl⟩
  exact KeyStore.result_signer_of_holdsKey leads (by decide +kernel) there (Bytes.holdsKey_hex _)

/-- By the name of the key the user's signature of the empty message is printed. -/
theorem run_agrees_with_store_alice :
    let words : List RawText := ["-k", "alice", "sign", ""]
    parse words = .ok ⟨some "alice", false, .sign ""⟩ ∧
      (Settings.get none 0 hostOfAlice).result = .ok ⟨0, none, false⟩ ∧
      (run hostOfAlice none 0 words []).1.Prints Scheme.oneEmpty := by
  intro words
  have parsed : parse words = .ok ⟨some "alice", false, .sign ""⟩ := by rfl
  have agrees := run_agrees_with_store parsed settings_hostOfAlice ⟨1, ()⟩ []
  have signs := (agrees.1 _ (signer_hostOfAlice ⟨1, ()⟩)).1 _
    (standsFor_ofString (by decide : "" ≠ "-") [])
  exact ⟨parsed, settings_hostOfAlice, (signs.1 _ Scheme.sign_one_empty).2⟩

/-- A message of one byte that begins no character. -/
def strayMessage : RawText := [.ofByte 0xFF]

theorem not_standsFor_strayMessage (input : Bytes) :
    ¬∃ bytes, StandsFor strayMessage input bytes := by
  rintro ⟨bytes, stands⟩
  cases messageBytes_eq_ok_iff.mpr stands

/-- Not every run for which there is a signer succeeds: a message that is no Unicode text leaves it
with a fault. -/
theorem not_forall_run_agrees_with_store :
    ¬∀ (host : Host) (cache : Settings.Cache) (mark : Nat) (words : List RawText)
      (arguments : Arguments) (settings : Marked Settings) (context : Context) (input : Bytes)
      (signer : Signer), parse words = .ok arguments →
      (Settings.get cache mark host).result = .ok settings →
      (KeyStore.signer ⟨context, .process none⟩ host
        (arguments.key <|> settings.value.keyName.map .ofString)).result = .ok signer →
      (run host cache mark words input).1.ending = .returned 0 := by
  intro succeeds
  have parsed : parse ["-k", "alice", "sign", strayMessage] =
      .ok ⟨some "alice", false, .sign strayMessage⟩ := by
    rfl
  have made := signer_hostOfAlice ⟨0, ()⟩
  obtain ⟨fault, -, escapes⟩ := escapes_of_meaningless parsed settings_hostOfAlice made rfl
    (not_standsFor_strayMessage [])
  have ends := succeeds _ _ _ _ _ _ _ [] _ parsed settings_hostOfAlice made
  cases escapes.1.symm.trans ends

end Run

end CommandLine

end Keyring
