import Keyring.Proofs.RunResult

/-!
What becomes of settings that cannot be read.

There are three reasons why a run can have no settings. A text that stands for no truth value
is reported, and ends the run with an exit code. A settings file that is no UTF-8 is not, nor is
one that the system does not let the run read: the fault passes through the run (`settles_iff`).
-/

namespace Keyring

/-! ## Faults -/

/-- Statements are read from whatever decodes. -/
theorem EnvFile.statements_eq_error_iff {content : Bytes} {fault : Utf8.Fault} :
    statements content = .error fault ↔ Utf8.decode content = .error fault := by
  rw [statements]
  cases Utf8.decode content <;> simp [bind, Except.bind, pure, Except.pure]

namespace Settings

/-- The values that are found are refused for the debug flag alone. -/
theorem ofValues_fails {environment : Environment} {values : EnvFile.Values}
    {fault : SettingsFault} (refused : ofValues environment values = .error fault) :
    ∃ text, fault = .flag text := by
  unfold ofValues at refused
  dsimp only at refused
  split at refused
  case h_1 => cases refused
  case h_2 text given =>
    split at refused
    case h_1 => cases refused
    case h_2 => cases refused; exact ⟨text, rfl⟩

/-- The system does not let a process read the settings file: it refuses to look it up, or the
content of the file cannot be had. -/
def Unreadable (disk : Disk) (fault : ReadFault) : Prop :=
  (∃ obstacle, disk.entry file = .error obstacle ∧ obstacle.refusal? = some fault) ∨
    ∃ cause, disk.entry file = .ok (.withheld cause) ∧ cause.fault = fault

/-- The settings file is there and is no UTF-8. -/
def Undecodable (disk : Disk) : Prop :=
  ∃ content, disk.entry file = .ok (.file content) ∧ ¬∃ text, Utf8.encode text = content

section FileStatements

variable {disk : Disk}

theorem fileStatements_of_unreadable {fault : ReadFault} (unreadable : Unreadable disk fault) :
    fileStatements disk = .error (.unreadable file fault) := by
  unfold fileStatements
  rcases unreadable with ⟨obstacle, missing, refused⟩ | ⟨cause, there, rfl⟩
  · rw [missing]
    dsimp only
    rw [refused]
    rfl
  · rw [there]

theorem fileStatements_of_file {content : Bytes} (there : disk.entry file = .ok (.file content)) :
    fileStatements disk = (EnvFile.statements content).mapError .encoding := by
  rw [fileStatements, there]

/-- The statements of the settings file cannot be read when the file is there and does not decode,
or when the system does not let it be read. -/
theorem fileStatements_fails {fault : SettingsFault}
    (refused : fileStatements disk = .error fault) :
    (∃ content cause, disk.entry file = .ok (.file content) ∧ Utf8.decode content = .error cause ∧
      fault = .encoding cause) ∨
    ∃ cause, Unreadable disk cause ∧ fault = .unreadable file cause := by
  unfold fileStatements at refused
  split at refused
  case h_1 content there =>
    cases read : EnvFile.statements content with
    | ok statements => rw [read] at refused; cases refused
    | error cause =>
      rw [read] at refused
      cases refused
      exact .inl ⟨content, cause, there, EnvFile.statements_eq_error_iff.mp read, rfl⟩
  case h_2 => cases refused
  case h_3 cause there =>
    cases refused
    exact .inr ⟨_, .inr ⟨cause, there, rfl⟩, rfl⟩
  case h_4 obstacle missing =>
    cases found : obstacle.refusal? with
    | none => rw [found] at refused; cases refused
    | some cause =>
      rw [found] at refused
      cases refused
      exact .inr ⟨cause, .inl ⟨obstacle, missing, found⟩, rfl⟩

theorem exists_fileStatements_fails_iff :
    (∃ fault, fileStatements disk = .error fault) ↔
      Undecodable disk ∨ ∃ fault, Unreadable disk fault := by
  constructor
  · rintro ⟨fault, refused⟩
    rcases fileStatements_fails refused with
      ⟨content, cause, there, refused, -⟩ | ⟨cause, denied, -⟩
    · exact .inl ⟨content, there, Utf8.exists_decode_eq_error_iff.mp ⟨cause, refused⟩⟩
    · exact .inr ⟨cause, denied⟩
  · rintro (⟨content, there, unwritten⟩ | ⟨cause, denied⟩)
    · obtain ⟨cause, refused⟩ := Utf8.exists_decode_eq_error_iff.mpr unwritten
      refine ⟨.encoding cause, ?_⟩
      rw [fileStatements_of_file there, EnvFile.statements_eq_error_iff.mpr refused]
      rfl
    · exact ⟨_, fileStatements_of_unreadable denied⟩

end FileStatements

/-- A file of which the statements cannot be read has no lines to warn of. -/
theorem read_of_fails {host : Host} {fault : SettingsFault}
    (refused : fileStatements host.disk = .error fault) : read host = ⟨[], .error fault⟩ := by
  rw [read, refused]

/-- Settings are refused for the file, or else for the debug flag. -/
theorem read_fails {host : Host} {fault : SettingsFault}
    (refused : (read host).result = .error fault) :
    fileStatements host.disk = .error fault ∨ ∃ text, fault = .flag text := by
  unfold read at refused
  cases found : fileStatements host.disk with
  | error fault' => rw [found] at refused; cases refused; exact .inl rfl
  | ok statements => rw [found] at refused; exact .inr (ofValues_fails refused)

/-- Without settings that are kept, they are read. -/
theorem get_none_of_fails {host : Host} {fault : SettingsFault}
    (failed : (read host).result = .error fault) (mark : Nat) :
    get none mark host = ⟨(read host).unreadable, .error fault, none⟩ := by
  rw [get]
  simp only [failed]

theorem get_none_of_reads {host : Host} {settings : Settings}
    (done : (read host).result = .ok settings) (mark : Nat) :
    get none mark host =
      ⟨(read host).unreadable, .ok ⟨mark, settings⟩, some ⟨mark, settings⟩⟩ := by
  rw [get]
  simp only [done]

end Settings

namespace CommandLine

/-! ## Reports -/

/-- A text between two others that are split, grouped anew. -/
theorem append_between {front back first second third last close : String}
    (one : front = first ++ (second ++ third)) (two : back = last ++ close)
    (middle middle' : String) :
    front ++ middle ++ middle' ++ back =
      first ++ (second ++ (third ++ middle ++ middle' ++ last)) ++ close := by
  rw [one, two]
  simp only [String.append_assoc]

/-- What is shown of a refused flag is the report of an invalid configuration. -/
theorem exists_flagText (text : String) :
    ∃ message : String,
      flagText text = "Error: " ++ ("invalid configuration: " ++ message) ++ "\n" := by
  have front : "Error: invalid configuration: 1 validation error for Settings\ndebug\n  " =
      "Error: " ++ ("invalid configuration: " ++
        "1 validation error for Settings\ndebug\n  ") := by
    decide +kernel
  have back :
      "    For further information visit https://errors.pydantic.dev/2.14/v/bool_parsing\n" =
        "    For further information visit https://errors.pydantic.dev/2.14/v/bool_parsing" ++
          "\n" := by
    decide +kernel
  exact ⟨_, append_between front back _ _⟩

/-! ## Runs without kept settings -/

/-- The run goes on with the settings that it asked for, or reports that the configuration is
invalid. -/
def Settles (host : Host) (mark : Nat) (arguments : Arguments) (input : Bytes)
    (outcome : Outcome) : Prop :=
  (∃ settings shown, (Settings.get none mark host).result = .ok settings ∧
    outcome = (perform host ⟨mark, ()⟩ arguments settings.value input).behind shown) ∨
  ∃ message : String, outcome.Reports ("invalid configuration: " ++ message : String)

/-- A run that has its settings is not left by a fault of theirs. -/
theorem perform_not_escaped (host : Host) (context : Context) (arguments : Arguments)
    (settings : Settings) (input : Bytes) (fault : SettingsFault) :
    (perform host context arguments settings input).ending ≠ .escaped (.settings fault) := by
  intro escapes
  have shows := shows_perform host context arguments settings input
  cases answered :
      response host context (chosenName arguments settings) arguments.command input with
  | ok line =>
    rw [answered] at shows
    cases shows.1.symm.trans escapes
  | error failure =>
    rw [answered, Outcome.Shows] at shows
    split at shows
    case isTrue => cases shows.1.symm.trans escapes
    case isFalse =>
      rcases response_fails answered with
          ⟨fault', rfl⟩ | ⟨path, fault', rfl⟩ | ⟨fault', rfl⟩ | rfl <;>
        cases shows.1.symm.trans escapes

theorem Settles.not_escaped {host : Host} {mark : Nat} {arguments : Arguments} {input : Bytes}
    {outcome : Outcome} (settles : Settles host mark arguments input outcome)
    (fault : SettingsFault) : outcome.ending ≠ .escaped (.settings fault) := by
  rcases settles with ⟨settings, shown, -, rfl⟩ | ⟨message, reports⟩
  · exact perform_not_escaped host _ arguments settings.value input fault
  · intro escapes
    cases reports.1.symm.trans escapes

section Run

variable {words : List RawText} {arguments : Arguments}

theorem run_of_fails (parsed : parse words = .ok arguments) {host : Host}
    {fault : SettingsFault} (refused : Settings.fileStatements host.disk = .error fault)
    (mark : Nat) (input : Bytes) :
    (run host none mark words input).1 = ⟨"", [], .escaped (.settings fault)⟩ := by
  have reading := Settings.read_of_fails refused
  have failed : (Settings.read host).result = .error fault := by rw [reading]
  rw [run_of_parsed parsed, Settings.get_none_of_fails failed, reading]
  rcases Settings.fileStatements_fails refused with ⟨_, cause, -, -, rfl⟩ | ⟨cause, -, rfl⟩ <;> rfl

theorem settles_run (parsed : parse words = .ok arguments) {host : Host}
    (readable : ¬∃ fault, Settings.fileStatements host.disk = .error fault) (mark : Nat)
    (input : Bytes) : Settles host mark arguments input (run host none mark words input).1 := by
  rw [run_of_parsed parsed]
  cases reading : (Settings.read host).result with
  | ok settings =>
    rw [Settings.get_none_of_reads reading]
    exact .inl ⟨⟨mark, settings⟩, _, by rw [Settings.get_none_of_reads reading], rfl⟩
  | error fault =>
    rw [Settings.get_none_of_fails reading]
    rcases Settings.read_fails reading with refused | ⟨text, rfl⟩
    · exact absurd ⟨fault, refused⟩ readable
    · obtain ⟨message, shown⟩ := exists_flagText text
      refine .inr ⟨message, rfl, rfl, (Settings.read host).unreadable.map lineWarning, ?_⟩
      simp only [← RawText.ofString_append]
      rw [← shown]
      rfl

/-- A run whose words can be read and for which no settings are kept goes on with settings, or
reports that the configuration is invalid, unless the settings file is there and is no UTF-8, or
the system does not let it be read. Then, and only then, a fault of the settings leaves the run,
namely that of the file's encoding or that of the system, and nothing is shown. -/
theorem settles_iff (parsed : parse words = .ok arguments) (host : Host) (mark : Nat)
    (input : Bytes) :
    let outcome := (run host none mark words input).1
    let unusable := Settings.Undecodable host.disk ∨ ∃ fault, Settings.Unreadable host.disk fault
    (Settles host mark arguments input outcome ↔ ¬unusable) ∧
    ((∃ fault, outcome.ending = .escaped (.settings fault)) ↔ unusable) ∧
    (∀ content fault, host.disk.entry Settings.file = .ok (.file content) →
      Utf8.decode content = .error fault →
      outcome = ⟨"", [], .escaped (.settings (.encoding fault))⟩) ∧
    ∀ fault, Settings.Unreadable host.disk fault →
      outcome = ⟨"", [], .escaped (.settings (.unreadable Settings.file fault))⟩ := by
  intro outcome unusable
  have fails : (∃ fault, Settings.fileStatements host.disk = .error fault) ↔ unusable :=
    Settings.exists_fileStatements_fails_iff
  have leaves (refused : unusable) : ∃ fault, outcome.ending = .escaped (.settings fault) := by
    obtain ⟨fault, refused⟩ := fails.mpr refused
    exact ⟨fault, congrArg Outcome.ending (run_of_fails parsed refused mark input)⟩
  have goesOn (usable : ¬unusable) : Settles host mark arguments input outcome :=
    settles_run parsed (mt fails.mp usable) mark input
  refine ⟨⟨fun settles refused => ?_, goesOn⟩, ⟨?_, leaves⟩, fun content fault there refused => ?_,
    fun fault unreadable => ?_⟩
  · obtain ⟨fault, escapes⟩ := leaves refused
    exact settles.not_escaped fault escapes
  · rintro ⟨fault, escapes⟩
    by_contra usable
    exact (goesOn usable).not_escaped fault escapes
  · refine run_of_fails parsed ?_ mark input
    rw [Settings.fileStatements_of_file there, EnvFile.statements_eq_error_iff.mpr refused]
    rfl
  · exact run_of_fails parsed (Settings.fileStatements_of_unreadable unreadable) mark input

end Run

/-- A host on which all there is is a settings file of one byte, which begins no character. -/
def hostOfFaultyByte : Host :=
  ⟨[], none, 0, Disk.ofAnswers [(Settings.file, .ok (.file [0xFF]))]⟩

theorem decode_faultyByte : Utf8.decode [0xFF] = .error ⟨0, 1, 0xFF, .start⟩ :=
  Utf8.decodeFrom_start (by decide) rfl

/-- A settings file of one byte that begins no character leaves a run with its fault. -/
theorem settles_faultyByte :
    parse ["public-key"] = .ok ⟨none, false, .publicKey⟩ ∧
      (run hostOfFaultyByte none 0 ["public-key"] []).1 =
        ⟨"", [], .escaped (.settings (.encoding ⟨0, 1, 0xFF, .start⟩))⟩ :=
  have parsed : parse ["public-key"] = .ok ⟨none, false, .publicKey⟩ := rfl
  ⟨parsed, (settles_iff parsed hostOfFaultyByte 0 []).2.2.1 _ _ rfl decode_faultyByte⟩

/-- Not every run goes on with settings or reports that the configuration is invalid. -/
theorem not_forall_settles :
    ¬∀ (host : Host) (mark : Nat) (words : List RawText) (arguments : Arguments) (input : Bytes),
      parse words = .ok arguments →
        Settles host mark arguments input (run host none mark words input).1 := by
  intro settles
  have parsed : parse ["public-key"] = .ok ⟨none, false, .publicKey⟩ := rfl
  have refused : Settings.fileStatements hostOfFaultyByte.disk =
      .error (.encoding ⟨0, 1, 0xFF, .start⟩) := by
    have there : hostOfFaultyByte.disk.entry Settings.file = .ok (.file [0xFF]) := rfl
    rw [Settings.fileStatements_of_file there,
      EnvFile.statements_eq_error_iff.mpr decode_faultyByte]
    rfl
  refine (settles hostOfFaultyByte 0 _ _ [] parsed).not_escaped (.encoding ⟨0, 1, 0xFF, .start⟩) ?_
  rw [run_of_fails parsed refused]

end CommandLine

end Keyring
