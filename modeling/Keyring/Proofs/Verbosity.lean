import Keyring.Proofs.Configuration
import Keyring.Proofs.LeadingFlags

/-!
What a verbose run shows more than a quiet one.

The threshold of the log is the one thing that the flag and the setting decide: of its arguments
and settings a run takes besides it the command and the name of the key alone (`perform_eq`), and
both are the same with the flag in front (`parse_verbose_cons`). A lower threshold lets through
records of level debug that a higher one does not (`outcomeOf_lower`), so two runs that differ in
the flag or in the setting put out the same and end alike, and what they show on the error channel
differs by such records (`verbosity_changes_log_only`).
-/

namespace Keyring

namespace CommandLine

/-! ## Records of no interest -/

/-- Things shown, and the same with records of level debug put in between. -/
inductive DebugInserted : List Shown → List Shown → Prop
  | nil : DebugInserted [] []
  | same {shown more : List Shown} (entry : Shown) :
    DebugInserted shown more → DebugInserted (entry :: shown) (entry :: more)
  | record {shown more : List Shown} (source : Source) (message : RawText) :
    DebugInserted shown more → DebugInserted shown (.record ⟨source, .debug, message⟩ :: more)

theorem DebugInserted.refl (shown : List Shown) : DebugInserted shown shown := by
  induction shown with
  | nil => exact .nil
  | cons entry rest ih => exact .same entry ih

theorem DebugInserted.append {shown more shown' more' : List Shown}
    (front : DebugInserted shown more) (back : DebugInserted shown' more') :
    DebugInserted (shown ++ shown') (more ++ more') := by
  induction front with
  | nil => exact back
  | same entry _ ih => exact .same entry ih
  | record source message _ ih => exact .record source message ih

/-- A lower threshold lets through what a higher one does, and records of level debug. -/
theorem recordsShown_lower {level level' : Level} (lower : level = .debug → level' = .debug)
    (records : List Record) :
    DebugInserted (recordsShown level records) (recordsShown level' records) := by
  cases level' with
  | warning =>
    cases level with
    | warning => exact .refl _
    | debug => cases lower rfl
  | debug =>
    induction records with
    | nil => exact .nil
    | cons record rest ih =>
      rcases record with ⟨source, kind, message⟩
      cases kind with
      | warning => cases level <;> exact .same _ ih
      | debug =>
        cases level with
        | debug => exact .same _ ih
        | warning => exact .record source message ih

/-- Two outcomes that put out the same and end alike, of which the second shows the same on the
error channel with records of level debug put in. -/
structure Outcome.LogsMore (quiet verbose : Outcome) : Prop where
  output : verbose.output = quiet.output
  ending : verbose.ending = quiet.ending
  errors : DebugInserted quiet.errors verbose.errors

theorem Outcome.LogsMore.refl (outcome : Outcome) : outcome.LogsMore outcome :=
  ⟨rfl, rfl, .refl _⟩

theorem Outcome.LogsMore.behind {quiet verbose : Outcome} (more : quiet.LogsMore verbose)
    (shown : List Shown) : (quiet.behind shown).LogsMore (verbose.behind shown) :=
  ⟨more.output, more.ending, .append (.refl shown) more.errors⟩

/-! ## What a run does with a key -/

/-- What a run shows of a key that it has loaded, or could not load: what its command makes of
the key, and the records that pass the threshold. -/
def outcomeOf (level : Level) (loaded : Logged PrivateKey) (command : Command) (input : Bytes) :
    Outcome :=
  match loaded.result with
  | .error failure =>
    if failure.isSigning then
      ⟨"", recordsShown level (loaded.records ++ [loadFailed failure]) ++
        [.text ("Error: " ++ failure.message ++ "\n")], .returned 1⟩
    else ⟨"", recordsShown level loaded.records, .escaped failure⟩
  | .ok key =>
    match answer (Signer.ofKey ⟨0, ()⟩ key) command input with
    | .ok line => ⟨line ++ "\n", recordsShown level loaded.records, .returned 0⟩
    | .error failure => ⟨"", recordsShown level loaded.records, .escaped failure⟩

/-- A run that has its settings takes from them the threshold and the name of the key alone. -/
theorem perform_eq (host : Host) (context : Context) (arguments : Arguments)
    (settings : Settings) (input : Bytes) :
    perform host context arguments settings input =
      outcomeOf (threshold arguments settings)
        (KeyStore.loadKey ⟨context, .process none⟩ host (chosenName arguments settings))
        arguments.command input := by
  have same (key : PrivateKey) : answer (Signer.ofKey context key) arguments.command input =
      answer (Signer.ofKey ⟨0, ()⟩ key) arguments.command input := by
    cases arguments.command with
    | publicKey => cases key <;> rfl
    | sign message => rfl
  rw [perform, outcomeOf, KeyStore.signer_eq]
  dsimp only
  cases (KeyStore.loadKey ⟨context, .process none⟩ host (chosenName arguments settings)).result with
  | error failure => rfl
  | ok key =>
    change (match answer (Signer.ofKey context key) arguments.command input with
      | .ok line => _ | .error failure => _) = _
    rw [same]

theorem outcomeOf_lower {level level' : Level} (lower : level = .debug → level' = .debug)
    (loaded : Logged PrivateKey) (command : Command) (input : Bytes) :
    (outcomeOf level loaded command input).LogsMore (outcomeOf level' loaded command input) := by
  unfold outcomeOf
  split
  case h_1 failure =>
    split
    case isTrue => exact ⟨rfl, rfl, .append (recordsShown_lower lower _) (.refl _)⟩
    case isFalse => exact ⟨rfl, rfl, recordsShown_lower lower _⟩
  case h_2 key =>
    split
    case h_1 => exact ⟨rfl, rfl, recordsShown_lower lower _⟩
    case h_2 => exact ⟨rfl, rfl, recordsShown_lower lower _⟩

end CommandLine

/-! ## What loading a key looks at -/

theorem Logged.bind_congr {α β : Type} {first : Logged α} {next next' : α → Logged β}
    (same : ∀ value, first.result = .ok value → next value = next' value) :
    first >>= next = first >>= next' := by
  change bind first next = bind first next'
  unfold bind
  cases result : first.result with
  | error failure => rfl
  | ok value =>
    dsimp only
    rw [same value result]

/-- Two hosts on which a process finds the same keys: its user is the same, and so are the files
of keys. Other variables and files may differ, those of the settings among them. -/
structure Host.SameKeys (host host' : Host) : Prop where
  user : host.environment.get? "USER" = host'.environment.get? "USER"
  home : host.environment.get? "HOME" = host'.environment.get? "HOME"
  accounts : host.accounts = host'.accounts
  userId : host.userId = host'.userId
  files : ∀ home name, host.disk.entry (KeyStore.pathBelow home name) =
    host'.disk.entry (KeyStore.pathBelow home name)

theorem Host.SameKeys.refl (host : Host) : host.SameKeys host :=
  ⟨rfl, rfl, rfl, rfl, fun _ _ => rfl⟩

theorem KeyStore.loadKey_congr {host host' : Host} (same : host.SameKeys host')
    (context context' : Context) (given : Option RawText) :
    loadKey ⟨context, .process none⟩ host given =
      loadKey ⟨context', .process none⟩ host' given := by
  have account : Identity.account? host = Identity.account? host' := by
    rw [Identity.account?, Identity.account?, same.accounts, same.userId]
  have environment : (Identity.process none).environmentName host =
      (Identity.process none).environmentName host' :=
    congrArg (·.bind nonempty?) same.user
  have system : (Identity.process none).systemName host =
      (Identity.process none).systemName host' := by
    rw [Identity.systemName, Identity.systemName, account]
  have home : (Identity.process none).home host = (Identity.process none).home host' := by
    have value : Identity.valueOf none host "HOME" = Identity.valueOf none host' "HOME" :=
      same.home
    rw [Identity.home, Identity.home, value, account]
  have chosen : chooseName ⟨context, .process none⟩ host given =
      chooseName ⟨context', .process none⟩ host' given := by
    unfold chooseName
    dsimp only
    rw [environment, system]
  have path (name : RawText) : keyPath ⟨context, .process none⟩ host name =
      keyPath ⟨context', .process none⟩ host' name := by
    unfold keyPath
    dsimp only
    rw [home]
  rw [loadKey, loadKey, chosen]
  apply Logged.bind_congr
  intro name _
  rw [path]
  apply Logged.bind_congr
  intro file found
  -- A file that is looked for is one of keys.
  rcases keyPath_eq_ok_iff.mp found with ⟨home, -, rfl⟩
  exact loadFile_congr (same.files home name)

namespace CommandLine

/-! ## Quiet and verbose runs -/

theorem perform_lower {host host' : Host} (same : host.SameKeys host') (context context' : Context)
    {arguments arguments' : Arguments} {settings settings' : Settings}
    (command : arguments'.command = arguments.command)
    (name : chosenName arguments' settings' = chosenName arguments settings)
    (lower : threshold arguments settings = .debug → threshold arguments' settings' = .debug)
    (input : Bytes) :
    (perform host context arguments settings input).LogsMore
      (perform host' context' arguments' settings' input) := by
  rw [perform_eq, perform_eq, command, name, KeyStore.loadKey_congr same context context']
  exact outcomeOf_lower lower _ _ _

theorem threshold_eq_debug_iff {arguments : Arguments} {settings : Settings} :
    threshold arguments settings = .debug ↔
      arguments.verbose = true ∨ settings.debug = true := by
  unfold threshold
  cases arguments.verbose <;> cases settings.debug <;> simp

/-- With the flag in front a run shows more of its log, and nothing else changes. -/
theorem run_verbose_cons (host : Host) (cache : Settings.Cache) (mark : Nat)
    (words : List RawText) (input : Bytes) :
    (run host cache mark words input).1.LogsMore (run host cache mark ("-v" :: words) input).1 := by
  cases parsed : parse words with
  | error stop =>
    rw [run, run, parse_verbose_cons, parsed]
    cases stop <;> exact .refl _
  | ok arguments =>
    have parsed' : parse ("-v" :: words) = .ok arguments.verbosely := by
      rw [parse_verbose_cons, parsed]
      rfl
    rw [run_of_parsed parsed, run_of_parsed parsed']
    apply Outcome.LogsMore.behind
    cases (Settings.get cache mark host).result with
    | error fault => cases fault <;> exact .refl _
    | ok settings =>
      have low : threshold arguments.verbosely settings.value = .debug :=
        threshold_eq_debug_iff.mpr (.inl rfl)
      have command : arguments.verbosely.command = arguments.command := rfl
      have name : chosenName arguments.verbosely settings.value =
          chosenName arguments settings.value := rfl
      exact perform_lower (.refl host) ⟨mark, ()⟩ ⟨mark, ()⟩ command name (fun _ => low) input

theorem cache_run_verbose_cons (host : Host) (cache : Settings.Cache) (mark : Nat)
    (words : List RawText) (input : Bytes) :
    (run host cache mark ("-v" :: words) input).2 = (run host cache mark words input).2 := by
  rw [run, run, parse_verbose_cons]
  cases parse words with
  | error stop => cases stop <;> rfl
  | ok arguments => rfl

section Settings

variable {host host' : Host} {cache cache' : Settings.Cache} {mark mark' : Nat}

/-- The lines of the settings file that are warned of are the same where the file is, when both
runs read it or neither does. -/
theorem unreadable_get_congr (file : host.disk.entry Settings.file = host'.disk.entry Settings.file)
    (both : cache.isSome = cache'.isSome) :
    (Settings.get cache mark host).unreadable = (Settings.get cache' mark' host').unreadable := by
  have statements : Settings.fileStatements host.disk = Settings.fileStatements host'.disk := by
    rw [Settings.fileStatements, Settings.fileStatements, file]
  have read : (Settings.read host).unreadable = (Settings.read host').unreadable := by
    rw [Settings.read, Settings.read, statements]
    cases Settings.fileStatements host'.disk <;> rfl
  have get_none (host : Host) (mark : Nat) :
      (Settings.get none mark host).unreadable = (Settings.read host).unreadable := by
    cases reading : (Settings.read host).result with
    | error fault => rw [Settings.get_none_of_fails reading]
    | ok settings => rw [Settings.get_none_of_reads reading]
  cases cache with
  | some kept =>
    cases cache' with
    | some kept' => rfl
    | none => cases both
  | none =>
    cases cache' with
    | some kept' => cases both
    | none => rw [get_none, get_none, read]

/-- What a run shows behind the warnings about the settings file takes from the settings the
threshold and the name of the key alone. -/
theorem runSettled_lower (same : host.SameKeys host') {settings settings' : Marked Settings}
    (keyName : settings'.value.keyName = settings.value.keyName)
    (lower : settings.value.debug = true → settings'.value.debug = true)
    (arguments : Arguments) (input : Bytes) :
    (runSettled host mark arguments input (.ok settings)).LogsMore
      (runSettled host' mark' arguments input (.ok settings')) := by
  have name : chosenName arguments settings'.value = chosenName arguments settings.value := by
    rw [chosenName, chosenName, keyName]
  have low : threshold arguments settings.value = .debug →
      threshold arguments settings'.value = .debug := by
    rw [threshold_eq_debug_iff, threshold_eq_debug_iff]
    exact Or.imp_right lower
  exact perform_lower same ⟨mark, ()⟩ ⟨mark', ()⟩ rfl name low input

end Settings

/-- Verbosity changes the log alone. With the flag in front of the words, whatever they are, a run
puts out the same, ends alike and keeps the same settings, and on the error channel it shows the
same with records of level debug put in. So it is for two runs of the same words that find the
same keys and have settings with the same name of the key, if the debug flag is set in the second
where it is in the first: behind the warnings about the settings file, which are shown by a run
that reads it, the second shows the same with records of level debug put in. The warnings are the
same where the settings file is, when both runs read it or both have their settings kept. -/
theorem verbosity_changes_log_only (host : Host) (cache : Settings.Cache) (mark : Nat)
    (words : List RawText) (input : Bytes) :
    (run host cache mark words input).1.LogsMore (run host cache mark ("-v" :: words) input).1 ∧
    (run host cache mark ("-v" :: words) input).2 = (run host cache mark words input).2 ∧
    ∀ (host' : Host) (cache' : Settings.Cache) (mark' : Nat) (settings settings' : Marked Settings),
      host.SameKeys host' →
      (Settings.get cache mark host).result = .ok settings →
      (Settings.get cache' mark' host').result = .ok settings' →
      settings'.value.keyName = settings.value.keyName →
      (settings.value.debug = true → settings'.value.debug = true) →
      let first := (run host cache mark words input).1
      let second := (run host' cache' mark' words input).1
      (∀ arguments, parse words = .ok arguments → ∃ quiet verbose : Outcome,
        quiet.LogsMore verbose ∧
        first = quiet.behind ((Settings.get cache mark host).unreadable.map lineWarning) ∧
        second = verbose.behind ((Settings.get cache' mark' host').unreadable.map lineWarning)) ∧
      (host.disk.entry Settings.file = host'.disk.entry Settings.file →
        cache.isSome = cache'.isSome → first.LogsMore second) := by
  refine ⟨run_verbose_cons host cache mark words input,
    cache_run_verbose_cons host cache mark words input, ?_⟩
  intro host' cache' mark' settings settings' same given given' keyName lower first second
  have behind (arguments : Arguments) (parsed : parse words = .ok arguments) :
      ∃ quiet verbose : Outcome, quiet.LogsMore verbose ∧
        first = quiet.behind ((Settings.get cache mark host).unreadable.map lineWarning) ∧
        second =
          verbose.behind ((Settings.get cache' mark' host').unreadable.map lineWarning) := by
    refine ⟨runSettled host mark arguments input (.ok settings),
      runSettled host' mark' arguments input (.ok settings'),
      runSettled_lower same keyName lower arguments input, ?_, ?_⟩
    · rw [← given]
      exact run_of_parsed parsed host cache mark input
    · rw [← given']
      exact run_of_parsed parsed host' cache' mark' input
  refine ⟨behind, fun file both => ?_⟩
  cases parsed : parse words with
  | error stop =>
    change (run host cache mark words input).1.LogsMore (run host' cache' mark' words input).1
    rw [run, run, parsed]
    cases stop <;> exact .refl _
  | ok arguments =>
    rcases behind arguments parsed with ⟨quiet, verbose, more, here, there⟩
    rw [here, there, unreadable_get_congr file both]
    exact more.behind _

/-- A run for a user without a name shows the same failure with the debug flag or the flag in
front, behind a record of it. -/
theorem verbosity_changes_log_only_nameless :
    let host : Host := ⟨[], none, 0, Disk.ofAnswers []⟩
    let quiet := (run host (some ⟨0, none, false⟩) 1 ["public-key"] []).1
    let verbose := (run host (some ⟨0, none, true⟩) 1 ["public-key"] []).1
    let failure := Failure.load .noName
    quiet.LogsMore verbose ∧
      quiet.errors = [.text ("Error: " ++ failure.message ++ "\n")] ∧
      verbose.errors = .record (loadFailed failure) :: quiet.errors ∧
      (run host (some ⟨0, none, false⟩) 1 ["-v", "public-key"] []).1.errors = verbose.errors := by
  intro host quiet verbose failure
  have logs := (verbosity_changes_log_only host (some ⟨0, none, false⟩) 1 ["public-key"] []).2.2
    host (some ⟨0, none, true⟩) 1 ⟨0, none, false⟩ ⟨0, none, true⟩ (.refl host) rfl rfl rfl
    (fun set => by cases set)
  exact ⟨logs.2 rfl rfl, rfl, rfl, rfl⟩

end CommandLine

end Keyring
