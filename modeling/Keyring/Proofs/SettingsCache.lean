import Keyring.Proofs.RunResult
import Keyring.Session.Lemmas

/-!
Which settings are kept over a run of requests.

The settings that are kept were read by one request of the run: the first that was given any
since the last time they were dropped (`BuiltIn`). Every request keeps this so
(`KeepsHistory.concat`). Hence whoever asks is given what that request read, whatever has
changed in the meantime (`settings_history`).
-/

namespace Keyring

/-- Settings that are not kept are those that are read, with the mark that they get. -/
theorem Settings.get_none_eq_ok_iff {mark : Nat} {host : Host} {settings : Marked Settings} :
    (get none mark host).result = .ok settings ↔
      (read host).result = .ok settings.value ∧ settings.mark = mark := by
  obtain ⟨mark', value⟩ := settings
  rw [get]
  cases (read host).result with
  | error fault => simp
  | ok value' => simp [and_comm, eq_comm]

namespace Session

theorem Operation.clears_of_asks {operation : Operation} (asks : operation.asks = true) :
    operation.clears = false := by
  cases operation <;> first | rfl | cases asks

namespace World

theorem given_eq_some_iff {world : World} {operation : Operation} {settings : Marked Settings} :
    world.given operation = some settings ↔ operation.asks = true ∧
      (Settings.get world.cache world.clock world.host).result = .ok settings := by
  rw [given]
  cases operation.asks <;>
    cases (Settings.get world.cache world.clock world.host).result <;>
    simp [Except.toOption]

theorem clears_of_given {world : World} {operation : Operation} {settings : Marked Settings}
    (given : world.given operation = some settings) : operation.clears = false :=
  Operation.clears_of_asks (given_eq_some_iff.mp given).1

/-! ## Where settings come from -/

/-- Whatever settings were given in a run have been dropped in it afterwards. -/
def Dropped (world : World) (requests : List Request) : Prop :=
  ∀ earlier asker later, requests = earlier ++ asker :: later →
    ((world.after earlier).given asker.operation).isSome →
    ∃ clearer ∈ later, clearer.operation.clears = true

/-- Settings that a request of a run read: it is the first that was given any since the last
time they were dropped. The mark tells by which request they were read. -/
structure BuiltBy (world : World) (before : List Request) (maker : Request)
    (between : List Request) (settings : Marked Settings) : Prop where
  asks : maker.operation.asks = true
  read : (Settings.read (world.after before).host).result = .ok settings.value
  mark : settings.mark = world.clock + 2 * before.length
  first : world.Dropped before
  since : ∀ request ∈ between, request.operation.clears = false

def BuiltIn (world : World) (requests : List Request) (settings : Marked Settings) : Prop :=
  ∃ before maker between, requests = before ++ maker :: between ∧
    world.BuiltBy before maker between settings

variable {world : World} {requests : List Request} {request : Request} {settings : Marked Settings}

theorem dropped_nil (world : World) : world.Dropped [] := by
  intro earlier asker later split
  cases earlier <;> cases split

/-- A request leaves nothing behind when it drops what there is, or when there was nothing and
it is given nothing. -/
theorem Dropped.concat
    (leaves : request.operation.clears = true ∨
      world.Dropped requests ∧ (world.after requests).given request.operation = none) :
    world.Dropped (requests ++ [request]) := by
  intro earlier asker later split given
  -- The asker is the request itself, or one of those before it.
  rcases List.eq_nil_or_concat later with rfl | ⟨later', last, rfl⟩
  · obtain ⟨rfl, same⟩ := List.append_inj' split rfl
    cases same
    rcases leaves with clears | ⟨-, nothing⟩
    · obtain ⟨settings, given⟩ := Option.isSome_iff_exists.mp given
      cases clears.symm.trans (clears_of_given given)
    · rw [nothing] at given
      cases given
  · rw [List.concat_eq_append, ← List.cons_append, ← List.append_assoc] at split
    obtain ⟨rfl, same⟩ := List.append_inj' split rfl
    cases same
    rcases leaves with clears | ⟨dropped, -⟩
    · exact ⟨request, by simp, clears⟩
    · obtain ⟨clearer, member, clears⟩ := dropped earlier asker later' rfl given
      exact ⟨clearer, by simp [member], clears⟩

/-- Settings stay where they come from while they are not dropped. -/
theorem BuiltIn.concat (built : world.BuiltIn requests settings)
    (keeps : request.operation.clears = false) : world.BuiltIn (requests ++ [request]) settings := by
  obtain ⟨before, maker, between, rfl, byMaker⟩ := built
  refine ⟨before, maker, between ++ [request], by simp, { byMaker with since := ?_ }⟩
  intro other member
  rcases List.mem_append.mp member with member | member
  · exact byMaker.since other member
  · rw [List.mem_singleton.mp member]
    exact keeps

/-! ## What is kept over a run -/

/-- What is kept after a run was read in it, and where nothing is kept nothing was left
behind. -/
structure KeepsHistory (world : World) (requests : List Request) : Prop where
  nothing : (world.after requests).cache = none → world.Dropped requests
  something : ∀ settings, (world.after requests).cache = some settings →
    world.BuiltIn requests settings

/-- Settings that a request is given are those that are kept, or are read now. -/
theorem KeepsHistory.builtIn_of_given (history : world.KeepsHistory requests)
    (given : (world.after requests).given request.operation = some settings) :
    world.BuiltIn (requests ++ [request]) settings := by
  obtain ⟨asks, result⟩ := given_eq_some_iff.mp given
  cases cached : (world.after requests).cache with
  | some settings' =>
    rw [cached] at result
    cases result
    exact (history.something settings cached).concat (clears_of_given given)
  | none =>
    rw [cached] at result
    obtain ⟨read, mark⟩ := Settings.get_none_eq_ok_iff.mp result
    refine ⟨requests, request, [], rfl, asks, read, ?_, history.nothing cached, by simp⟩
    rw [mark, clock_after]

theorem keepsHistory_nil (empty : world.cache = none) : world.KeepsHistory [] := by
  refine ⟨fun _ => dropped_nil world, fun settings kept => ?_⟩
  rw [after_nil, empty] at kept
  cases kept

/-- The step: every request keeps the history, by what it does to the settings that are kept. -/
theorem KeepsHistory.concat (history : world.KeepsHistory requests) (request : Request) :
    world.KeepsHistory (requests ++ [request]) := by
  have cache : (world.after (requests ++ [request])).cache =
      (world.after requests).kept request.operation := by
    rw [after_append]
    exact cache_step _ _
  cases clears : request.operation.clears with
  | true =>
    rw [kept, if_pos clears] at cache
    refine ⟨fun _ => .concat (.inl clears), fun settings kept => ?_⟩
    rw [cache] at kept
    cases kept
  | false =>
    rw [kept, clears, if_neg Bool.false_ne_true] at cache
    cases given : (world.after requests).given request.operation with
    | some settings =>
      rw [given, Option.some_or] at cache
      refine ⟨fun nothing => ?_, fun settings' kept => ?_⟩
      · rw [cache] at nothing
        cases nothing
      · rw [cache] at kept
        cases kept
        exact history.builtIn_of_given given
    | none =>
      rw [given, Option.none_or] at cache
      refine ⟨fun nothing => ?_, fun settings kept => ?_⟩
      · exact .concat (.inr ⟨history.nothing (cache ▸ nothing), given⟩)
      · exact (history.something settings (cache ▸ kept)).concat clears

/-- What is kept was read in the run, at every point of it. -/
theorem keepsHistory (empty : world.cache = none) (requests : List Request) :
    world.KeepsHistory requests := by
  induction requests using List.reverseRecOn with
  | nil => exact keepsHistory_nil empty
  | append_singleton requests request ih => exact ih.concat request

/-! ## What a request makes of the settings -/

/-- What is answered when the settings are asked for, by what the asking comes to. -/
inductive Answers (world : World) :
    Operation → Except SettingsFault (Marked Settings) → Answer → Prop
  | settings {settings : Marked Settings} :
    Answers world (.settings false) (.ok settings) (.plain (.ok (.settings settings.value true)))
  | refused {fault : SettingsFault} :
    Answers world (.settings false) (.error fault) (.plain (.error (.failure (.settings fault))))
  | ran {words : List RawText} {arguments : CommandLine.Arguments} {input : Bytes}
    {result : Except SettingsFault (Marked Settings)}
    (parsed : CommandLine.parse words = .ok arguments) (shown : List CommandLine.Shown) :
    Answers world (.commandLine words input) result (.plain (.ok (.outcome
      ((CommandLine.runSettled world.host world.clock arguments input result).behind shown))))

/-- The second time that settings are asked for, those of the first time are given. -/
theorem settings_of_given (given : world.given (.settings false) = some settings) :
    (world.settings false).2 = .plain (.ok (.settings settings.value true)) := by
  obtain ⟨-, result⟩ := given_eq_some_iff.mp given
  have cache : (Settings.get world.cache world.clock world.host).cache = some settings := by
    rw [Settings.cache_get, result]
    rfl
  rw [World.settings, if_neg Bool.false_ne_true]
  have again (mark : Nat) : (Settings.get (some settings) mark world.host).result =
      .ok settings := rfl
  simp only [result, cache, again, beq_self_eq_true]

theorem answers_of_asks (world : World) (request : Request)
    (asks : request.operation.asks = true) :
    world.Answers request.operation (Settings.get world.cache world.clock world.host).result
      (world.step request).2 := by
  obtain ⟨operation, as⟩ := request
  change world.Answers operation _ (world.carryOut ⟨operation, as⟩).2
  cases operation with
  | settings fresh =>
    cases fresh with
    | true => cases asks
    | false =>
      rw [carryOut]
      dsimp only
      cases result : (Settings.get world.cache world.clock world.host).result with
      | ok settings =>
        rw [settings_of_given (given_eq_some_iff.mpr ⟨rfl, result⟩)]
        exact .settings
      | error fault =>
        rw [World.settings, if_neg Bool.false_ne_true]
        simp only [result]
        exact .refused
  | commandLine words input =>
    cases parsed : CommandLine.parse words with
    | error stop =>
      rw [Operation.asks, parsed] at asks
      cases asks
    | ok arguments =>
      rw [carryOut]
      change world.Answers _ _ (.plain (.ok (.outcome
        (CommandLine.run world.host world.cache world.clock words input).1)))
      rw [CommandLine.run_of_parsed parsed]
      exact .ran parsed _
  | _ => cases asks

/-- Over a run of requests that starts without kept settings, whoever asks for settings and is
given any is given those that the first request read that was given any since they were last
dropped: the same, with the same mark, whatever has changed since. They are kept, whatever else
comes of the request. A request that asks and is refused, and one that does not ask, leaves what
is kept as it was. So does a new reading of the settings, and a run of the command line whose
words cannot be read. -/
theorem settings_history (empty : world.cache = none) (requests : List Request)
    (request : Request) :
    let here := world.after requests
    let result := (Settings.get here.cache here.clock here.host).result
    let next := here.step request
    (request.operation.asks = true →
      here.Answers request.operation result next.2 ∧
      (∀ settings, result = .ok settings →
        world.BuiltIn (requests ++ [request]) settings ∧ next.1.cache = some settings) ∧
      ∀ fault, result = .error fault → next.1.cache = here.cache) ∧
    (request.operation.asks = false → request.operation.clears = false →
      next.1.cache = here.cache) ∧
    (request.operation.clears = true → next.1.cache = none) := by
  intro here result next
  have cache : next.1.cache = here.kept request.operation := cache_step here request
  refine ⟨fun asks => ⟨answers_of_asks here request asks, fun settings given => ?_,
    fun fault refused => ?_⟩, fun silent keeps => ?_, fun clears => ?_⟩
  · have given := given_eq_some_iff.mpr ⟨asks, given⟩
    refine ⟨(keepsHistory empty requests).builtIn_of_given given, ?_⟩
    rw [cache, kept, clears_of_given given, given]
    rfl
  · rw [cache, kept, Operation.clears_of_asks asks, given, if_pos asks]
    change (if false = true then none else result.toOption.or here.cache) = here.cache
    rw [refused]
    rfl
  · rw [cache, kept, keeps, given, silent]
    rfl
  · rw [cache, kept, if_pos clears]

/-- Settings that were read before a variable changed are given after it. -/
theorem settings_history_changed_variable :
    let world := World.start [("SAWTOOTH_KEY_NAME", "one")] none 0 []
    let requests : List Request :=
      [⟨.settings false, none⟩, ⟨.setVariable "SAWTOOTH_KEY_NAME" "two", none⟩]
    let here := world.after requests
    (Settings.read here.host).result = .ok ⟨some "two", false⟩ ∧
      world.BuiltIn (requests ++ [⟨.settings false, none⟩]) ⟨1, some "one", false⟩ ∧
      (here.step ⟨.settings false, none⟩).2.result = .ok (.settings ⟨some "one", false⟩ true) := by
  intro world requests here
  have empty : world.cache = none := rfl
  have result : (Settings.get here.cache here.clock here.host).result =
      .ok ⟨1, some "one", false⟩ := by rfl
  obtain ⟨answers, given, -⟩ := (settings_history empty requests ⟨.settings false, none⟩).1 rfl
  refine ⟨rfl, (given _ result).1, ?_⟩
  change here.Answers _ (Settings.get here.cache here.clock here.host).result _ at answers
  rw [result] at answers
  cases answers
  rfl

end World

end Session

end Keyring
