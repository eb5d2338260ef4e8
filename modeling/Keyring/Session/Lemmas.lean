import Keyring.Session

/-!
What a request does to a world.

`Change` lists it, once for all operations: a request has an effect on the settings that are
kept, or names an object, or asks a signer for its public key, or changes the files and the
environment (`change_carryOut`). What holds of the world after a request, and after a run of
requests, is read off this list.
-/

namespace Keyring

/-- A signer that gave its public key once gives the same again, and stays as it is. -/
theorem Signer.publicKey_again {signer after : Signer} {mark : Nat} {key : Marked PublicKey}
    (asked : signer.publicKey mark = .ok (key, after)) (mark' : Nat) :
    after.publicKey mark' = .ok (key, after) := by
  unfold publicKey at asked
  split at asked
  case h_1 key' kept =>
    cases asked
    rw [publicKey, kept]
  case h_2 =>
    cases made : Scheme.publicKey signer.key with
    | error failure => rw [made] at asked; cases asked
    | ok value => rw [made] at asked; cases asked; rfl

/-- Settings that are given are kept, and else those kept before. -/
theorem Settings.cache_get (cache : Cache) (mark : Nat) (host : Host) :
    (get cache mark host).cache = (get cache mark host).result.toOption.or cache := by
  cases cache with
  | some kept => rfl
  | none =>
    rw [get]
    cases (read host).result <;> rfl

namespace Session

namespace Operation

/-- Whether an operation asks for the settings that are kept. A run of the command line does
so when its words can be read. -/
def asks : Operation → Bool
  | .settings fresh => !fresh
  | .commandLine words _ => (CommandLine.parse words).isOk
  | _ => false

/-- Whether an operation drops the settings that are kept. -/
def clears : Operation → Bool
  | .clearSettings => true
  | _ => false

end Operation

namespace World

variable {world : World} {request : Request}

/-! ## Objects by name -/

@[simp] theorem cache_call (name : Option String) (object : Object) :
    (world.call name object).cache = world.cache := by
  cases name <;> rfl

@[simp] theorem context_call (name : Option String) (object : Object) :
    (world.call name object).context = world.context := by
  cases name <;> rfl

theorem object?_call_self (world : World) (name : String) (object : Object) :
    (world.call (some name) object).object? name = some object := by
  rw [call, object?]
  exact List.lookup_cons_self

theorem object?_call_of_ne {name : Option String} {other : String} (free : name ≠ some other)
    (object : Object) : (world.call name object).object? other = world.object? other := by
  cases name with
  | none => rfl
  | some name =>
    have differs : (other == name) = false := by
      rw [beq_eq_false_iff_ne]
      rintro rfl
      exact free rfl
    rw [call, object?, List.lookup_cons, differs]
    rfl

theorem signer_eq_ok_iff {name : String} {signer : Signer} :
    world.signer name = .ok signer ↔ world.object? name = some (.signer signer) := by
  rw [World.signer]
  split
  case h_1 signer' found => rw [found]; simp
  case h_2 other =>
    constructor
    · intro found
      cases found
    · intro found
      exact absurd found (other signer)

theorem store_eq_ok_iff {name : String} {store : KeyStore} :
    world.store (.named name) = .ok store ↔ world.object? name = some (.store store) := by
  rw [World.store]
  split
  case h_1 store' found => rw [found]; simp
  case h_2 other =>
    constructor
    · intro found
      cases found
    · intro found
      exact absurd found (other store)

/-! ## The settings that are kept -/

/-- The settings that an operation is given, if it asks for them and they can be had. -/
def given (world : World) (operation : Operation) : Option (Marked Settings) :=
  if operation.asks then (Settings.get world.cache world.clock world.host).result.toOption
  else none

/-- The settings that are kept after an operation. -/
def kept (world : World) (operation : Operation) : Settings.Cache :=
  if operation.clears then none else (world.given operation).or world.cache

theorem fst_settings (world : World) (fresh : Bool) :
    (world.settings fresh).1 = { world with cache := world.kept (.settings fresh) } := by
  cases fresh with
  | true =>
    change (World.settings world true).1 = world
    rw [settings, if_pos rfl]
    split <;> rfl
  | false =>
    rw [settings, if_neg Bool.false_ne_true]
    have after : world.kept (.settings false) =
        (Settings.get world.cache world.clock world.host).cache :=
      (Settings.cache_get _ _ _).symm
    rw [after]
    dsimp only
    cases cached : world.cache with
    | some kept => rw [Settings.get]; rfl
    | none =>
      rw [Settings.get]
      cases reading : (Settings.read world.host).result with
      | error fault => simp only [← cached]
      | ok settings => rfl

theorem fst_commandLine (world : World) (words : List RawText) (input : Bytes) :
    (world.commandLine words input).1 =
      { world with cache := world.kept (.commandLine words input) } := by
  have after : (CommandLine.run world.host world.cache world.clock words input).2 =
      world.kept (.commandLine words input) := by
    rw [CommandLine.run, kept, given, Operation.asks]
    cases CommandLine.parse words with
    | ok arguments => exact Settings.cache_get _ _ _
    | error stop => cases stop <;> rfl
  rw [commandLine, ← after]

/-! ## What a request changes -/

/-- What a request makes of a world. A request that changes anything else is `quiet`: it keeps
the settings that were kept. -/
inductive Change (world : World) (request : Request) : World → Prop
  | settings : Change world request { world with cache := world.kept request.operation }
  | names (quiet : world.kept request.operation = world.cache) (object : Object) :
    Change world request (world.call request.name object)
  /-- A signer gives its public key, and the one that keeps it takes its place. -/
  | asks {name : String} {signer after : Signer} {key : Marked PublicKey}
    (asking : request.operation = .signerKey name) (found : world.signer name = .ok signer)
    (asked : signer.publicKey world.clock = .ok (key, after)) :
    Change world request
      ((world.call (some name) (.signer after)).call request.name (.publicKey key.value))
  | surroundings (quiet : world.kept request.operation = world.cache)
    (environment : Environment) (files : FileTree) :
    Change world request { world with environment, files }

theorem Change.same (quiet : world.kept request.operation = world.cache) :
    Change world request world := by
  have changed : Change world request { world with cache := world.kept request.operation } :=
    .settings
  rw [quiet] at changed
  exact changed

section Carrying

variable {α : Type} {next : α → World × Reply}
  (quiet : world.kept request.operation = world.cache)

include quiet

theorem change_settle {result : Except Problem α}
    (changed : ∀ value, result = .ok value → Change world request (next value).1) :
    Change world request (world.settle result next).1 := by
  cases result with
  | ok value => exact changed value rfl
  | error problem => exact .same quiet

theorem change_finish {logged : Logged α} (changed : ∀ value, Change world request (next value).1) :
    Change world request (world.finish logged next).1 := by
  rw [finish]
  cases logged.result with
  | ok value => exact changed value
  | error failure => exact .same quiet

theorem change_withStore {ref : StoreRef} {logged : KeyStore → Logged α}
    (changed : ∀ value, Change world request (next value).1) :
    Change world request (world.withStore ref logged next).1 := by
  rw [withStore]
  cases world.store ref with
  | ok store => exact change_finish quiet changed
  | error problem => exact .same quiet

theorem change_newSigner (source : SignerSource) :
    Change world request (world.newSigner request.name source).1 := by
  rw [newSigner]
  cases world.makeSigner source with
  | error problem => exact .same quiet
  | ok made =>
    dsimp only
    cases made.result with
    | error failure => exact .same quiet
    | ok signer =>
      dsimp only
      cases signer.publicKey world.clock with
      | error failure => exact .names quiet _
      | ok answer => exact .names quiet _

end Carrying

/-- Asking a signer twice comes to no more than asking it once. -/
theorem signerKey_eq {name : String} {signer : Signer} (found : world.signer name = .ok signer)
    (as : Option String) :
    world.signerKey as name =
      ((signer.publicKey world.clock).map fun (key, after) =>
        ((world.call (some name) (.signer after)).call as (.publicKey key.value),
          .signerKey key.value true)).mapError .failure := by
  have passed {α : Type} (value : α) :
      (Except.ok value : Except Failure α).mapError Problem.failure = .ok value := rfl
  rw [signerKey, found]
  simp only [bind, Except.bind]
  cases asked : signer.publicKey world.clock with
  | error failure => rfl
  | ok answer =>
    obtain ⟨key, after⟩ := answer
    have again := Signer.publicKey_again asked (world.clock + 1)
    simp only [passed, again, beq_self_eq_true]
    rfl

-- The cases are those of `carryOut`. That an operation is quiet is known by its form (`rfl`) but
-- for the two that may be given settings.
theorem change_carryOut (world : World) (request : Request) :
    Change world request (world.carryOut request).1 := by
  obtain ⟨operation, as⟩ := request
  cases operation with
  | readPrivate source => exact change_settle rfl fun key _ => .names rfl (.privateKey key)
  | readPublic source => exact change_settle rfl fun key _ => .names rfl (.publicKey key)
  | derivePublic key => exact change_settle rfl fun key _ => .names rfl (.publicKey key)
  | showPrivate key => exact change_settle rfl fun _ _ => .same rfl
  | showPublic key => exact change_settle rfl fun _ _ => .same rfl
  | compare a b => exact change_settle rfl fun _ _ => .same rfl
  | sign message key => exact change_settle rfl fun _ _ => .same rfl
  | signBy message signer => exact change_settle rfl fun _ _ => .same rfl
  | verify text message key =>
    rw [carryOut]
    dsimp only
    cases world.publicKey key with
    | error problem => exact .same rfl
    | ok key => exact change_finish rfl fun _ => .same rfl
  | showScheme => exact .same rfl
  | showIdentity identity => exact change_finish rfl fun _ => .same rfl
  | openStore identity => exact .names rfl (.store ⟨world.context, identity⟩)
  | chooseName store given => exact change_withStore rfl fun _ => .same rfl
  | keyPath store keyName => exact change_withStore rfl fun _ => .same rfl
  | loadFile store path unseen =>
    exact change_withStore rfl fun key => .names rfl (.privateKey key)
  | loadKey store keyName => exact change_withStore rfl fun key => .names rfl (.privateKey key)
  | newSigner source => exact change_newSigner rfl source
  | signerKey name =>
    refine change_settle rfl fun answer answered => ?_
    cases found : world.signer name with
    | error problem => rw [signerKey, found] at answered; cases answered
    | ok signer =>
      rw [signerKey_eq found] at answered
      cases asked : signer.publicKey world.clock with
      | error failure => rw [asked] at answered; cases answered
      | ok result => rw [asked] at answered; cases answered; exact .asks rfl found asked
  | settings fresh => rw [carryOut, fst_settings]; exact .settings
  | clearSettings => exact .settings
  | commandLine words input => rw [carryOut, fst_commandLine]; exact .settings
  | write path content => exact .surroundings rfl world.environment _
  | makeDirectory path => exact .surroundings rfl world.environment _
  | remove path => exact .surroundings rfl world.environment _
  | setVariable target value => exact .surroundings rfl _ world.files
  | unsetVariable target => exact .surroundings rfl _ world.files

theorem Change.cache {next : World} (change : Change world request next) :
    next.cache = world.kept request.operation := by
  cases change with
  | settings => rfl
  | names quiet object => rw [cache_call, quiet]
  | asks asking found asked => rw [cache_call, cache_call, kept, asking]; rfl
  | surroundings quiet environment files => exact quiet.symm

theorem Change.context {next : World} (change : Change world request next) :
    next.context = world.context := by
  cases change with
  | settings => rfl
  | names quiet object => rw [context_call]
  | asks asking found asked => rw [context_call, context_call]
  | surroundings quiet environment files => rfl

/-- What a name stands for changes only where it is given anew, or is that of a signer that is
asked for its public key. -/
theorem Change.object_eq {next : World} (change : Change world request next) {name : String}
    (free : request.name ≠ some name) :
    next.object? name = world.object? name ∨
      ∃ signer key after, world.object? name = some (.signer signer) ∧
        signer.publicKey world.clock = .ok (key, after) ∧
        next.object? name = some (.signer after) := by
  cases change with
  | settings => exact .inl rfl
  | names quiet object => exact .inl (object?_call_of_ne free object)
  | @asks asked signer after key asking found made =>
    rw [object?_call_of_ne free]
    by_cases same : asked = name
    · subst same
      exact .inr ⟨signer, key, after, signer_eq_ok_iff.mp found, made, object?_call_self ..⟩
    · exact .inl (object?_call_of_ne (fun named => same (Option.some.inj named)) _)
  | surroundings quiet environment files => exact .inl rfl

/-! ## Steps and runs -/

/-- A request drops the settings that are kept, or keeps those it is given, or else those kept
before. -/
theorem cache_step (world : World) (request : Request) :
    (world.step request).1.cache = world.kept request.operation :=
  (change_carryOut world request).cache

theorem context_step (world : World) (request : Request) :
    (world.step request).1.context = world.context :=
  (change_carryOut world request).context

theorem clock_step (world : World) (request : Request) :
    (world.step request).1.clock = world.clock + 2 := rfl

/-- The world after requests. -/
def after (world : World) (requests : List Request) : World :=
  (world.run requests).1

@[simp] theorem after_nil (world : World) : world.after [] = world := rfl

@[simp] theorem after_cons (world : World) (request : Request) (rest : List Request) :
    world.after (request :: rest) = (world.step request).1.after rest := rfl

theorem after_append (world : World) (front back : List Request) :
    world.after (front ++ back) = (world.after front).after back := by
  induction front generalizing world with
  | nil => rfl
  | cons request front ih => exact ih _

theorem clock_after (world : World) (requests : List Request) :
    (world.after requests).clock = world.clock + 2 * requests.length := by
  induction requests generalizing world with
  | nil => rfl
  | cons request rest ih =>
    rw [after_cons, ih, clock_step, List.length_cons]
    omega

theorem context_after (world : World) (requests : List Request) :
    (world.after requests).context = world.context := by
  induction requests generalizing world with
  | nil => rfl
  | cons request rest ih => rw [after_cons, ih, context_step]

end World

end Session

end Keyring
