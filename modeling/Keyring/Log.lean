import Keyring.Failure

/-!
Computations that keep a log. A `Logged` computation has a result or a failure, and in
either case the records it made on the way; what follows a computation adds its records
after those made before.
-/

namespace Keyring

inductive Level where
  | debug
  | warning
  deriving DecidableEq, Repr

namespace Level

def name : Level → String
  | debug => "DEBUG"
  | warning => "WARNING"

/-- Whether records of a level are let through at a threshold. -/
def passes (threshold level : Level) : Bool :=
  threshold == .debug || level == .warning

end Level

/-- The part of the library that makes a record. -/
inductive Source where
  | store
  | identity
  | scheme
  | commandLine
  deriving DecidableEq, Repr

namespace Source

/-- The name under which a part of the library logs. -/
def name : Source → String
  | store => "sawtooth_cli.signing.keys"
  | identity => "sawtooth_cli.signing.identity"
  | scheme => "sawtooth_cli.signing.secp256k1"
  | commandLine => "sawtooth_cli.main"

end Source

structure Record where
  source : Source
  level : Level
  message : RawText
  deriving DecidableEq, Repr

/-- A result or a failure, with the records made on the way. -/
structure Logged (α : Type) where
  records : List Record
  result : Except Failure α

namespace Logged

variable {α β : Type}

/-- What follows a failed computation is not run. -/
def bind (first : Logged α) (next : α → Logged β) : Logged β :=
  match first.result with
  | .error failure => ⟨first.records, .error failure⟩
  | .ok value =>
    let second := next value
    ⟨first.records ++ second.records, second.result⟩

instance : Monad Logged where
  pure value := ⟨[], .ok value⟩
  bind := bind

def fail (failure : Failure) : Logged α :=
  ⟨[], .error failure⟩

/-- Takes a result as it is, without a record. -/
def lift (result : Except Failure α) : Logged α :=
  ⟨[], result⟩

/-- Makes one record, of no more interest than for finding faults. -/
def debug (source : Source) (message : RawText) : Logged Unit :=
  ⟨[⟨source, .debug, message⟩], .ok ()⟩

/-! ## What a sequence comes to -/

@[simp] theorem result_pure (value : α) : (pure value : Logged α).result = .ok value := rfl

@[simp] theorem records_pure (value : α) : (pure value : Logged α).records = [] := rfl

theorem pure_bind (value : α) (next : α → Logged β) : pure value >>= next = next value := rfl

@[simp] theorem lift_ok_bind (value : α) (next : α → Logged β) :
    lift (.ok value) >>= next = next value := rfl

@[simp] theorem debug_bind (source : Source) (message : RawText) (next : Unit → Logged β) :
    debug source message >>= next =
      ⟨⟨source, .debug, message⟩ :: (next ()).records, (next ()).result⟩ := rfl

@[simp] theorem result_bind (first : Logged α) (next : α → Logged β) :
    (first >>= next).result = first.result.bind fun value => (next value).result := by
  change (bind first next).result = _
  unfold bind
  cases first.result <;> rfl

end Logged

end Keyring
