import Keyring.Host
import Keyring.Log

/-!
Who the user is: the name in the environment, the name in the user database, and the
home directory. A provider takes them from the process or has them fixed.
-/

namespace Keyring

def nonempty? (text : String) : Option String :=
  if text.isEmpty then none else some text

/-- A fixed home directory: as a text, of which the empty one says nothing, or as a path,
which always counts. -/
inductive FixedHome where
  | text (text : String)
  | path (path : Path)
  deriving DecidableEq, Repr

/-- Where the user's name and home directory come from. -/
inductive Identity where
  /-- Fixed values, for callers that know them. -/
  | fixed (user osUser : Option String) (home : Option FixedHome)
  /-- The running process, with its own environment unless another is given. -/
  | process (environment : Option Environment)

namespace Identity

/-- The account of the process's user. A user without an account is logged; a system
without a user database is not. -/
def account? (host : Host) : Logged (Option Account) :=
  match host.accounts with
  | none => return none
  | some accounts =>
    match accounts.lookup host.userId with
    | some account => return some account
    | none => do
      Logged.debug .identity s!"No passwd entry for uid {host.userId}"
      return none

/-- The value of a variable in the environment that counts for a provider. -/
def valueOf (given : Option Environment) (host : Host) (name : String) : Option String :=
  (given.getD host.environment).get? name

/-- The user's name by the environment, unless empty. -/
def environmentName (identity : Identity) (host : Host) : Option String :=
  match identity with
  | fixed user _ _ => user.bind nonempty?
  | process given => (valueOf given host "USER").bind nonempty?

def systemName (identity : Identity) (host : Host) : Logged (Option String) :=
  match identity with
  | fixed _ osUser _ => return osUser.bind nonempty?
  | process _ => do return (← account? host).bind (·.name)

/-- The home directory: of a process the variable `HOME` unless empty, else the one in
the user database unless empty. -/
def home (identity : Identity) (host : Host) : Logged (Option Path) :=
  match identity with
  | fixed _ _ none => return none
  | fixed _ _ (some (.text text)) => return (nonempty? text).map Path.ofString
  | fixed _ _ (some (.path path)) => return some path
  | process given =>
    match (valueOf given host "HOME").bind nonempty? with
    | some text => return some (Path.ofString text)
    | none => do
      let account ← account? host
      return ((account.bind (·.home)).bind nonempty?).map Path.ofString

end Identity

end Keyring
