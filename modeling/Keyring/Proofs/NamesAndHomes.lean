import Keyring.KeyStore

/-!
Whose key is loaded, and from below which directory.

An identity is asked for a name in the user's environment, for one in the user database, and for
a home directory. Of two sources the first that says something counts, and an empty text says
nothing (`Identity.FirstSays`). `Identity.Names` and `Identity.HasHome` tell from which sources
the name and the home directory are taken. A store chooses this name and looks below this
directory (`chooseName_eq_ok_iff`, `keyPath_eq_ok_iff`), and fails only for want of one
(`chooseName_fails`, `keyPath_fails`).
-/

namespace Keyring

namespace Identity

/-! ## Sources -/

/-- A source that says something: it is there and not empty. -/
def Says (source : Option String) (text : String) : Prop :=
  source = some text ∧ text ≠ ""

/-- What the first of two sources that says something says. -/
def FirstSays (first second : Option String) (text : String) : Prop :=
  Says first text ∨ (¬∃ other, Says first other) ∧ Says second text

theorem nonempty_eq_some_iff {text text' : String} :
    nonempty? text = some text' ↔ text = text' ∧ text' ≠ "" := by
  rw [nonempty?]
  by_cases empty : text = ""
  · subst empty
    constructor
    · intro kept
      cases kept
    · rintro ⟨rfl, solid⟩
      exact absurd rfl solid
  · rw [if_neg (mt String.isEmpty_iff.mp empty), Option.some.injEq]
    exact ⟨fun same => ⟨same, same ▸ empty⟩, And.left⟩

theorem bind_nonempty_eq_some_iff {source : Option String} {text : String} :
    source.bind nonempty? = some text ↔ Says source text := by
  rw [Option.bind_eq_some_iff, Says]
  simp only [nonempty_eq_some_iff]
  constructor
  · rintro ⟨_, found, rfl, solid⟩
    exact ⟨found, solid⟩
  · rintro ⟨found, solid⟩
    exact ⟨text, found, rfl, solid⟩

/-- An empty text is dropped once. -/
theorem bind_nonempty_bind_nonempty (source : Option String) :
    (source.bind nonempty?).bind nonempty? = source.bind nonempty? := by
  ext text
  rw [bind_nonempty_eq_some_iff, Says, bind_nonempty_eq_some_iff, Says, and_assoc, and_self]

theorem or_bind_nonempty_eq_some_iff {first second : Option String} {text : String} :
    ((first.bind nonempty?).or (second.bind nonempty?)) = some text ↔
      FirstSays first second text := by
  have silent : first.bind nonempty? = none ↔ ¬∃ other, Says first other := by
    rw [Option.eq_none_iff_forall_ne_some, not_exists]
    exact forall_congr' fun other => not_congr bind_nonempty_eq_some_iff
  rw [Option.or_eq_some_iff, silent, bind_nonempty_eq_some_iff, bind_nonempty_eq_some_iff,
    FirstSays]

/-! ## What an identity is asked -/

/-- The name in the user's environment, as it stands there. -/
def userText (identity : Identity) (host : Host) : Option String :=
  match identity with
  | fixed user _ _ => user
  | process given => valueOf given host "USER"

/-- The account of the process's user, if the system has a user database with one. -/
def accountOf (host : Host) : Option Account :=
  host.accounts.bind (·.lookup host.userId)

/-- The name in the user database, as it stands there. -/
def systemText (identity : Identity) (host : Host) : Option String :=
  match identity with
  | fixed _ osUser _ => osUser
  | process _ => (accountOf host).bind (·.name)

theorem result_account (host : Host) : (account? host).result = .ok (accountOf host) := by
  unfold account? accountOf
  cases host.accounts with
  | none => rfl
  | some accounts =>
    change _ = Except.ok (accounts.lookup host.userId)
    dsimp only
    cases accounts.lookup host.userId <;> rfl

theorem environmentName_eq (identity : Identity) (host : Host) :
    identity.environmentName host = (identity.userText host).bind nonempty? := by
  cases identity <;> rfl

/-- Where it matters whether the system gives a name, an empty one is none. -/
theorem exists_result_systemName (identity : Identity) (host : Host) :
    ∃ name, (identity.systemName host).result = .ok name ∧
      name.bind nonempty? = (identity.systemText host).bind nonempty? := by
  cases identity with
  | fixed user osUser home => exact ⟨_, rfl, bind_nonempty_bind_nonempty osUser⟩
  | process given =>
    refine ⟨(accountOf host).bind (·.name), ?_, rfl⟩
    rw [systemName, Logged.result_bind, result_account]
    rfl

/-! ## Names and home directories -/

/-- Whose key is loaded when a name is given or not: the given one's, even when the name is
empty, else that of the user's name by the environment, else by the user database. -/
inductive Names (identity : Identity) (host : Host) : Option RawText → RawText → Prop
  | given (name : RawText) : Names identity host (some name) name
  | user {text : String} : FirstSays (identity.userText host) (identity.systemText host) text →
    Names identity host none text

/-- Where it is not given, the name that an identity has. -/
def nameOf (host : Host) (identity : Identity) : Option String :=
  ((identity.userText host).bind nonempty?).or ((identity.systemText host).bind nonempty?)

theorem names_none_iff {identity : Identity} {host : Host} {name : RawText} :
    identity.Names host none name ↔
      ∃ text : String, identity.nameOf host = some text ∧ name = text := by
  simp only [nameOf, or_bind_nonempty_eq_some_iff]
  constructor
  · intro names
    cases names with
    | user said => exact ⟨_, said, rfl⟩
  · rintro ⟨text, said, rfl⟩
    exact .user said

/-- The home directory of an identity: the fixed one, if it is a path or a text that says
something; of a process what the variable `HOME` says, else what the user database does. -/
inductive HasHome (host : Host) : Identity → Path → Prop
  | text {user osUser : Option String} {text : String} : text ≠ "" →
    HasHome host (fixed user osUser (some (.text text))) (.ofString text)
  | path {user osUser : Option String} (path : Path) :
    HasHome host (fixed user osUser (some (.path path))) path
  | process {given : Option Environment} {text : String} :
    FirstSays (valueOf given host "HOME") ((accountOf host).bind (·.home)) text →
    HasHome host (process given) (.ofString text)

/-- Where an identity finds its home directory, without the records made on the way. -/
def homeOf (host : Host) : Identity → Option Path
  | fixed _ _ none => none
  | fixed _ _ (some (.text text)) => (nonempty? text).map Path.ofString
  | fixed _ _ (some (.path path)) => some path
  | process given =>
    (((valueOf given host "HOME").bind nonempty?).or
      (((accountOf host).bind (·.home)).bind nonempty?)).map Path.ofString

theorem result_home (identity : Identity) (host : Host) :
    (identity.home host).result = .ok (identity.homeOf host) := by
  cases identity with
  | fixed user osUser found => rcases found with _ | _ | _ <;> rfl
  | process given =>
    rw [home, homeOf]
    cases (valueOf given host "HOME").bind nonempty? with
    | some text => rfl
    | none =>
      change (account? host >>= _).result = _
      rw [Logged.result_bind, result_account]
      rfl

theorem homeOf_eq_some_iff {identity : Identity} {host : Host} {path : Path} :
    identity.homeOf host = some path ↔ identity.HasHome host path := by
  constructor
  · intro found
    unfold homeOf at found
    split at found
    case h_1 => cases found
    case h_2 =>
      obtain ⟨text, said, rfl⟩ := Option.map_eq_some_iff.mp found
      obtain ⟨rfl, solid⟩ := nonempty_eq_some_iff.mp said
      exact .text solid
    case h_3 => cases found; exact .path _
    case h_4 =>
      obtain ⟨text, said, rfl⟩ := Option.map_eq_some_iff.mp found
      exact .process (or_bind_nonempty_eq_some_iff.mp said)
  · intro has
    cases has with
    | text solid =>
      exact Option.map_eq_some_iff.mpr ⟨_, nonempty_eq_some_iff.mpr ⟨rfl, solid⟩, rfl⟩
    | path => rfl
    | process said =>
      exact Option.map_eq_some_iff.mpr ⟨_, or_bind_nonempty_eq_some_iff.mpr said, rfl⟩

end Identity

namespace KeyStore

variable {store : KeyStore} {host : Host} {given : Option RawText}

/-- Which name is chosen, without the records made on the way. -/
theorem result_chooseName (store : KeyStore) (host : Host) :
    (store.chooseName host none).result =
      (store.identity.nameOf host).elim (.error (.load .noName)) fun name => .ok name := by
  rw [chooseName, Identity.environmentName_eq, Identity.nameOf]
  cases (store.identity.userText host).bind nonempty? with
  | some name => rfl
  | none =>
    obtain ⟨name, found, same⟩ := store.identity.exists_result_systemName host
    dsimp only
    rw [Logged.result_bind, found, Except.bind, same, Option.none_or]
    cases (store.identity.systemText host).bind nonempty? <;> rfl

/-- A store chooses the name that its identity names. -/
theorem chooseName_eq_ok_iff {name : RawText} :
    (store.chooseName host given).result = .ok name ↔ store.identity.Names host given name := by
  cases given with
  | some given =>
    constructor
    · intro chosen
      cases chosen
      exact .given _
    · intro names
      cases names
      rfl
  | none =>
    rw [result_chooseName, Identity.names_none_iff]
    cases store.identity.nameOf host with
    | none => simp
    | some text => simp [eq_comm]

/-- Choosing a name fails only for want of one. -/
theorem chooseName_fails {failure : Failure}
    (failed : (store.chooseName host given).result = .error failure) :
    failure = .load .noName := by
  cases given with
  | some given => cases failed
  | none =>
    rw [result_chooseName] at failed
    cases found : store.identity.nameOf host <;> rw [found] at failed <;> cases failed
    rfl

/-- Where a key is looked for, without the records made on the way. -/
theorem result_keyPath (store : KeyStore) (host : Host) (name : RawText) :
    (store.keyPath host name).result =
      (store.identity.homeOf host).elim (.error (.load .noHome))
        fun home => .ok (pathBelow home name) := by
  rw [keyPath, Logged.result_bind, Identity.result_home]
  cases store.identity.homeOf host <;> rfl

/-- The key of a name is looked for below the home directory, and nowhere without one. -/
theorem keyPath_eq_ok_iff {name : RawText} {path : Path} :
    (store.keyPath host name).result = .ok path ↔
      ∃ home, store.identity.HasHome host home ∧ path = pathBelow home name := by
  simp only [← Identity.homeOf_eq_some_iff]
  rw [result_keyPath]
  cases store.identity.homeOf host with
  | none => simp
  | some home => simp [eq_comm]

/-- Finding the path of a key fails only for want of a home directory. -/
theorem keyPath_fails {name : RawText} {failure : Failure}
    (failed : (store.keyPath host name).result = .error failure) : failure = .load .noHome := by
  rw [result_keyPath] at failed
  cases found : store.identity.homeOf host <;> rw [found] at failed <;> cases failed
  rfl

/-- The file of the key of the given name, or of the user: below the home directory of the
store's identity, under the name that the identity names. -/
def Finds (store : KeyStore) (host : Host) (given : Option RawText) (path : Path) : Prop :=
  ∃ name home, store.identity.Names host given name ∧ store.identity.HasHome host home ∧
    path = pathBelow home name

end KeyStore

end Keyring
