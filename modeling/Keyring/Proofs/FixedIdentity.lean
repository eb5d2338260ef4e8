import Keyring.Proofs.NamesAndHomes

/-!
Identities with the same values.

A process is asked for its values each time, and an identity can have the same values fixed
instead. The two drop empty texts at different places: a process gives an empty name of the user
database as it is and looks into the database for want of a home directory; fixed values are
dropped where they are empty. For a key store this makes no difference: stores over identities
that come to the same name and home directory do the same (`agreeOn_of_sameValues`), up to the
record of a user without an account, which only a process makes (`process_agrees_with_fixed`).
-/

namespace Keyring

/-! ## Computations that differ in one record -/

namespace Logged

variable {α β : Type}

/-- The same result or the same failure, and the same records but for one. -/
structure SameBut (aside : Record) (first second : Logged α) : Prop where
  result : first.result = second.result
  records : first.records.filter (· ≠ aside) = second.records.filter (· ≠ aside)

variable {aside : Record}

theorem SameBut.refl (logged : Logged α) : SameBut aside logged logged :=
  ⟨rfl, rfl⟩

theorem SameBut.trans {first second third : Logged α} (left : SameBut aside first second)
    (right : SameBut aside second third) : SameBut aside first third :=
  ⟨left.result.trans right.result, left.records.trans right.records⟩

theorem SameBut.symm {first second : Logged α} (same : SameBut aside first second) :
    SameBut aside second first :=
  ⟨same.result.symm, same.records.symm⟩

/-- What follows the same value is the same. -/
theorem SameBut.bind {first second : Logged α} {next next' : α → Logged β}
    (same : SameBut aside first second)
    (then_same : ∀ value, SameBut aside (next value) (next' value)) :
    SameBut aside (first >>= next) (second >>= next') := by
  rcases first with ⟨records, result⟩
  rcases second with ⟨records', result'⟩
  rcases same with ⟨results, filtered⟩
  change result = result' at results
  subst results
  cases result with
  | error failure => exact ⟨rfl, filtered⟩
  | ok value =>
    have after := then_same value
    refine ⟨after.result, ?_⟩
    change (records ++ (next value).records).filter _ = (records' ++ (next' value).records).filter _
    rw [List.filter_append, List.filter_append, after.records]
    exact congrArg (· ++ _) filtered

end Logged

namespace Identity

/-- The record of a user without an account. -/
def noAccount (host : Host) : Record :=
  ⟨.identity, .debug, s!"No passwd entry for uid {host.userId}"⟩

theorem account_sameBut (host : Host) :
    (account? host).SameBut (noAccount host) (pure (accountOf host)) := by
  unfold account? accountOf
  cases host.accounts with
  | none => exact .refl _
  | some accounts =>
    change Logged.SameBut _ _ (pure (accounts.lookup host.userId))
    dsimp only
    cases accounts.lookup host.userId with
    | some account => exact .refl _
    | none =>
      -- The one record that is made here is the one that is left aside.
      refine ⟨rfl, ?_⟩
      exact List.filter_cons_of_neg (by simp [noAccount])

theorem systemName_sameBut (identity : Identity) (host : Host) :
    ∃ name, (identity.systemName host).SameBut (noAccount host) (pure name) ∧
      name.bind nonempty? = (identity.systemText host).bind nonempty? := by
  cases identity with
  | fixed user osUser home => exact ⟨_, .refl _, bind_nonempty_bind_nonempty osUser⟩
  | process given =>
    exact ⟨_, (account_sameBut host).bind fun _ => .refl _, rfl⟩

theorem home_sameBut (identity : Identity) (host : Host) :
    (identity.home host).SameBut (noAccount host) (pure (identity.homeOf host)) := by
  cases identity with
  | fixed user osUser found => rcases found with _ | _ | _ <;> exact .refl _
  | process given =>
    rw [home, homeOf]
    cases (valueOf given host "HOME").bind nonempty? with
    | some text => exact .refl _
    | none => exact (account_sameBut host).bind fun _ => .refl _

/-- Two identities that come to the same name by the environment, the same name by the user
database, and the same home directory, where an empty text is none. -/
structure SameValues (host : Host) (first second : Identity) : Prop where
  user : (first.userText host).bind nonempty? = (second.userText host).bind nonempty?
  system : (first.systemText host).bind nonempty? = (second.systemText host).bind nonempty?
  home : first.homeOf host = second.homeOf host

/-- The home directory that a process is told of: by the variable `HOME` unless it is empty,
else by the user database. -/
def homeText (given : Option Environment) (host : Host) : Option String :=
  ((valueOf given host "HOME").bind nonempty?).or ((accountOf host).bind (·.home))

theorem homeOf_process (given : Option Environment) (host : Host) :
    (process given).homeOf host = ((homeText given host).bind nonempty?).map Path.ofString := by
  rw [homeOf, homeText]
  cases said : (valueOf given host "HOME").bind nonempty? with
  | none => rfl
  | some text =>
    have solid := (bind_nonempty_eq_some_iff.mp said).2
    rw [Option.some_or, Option.some_or, Option.bind_some, nonempty_eq_some_iff.mpr ⟨rfl, solid⟩]

/-- A process has the values that it is told of, with the home directory as a text. -/
theorem sameValues_process_text (given : Option Environment) (host : Host) :
    SameValues host (process given)
      (fixed (valueOf given host "USER") ((accountOf host).bind (·.name))
        ((homeText given host).map .text)) := by
  refine ⟨rfl, rfl, ?_⟩
  rw [homeOf_process]
  cases homeText given host <;> rfl

/-- So it does with the home directory as a path, which is not dropped, so the text must not be
empty. -/
theorem sameValues_process_path {given : Option Environment} {host : Host} {text : String}
    (told : homeText given host = some text) (solid : text ≠ "") :
    SameValues host (process given)
      (fixed (valueOf given host "USER") ((accountOf host).bind (·.name))
        (some (.path (.ofString text)))) := by
  refine ⟨rfl, rfl, ?_⟩
  rw [homeOf_process, told, Option.bind_some, nonempty_eq_some_iff.mpr ⟨rfl, solid⟩]
  rfl

end Identity

namespace KeyStore

/-! ## Stores over such identities -/

/-- Two stores that do the same on a host, but for the record of a user without an account: they
choose the same name, look for its key at the same path, load the same key and make the same
signer, or fail alike. -/
structure AgreeOn (host : Host) (first second : KeyStore) : Prop where
  chooseName : ∀ given, (first.chooseName host given).SameBut (Identity.noAccount host)
    (second.chooseName host given)
  keyPath : ∀ name, (first.keyPath host name).SameBut (Identity.noAccount host)
    (second.keyPath host name)
  loadKey : ∀ given, (first.loadKey host given).SameBut (Identity.noAccount host)
    (second.loadKey host given)
  signer : ∀ given, (first.signer host given).SameBut (Identity.noAccount host)
    (second.signer host given)

variable {host : Host} {first second : Identity}

theorem chooseName_sameBut (same : Identity.SameValues host first second) (context : Context)
    (given : Option RawText) :
    (chooseName ⟨context, first⟩ host given).SameBut (Identity.noAccount host)
      (chooseName ⟨context, second⟩ host given) := by
  cases given with
  | some name => exact .refl _
  | none =>
    unfold chooseName
    rw [Identity.environmentName_eq, Identity.environmentName_eq, same.user]
    cases (second.userText host).bind nonempty? with
    | some name => exact .refl _
    | none =>
      rcases first.systemName_sameBut host with ⟨name, asked, text⟩
      rcases second.systemName_sameBut host with ⟨name', asked', text'⟩
      have together : name.bind nonempty? = name'.bind nonempty? := by
        rw [text, text', same.system]
      -- Both sides are brought to what follows the answer of the user database.
      refine (asked.bind fun _ => .refl _).trans (.trans ?_ (asked'.bind fun _ => .refl _).symm)
      rw [Logged.pure_bind, Logged.pure_bind, together]
      exact .refl _

theorem keyPath_sameBut (same : Identity.SameValues host first second) (context : Context)
    (name : RawText) :
    (keyPath ⟨context, first⟩ host name).SameBut (Identity.noAccount host)
      (keyPath ⟨context, second⟩ host name) := by
  have found : (first.home host).SameBut (Identity.noAccount host) (second.home host) := by
    refine (first.home_sameBut host).trans ?_
    rw [same.home]
    exact (second.home_sameBut host).symm
  exact found.bind fun _ => .refl _

/-- Stores over identities with the same values do the same. -/
theorem agreeOn_of_sameValues (same : Identity.SameValues host first second)
    (context : Context) : AgreeOn host ⟨context, first⟩ ⟨context, second⟩ := by
  have loads (given : Option RawText) :
      (loadKey ⟨context, first⟩ host given).SameBut (Identity.noAccount host)
        (loadKey ⟨context, second⟩ host given) := by
    apply (chooseName_sameBut same context given).bind
    intro name
    exact (keyPath_sameBut same context name).bind fun _ => .refl _
  exact {
    chooseName := chooseName_sameBut same context
    keyPath := keyPath_sameBut same context
    loadKey := loads
    signer := fun given => (loads given).bind fun _ => .refl _ }

/-- A store over a process does on every host what a store does over fixed values, when they are
what the process is told: the user's name by the environment, the name by the user database, and
the home directory by the variable `HOME` or else by the user database, as a text. It does so
with the home directory as a path, too, unless it is told the empty one of the user database: as
a path that one counts. -/
theorem process_agrees_with_fixed (context : Context) (given : Option Environment) (host : Host) :
    let user := Identity.valueOf given host "USER"
    let osUser := (Identity.accountOf host).bind (·.name)
    let home := Identity.homeText given host
    AgreeOn host ⟨context, .process given⟩ ⟨context, .fixed user osUser (home.map .text)⟩ ∧
    ∀ text, home = some text → text ≠ "" →
      AgreeOn host ⟨context, .process given⟩
        ⟨context, .fixed user osUser (some (.path (.ofString text)))⟩ := by
  intro user osUser home
  refine ⟨agreeOn_of_sameValues (Identity.sameValues_process_text given host) context, ?_⟩
  intro text told solid
  exact agreeOn_of_sameValues (Identity.sameValues_process_path told solid) context

/-- A user with an empty name and without an account has no name in either way; only the process
makes a record of it. -/
theorem process_agrees_with_fixed_unknown_user :
    let host : Host := ⟨[("USER", ""), ("HOME", "/home")], some [], 7, Disk.ofAnswers []⟩
    let process : KeyStore := ⟨⟨0, ()⟩, .process none⟩
    let fixed : KeyStore := ⟨⟨0, ()⟩, .fixed (some "") none (some (.path (.ofString "/home")))⟩
    Identity.homeText none host = some "/home" ∧ process.AgreeOn host fixed ∧
      process.signer host none = ⟨[Identity.noAccount host], .error (.load .noName)⟩ ∧
      fixed.signer host none = ⟨[], .error (.load .noName)⟩ := by
  intro host process fixed
  have told : Identity.homeText none host = some "/home" := by rfl
  have agree := (process_agrees_with_fixed ⟨0, ()⟩ none host).2 "/home" told (by decide)
  exact ⟨told, agree, rfl, rfl⟩

end KeyStore

end Keyring
