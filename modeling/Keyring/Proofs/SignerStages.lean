import Keyring.Proofs.NamesAndHomes
import Keyring.Proofs.SignersAndStores

/-!
When a signer is made, and why not.

Making a signer goes through seven stages (`Stage`). What each of them has to find, and with
which failure it ends otherwise, is said for itself (`KeyStore.Fails`), so several stages can
fail on one host; the first that does decides the failure (`loadKey_fails_iff_failsFirst`). Where
none fails the key is the number that the first line of the file writes
(`loadKey_eq_ok_iff_provides`). Asking a store for a signer, making one for an identity alone, and
making one of a key that was loaded before come to the same (`routesAgree`).
-/

namespace Keyring

/-- Something stands at a path, and the system can be asked about it. -/
def Disk.Stands (disk : Disk) (path : Path) (entry : Entry) : Prop :=
  Disk.speakable path = true ∧ disk.entry path = .ok entry

/-- Sixty-four hexadecimal digits that write the scalar of a private key. -/
def Secret.WrittenBy (secret : Secret) (digits : List Char) : Prop :=
  digits.length = 64 ∧ Hex.IsNumeral digits secret.value

/-- Without the white space at its ends the first line of a file writes a private key. -/
def Bytes.WritesSecret (content : Bytes) (secret : Secret) : Prop :=
  ∃ text digits, Utf8.encode text = content.line ∧ Text.IsCoreOf digits text.toList ∧
    secret.WrittenBy digits

/-- What making a signer has to find one after another. -/
inductive Stage where
  | identity
  | home
  | existence
  | reading
  | encoding
  | content
  | key
  deriving DecidableEq

/-- A stage that comes before another, in the order in which they are listed. -/
def Stage.Before (stage other : Stage) : Prop :=
  stage.ctorIdx < other.ctorIdx

instance (stage other : Stage) : Decidable (stage.Before other) :=
  inferInstanceAs (Decidable (stage.ctorIdx < other.ctorIdx))

namespace KeyStore

/-- The file that a store finds is there and writes a private key. -/
def Provides (store : KeyStore) (host : Host) (given : Option RawText) (secret : Secret) : Prop :=
  ∃ path content, store.Finds host given path ∧ host.disk.Stands path (.file content) ∧
    content.WritesSecret secret

/-- A stage does not find what it has to, and ends with a failure. A stage that is left without
anything to look at does not fail. -/
inductive Fails (store : KeyStore) (host : Host) (given : Option RawText) : Stage → Failure → Prop
  | identity : (¬∃ name, store.identity.Names host given name) →
    Fails store host given .identity (.load .noName)
  | home : (¬∃ home, store.identity.HasHome host home) →
    Fails store host given .home (.load .noHome)
  | existence {path : Path} : store.Finds host given path →
    (¬∃ entry, host.disk.Stands path entry) → (¬∃ fault, host.disk.Refuses path fault) →
    Fails store host given .existence (.load (.notFound path))
  | refusal {path : Path} {fault : ReadFault} : store.Finds host given path →
    host.disk.Refuses path fault → Fails store host given .existence (.refused path fault)
  | reading {path : Path} : store.Finds host given path → host.disk.Stands path .directory →
    Fails store host given .reading (.load (.unreadable path .isDirectory))
  | withheld {path : Path} {cause : Withheld} : store.Finds host given path →
    host.disk.Stands path (.withheld cause) →
    Fails store host given .reading (.load (.unreadable path cause.fault))
  | encoding {path : Path} {content : Bytes} {fault : Utf8.Fault} :
    store.Finds host given path → host.disk.Stands path (.file content) →
    (¬∃ text, Utf8.encode text = content.line) → Utf8.decode content.firstLine = .error fault →
    Fails store host given .encoding (.load (.unparsable path (.encoding fault)))
  | content {path : Path} {content : Bytes} {text : String} :
    store.Finds host given path → host.disk.Stands path (.file content) →
    Utf8.encode text = content.line → (∀ c ∈ text.toList, Text.isBlank c = true) →
    Fails store host given .content (.load (.blank path))
  | key {path : Path} {content : Bytes} {text : String} {key : List Char} {fault : KeyFault} :
    store.Finds host given path → host.disk.Stands path (.file content) →
    Utf8.encode text = content.line → Text.IsCoreOf key text.toList →
    (¬∃ secret : Secret, secret.WrittenBy key) → Secret.ofText (String.ofList key) = .error fault →
    Fails store host given .key (.load (.unparsable path (.key fault)))

/-- A stage that fails, while none before it does. -/
structure FailsFirst (store : KeyStore) (host : Host) (given : Option RawText) (stage : Stage)
    (failure : Failure) : Prop where
  fails : store.Fails host given stage failure
  first : ∀ stage', stage'.Before stage → ∀ failure', ¬store.Fails host given stage' failure'

end KeyStore

/-! ## What a file writes -/

/-- What stands between the white space of a text is a private key when it is written by it. -/
theorem Secret.ofText_core_eq_ok_iff {text key : List Char} {secret : Secret}
    (core : Text.IsCoreOf key text) :
    ofText (String.ofList key) = .ok secret ↔ secret.WrittenBy key := by
  apply ofText_eq_ok_iff_of_isCoreOf
  rw [String.toList_ofList]
  exact core.itself

theorem Bytes.writesSecret_iff_holdsKey {content : Bytes} {secret : Secret} :
    content.WritesSecret secret ↔ content.HoldsKey secret := by
  constructor
  · rintro ⟨text, digits, written, core, secretive⟩
    exact ⟨digits, ⟨text, written, core, secretive.2.isDigit⟩,
      (Secret.ofText_core_eq_ok_iff core).mpr secretive⟩
  · rintro ⟨digits, ⟨text, written, core, -⟩, read⟩
    exact ⟨text, digits, written, core, (Secret.ofText_core_eq_ok_iff core).mp read⟩

/-- A first line that is no UTF-8 is none with its line feed. -/
theorem Bytes.exists_decode_firstLine_eq_error {content : Bytes}
    (unwritten : ¬∃ text, Utf8.encode text = content.line) :
    ∃ fault, Utf8.decode content.firstLine = .error fault := by
  obtain ⟨fault, refused⟩ := Utf8.exists_decode_eq_error_iff.mpr unwritten
  rw [firstLine_eq]
  split
  · exact ⟨fault.beforeLineFeed, by rw [Utf8.decode_concat_lineFeed, refused]; rfl⟩
  · exact ⟨fault, refused⟩

namespace KeyStore

variable {store : KeyStore} {host : Host} {given : Option RawText}

/-! ## One file -/

section File

variable {disk : Disk} {path : Path} {content : Bytes}

theorem loadFile_of_nothing (nothing : ¬∃ entry, disk.Stands path entry)
    (answers : ¬∃ fault, disk.Refuses path fault) :
    loadFile disk path = Logged.fail (.load (.notFound path)) := by
  cases speakable : Disk.speakable path with
  | false => exact loadFile_of_unspeakable speakable
  | true =>
    cases looked : disk.entry path with
    | ok entry => exact absurd ⟨entry, speakable, looked⟩ nothing
    | error obstacle =>
      cases refused : obstacle.refusal? with
      | some fault => exact absurd ⟨fault, speakable, obstacle, looked, refused⟩ answers
      | none => exact loadFile_of_missing speakable looked refused

theorem loadFile_of_undecodable {fault : Utf8.Fault} (stands : disk.Stands path (.file content))
    (refused : Utf8.decode content.firstLine = .error fault) :
    (loadFile disk path).result = .error (.load (.unparsable path (.encoding fault))) := by
  rw [loadFile_of_file stands.1 stands.2, keyOfLine, refused]
  rfl

end File

/-! ## The stages -/

theorem leadsTo_iff_finds {path : Path} :
    store.LeadsTo host given path ↔ store.Finds host given path := by
  simp only [LeadsTo, Finds, chooseName_eq_ok_iff, keyPath_eq_ok_iff]
  constructor
  · rintro ⟨name, names, home, has, rfl⟩
    exact ⟨name, home, names, has, rfl⟩
  · rintro ⟨name, home, names, has, rfl⟩
    exact ⟨name, names, home, has, rfl⟩

theorem result_loadKey_of_finds {path : Path} (finds : store.Finds host given path) :
    (store.loadKey host given).result = (loadFile host.disk path).result :=
  result_loadKey_of_leadsTo (leadsTo_iff_finds.mpr finds)

theorem result_loadKey_of_provides {secret : Secret} (provides : store.Provides host given secret) :
    (store.loadKey host given).result = .ok (.curve secret) := by
  obtain ⟨path, content, finds, stands, writes⟩ := provides
  rw [result_loadKey_of_finds finds]
  exact loadFile_of_holdsKey stands.1 stands.2 (Bytes.writesSecret_iff_holdsKey.mp writes)

theorem result_loadKey_of_nameless (nameless : ¬∃ name, store.identity.Names host given name) :
    (store.loadKey host given).result = .error (.load .noName) := by
  cases chosen : (store.chooseName host given).result with
  | ok name => exact absurd ⟨name, chooseName_eq_ok_iff.mp chosen⟩ nameless
  | error failure =>
    rw [loadKey, Logged.result_bind, chosen, chooseName_fails chosen]
    rfl

theorem result_loadKey_of_homeless {name : RawText} (names : store.identity.Names host given name)
    (homeless : ¬∃ home, store.identity.HasHome host home) :
    (store.loadKey host given).result = .error (.load .noHome) := by
  rw [loadKey, Logged.result_bind, chooseName_eq_ok_iff.mpr names]
  change ((store.keyPath host name) >>= _).result = _
  cases looked : (store.keyPath host name).result with
  | ok path =>
    obtain ⟨home, has, -⟩ := keyPath_eq_ok_iff.mp looked
    exact absurd ⟨home, has⟩ homeless
  | error failure =>
    rw [Logged.result_bind, looked, keyPath_fails looked]
    rfl

/-- The first stage that fails decides the failure. -/
theorem result_loadKey_of_failsFirst {stage : Stage} {failure : Failure}
    (failsFirst : store.FailsFirst host given stage failure) :
    (store.loadKey host given).result = .error failure := by
  obtain ⟨fails, first⟩ := failsFirst
  cases fails with
  | identity nameless => exact result_loadKey_of_nameless nameless
  | home homeless =>
    by_cases named : ∃ name, store.identity.Names host given name
    · exact result_loadKey_of_homeless named.choose_spec homeless
    · exact absurd (.identity named) (first .identity (by decide) _)
  | existence finds nothing answers =>
    rw [result_loadKey_of_finds finds, loadFile_of_nothing nothing answers]
    rfl
  | refusal finds refuses =>
    rw [result_loadKey_of_finds finds, loadFile_of_refuses refuses]
    rfl
  | reading finds stands =>
    rw [result_loadKey_of_finds finds, loadFile_of_directory stands.1 stands.2]
  | withheld finds stands =>
    rw [result_loadKey_of_finds finds, loadFile_of_withheld stands.1 stands.2]
  | encoding finds stands _ refused =>
    rw [result_loadKey_of_finds finds, loadFile_of_undecodable stands refused]
  | @content path content text finds stands written blank =>
    rw [result_loadKey_of_finds finds]
    exact (loadFile_eq_blank_iff stands.1 stands.2).mpr ⟨text, written, blank⟩
  | @key path content text key fault finds stands written core _ refused =>
    -- With nothing between its white space the line would have failed before.
    have nonempty : key ≠ [] := by
      rintro rfl
      have blank := Text.trim_eq_nil_iff.mp (Text.trim_eq_iff.mpr core)
      exact first .content (by decide) _ (.content finds stands written blank)
    rw [result_loadKey_of_finds finds,
      loadFile_of_core stands.1 stands.2 written core nonempty, refused]

/-- A file writes a private key unless a stage fails on its first line. -/
theorem writesSecret_or_fails {path : Path} {content : Bytes} (finds : store.Finds host given path)
    (stands : host.disk.Stands path (.file content)) :
    (∃ secret, content.WritesSecret secret) ∨
      ∃ stage failure, store.Fails host given stage failure := by
  by_cases written : ∃ text, Utf8.encode text = content.line
  · obtain ⟨text, written⟩ := written
    have core := Text.isCoreOf_trim text.toList
    cases read : Secret.ofText (String.ofList (Text.trim text.toList)) with
    | ok secret =>
      exact .inl ⟨secret, text, _, written, core, (Secret.ofText_core_eq_ok_iff core).mp read⟩
    | error fault =>
      refine .inr ⟨_, _, .key finds stands written core ?_ read⟩
      rintro ⟨secret, secretive⟩
      rw [(Secret.ofText_core_eq_ok_iff core).mpr secretive] at read
      cases read
  · obtain ⟨fault, refused⟩ := Bytes.exists_decode_firstLine_eq_error written
    exact .inr ⟨_, _, .encoding finds stands written refused⟩

/-- A store provides a private key unless a stage fails. -/
theorem provides_or_fails (store : KeyStore) (host : Host) (given : Option RawText) :
    (∃ secret, store.Provides host given secret) ∨
      ∃ stage failure, store.Fails host given stage failure := by
  by_cases named : ∃ name, store.identity.Names host given name
  case neg => exact .inr ⟨_, _, .identity named⟩
  by_cases housed : ∃ home, store.identity.HasHome host home
  case neg => exact .inr ⟨_, _, .home housed⟩
  obtain ⟨name, names⟩ := named
  obtain ⟨home, has⟩ := housed
  have finds : store.Finds host given (pathBelow home name) := ⟨name, home, names, has, rfl⟩
  by_cases refuses : ∃ fault, host.disk.Refuses (pathBelow home name) fault
  case pos => exact .inr ⟨_, _, .refusal finds refuses.choose_spec⟩
  by_cases there : ∃ entry, host.disk.Stands (pathBelow home name) entry
  case neg => exact .inr ⟨_, _, .existence finds there refuses⟩
  obtain ⟨entry, stands⟩ := there
  cases entry with
  | directory => exact .inr ⟨_, _, .reading finds stands⟩
  | withheld cause => exact .inr ⟨_, _, .withheld finds stands⟩
  | file content =>
    rcases writesSecret_or_fails finds stands with ⟨secret, writes⟩ | fails
    · exact .inl ⟨secret, _, content, finds, stands, writes⟩
    · exact .inr fails

/-- Of the stages that fail one is the first. -/
theorem exists_failsFirst {stage : Stage} {failure : Failure}
    (fails : store.Fails host given stage failure) :
    ∃ stage failure, store.FailsFirst host given stage failure := by
  obtain ⟨stage, ⟨failure, fails⟩, first⟩ := (measure Stage.ctorIdx).wf.has_min
    {stage | ∃ failure, store.Fails host given stage failure} ⟨stage, failure, fails⟩
  exact ⟨stage, failure, fails, fun stage' before failure' fails' =>
    first stage' ⟨failure', fails'⟩ before⟩

/-! ## What loading comes to -/

theorem provides_or_failsFirst (store : KeyStore) (host : Host) (given : Option RawText) :
    (∃ secret, store.Provides host given secret) ∨
      ∃ stage failure, store.FailsFirst host given stage failure := by
  rcases store.provides_or_fails host given with provides | ⟨stage, failure, fails⟩
  · exact .inl provides
  · exact .inr (exists_failsFirst fails)

theorem loadKey_eq_ok_iff_provides {secret : Secret} :
    (store.loadKey host given).result = .ok (.curve secret) ↔
      store.Provides host given secret := by
  refine ⟨fun loaded => ?_, result_loadKey_of_provides⟩
  rcases store.provides_or_failsFirst host given with ⟨secret', provides⟩ | ⟨_, _, failsFirst⟩
  · cases loaded.symm.trans (result_loadKey_of_provides provides)
    exact provides
  · cases loaded.symm.trans (result_loadKey_of_failsFirst failsFirst)

theorem loadKey_fails_iff_failsFirst {failure : Failure} :
    (store.loadKey host given).result = .error failure ↔
      ∃ stage, store.FailsFirst host given stage failure := by
  refine ⟨fun failed => ?_, fun ⟨_, failsFirst⟩ => result_loadKey_of_failsFirst failsFirst⟩
  rcases store.provides_or_failsFirst host given with ⟨_, provides⟩ | ⟨stage, _, failsFirst⟩
  · cases failed.symm.trans (result_loadKey_of_provides provides)
  · cases failed.symm.trans (result_loadKey_of_failsFirst failsFirst)
    exact ⟨stage, failsFirst⟩

end KeyStore

/-! ## Three ways to a signer -/

namespace Session.World

/-- What making a signer comes to, apart from the records. -/
def signerFrom (world : World) (source : SignerSource) : Except Problem Signer :=
  (world.makeSigner source).bind fun made => made.result.mapError .failure

/-- What it comes to when a key is loaded under a name and a signer is made of the named key. -/
def signerOfLoaded (world : World) (ref : StoreRef) (given : Option RawText) (name : String) :
    Except Problem Signer :=
  let loading := world.step ⟨.loadKey ref given, some name⟩
  loading.2.result.bind fun _ => loading.1.signerFrom (.key (.named name))

/-- Every way to a signer gives one with the same private key, or fails alike: asking a store,
making a signer for the identity of the store, and loading the key before. -/
structure RoutesAgree (world : World) (ref : StoreRef) (identity : Identity)
    (given : Option RawText) (outcome : Except Problem PrivateKey) : Prop where
  store : (world.signerFrom (.store ref given)).map Signer.key = outcome
  identity : ∀ ownScheme,
    (world.signerFrom (.identity identity ownScheme given)).map Signer.key = outcome
  loaded : ∀ name, (world.signerOfLoaded ref given name).map Signer.key = outcome

variable {world : World}

/-- A signer that is made of a loaded key has this key. -/
theorem signerFrom_key {source : SignerSource} {signer : Logged Signer} {context : Context}
    (loaded : Logged PrivateKey) (made : world.makeSigner source = .ok signer)
    (bound : signer.result = loaded.result.map (Signer.ofKey context)) :
    (world.signerFrom source).map Signer.key = loaded.result.mapError .failure := by
  rw [signerFrom, made]
  change (signer.result.mapError Problem.failure).map Signer.key = _
  rw [bound]
  cases loaded.result <;> rfl

/-- A key that is loaded under a name is the one that a signer is then made of. -/
theorem signerOfLoaded_key {ref : StoreRef} {store : KeyStore} (found : world.store ref = .ok store)
    (given : Option RawText) (name : String) :
    (world.signerOfLoaded ref given name).map Signer.key =
      (store.loadKey world.host given).result.mapError .failure := by
  have carried : world.carryOut ⟨.loadKey ref given, some name⟩ =
      world.finish (store.loadKey world.host given) (world.replyPrivate (some name)) := by
    change world.withStore ref _ _ = _
    rw [withStore, found]
  rw [signerOfLoaded, step, carried, finish]
  cases (store.loadKey world.host given).result with
  | error failure => rfl
  | ok key =>
    let after : World :=
      { world.call (some name) (.privateKey key) with clock := world.clock + 2 }
    have named : after.object? name = some (.privateKey key) := object?_call_self world name _
    have read : after.privateKey (.named name) = .ok key := by
      rw [privateKey, named]
    change (after.signerFrom (.key (.named name))).map Signer.key = .ok key
    rw [signerFrom, makeSigner, read]
    rfl

/-- The three ways to a signer come to what loading the key does. -/
theorem routesAgree {ref : StoreRef} {store : KeyStore} (found : world.store ref = .ok store)
    (given : Option RawText) :
    world.RoutesAgree ref store.identity given
      (((store.signer world.host given).result.map Signer.key).mapError .failure) := by
  have outcome : ((store.signer world.host given).result.map Signer.key).mapError Problem.failure =
      (store.loadKey world.host given).result.mapError .failure := by
    rw [KeyStore.result_signer]
    cases (store.loadKey world.host given).result <;> rfl
  rw [outcome]
  refine ⟨?_, fun ownScheme => ?_, signerOfLoaded_key found given⟩
  · have made : world.makeSigner (.store ref given) = .ok (store.signer world.host given) := by
      rw [makeSigner, found]
      rfl
    exact signerFrom_key _ made (KeyStore.result_signer store world.host given)
  · -- The scheme of a store takes no part in loading.
    exact signerFrom_key (store.loadKey world.host given) rfl
      (KeyStore.result_signer _ world.host given)

end Session.World

/-! ## Signers -/

namespace KeyStore

open Session

variable {store : KeyStore} {host : Host} {given : Option RawText}

/-- Up to a stage two stores fail alike, each where it is. -/
def FailAlike (stage : Stage) (store : KeyStore) (host : Host) (given : Option RawText)
    (store' : KeyStore) (host' : Host) (given' : Option RawText) : Prop :=
  ∀ earlier, ¬stage.Before earlier →
    ∀ failure, store.Fails host given earlier failure ↔ store'.Fails host' given' earlier failure

/-- Which stage fails first does not depend on the stages after it. -/
theorem FailsFirst.of_failAlike {stage : Stage} {failure : Failure} {store' : KeyStore}
    {host' : Host} {given' : Option RawText}
    (failsFirst : store.FailsFirst host given stage failure)
    (alike : FailAlike stage store host given store' host' given') :
    store'.FailsFirst host' given' stage failure := by
  refine ⟨(alike stage (lt_irrefl _) failure).mp failsFirst.fails, fun stage' before failure' => ?_⟩
  exact mt (alike stage' (lt_asymm before) failure').mpr (failsFirst.first stage' before failure')

theorem signer_eq_ok_iff_provides {signer : Signer} :
    (store.signer host given).result = .ok signer ↔
      ∃ secret, store.Provides host given secret ∧
        signer = Signer.ofKey store.context (.curve secret) := by
  rw [signer_eq_ok_iff]
  simp only [loadKey_eq_ok_iff_provides]

/-- A store makes a signer exactly when it finds a file that writes a private key: a name is
given, even an empty one, or the identity names one; there is a home directory; and the file of
the name below it is there and can be read, is no directory, and its first line is sixty-four
hexadecimal digits between white space, which write a scalar other than zero. The signer signs with
this scalar. Otherwise making it fails with the failure of the first stage that fails, whatever the
later stages find. Under every scheme a signer is made of the key that is loaded; so in a process a
signer that is made for the identity alone, and one of a key that was loaded before, have the
same key or fail alike. -/
theorem signer_by_stages (store : KeyStore) (host : Host) (given : Option RawText) :
    (∀ signer, (store.signer host given).result = .ok signer ↔
      ∃ secret, store.Provides host given secret ∧
        signer = Signer.ofKey store.context (.curve secret)) ∧
    (∀ signer secret, (store.signer host given).result = .ok signer →
      store.Provides host given secret →
      ∀ message, signer.sign message = Scheme.sign (.curve secret) message) ∧
    (∀ failure, (store.signer host given).result = .error failure ↔
      ∃ stage, store.FailsFirst host given stage failure) ∧
    (∀ stage failure store' host' given', store.FailsFirst host given stage failure →
      FailAlike stage store host given store' host' given' →
      (store'.signer host' given').result = .error failure) ∧
    (∀ context, (KeyStore.signer ⟨context, store.identity⟩ host given).result =
      (store.loadKey host given).result.map (Signer.ofKey context)) ∧
    ∀ (world : World) (ref : StoreRef), world.host = host → world.store ref = .ok store →
      world.RoutesAgree ref store.identity given
        (((store.signer host given).result.map Signer.key).mapError .failure) := by
  refine ⟨fun signer => signer_eq_ok_iff_provides, fun signer secret made provides message => ?_,
    fun failure => signer_fails_iff.trans loadKey_fails_iff_failsFirst,
    fun stage failure store' host' given' failsFirst alike => ?_,
    fun context => result_signer ⟨context, store.identity⟩ host given, ?_⟩
  · have bound : (store.signer host given).result =
        .ok (Signer.ofKey store.context (.curve secret)) :=
      signer_eq_ok_iff_provides.mpr ⟨secret, provides, rfl⟩
    cases made.symm.trans bound
    rfl
  · exact signer_fails_iff.mpr (result_loadKey_of_failsFirst (failsFirst.of_failAlike alike))
  · rintro world ref rfl found
    exact world.routesAgree found given

/-- A user whose variables are empty is looked up in the user database. Without one neither a
name nor a home directory is found, and it is the name that is missed. -/
theorem signer_by_stages_alice :
    let one : Secret := ⟨1, by decide⟩
    let store : KeyStore := ⟨⟨0, ()⟩, .process none⟩
    let disk := (FileTree.aliceTree (Utf8.encode (PrivateKey.curve one).hex)).disk
    let accounts := [(7, ⟨some "alice", some "/home"⟩)]
    (store.signer ⟨[("USER", ""), ("HOME", "")], some accounts, 7, disk⟩ none).result =
        .ok (Signer.ofKey ⟨0, ()⟩ (.curve one)) ∧
      (store.signer ⟨[("USER", ""), ("HOME", "")], none, 7, disk⟩ none).result =
        .error (.load .noName) := by
  intro one store disk accounts
  have silent : ¬∃ text, Identity.Says (some "") text := by
    rintro ⟨_, said, solid⟩
    cases said
    exact solid rfl
  constructor
  · let host : Host := ⟨[("USER", ""), ("HOME", "")], some accounts, 7, disk⟩
    have names : store.identity.Names host none "alice" := .user (.inr ⟨silent, rfl, by decide⟩)
    have has : store.identity.HasHome host (Path.ofString "/home") :=
      .process (.inr ⟨silent, rfl, by decide⟩)
    have stands : disk.Stands FileTree.aliceFile
        (.file (Utf8.encode (PrivateKey.curve one).hex)) :=
      ⟨rfl, FileTree.entry_aliceFile _⟩
    have writes := Bytes.writesSecret_iff_holdsKey.mpr (Bytes.holdsKey_hex one)
    have provides : store.Provides host none one :=
      ⟨FileTree.aliceFile, _, ⟨"alice", _, names, has, rfl⟩, stands, writes⟩
    exact ((signer_by_stages store host none).1 _).mpr ⟨one, provides, rfl⟩
  · let host : Host := ⟨[("USER", ""), ("HOME", "")], none, 7, disk⟩
    have nameless : ¬∃ name, store.identity.Names host none name := by
      rintro ⟨name, names⟩
      cases names with
      | user said =>
        rcases said with first | ⟨-, found, -⟩
        · exact silent ⟨_, first⟩
        · cases found
    have failsFirst : store.FailsFirst host none .identity (.load .noName) :=
      ⟨.identity nameless, fun _ before => absurd before (Nat.not_lt_zero _)⟩
    exact ((signer_by_stages store host none).2.2.1 _).mpr ⟨.identity, failsFirst⟩

end KeyStore

end Keyring
