import Keyring.Disk.Tree
import Keyring.Proofs.NamesAndHomes

/-!
How loading a key ends.

What loading the key in a file comes to is read off what stands at the path
(`result_loadFile`). With one exception it is a key or a load fault that names the path: a
path that is too long to be looked up fails with the refusal of the system itself
(`failures_are_load_faults_iff`). Loading by name and making a signer add the faults of
choosing a name and of finding the home directory, which are load faults too.
-/

namespace Keyring

/-- The system refuses to say whether something stands at a path, for the reason that it gives. -/
def Disk.Refuses (disk : Disk) (path : Path) (fault : ReadFault) : Prop :=
  Disk.speakable path = true ∧
    ∃ obstacle, disk.entry path = .error obstacle ∧ obstacle.refusal? = some fault

namespace FileTree

/-! ## Paths that are refused -/

/-- A name that is too long is refused wherever names can be looked up. -/
theorem entry_of_long_name {tree : FileTree} {name : RawText}
    (there : tree.entryAt tree.workingDirectory = some .directory)
    (long : nameLimit < name.systemBytes.length) (other : name.systemBytes ≠ parentName) :
    tree.disk.entry ⟨.relative, [name]⟩ = .error .tooLong := by
  have located : tree.locate ⟨.relative, [name]⟩ = .error .tooLong := by
    unfold locate
    split
    · rfl
    · change tree.follow tree.workingDirectory name.systemBytes >>= _ = _
      rw [follow, there]
      dsimp only
      rw [if_neg other, if_pos long]
      rfl
  change (tree.locate ⟨.relative, [name]⟩ >>= _) = _
  rw [located]
  rfl

/-- A file name of one byte more than the longest. -/
def overlongPath : Path := ⟨.relative, [List.replicate 256 (.char 'a')]⟩

theorem refuses_overlongPath : (FileTree.empty []).disk.Refuses overlongPath .tooLong := by
  refine ⟨by decide +kernel, .tooLong, ?_, rfl⟩
  exact entry_of_long_name rfl (by decide +kernel) (by decide +kernel)

end FileTree

namespace KeyStore

/-! ## One file -/

/-- The record made before a file is opened. -/
def opening (path : Path) : Record :=
  ⟨.store, .debug, "Loading signing key from " ++ path.text⟩

/-- What opening a file comes to, with the record made before. -/
theorem readKey_eq (disk : Disk) (path : Path) :
    readKey disk path =
      ⟨[opening path], do
        let bytes ← content disk path
        ((keyOfLine path bytes.firstLine).map .curve).mapError .load⟩ := by
  rw [readKey, Logged.debug_bind]
  cases read : content disk path with
  | error failure => rfl
  | ok bytes =>
    rw [Logged.lift_ok_bind]
    change _ = Logged.mk _ (((keyOfLine path bytes.firstLine).map PrivateKey.curve).mapError .load)
    cases keyOfLine path bytes.firstLine <;> rfl

section File

variable {disk : Disk} {path : Path}

theorem loadFile_of_unspeakable (unspeakable : Disk.speakable path = false) :
    loadFile disk path = Logged.fail (.load (.notFound path)) := by
  rw [loadFile, Disk.isThere, unspeakable]
  rfl

/-- A path at which nothing stands is not opened. -/
theorem loadFile_of_missing {obstacle : Obstacle} (speakable : Disk.speakable path = true)
    (missing : disk.entry path = .error obstacle) (answers : obstacle.refusal? = none) :
    loadFile disk path = Logged.fail (.load (.notFound path)) := by
  rw [loadFile, Disk.isThere, if_pos speakable, missing]
  dsimp only
  rw [answers]
  rfl

/-- A refusal to look up a path is passed on as it is. -/
theorem loadFile_of_refuses {fault : ReadFault} (refuses : disk.Refuses path fault) :
    loadFile disk path = Logged.fail (.refused path fault) := by
  obtain ⟨speakable, obstacle, missing, refused⟩ := refuses
  rw [loadFile, Disk.isThere, if_pos speakable, missing]
  dsimp only
  rw [refused]
  rfl

/-- What stands at a path is opened. -/
theorem loadFile_of_entry {entry : Entry} (speakable : Disk.speakable path = true)
    (there : disk.entry path = .ok entry) : loadFile disk path = readKey disk path := by
  rw [loadFile, Disk.isThere, if_pos speakable, there]
  rfl

/-- The key in a file is read off its first line. -/
theorem loadFile_of_file {content : Bytes} (speakable : Disk.speakable path = true)
    (there : disk.entry path = .ok (.file content)) :
    loadFile disk path =
      ⟨[opening path], ((keyOfLine path content.firstLine).map .curve).mapError .load⟩ := by
  have read : KeyStore.content disk path = .ok content := by
    rw [KeyStore.content, if_pos speakable, there]
  rw [loadFile_of_entry speakable there, readKey_eq, read]
  rfl

theorem loadFile_of_directory (speakable : Disk.speakable path = true)
    (there : disk.entry path = .ok .directory) :
    loadFile disk path = ⟨[opening path], .error (.load (.unreadable path .isDirectory))⟩ := by
  have read : KeyStore.content disk path = .error (.load (.unreadable path .isDirectory)) := by
    rw [KeyStore.content, if_pos speakable, there]
  rw [loadFile_of_entry speakable there, readKey_eq, read]
  rfl

theorem loadFile_of_withheld {cause : Withheld} (speakable : Disk.speakable path = true)
    (there : disk.entry path = .ok (.withheld cause)) :
    loadFile disk path = ⟨[opening path], .error (.load (.unreadable path cause.fault))⟩ := by
  have read : KeyStore.content disk path = .error (.load (.unreadable path cause.fault)) := by
    rw [KeyStore.content, if_pos speakable, there]
  rw [loadFile_of_entry speakable there, readKey_eq, read]
  rfl

end File

/-! ## Faults of one file -/

/-- A line that writes no key is refused in the name of its file. -/
theorem path?_of_keyOfLine {path : Path} {line : Bytes} {fault : LoadFault}
    (refused : keyOfLine path line = .error fault) : fault.path? = some path := by
  unfold keyOfLine at refused
  split at refused
  case h_1 => cases refused; rfl
  case h_2 text decoded =>
    dsimp only at refused
    split at refused
    case isTrue => cases refused; rfl
    case isFalse =>
      cases read : Secret.ofText (String.ofList (Text.trim text)) with
      | ok secret => rw [read] at refused; cases refused
      | error cause => rw [read] at refused; cases refused; rfl

/-- Unless the system refuses to look up the path, loading a file fails with a load fault that
names the path, if it fails. -/
theorem loadFile_fails {disk : Disk} {path : Path} {failure : Failure}
    (failed : (loadFile disk path).result = .error failure) :
    (∃ fault, disk.Refuses path fault ∧ failure = .refused path fault) ∨
      ∃ fault, failure = .load fault ∧ fault.path? = some path := by
  cases speakable : Disk.speakable path with
  | false =>
    rw [loadFile_of_unspeakable speakable] at failed
    cases failed
    exact .inr ⟨_, rfl, rfl⟩
  | true =>
    cases entry : disk.entry path with
    | error obstacle =>
      cases refused : obstacle.refusal? with
      | some fault =>
        have refuses : disk.Refuses path fault := ⟨speakable, obstacle, entry, refused⟩
        rw [loadFile_of_refuses refuses] at failed
        cases failed
        exact .inl ⟨fault, refuses, rfl⟩
      | none =>
        rw [loadFile_of_missing speakable entry refused] at failed
        cases failed
        exact .inr ⟨_, rfl, rfl⟩
    | ok entry' =>
      cases entry' with
      | directory =>
        rw [loadFile_of_directory speakable entry] at failed
        cases failed
        exact .inr ⟨_, rfl, rfl⟩
      | withheld cause =>
        rw [loadFile_of_withheld speakable entry] at failed
        cases failed
        exact .inr ⟨_, rfl, rfl⟩
      | file content =>
        rw [loadFile_of_file speakable entry] at failed
        cases line : keyOfLine path content.firstLine with
        | ok secret => rw [line] at failed; cases failed
        | error fault =>
          rw [line] at failed
          cases failed
          exact .inr ⟨fault, rfl, path?_of_keyOfLine line⟩

/-! ## Loading by name -/

/-- The file in which a store looks for the key of the given name, or of the user. -/
def LeadsTo (store : KeyStore) (host : Host) (given : Option RawText) (path : Path) : Prop :=
  ∃ name, (store.chooseName host given).result = .ok name ∧
    (store.keyPath host name).result = .ok path

section ByName

variable {store : KeyStore} {host : Host} {given : Option RawText}

theorem result_loadKey_of_leadsTo {path : Path} (leads : store.LeadsTo host given path) :
    (store.loadKey host given).result = (loadFile host.disk path).result := by
  obtain ⟨name, chosen, found⟩ := leads
  rw [loadKey, Logged.result_bind, chosen]
  change ((store.keyPath host name) >>= _).result = _
  rw [Logged.result_bind, found]
  rfl

/-- Loading by name fails before a file is looked for, or with the failure of the file. -/
theorem loadKey_fails {failure : Failure}
    (failed : (store.loadKey host given).result = .error failure) :
    (∃ fault, failure = .load fault) ∨
      ∃ path, store.LeadsTo host given path ∧ (loadFile host.disk path).result = .error failure := by
  cases chosen : (store.chooseName host given).result with
  | error failure' =>
    rw [loadKey, Logged.result_bind, chosen] at failed
    cases failed
    exact .inl ⟨_, chooseName_fails chosen⟩
  | ok name =>
    cases found : (store.keyPath host name).result with
    | error failure' =>
      rw [loadKey, Logged.result_bind, chosen] at failed
      change ((store.keyPath host name) >>= _).result = _ at failed
      rw [Logged.result_bind, found] at failed
      cases failed
      exact .inl ⟨_, keyPath_fails found⟩
    | ok path =>
      have leads : store.LeadsTo host given path := ⟨name, chosen, found⟩
      rw [result_loadKey_of_leadsTo leads] at failed
      exact .inr ⟨path, leads, failed⟩

/-- A signer is made of the key that is loaded, and leaves the same records. -/
theorem signer_eq (store : KeyStore) (host : Host) (given : Option RawText) :
    store.signer host given = ⟨(store.loadKey host given).records,
      (store.loadKey host given).result.map (Signer.ofKey store.context)⟩ := by
  change Logged.bind (store.loadKey host given) _ = _
  rw [Logged.bind]
  cases (store.loadKey host given).result with
  | error failure => rfl
  | ok key => simp [Except.map]

theorem result_signer (store : KeyStore) (host : Host) (given : Option RawText) :
    (store.signer host given).result =
      (store.loadKey host given).result.map (Signer.ofKey store.context) := by
  rw [signer_eq]

theorem signer_fails_iff {failure : Failure} :
    (store.signer host given).result = .error failure ↔
      (store.loadKey host given).result = .error failure := by
  rw [result_signer]
  cases (store.loadKey host given).result <;> simp [Except.map]

end ByName

/-! ## Which failures are load faults -/

theorem result_loadKey_of_refuses {store : KeyStore} {host : Host} {given : Option RawText}
    {path : Path} {fault : ReadFault} (leads : store.LeadsTo host given path)
    (refuses : host.disk.Refuses path fault) :
    (store.loadKey host given).result = .error (.refused path fault) := by
  rw [result_loadKey_of_leadsTo leads, loadFile_of_refuses refuses]
  rfl

/-- Every failure to load the key in a file is a load fault that names its path, unless the
system refuses to look up the path; then loading fails with the refusal, which is none. -/
theorem loadFile_fails_with_loadFault_iff {disk : Disk} {path : Path} :
    (∀ failure, (loadFile disk path).result = .error failure →
      ∃ fault, failure = .load fault ∧ fault.path? = some path) ↔
      ¬∃ fault, disk.Refuses path fault := by
  constructor
  · rintro named ⟨fault, refuses⟩
    obtain ⟨fault, refused, -⟩ := named _ (by rw [loadFile_of_refuses refuses]; rfl)
    cases refused
  · intro answers failure failed
    rcases loadFile_fails failed with ⟨fault, refuses, -⟩ | named
    · exact absurd ⟨fault, refuses⟩ answers
    · exact named

theorem loadKey_fails_with_loadFault_iff {store : KeyStore} {host : Host} {given : Option RawText} :
    (∀ failure, (store.loadKey host given).result = .error failure →
      ∃ fault, failure = .load fault) ↔
      ¬∃ path fault, store.LeadsTo host given path ∧ host.disk.Refuses path fault := by
  constructor
  · rintro typed ⟨path, fault, leads, refuses⟩
    obtain ⟨fault, refused⟩ := typed _ (result_loadKey_of_refuses leads refuses)
    cases refused
  · intro answers failure failed
    rcases loadKey_fails failed with typed | ⟨path, leads, failed⟩
    · exact typed
    · rcases loadFile_fails failed with ⟨fault, refuses, -⟩ | ⟨fault, typed, -⟩
      · exact absurd ⟨path, fault, leads, refuses⟩ answers
      · exact ⟨fault, typed⟩

/-- Loading a file, loading by name and making a signer give a result or fail with a load
fault, one that names the path when the file is to blame, unless the system refuses to look
up the path that they are given or led to. It refuses a path that is too long or through a
directory that the process may not look into, and then each of them fails with this refusal. -/
theorem failures_are_load_faults_iff (store : KeyStore) (host : Host) (given : Option RawText)
    (disk : Disk) (path : Path) :
    ((∀ failure, (loadFile disk path).result = .error failure →
      ∃ fault, failure = .load fault ∧ fault.path? = some path) ↔
      ¬∃ fault, disk.Refuses path fault) ∧
    (∀ fault, disk.Refuses path fault →
      (loadFile disk path).result = .error (.refused path fault)) ∧
    ((∀ failure, (store.loadKey host given).result = .error failure →
      ∃ fault, failure = .load fault) ↔
      ¬∃ path fault, store.LeadsTo host given path ∧ host.disk.Refuses path fault) ∧
    ((∀ failure, (store.signer host given).result = .error failure →
      ∃ fault, failure = .load fault) ↔
      ¬∃ path fault, store.LeadsTo host given path ∧ host.disk.Refuses path fault) ∧
    ∀ path fault, store.LeadsTo host given path → host.disk.Refuses path fault →
      (store.loadKey host given).result = .error (.refused path fault) ∧
      (store.signer host given).result = .error (.refused path fault) := by
  refine ⟨loadFile_fails_with_loadFault_iff, ?_, loadKey_fails_with_loadFault_iff, ?_, ?_⟩
  · intro fault refuses
    rw [loadFile_of_refuses refuses]
    rfl
  · simp only [signer_fails_iff]
    exact loadKey_fails_with_loadFault_iff
  · intro path fault leads refuses
    have failed := result_loadKey_of_refuses leads refuses
    exact ⟨failed, signer_fails_iff.mpr failed⟩

/-- In an empty directory the overlong name is refused, and not reported as a file that is
not there. -/
theorem loadFile_overlongPath_fails :
    (FileTree.empty []).disk.Refuses FileTree.overlongPath .tooLong ∧
      (loadFile (FileTree.empty []).disk FileTree.overlongPath).result =
        .error (.refused FileTree.overlongPath .tooLong) := by
  refine ⟨FileTree.refuses_overlongPath, ?_⟩
  exact (failures_are_load_faults_iff ⟨⟨0, ()⟩, .process none⟩
    ⟨[], none, 0, (FileTree.empty []).disk⟩ none _ _).2.1 _ FileTree.refuses_overlongPath

/-- Not every failure to load a key is a load fault: the refusal to look up a path is none. -/
theorem not_forall_failures_are_load_faults :
    ¬∀ (tree : FileTree) (path : Path) (failure : Failure),
      (loadFile tree.disk path).result = .error failure → ∃ fault, failure = .load fault := by
  intro typed
  have failed : (loadFile (FileTree.empty []).disk FileTree.overlongPath).result =
      .error (.refused FileTree.overlongPath .tooLong) := by
    rw [loadFile_of_refuses FileTree.refuses_overlongPath]
    rfl
  obtain ⟨fault, refused⟩ := typed _ _ _ failed
  cases refused

end KeyStore

end Keyring
