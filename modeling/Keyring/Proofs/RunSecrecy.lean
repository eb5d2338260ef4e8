import Keyring.CommandLine.Run
import Keyring.Disk.Tree
import Keyring.Proofs.KeyPaths
import Keyring.Proofs.KeySecrecy

/-!
What a run of the command line tells about a key.

Two file trees that differ in the content of one file make disks that differ in it wherever
a path leads there (`FileTree.Apart.disk`). When the file is one that the key store looks
for it is not the settings file, so both runs go on with the same settings, and what they
show is the same but for the public key or the signature that was asked for
(`FileTree.Apart.observations_agree`).
-/

namespace Keyring

/-! ## Trees that differ in one file -/

namespace FileTree

/-- What stands where a path leads is what the disk finds at the path. -/
theorem entry_of_locate {tree : FileTree} {path : Path} {location : Location} {entry : Entry}
    (leads : tree.locate path = .ok location) (there : tree.entryAt location = some entry) :
    tree.disk.entry path = .ok entry := by
  simp only [disk, leads, bind, Except.bind, there]

/-- Two trees that are the same but for the content of the file at a location. -/
structure Apart (first second : FileTree) (location : Location) (one two : Bytes) : Prop where
  workingDirectory : first.workingDirectory = second.workingDirectory
  here : first.entryAt location = some (.file one)
  there : second.entryAt location = some (.file two)
  elsewhere : ∀ other, other ≠ location → first.entryAt other = second.entryAt other

section Apart

variable {first second : FileTree} {location : Location} {one two : Bytes}

/-- Following a name looks at the kind of entries, not at the content of files. -/
theorem Apart.follow_eq (apart : first.Apart second location one two) (here : Location)
    (name : Bytes) : first.follow here name = second.follow here name := by
  have present (other : Location) :
      (first.entryAt other).isSome = (second.entryAt other).isSome := by
    by_cases same : other = location
    · rw [same, apart.here, apart.there]
      rfl
    · rw [apart.elsewhere other same]
  by_cases same : here = location
  · rw [follow, follow, same, apart.here, apart.there]
  · rw [follow, follow, apart.elsewhere here same]
    simp only [present]

theorem Apart.locate_eq (apart : first.Apart second location one two) (path : Path) :
    first.locate path = second.locate path := by
  have follow : first.follow = second.follow := funext fun here => funext (apart.follow_eq here)
  rw [locate, locate, follow, start, start, apart.workingDirectory]

/-- A path that does not lead to the file leads to the same entry. -/
theorem Apart.entry_eq (apart : first.Apart second location one two) {path : Path}
    (elsewhere : first.locate path ≠ .ok location) :
    first.disk.entry path = second.disk.entry path := by
  rw [FileTree.disk, FileTree.disk]
  simp only [← apart.locate_eq path]
  cases located : first.locate path with
  | error obstacle => rfl
  | ok other =>
    have different : other ≠ location := fun same => elsewhere (same ▸ located)
    simp only [bind, Except.bind, apart.elsewhere other different]

theorem Apart.disk (apart : first.Apart second location one two) :
    first.disk.Apart second.disk one two := by
  intro path
  by_cases leads : first.locate path = .ok location
  · have leads' := (apart.locate_eq path).symm.trans leads
    exact .inr ⟨entry_of_locate leads apart.here, entry_of_locate leads' apart.there⟩
  · exact .inl (apart.entry_eq leads)

end Apart

/-- Two contents written to one place make trees that differ there. -/
theorem apart_put (tree : FileTree) {location : Location} (below : location ≠ [])
    (one two : Bytes) :
    (tree.put location (.file one)).Apart (tree.put location (.file two)) location one two where
  workingDirectory := rfl
  here := by simp [entryAt, put, below]
  there := by simp [entryAt, put, below]
  elsewhere other different := by
    have skipped : (other == location) = false := by simpa using different
    simp [entryAt, put, List.lookup_cons, skipped]

/-! ## The name at the end of a path -/

/-- A path whose last name is no step up leads to a place of this name. -/
theorem getLast?_of_locate {tree : FileTree} {path : Path} {location : Location} {name : RawText}
    (last : path.names.getLast? = some name) (down : name.systemBytes ≠ parentName)
    (located : tree.locate path = .ok location) :
    location.getLast? = some name.systemBytes := by
  obtain ⟨front, names⟩ := List.getLast?_eq_some_iff.mp last
  rw [locate] at located
  split at located
  case isTrue => cases located
  case isFalse =>
    rw [names, List.map_append, List.foldlM_append] at located
    cases before : (front.map RawText.systemBytes).foldlM tree.follow (tree.start path) with
    | error obstacle => rw [before] at located; cases located
    | ok here =>
      rw [before] at located
      change tree.follow here name.systemBytes >>= pure = _ at located
      rw [bind_pure, follow] at located
      split at located
      case h_1 => cases located
      case h_2 => cases located
      case h_3 => cases located
      case h_4 =>
        rw [if_neg down] at located
        split at located
        case isTrue => cases located
        case isFalse =>
          dsimp only at located
          split at located <;> cases located
          exact List.getLast?_concat

end FileTree

namespace KeyStore

/-- The path of a key's file ends in a name that is longer than the suffix of keys, if not the
suffix itself. -/
theorem exists_last_name_pathBelow (home : Path) (name : RawText) :
    ∃ last, (pathBelow home name).names.getLast? = some last ∧ 5 ≤ last.systemBytes.length := by
  obtain ⟨part, last⟩ := Path.exists_isLastPart name
  obtain ⟨front, names⟩ := exists_names_pathBelow home last
  refine ⟨part ++ suffix, by rw [names, List.getLast?_concat], ?_⟩
  rw [RawText.systemBytes_append, List.length_append]
  exact Nat.le_add_left_of_le (by decide)

/-- No path of a key's file leads to the settings file: its last name is too long. -/
theorem locate_settings_ne {tree : FileTree} {location : Location} {home : Path} {name : RawText}
    (leads : tree.locate (pathBelow home name) = .ok location) :
    tree.locate Settings.file ≠ .ok location := by
  intro settings
  obtain ⟨last, ends, long⟩ := exists_last_name_pathBelow home name
  have down : last.systemBytes ≠ FileTree.parentName := fun same => by
    rw [same] at long
    exact absurd long (by decide)
  have key := FileTree.getLast?_of_locate ends down leads
  have envFile := FileTree.getLast?_of_locate rfl (by decide) settings
  rw [key, Option.some.injEq] at envFile
  rw [envFile] at long
  exact absurd long (by decide)

end KeyStore

/-! ## Runs that agree -/

namespace CommandLine

/-- A run that comes to its end: it does not search for a nonce for ever. -/
def Outcome.Ends (outcome : Outcome) : Prop :=
  outcome.ending ≠ .escaped .noNonce

theorem answer_publicKey_ne_noNonce (signer : Signer) (input : Bytes) :
    answer signer .publicKey input ≠ .error .noNonce := by
  obtain ⟨context, key, kept⟩ := signer
  cases kept with
  | some kept => intro answered; cases answered
  | none => cases key <;> intro answered <;> cases answered

theorem signer_ne_noNonce (store : KeyStore) (host : Host) (given : Option RawText) :
    (store.signer host given).result ≠ .error .noNonce := by
  intro failed
  rcases KeyStore.loadKey_fails (KeyStore.signer_fails_iff.mp failed) with
    ⟨fault, same⟩ | ⟨path, -, failed⟩
  · cases same
  · rcases KeyStore.loadFile_fails failed with ⟨fault, -, same⟩ | ⟨fault, same, -⟩ <;> cases same

/-- Only a run that signs can fail to come to its end. -/
theorem ends_of_publicKey {host : Host} {cache : Settings.Cache} {mark : Nat}
    {words : List RawText} {arguments : Arguments} {input : Bytes}
    (parsed : parse words = .ok arguments) (asked : arguments.command = .publicKey) :
    (run host cache mark words input).1.Ends := by
  rw [run, parsed]
  change (runSettled host mark arguments input (Settings.get cache mark host).result).Ends
  rw [runSettled.eq_def]
  split
  case h_1 => intro same; cases same
  case h_2 => intro same; cases same
  case h_3 settings =>
    rw [perform, asked]
    split
    case h_1 failure failed =>
      split
      · intro same
        cases same
      · intro same
        cases same
        exact signer_ne_noNonce _ _ _ failed
    case h_2 signer loaded =>
      split
      case h_1 => intro same; cases same
      case h_2 failure failed =>
        intro same
        cases same
        exact answer_publicKey_ne_noNonce signer input failed

/-- The output that a command makes of a private key: the text of its public key, or its
signature of the message. -/
inductive Discloses (input : Bytes) (secret : Secret) : Command → String → Prop
  | publicKey : Discloses input secret .publicKey
      ((PublicKey.curve (Scheme.publicPoint secret)).hex ++ "\n")
  | sign {message : RawText} {bytes : Bytes} {text : String} :
      messageBytes message input = .ok bytes → Scheme.sign (.curve secret) bytes = .ok text →
      Discloses input secret (.sign message) (text ++ "\n")

theorem answer_sign (signer : Signer) (message : RawText) (input : Bytes) :
    answer signer (.sign message) input = (messageBytes message input).bind signer.sign :=
  rfl

/-- Whatever its key of the curve is, a signer fails on a message without an encoding. Otherwise
it answers with what the command makes of the key, unless its search for a nonce does not end. -/
theorem answer_curve (context : Context) (command : Command) (input : Bytes) :
    (∃ failure, ∀ secret,
      answer (Signer.ofKey context (.curve secret)) command input = .error failure) ∨
    ∀ secret,
      (∃ line, answer (Signer.ofKey context (.curve secret)) command input = .ok line ∧
        Discloses input secret command (line ++ "\n")) ∨
      answer (Signer.ofKey context (.curve secret)) command input = .error .noNonce := by
  cases command with
  | publicKey => exact .inr fun secret => .inl ⟨_, rfl, .publicKey⟩
  | sign message =>
    simp only [answer_sign]
    cases written : messageBytes message input with
    | error failure => exact .inl ⟨failure, fun secret => rfl⟩
    | ok bytes =>
      refine .inr fun secret => ?_
      change (∃ line, Scheme.sign (.curve secret) bytes = .ok line ∧ _) ∨
        Scheme.sign (.curve secret) bytes = .error .noNonce
      cases signed : Scheme.sign (.curve secret) bytes with
      | ok text => exact .inl ⟨text, rfl, .sign written signed⟩
      | error failure => exact .inr (congrArg _ (Scheme.sign_fails signed))

/-- Two outcomes that show the same on the error channel and, when both runs end, end alike
and put out the same, or what a command makes of the keys that two files hold. -/
structure Outcome.Agree (one two input : Bytes) (command : Option Command)
    (first second : Outcome) : Prop where
  errors : first.errors = second.errors
  ends : first.Ends → second.Ends → first.ending = second.ending ∧
    (first.output = second.output ∨
      ∃ wanted ∈ command, ∃ secret secret', one.HoldsKey secret ∧ two.HoldsKey secret' ∧
        Discloses input secret wanted first.output ∧
        Discloses input secret' wanted second.output)

theorem Outcome.Agree.refl {one two input : Bytes} {command : Option Command}
    (outcome : Outcome) : Agree one two input command outcome outcome :=
  ⟨rfl, fun _ _ => ⟨rfl, .inl rfl⟩⟩

section Apart

variable {first second : Disk} {one two : Bytes}

/-- Runs with the same settings agree: the failure to load a key is the same in both, and so
are the records, and of the key only the answer tells. -/
theorem perform_agree (apart : first.Apart second one two) (alike : one.Alike two) (host : Host)
    (context : Context) (arguments : Arguments) (settings : Settings) (input : Bytes) :
    Outcome.Agree one two input (some arguments.command)
      (perform (host.on first) context arguments settings input)
      (perform (host.on second) context arguments settings input) := by
  have loaded := KeyStore.signer_agree apart alike ⟨context, .process none⟩ host
    (chosenName arguments settings)
  rw [perform, perform]
  generalize KeyStore.signer _ (host.on first) _ = left at loaded ⊢
  generalize KeyStore.signer _ (host.on second) _ = right at loaded ⊢
  cases loaded with
  | failed records failure => exact .refl _
  | done records twins =>
    obtain ⟨key, key', twins, rfl, rfl⟩ := twins
    cases twins with
    | same => exact .refl _
    | @held secret secret' holds holds' =>
      dsimp only
      rcases answer_curve context arguments.command input with ⟨failure, refused⟩ | answers
      · rw [refused, refused]
        exact .refl _
      rcases answers secret with ⟨line, answered, discloses⟩ | endless <;>
      rcases answers secret' with ⟨line', answered', discloses'⟩ | endless'
      · rw [answered, answered']
        exact ⟨rfl, fun _ _ => ⟨rfl, .inr ⟨_, rfl, secret, secret', holds, holds', discloses,
          discloses'⟩⟩⟩
      · rw [answered, endless']
        exact ⟨rfl, fun _ ends => absurd rfl ends⟩
      · rw [endless, answered']
        exact ⟨rfl, fun ends => absurd rfl ends⟩
      · rw [endless, endless']
        exact .refl _

/-- Whole runs agree when the settings file is the same on both disks; they keep the same
settings for later runs. -/
theorem run_agree (apart : first.Apart second one two) (alike : one.Alike two)
    (settings : first.entry Settings.file = second.entry Settings.file) (host : Host)
    (cache : Settings.Cache) (mark : Nat) (words : List RawText) (input : Bytes) :
    let here := run (host.on first) cache mark words input
    let there := run (host.on second) cache mark words input
    here.2 = there.2 ∧
      Outcome.Agree one two input ((parse words).toOption.map (·.command)) here.1 there.1 := by
  have statements : Settings.fileStatements first = Settings.fileStatements second := by
    rw [Settings.fileStatements, Settings.fileStatements, settings]
  have access : Settings.get cache mark (host.on first) =
      Settings.get cache mark (host.on second) := by
    have read : Settings.read (host.on first) = Settings.read (host.on second) := by
      simp only [Settings.read, Host.on, statements]
    rw [Settings.get.eq_def, Settings.get.eq_def, read]
  rw [run, run]
  cases parsed : parse words with
  | error stop => cases stop <;> exact ⟨rfl, .refl _⟩
  | ok arguments =>
    simp only
    rw [runWith, runWith, access]
    refine ⟨rfl, ?_⟩
    cases (Settings.get cache mark (host.on second)).result with
    | error fault => cases fault <;> exact .refl _
    | ok settings =>
      have agree := perform_agree apart alike host ⟨mark, ()⟩ arguments settings.value input
      exact ⟨congrArg (_ ++ ·) agree.errors, agree.ends⟩

end Apart

end CommandLine

/-! ## What two worlds show -/

namespace FileTree

/-- No key material is shown. In two worlds that differ only in a key file, and there in files
that are alike, every way to load a key is seen alike: it leaves the same records and the same
failure, or a key or signer that is shown alike. When the file is one that the key store
looks for, so is every run of the command line: it shows the same on the error channel, ends
with the same code, and puts out the same or the public key or signature of each key. -/
theorem Apart.observations_agree {first second : FileTree} {location : Location}
    {one two : Bytes} (apart : first.Apart second location one two) (alike : one.Alike two)
    (host : Host) :
    (∀ path, (KeyStore.loadFile first.disk path).seen PrivateKey.shown =
      (KeyStore.loadFile second.disk path).seen PrivateKey.shown) ∧
    (∀ (store : KeyStore) (given : Option RawText),
      (store.loadKey (host.on first.disk) given).seen PrivateKey.shown =
        (store.loadKey (host.on second.disk) given).seen PrivateKey.shown ∧
      (store.signer (host.on first.disk) given).seen Signer.shown =
        (store.signer (host.on second.disk) given).seen Signer.shown) ∧
    ∀ home name, first.locate (KeyStore.pathBelow home name) = .ok location →
      ∀ (cache : Settings.Cache) (mark : Nat) (words : List RawText) (input : Bytes),
        let here := CommandLine.run (host.on first.disk) cache mark words input
        let there := CommandLine.run (host.on second.disk) cache mark words input
        here.2 = there.2 ∧
          CommandLine.Outcome.Agree one two input
            ((CommandLine.parse words).toOption.map (·.command)) here.1 there.1 := by
  refine ⟨fun path => ?_, fun store given => ⟨?_, ?_⟩, fun home name leads => ?_⟩
  · exact (KeyStore.loadFile_agree apart.disk alike path).seen_eq
      fun _ _ twins => twins.shown_eq
  · exact (KeyStore.loadKey_agree apart.disk alike store host given).seen_eq
      fun _ _ twins => twins.shown_eq
  · exact (KeyStore.signer_agree apart.disk alike store host given).seen_eq fun _ _ _ => rfl
  · exact CommandLine.run_agree apart.disk alike
      (apart.entry_eq (KeyStore.locate_settings_ne leads)) host

/-- The file of one user's key, which is alone on the disk. -/
def aliceFile : Path := KeyStore.pathBelow ⟨.root, ["home"]⟩ "alice"

def aliceTree (content : Bytes) : FileTree := (FileTree.empty []).writeFile aliceFile content

def aliceLocation : Location := ["home", ".sawtooth", "keys", "alice.priv"].map Utf8.encode

theorem locate_aliceFile (content : Bytes) :
    (aliceTree content).locate aliceFile = .ok aliceLocation := by
  rfl

theorem entry_aliceFile (content : Bytes) :
    (aliceTree content).disk.entry aliceFile = .ok (.file content) :=
  entry_of_locate (locate_aliceFile content) rfl

/-- No text on the error channel of a run that prints the user's public key tells the private
keys one and two apart, and both runs end with the same code. -/
theorem observations_agree_one_two :
    let one := Utf8.encode (PrivateKey.curve ⟨1, by decide⟩).hex
    let two := Utf8.encode (PrivateKey.curve ⟨2, by decide⟩).hex
    let host : Host := ⟨[("HOME", "/home")], none, 0, (aliceTree one).disk⟩
    let words : List RawText := ["-v", "-k", "alice", "public-key"]
    let here := (CommandLine.run (host.on (aliceTree one).disk) none 0 words []).1
    let there := (CommandLine.run (host.on (aliceTree two).disk) none 0 words []).1
    (aliceTree one).Apart (aliceTree two) aliceLocation one two ∧ one.Alike two ∧
      (aliceTree one).locate aliceFile = .ok aliceLocation ∧ here.Ends ∧ there.Ends ∧
      here.errors = there.errors ∧ here.ending = there.ending := by
  intro one two host words here there
  have apart : (aliceTree one).Apart (aliceTree two) aliceLocation one two :=
    apart_put _ (List.cons_ne_nil _ _) one two
  have alike : one.Alike two := Bytes.alike_hex _ _
  have leads := locate_aliceFile one
  have parsed : CommandLine.parse words = .ok ⟨some "alice", true, .publicKey⟩ := by rfl
  have ends : here.Ends := CommandLine.ends_of_publicKey parsed rfl
  have ends' : there.Ends := CommandLine.ends_of_publicKey parsed rfl
  have agree := ((apart.observations_agree alike host).2.2 _ _ leads none 0 words []).2
  exact ⟨apart, alike, leads, ends, ends', agree.errors, (agree.ends ends ends').1⟩

end FileTree

end Keyring
