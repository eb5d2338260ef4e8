import Keyring.Identity
import Keyring.Signer

/-!
The key store: one file per key below the user's home directory,
`<home>/.sawtooth/keys/<name>.priv`, of which the first line writes a private key.

Loading goes through fixed stages, and the first that fails decides the failure: a name
is chosen, the home directory is found, the file has to be there, it is read, its first
line is decoded, has to hold something, and has to write a key. Whatever follows the
first line does not matter.
-/

namespace Keyring

/-- Where keys are looked for, and the scheme they are bound to. -/
structure KeyStore where
  context : Context
  identity : Identity

namespace KeyStore

/-! ## Names and paths -/

/-- The directory of keys below a home directory. -/
def directory : Path := ⟨.relative, [".sawtooth", "keys"]⟩

/-- What follows the name of a key in the name of its file. -/
def suffix : RawText := ".priv"

/-- The name of the key to load: the given one even when empty, else the user's name by
the environment, else by the user database. -/
def chooseName (store : KeyStore) (host : Host) (given : Option RawText) : Logged RawText :=
  match given with
  | some name => return name
  | none =>
    match store.identity.environmentName host with
    | some name => do
      Logged.debug .store "Key name taken from USER"
      return name
    | none => do
      match (← store.identity.systemName host).bind nonempty? with
      | some name =>
        Logged.debug .store "Key name taken from the OS user database"
        return name
      | none => Logged.fail (.load .noName)

/-- The path of a key's file below a home directory. -/
def pathBelow (home : Path) (name : RawText) : Path :=
  (home.join directory).join (Path.ofText (name ++ suffix))

def keyPath (store : KeyStore) (host : Host) (name : RawText) : Logged Path := do
  match ← store.identity.home host with
  | some home => return pathBelow home name
  | none => Logged.fail (.load .noHome)

/-! ## Files -/

/-- The content of a file that is opened, whether or not anything was seen there. -/
def content (disk : Disk) (path : Path) : Except Failure Bytes :=
  if Disk.speakable path then
    match disk.entry path with
    | .ok (.file content) => .ok content
    | .ok .directory => .error (.load (.unreadable path .isDirectory))
    | .ok (.withheld cause) => .error (.load (.unreadable path cause.fault))
    | .error obstacle =>
      .error (.load (obstacle.fault?.elim (.notFound path) (.unreadable path)))
  else .error (path.text.systemFault?.elim .nullCharacter .unencodable)

/-- The key that the first line of a file writes. -/
def keyOfLine (path : Path) (line : Bytes) : Except LoadFault Secret :=
  match Utf8.decode line with
  | .error fault => .error (.unparsable path (.encoding fault))
  | .ok text =>
    let key := Text.trim text
    if key.isEmpty then .error (.blank path)
    else (Secret.ofText (String.ofList key)).mapError fun fault => .unparsable path (.key fault)

/-- Opens a file and reads the key on its first line. -/
def readKey (disk : Disk) (path : Path) : Logged PrivateKey := do
  Logged.debug .store ("Loading signing key from " ++ path.text)
  let bytes ← Logged.lift (content disk path)
  let secret ← Logged.lift ((keyOfLine path bytes.firstLine).mapError .load)
  return .curve secret

/-- Reads the key in a file that has to be there. -/
def loadFile (disk : Disk) (path : Path) : Logged PrivateKey := do
  let there ← Logged.lift ((disk.isThere path).mapError (.refused path))
  if there then readKey disk path else Logged.fail (.load (.notFound path))

/-! ## Keys by name -/

/-- Loads the key of the given name, or of the user. -/
def loadKey (store : KeyStore) (host : Host) (given : Option RawText) : Logged PrivateKey := do
  let name ← store.chooseName host given
  let path ← store.keyPath host name
  loadFile host.disk path

/-- Loads a key and binds it to the store's scheme. -/
def signer (store : KeyStore) (host : Host) (given : Option RawText) : Logged Signer := do
  let key ← store.loadKey host given
  return Signer.ofKey store.context key

end KeyStore

end Keyring
