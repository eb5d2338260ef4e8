import Keyring.CommandLine.Run
import Keyring.Disk.Tree

/-!
The state of a process in which keys, signers and key stores are used one after another:
its surroundings, the settings it keeps, and the objects it has made and named.
-/

namespace Keyring.Session

/-- Something that a process has made and can refer to by a name. -/
inductive Object where
  | privateKey (key : PrivateKey)
  | publicKey (key : PublicKey)
  | signer (signer : Signer)
  | store (store : KeyStore)

structure World where
  environment : Environment
  accounts : Option (List (Nat × Account))
  userId : Nat
  files : FileTree
  cache : Settings.Cache
  /-- The named objects, the latest of a name first. -/
  objects : List (String × Object)
  /-- The scheme that the process itself holds. -/
  context : Context
  /-- A mark that nothing made so far has, and nothing after it. -/
  clock : Nat

/-- Why an operation has no answer: an object it refers to was never made, or it fails. -/
inductive Problem where
  | noObject (name : String)
  | failure (failure : Failure)
  deriving DecidableEq, Repr

namespace World

/-- A process that has done nothing yet, in an empty working directory. -/
def start (environment : Environment) (accounts : Option (List (Nat × Account)))
    (userId : Nat) (workingDirectory : Location) : World where
  environment := environment
  accounts := accounts
  userId := userId
  files := FileTree.empty workingDirectory
  cache := none
  objects := []
  context := ⟨0, ()⟩
  clock := 1

def host (world : World) : Host :=
  ⟨world.environment, world.accounts, world.userId, world.files.disk⟩

def object? (world : World) (name : String) : Option Object :=
  world.objects.lookup name

/-- Gives an object a name, if one is asked for. -/
def call (world : World) (name : Option String) (object : Object) : World :=
  match name with
  | none => world
  | some name => { world with objects := (name, object) :: world.objects }

end World

/-! ## Referring to keys and stores -/

/-- A private key: a text to read, a named object, or a key of another algorithm. -/
inductive PrivateRef where
  | text (text : String)
  | named (name : String)
  | foreign (key : ForeignKey)

/-- A public key: a text to read, a named object, a key of another algorithm, or the one
that belongs to a private key. -/
inductive PublicRef where
  | text (text : String)
  | named (name : String)
  | foreign (key : ForeignKey)
  | ofPrivate (key : PrivateRef)

/-- A key store: a named object, or a new one. -/
inductive StoreRef where
  | named (name : String)
  | fresh (identity : Identity)

namespace World

def privateKey (world : World) : PrivateRef → Except Problem PrivateKey
  | .text text => ((Secret.ofText text).map .curve).mapError fun fault => .failure (.key fault)
  | .named name =>
    match world.object? name with
    | some (.privateKey key) => .ok key
    | _ => .error (.noObject name)
  | .foreign key => .ok (.foreign key)

def publicKey (world : World) : PublicRef → Except Problem PublicKey
  | .text text => ((PublicKey.pointOfText text).map .curve).mapError fun fault => .failure (.key fault)
  | .named name =>
    match world.object? name with
    | some (.publicKey key) => .ok key
    | _ => .error (.noObject name)
  | .foreign key => .ok (.foreign key)
  | .ofPrivate key => do
    let key ← world.privateKey key
    (Scheme.publicKey key).mapError .failure

def signer (world : World) (name : String) : Except Problem Signer :=
  match world.object? name with
  | some (.signer signer) => .ok signer
  | _ => .error (.noObject name)

def store (world : World) : StoreRef → Except Problem KeyStore
  | .named name =>
    match world.object? name with
    | some (.store store) => .ok store
    | _ => .error (.noObject name)
  | .fresh identity => .ok ⟨world.context, identity⟩

end World

end Keyring.Session
