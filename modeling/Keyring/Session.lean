import Keyring.Session.World

/-!
Runs of operations in one process. `World.step` carries out one request and gives the
answer and the world after it; `World.run` does so for a list of requests. An operation
that has no answer does not stop the run and makes no object.
-/

namespace Keyring.Session

inductive KeySource where
  | text (text : String)
  | bytes (bytes : Bytes)

inductive SignerSource where
  /-- From a key store, for a name. -/
  | store (store : StoreRef) (name : Option RawText)
  /-- From a new key store, bound to a scheme of its own or to that of the process. -/
  | identity (identity : Identity) (ownScheme : Bool) (name : Option RawText)
  | key (key : PrivateRef)

inductive Operation where
  | readPrivate (source : KeySource)
  | readPublic (source : KeySource)
  | derivePublic (key : PrivateRef)
  | showPrivate (key : PrivateRef)
  | showPublic (key : PublicRef)
  /-- Compares a public key with another, or with something that is none. -/
  | compare (a : PublicRef) (b : Option PublicRef)
  | sign (message : Bytes) (key : PrivateRef)
  | signBy (message : Bytes) (signer : String)
  | verify (text : String) (message : Bytes) (key : PublicRef)
  | showScheme
  | showIdentity (identity : Identity)
  | openStore (identity : Identity)
  | chooseName (store : StoreRef) (name : Option RawText)
  | keyPath (store : StoreRef) (name : RawText)
  /-- Loads the key in a file, which may be taken to be there without looking. -/
  | loadFile (store : StoreRef) (path : RawText) (unseen : Bool)
  | loadKey (store : StoreRef) (name : Option RawText)
  | newSigner (source : SignerSource)
  | signerKey (signer : String)
  /-- Asks for the settings, kept or read afresh. -/
  | settings (fresh : Bool)
  | clearSettings
  | commandLine (words : List RawText) (input : Bytes)
  | write (path : RawText) (content : Bytes)
  | makeDirectory (path : RawText)
  | remove (path : RawText)
  | setVariable (name value : String)
  | unsetVariable (name : String)

/-- An operation, and the name for the object it makes. -/
structure Request where
  operation : Operation
  name : Option String

inductive Reply where
  | done
  | privateKey (key : PrivateKey)
  | publicKey (key : PublicKey)
  /-- The public key of a signer, and whether asking again gives the same object. -/
  | signerKey (key : PublicKey) (kept : Bool)
  | equality (equal : Bool)
  | signature (text : String)
  | validity (valid : Bool)
  | scheme (algorithm shown : String)
  | identity (user osUser : Option String) (home : Option Path)
  | name (name : RawText)
  | path (path : Path)
  /-- A new signer: how it and its scheme show themselves, whether this is the scheme of
  the process, and the signer's public key. -/
  | signer (shown scheme : String) (sameScheme : Bool) (key : PublicKey)
  /-- The settings, and whether asking again gives the same object. -/
  | settings (settings : Settings) (kept : Bool)
  | outcome (outcome : CommandLine.Outcome)

/-- A reply or a problem, with the records of the log. -/
structure Answer where
  records : List Record
  result : Except Problem Reply

namespace Answer

def plain (result : Except Problem Reply) : Answer :=
  ⟨[], result⟩

end Answer

namespace World

/-! ## Keys and signatures -/

/-- Names a private key and replies with it. -/
def replyPrivate (world : World) (name : Option String) (key : PrivateKey) : World × Reply :=
  (world.call name (.privateKey key), .privateKey key)

/-- Names a public key and replies with it. -/
def replyPublic (world : World) (name : Option String) (key : PublicKey) : World × Reply :=
  (world.call name (.publicKey key), .publicKey key)

def readPrivate (source : KeySource) : Except Problem PrivateKey :=
  let read := match source with
    | .text text => Secret.ofText text
    | .bytes bytes => Secret.ofBytes bytes
  (read.map .curve).mapError fun fault => .failure (.key fault)

def readPublic (source : KeySource) : Except Problem PublicKey :=
  let read := match source with
    | .text text => PublicKey.pointOfText text
    | .bytes bytes => PublicKey.pointOfBytes bytes
  (read.map .curve).mapError fun fault => .failure (.key fault)

/-- Compares public keys; something that is no public key is none of them. -/
def compare (world : World) (a : PublicRef) (b : Option PublicRef) : Except Problem Reply := do
  let a ← world.publicKey a
  match b with
  | none => return .equality false
  | some b => return .equality (a.same (← world.publicKey b))

def sign (world : World) (message : Bytes) (key : PrivateRef) : Except Problem Reply := do
  let key ← world.privateKey key
  let text ← (Scheme.sign key message).mapError .failure
  return .signature text

def signBy (world : World) (message : Bytes) (name : String) : Except Problem Reply := do
  let signer ← world.signer name
  let text ← (signer.sign message).mapError .failure
  return .signature text

/-! ## Keys from stores -/

/-- The world and the answer after a logged computation. A result is taken over by
`next`; a failure leaves the world as it is. -/
def finish {α : Type} (world : World) (logged : Logged α) (next : α → World × Reply) :
    World × Answer :=
  match logged.result with
  | .ok value =>
    let (after, reply) := next value
    (after, ⟨logged.records, .ok reply⟩)
  | .error failure => (world, ⟨logged.records, .error (.failure failure)⟩)

/-- Carries out a logged computation with a store. -/
def withStore {α : Type} (world : World) (ref : StoreRef) (logged : KeyStore → Logged α)
    (next : α → World × Reply) : World × Answer :=
  match world.store ref with
  | .error problem => (world, .plain (.error problem))
  | .ok store => world.finish (logged store) next

/-- The world and the answer after a computation without a log. -/
def settle {α : Type} (world : World) (result : Except Problem α) (next : α → World × Reply) :
    World × Answer :=
  match result with
  | .ok value =>
    let (after, reply) := next value
    (after, .plain (.ok reply))
  | .error problem => (world, .plain (.error problem))

def makeSigner (world : World) (source : SignerSource) : Except Problem (Logged Signer) :=
  match source with
  | .store ref name => do
    let store ← world.store ref
    return store.signer world.host name
  | .identity identity ownScheme name =>
    let context := if ownScheme then ⟨world.clock, ()⟩ else world.context
    .ok (KeyStore.signer ⟨context, identity⟩ world.host name)
  | .key ref => do
    let key ← world.privateKey ref
    return pure (Signer.ofKey world.context key)

/-- Makes a signer, names it, and asks it for its public key. -/
def newSigner (world : World) (name : Option String) (source : SignerSource) : World × Answer :=
  match world.makeSigner source with
  | .error problem => (world, .plain (.error problem))
  | .ok made =>
    match made.result with
    | .error failure => (world, ⟨made.records, .error (.failure failure)⟩)
    | .ok signer =>
      match signer.publicKey world.clock with
      | .error failure =>
        (world.call name (.signer signer), ⟨made.records, .error (.failure failure)⟩)
      | .ok (key, signer) =>
        let reply := Reply.signer signer.shown Scheme.shown
          (signer.context == world.context) key.value
        (world.call name (.signer signer), ⟨made.records, .ok reply⟩)

/-- Asks a signer for its public key twice. -/
def signerKey (world : World) (name : Option String) (signerName : String) :
    Except Problem (World × Reply) := do
  let signer ← world.signer signerName
  let (key, signer) ← (signer.publicKey world.clock).mapError .failure
  let (again, signer) ← (signer.publicKey (world.clock + 1)).mapError .failure
  let after := world.call (some signerName) (.signer signer)
  return (after.call name (.publicKey key.value), .signerKey key.value (key.mark == again.mark))

/-! ## Settings and the command line -/

/-- Asks for the settings, and for kept ones a second time. -/
def settings (world : World) (fresh : Bool) : World × Answer :=
  if fresh then
    match (Settings.read world.host).result with
    | .ok settings => (world, .plain (.ok (.settings settings false)))
    | .error fault => (world, .plain (.error (.failure (.settings fault))))
  else
    let first := Settings.get world.cache world.clock world.host
    match first.result with
    | .error fault => (world, .plain (.error (.failure (.settings fault))))
    | .ok settings =>
      let second := Settings.get first.cache (world.clock + 1) world.host
      let same := match second.result with
        | .ok again => again.mark == settings.mark
        | .error _ => false
      ({ world with cache := second.cache }, .plain (.ok (.settings settings.value same)))

def commandLine (world : World) (words : List RawText) (input : Bytes) : World × Answer :=
  let (outcome, cache) := CommandLine.run world.host world.cache world.clock words input
  ({ world with cache := cache }, .plain (.ok (.outcome outcome)))

/-! ## One operation after another -/

/-- Carries out an operation, which may take the marks from the world's clock on. -/
def carryOut (world : World) (request : Request) : World × Answer :=
  let name := request.name
  match request.operation with
  | .readPrivate source => world.settle (readPrivate source) (world.replyPrivate name)
  | .readPublic source => world.settle (readPublic source) (world.replyPublic name)
  | .derivePublic key => world.settle (world.publicKey (.ofPrivate key)) (world.replyPublic name)
  | .showPrivate key => world.settle (world.privateKey key) fun key => (world, .privateKey key)
  | .showPublic key => world.settle (world.publicKey key) fun key => (world, .publicKey key)
  | .compare a b => world.settle (world.compare a b) fun reply => (world, reply)
  | .sign message key => world.settle (world.sign message key) fun reply => (world, reply)
  | .signBy message signer =>
    world.settle (world.signBy message signer) fun reply => (world, reply)
  | .verify text message key =>
    match world.publicKey key with
    | .error problem => (world, .plain (.error problem))
    | .ok key => world.finish (Scheme.verify key message text) fun valid => (world, .validity valid)
  | .showScheme => (world, .plain (.ok (.scheme algorithmName Scheme.shown)))
  | .showIdentity identity =>
    let asked : Logged (Option Path × Option String) := do
      let home ← identity.home world.host
      let osUser ← identity.systemName world.host
      return (home, osUser)
    world.finish asked fun (home, osUser) =>
      (world, .identity (identity.environmentName world.host) osUser home)
  | .openStore identity => (world.call name (.store ⟨world.context, identity⟩), .plain (.ok .done))
  | .chooseName store given =>
    world.withStore store (·.chooseName world.host given) fun name => (world, .name name)
  | .keyPath store keyName =>
    world.withStore store (·.keyPath world.host keyName) fun path => (world, .path path)
  | .loadFile store path unseen =>
    let path := Path.ofText path
    world.withStore store
      (fun _ =>
        if unseen then KeyStore.readKey world.files.disk path
        else KeyStore.loadFile world.files.disk path)
      (world.replyPrivate name)
  | .loadKey store keyName =>
    world.withStore store (·.loadKey world.host keyName) (world.replyPrivate name)
  | .newSigner source => world.newSigner name source
  | .signerKey signer => world.settle (world.signerKey name signer) id
  | .settings fresh => world.settings fresh
  | .clearSettings => ({ world with cache := none }, .plain (.ok .done))
  | .commandLine words input => world.commandLine words input
  | .write path content =>
    ({ world with files := world.files.writeFile (Path.ofText path) content },
      .plain (.ok .done))
  | .makeDirectory path =>
    ({ world with files := world.files.makeDirectory (Path.ofText path) }, .plain (.ok .done))
  | .remove path =>
    ({ world with files := world.files.remove (Path.ofText path) }, .plain (.ok .done))
  | .setVariable target value =>
    ({ world with environment := world.environment.set target value }, .plain (.ok .done))
  | .unsetVariable target =>
    ({ world with environment := world.environment.unset target }, .plain (.ok .done))

/-- Carries out one request. The clock goes on by as many marks as an operation takes. -/
def step (world : World) (request : Request) : World × Answer :=
  let (after, answer) := world.carryOut request
  ({ after with clock := world.clock + 2 }, answer)

def run (world : World) : List Request → World × List Answer
  | [] => (world, [])
  | request :: rest =>
    let (after, answer) := world.step request
    let (last, answers) := after.run rest
    (last, answer :: answers)

end World

end Keyring.Session
