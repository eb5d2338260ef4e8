import Keyring.Proofs.RunResult
import Keyring.Session.Lemmas

/-!
Signers and key stores over a run of requests.

A signer is bound to the key that was read when it was made. Of all requests, only one that asks
it for its public key can change it, and none unbinds it (`bound_after`), so it answers for that
key throughout (`answersFor_of_bound`). Once it has given its public key it stays as it is
(`signer_after`). A store is bound to no more than its identity: what it loads depends on its
surroundings at the time (`answer_loadKey`, `answer_newSigner`).
-/

namespace Keyring

/-! ## Signers that have been asked -/

namespace Signer

/-- A signer that was asked for its public key when the mark was given out. -/
def asked (context : Context) (key : PrivateKey) (mark : Nat) : Signer :=
  ⟨context, key, (Scheme.publicKey key).toOption.map (⟨mark, ·⟩)⟩

theorem publicKey_ofKey (context : Context) (key : PrivateKey) (mark : Nat) :
    (ofKey context key).publicKey mark =
      (Scheme.publicKey key).map fun value => (⟨mark, value⟩, asked context key mark) := by
  rw [ofKey, publicKey, asked]
  cases Scheme.publicKey key <;> rfl

theorem publicKey_asked (context : Context) (key : PrivateKey) (mark mark' : Nat) :
    (asked context key mark).publicKey mark' =
      (Scheme.publicKey key).map fun value => (⟨mark, value⟩, asked context key mark) := by
  rw [asked, publicKey]
  dsimp only
  cases Scheme.publicKey key <;> rfl

/-- A signer that asking for the public key leaves as it is. -/
def Settled (signer : Signer) : Prop :=
  ∀ mark key after, signer.publicKey mark = .ok (key, after) → after = signer

theorem settled_asked (context : Context) (key : PrivateKey) (mark : Nat) :
    (asked context key mark).Settled := by
  intro mark' given after answered
  rw [publicKey_asked] at answered
  cases made : Scheme.publicKey key with
  | ok value => rw [made] at answered; cases answered; rfl
  | error failure => rw [made] at answered; cases answered

theorem settled_of_publicKey {signer after : Signer} {mark : Nat} {key : Marked PublicKey}
    (answered : signer.publicKey mark = .ok (key, after)) : after.Settled := by
  intro mark' key' after' again
  rw [publicKey_again answered] at again
  cases again
  rfl

/-- A signer that is bound to a key: the public key that it keeps, if any, belongs to it. -/
structure Bound (signer : Signer) (key : PrivateKey) : Prop where
  key_eq : signer.key = key
  belongs : ∀ kept, signer.kept = some kept → Scheme.publicKey key = .ok kept.value

theorem bound_asked (context : Context) (key : PrivateKey) (mark : Nat) :
    (asked context key mark).Bound key := by
  refine ⟨rfl, fun kept keeps => ?_⟩
  change (Scheme.publicKey key).toOption.map _ = some kept at keeps
  cases made : Scheme.publicKey key with
  | ok value => rw [made] at keeps; cases keeps; rfl
  | error failure => rw [made] at keeps; cases keeps

/-- A signer gives the public key that belongs to its key, and keeps one that does. -/
theorem Bound.publicKey {signer : Signer} {key : PrivateKey} (bound : signer.Bound key)
    (mark : Nat) :
    (∃ given after, signer.publicKey mark = .ok (given, after) ∧
      Scheme.publicKey key = .ok given.value ∧ after.Bound key) ∨
    ∃ failure, signer.publicKey mark = .error failure ∧ Scheme.publicKey key = .error failure := by
  obtain ⟨rfl, belongs⟩ := bound
  rw [Signer.publicKey]
  cases keeps : signer.kept with
  | some kept => exact .inl ⟨kept, signer, rfl, belongs kept keeps, rfl, belongs⟩
  | none =>
    cases made : Scheme.publicKey signer.key with
    | error failure => exact .inr ⟨failure, rfl, rfl⟩
    | ok value =>
      refine .inl ⟨⟨mark, value⟩, _, rfl, rfl, rfl, fun kept same => ?_⟩
      cases same
      exact made

theorem Bound.after {signer after : Signer} {key : PrivateKey} {mark : Nat}
    {given : Marked PublicKey} (bound : signer.Bound key)
    (asked : signer.publicKey mark = .ok (given, after)) : after.Bound key := by
  rcases bound.publicKey mark with ⟨given', after', asked', -, bound'⟩ | ⟨failure, failed, -⟩
  · cases asked.symm.trans asked'
    exact bound'
  · cases asked.symm.trans failed

end Signer

namespace Session.World

variable {world : World} {name : String} {requests : List Request}

/-- Requests that give a name to nothing else. -/
def Leave (name : String) (requests : List Request) : Prop :=
  ∀ request ∈ requests, request.name ≠ some name

/-! ## Objects over a run -/

/-- What holds of the object of a name, and is preserved where it is a signer that is asked for
its public key, holds after every request that gives the name to nothing else. -/
theorem object?_step {P : Object → Prop} {object : Object} {request : Request}
    (asks : ∀ signer mark key after, P (.signer signer) →
      signer.publicKey mark = .ok (key, after) → P (.signer after))
    (found : world.object? name = some object) (holds : P object)
    (free : request.name ≠ some name) :
    ∃ object, (world.step request).1.object? name = some object ∧ P object := by
  rcases (change_carryOut world request).object_eq free with
    same | ⟨signer, key, after, found', asked, now⟩
  · exact ⟨object, same.trans found, holds⟩
  · cases found.symm.trans found'
    exact ⟨.signer after, now, asks signer world.clock key after holds asked⟩

theorem object?_after {P : Object → Prop} {object : Object}
    (asks : ∀ signer mark key after, P (.signer signer) →
      signer.publicKey mark = .ok (key, after) → P (.signer after))
    (found : world.object? name = some object) (holds : P object) (leave : Leave name requests) :
    ∃ object, (world.after requests).object? name = some object ∧ P object := by
  induction requests generalizing world object with
  | nil => exact ⟨object, found, holds⟩
  | cons request rest ih =>
    rw [Leave, List.forall_mem_cons] at leave
    obtain ⟨object', found', holds'⟩ := object?_step asks found holds leave.1
    exact ih found' holds' leave.2

theorem signer_after {signer : Signer} (found : world.object? name = some (.signer signer))
    (settled : signer.Settled) (leave : Leave name requests) :
    (world.after requests).object? name = some (.signer signer) := by
  obtain ⟨_, found', rfl⟩ := object?_after (P := (· = .signer signer))
    (fun _ _ _ _ same asked => by cases same; rw [settled _ _ _ asked]) found rfl leave
  exact found'

theorem store_after {store : KeyStore} (found : world.object? name = some (.store store))
    (leave : Leave name requests) :
    (world.after requests).object? name = some (.store store) := by
  obtain ⟨_, found', rfl⟩ := object?_after (P := (· = .store store))
    (fun _ _ _ _ same _ => by cases same) found rfl leave
  exact found'

/-- Being a signer that is bound to a key. -/
def BoundTo (key : PrivateKey) : Object → Prop
  | .signer signer => signer.Bound key
  | _ => False

theorem bound_after {signer : Signer} {key : PrivateKey}
    (found : world.object? name = some (.signer signer)) (bound : signer.Bound key)
    (leave : Leave name requests) :
    ∃ later, (world.after requests).object? name = some (.signer later) ∧ later.Bound key := by
  obtain ⟨object, found', bound'⟩ := object?_after (P := BoundTo key)
    (fun _ _ _ _ bound asked => Signer.Bound.after bound asked) found bound leave
  cases object with
  | signer later => exact ⟨later, found', bound'⟩
  | _ => cases bound'

/-! ## What a signer answers -/

/-- The signatures and the public key that the signer of a name gives are those that the scheme
makes with a key. -/
structure AnswersFor (world : World) (name : String) (key : PrivateKey) : Prop where
  sign : ∀ message as, (world.step ⟨.signBy message name, as⟩).2 =
    .plain (((Scheme.sign key message).map .signature).mapError .failure)
  publicKey : ∀ as, (world.step ⟨.signerKey name, as⟩).2 =
    .plain (((Scheme.publicKey key).map (.signerKey · true)).mapError .failure)

theorem answer_settle {α : Type} (world : World) (result : Except Problem α)
    (next : α → World × Reply) :
    (world.settle result next).2 = .plain (result.map fun value => (next value).2) := by
  cases result <;> rfl

theorem answersFor_of_bound {signer : Signer} {key : PrivateKey}
    (found : world.object? name = some (.signer signer)) (bound : signer.Bound key) :
    world.AnswersFor name key := by
  have found := signer_eq_ok_iff.mpr found
  refine ⟨fun message as => ?_, fun as => ?_⟩
  · change (world.settle (world.signBy message name) fun reply => (world, reply)).2 = _
    rw [answer_settle, signBy, found, ← bound.key_eq]
    change Answer.plain (Except.map _ (((Scheme.sign signer.key message).mapError .failure).bind _))
      = _
    cases Scheme.sign signer.key message <;> rfl
  · change (world.settle (world.signerKey as name) id).2 = _
    rw [answer_settle, signerKey_eq found]
    rcases bound.publicKey world.clock with ⟨given, after, asked, made, -⟩ | ⟨failure, failed, made⟩
    · rw [asked, made]
      rfl
    · rw [failed, made]
      rfl

/-! ## Making a signer -/

/-- The private key that making a signer reads, and the scheme that the signer is bound to. -/
inductive Reads (world : World) : SignerSource → Context → PrivateKey → Prop
  | store {ref : StoreRef} {store : KeyStore} {given : Option RawText} {key : PrivateKey}
    (found : world.store ref = .ok store)
    (loaded : (store.loadKey world.host given).result = .ok key) :
    Reads world (.store ref given) store.context key
  | identity {identity : Identity} {ownScheme : Bool} {given : Option RawText} {key : PrivateKey}
    {context : Context} (scheme : context = if ownScheme then ⟨world.clock, ()⟩ else world.context)
    (loaded : (KeyStore.loadKey ⟨context, identity⟩ world.host given).result = .ok key) :
    Reads world (.identity identity ownScheme given) context key
  | key {ref : PrivateRef} {key : PrivateKey} (read : world.privateKey ref = .ok key) :
    Reads world (.key ref) world.context key

variable {source : SignerSource} {context : Context} {key : PrivateKey}

/-- A signer is made of a key that is read, and of nothing else. -/
theorem makeSigner_eq_ok_iff {signer : Signer} :
    (∃ made, world.makeSigner source = .ok made ∧ made.result = .ok signer) ↔
      ∃ context key, world.Reads source context key ∧ signer = .ofKey context key := by
  constructor
  · rintro ⟨made, making, done⟩
    cases source with
    | store ref given =>
      cases found : world.store ref with
      | error problem => rw [makeSigner, found] at making; cases making
      | ok store =>
        rw [makeSigner, found] at making
        cases making
        obtain ⟨secret, loaded, bound⟩ := KeyStore.signer_eq_ok_iff.mp done
        exact ⟨store.context, .curve secret, .store found loaded, bound⟩
    | identity identity ownScheme given =>
      cases making
      obtain ⟨secret, loaded, bound⟩ := KeyStore.signer_eq_ok_iff.mp done
      exact ⟨_, .curve secret, .identity rfl loaded, bound⟩
    | key ref =>
      cases read : world.privateKey ref with
      | error problem => rw [makeSigner, read] at making; cases making
      | ok key =>
        rw [makeSigner, read] at making
        cases making
        cases done
        exact ⟨world.context, key, .key read, rfl⟩
  · rintro ⟨context, key, reads, rfl⟩
    cases reads with
    | @store ref store given key found loaded =>
      obtain ⟨secret, rfl⟩ := KeyStore.exists_secret_of_loadKey loaded
      refine ⟨store.signer world.host given, ?_,
        KeyStore.signer_eq_ok_iff.mpr ⟨secret, loaded, rfl⟩⟩
      rw [makeSigner, found]
      rfl
    | @identity identity ownScheme given key context scheme loaded =>
      obtain ⟨secret, rfl⟩ := KeyStore.exists_secret_of_loadKey loaded
      refine ⟨KeyStore.signer ⟨context, identity⟩ world.host given, ?_,
        KeyStore.signer_eq_ok_iff.mpr ⟨secret, loaded, rfl⟩⟩
      rw [makeSigner, scheme]
    | key read =>
      refine ⟨pure (.ofKey world.context key), ?_, rfl⟩
      rw [makeSigner, read]
      rfl

/-- A new signer has been asked for its public key once, when its making is answered. -/
theorem object?_newSigner (reads : world.Reads source context key) (name : String) :
    (world.step ⟨.newSigner source, some name⟩).1.object? name =
      some (.signer (.asked context key world.clock)) := by
  obtain ⟨made, making, done⟩ := makeSigner_eq_ok_iff.mpr ⟨context, key, reads, rfl⟩
  change (world.newSigner (some name) source).1.object? name = _
  rw [newSigner, making]
  dsimp only
  rw [done]
  dsimp only
  rw [Signer.publicKey_ofKey]
  cases shown : Scheme.publicKey key with
  | ok value => exact object?_call_self ..
  | error failure =>
    have unasked : Signer.asked context key world.clock = .ofKey context key := by
      rw [Signer.asked, shown]
      rfl
    rw [unasked]
    exact object?_call_self ..

/-! ## What a store loads -/

/-- What is answered to the making of a signer of the process's own scheme from a key that is
loaded. -/
def answerToSigner (loaded : Logged PrivateKey) : Answer where
  records := loaded.records
  result := (loaded.result.bind fun key => (Scheme.publicKey key).map fun value =>
    .signer (Signer.ofKey ⟨0, ()⟩ key).shown Scheme.shown true value).mapError .failure

section Store

variable {ref : StoreRef} {identity : Identity}
  (found : world.store ref = .ok ⟨world.context, identity⟩)

include found

theorem answer_loadKey (given : Option RawText) (as : Option String) :
    (world.step ⟨.loadKey ref given, as⟩).2 =
      let loaded := KeyStore.loadKey ⟨⟨0, ()⟩, identity⟩ world.host given
      ⟨loaded.records, (loaded.result.map .privateKey).mapError .failure⟩ := by
  change (world.withStore ref (·.loadKey world.host given) (world.replyPrivate as)).2 = _
  rw [withStore, found]
  -- The scheme of a store takes no part in loading.
  change (world.finish (KeyStore.loadKey ⟨⟨0, ()⟩, identity⟩ world.host given) _).2 = _
  rw [finish]
  dsimp only
  cases (KeyStore.loadKey ⟨⟨0, ()⟩, identity⟩ world.host given).result <;> rfl

theorem answer_newSigner (given : Option RawText) (as : Option String) :
    (world.step ⟨.newSigner (.store ref given), as⟩).2 =
      answerToSigner (KeyStore.loadKey ⟨⟨0, ()⟩, identity⟩ world.host given) := by
  have made : world.makeSigner (.store ref given) =
      .ok (KeyStore.signer ⟨world.context, identity⟩ world.host given) := by
    rw [makeSigner, found]
    rfl
  rw [KeyStore.signer_eq] at made
  change world.makeSigner _ = .ok ⟨(KeyStore.loadKey ⟨⟨0, ()⟩, identity⟩ world.host given).records,
    (KeyStore.loadKey ⟨⟨0, ()⟩, identity⟩ world.host given).result.map _⟩ at made
  change (world.newSigner as (.store ref given)).2 = _
  rw [newSigner, made, answerToSigner]
  dsimp only
  cases (KeyStore.loadKey ⟨⟨0, ()⟩, identity⟩ world.host given).result with
  | error failure => rfl
  | ok key =>
    simp only [Except.map, Signer.publicKey_ofKey, Except.bind]
    cases Scheme.publicKey key with
    | error failure => rfl
    | ok value =>
      simp only [Signer.asked, beq_self_eq_true]
      rfl

theorem reads_store_iff (given : Option RawText) (key : PrivateKey) :
    (∃ context, world.Reads (.store ref given) context key) ↔
      (KeyStore.loadKey ⟨⟨0, ()⟩, identity⟩ world.host given).result = .ok key := by
  constructor
  · rintro ⟨context, reads⟩
    cases reads with
    | store found' loaded =>
      cases found.symm.trans found'
      exact loaded
  · intro loaded
    exact ⟨_, .store found loaded⟩

end Store

/-- A store keeps its identity, and the scheme of the process, for ever. -/
theorem store_openStore_after (world : World) (identity : Identity)
    (leave : Leave name requests) :
    let there := (world.step ⟨.openStore identity, some name⟩).1.after requests
    there.store (.named name) = .ok ⟨there.context, identity⟩ := by
  intro there
  have context : there.context = world.context := by rw [context_after, context_step]
  rw [context, store_eq_ok_iff]
  exact store_after (object?_call_self world name (.store ⟨world.context, identity⟩)) leave

/-- The signer that was made under a name, after requests that give the name to nothing else. -/
theorem signer_newSigner_after (reads : world.Reads source context key)
    (leave : Leave name requests) :
    ((world.step ⟨.newSigner source, some name⟩).1.after requests).object? name =
      some (.signer (.asked context key world.clock)) :=
  signer_after (object?_newSigner reads name) (Signer.settled_asked context key world.clock) leave

/-! ## Whole runs -/

/-- After any requests that give its name to nothing else, a signer answers as the scheme does
for the one key that was read when it was made, and is the same as when its making was answered,
with the public key that it gave then. So does any signer that is bound to a key, asked for its
public key or not; from the first time that it gives one, it is always the same. A signer of a
foreign key answers with a type error, and keeps nothing. A store answers as a new one of
the same identity does in any world with the same surroundings, and reads the same keys for
signers. -/
theorem signers_stay_and_stores_follow (world : World) (leave : Leave name requests) :
    (∀ source context key, world.Reads source context key →
      let there := (world.step ⟨.newSigner source, some name⟩).1.after requests
      there.AnswersFor name key ∧
        there.signer name = .ok (.asked context key world.clock) ∧
        ∀ mark, (Signer.asked context key world.clock).publicKey mark =
          (Scheme.publicKey key).map fun value =>
            (⟨world.clock, value⟩, .asked context key world.clock)) ∧
    (∀ signer key, world.signer name = .ok signer → signer.Bound key →
      (world.after requests).AnswersFor name key) ∧
    (∀ signer key after as, as ≠ some name → world.signer name = .ok signer →
      signer.publicKey world.clock = .ok (key, after) →
      let there := (world.step ⟨.signerKey name, as⟩).1.after requests
      there.signer name = .ok after ∧ ∀ mark, after.publicKey mark = .ok (key, after)) ∧
    (∀ source context foreign, world.Reads source context (.foreign foreign) →
      let there := (world.step ⟨.newSigner source, some name⟩).1.after requests
      ∃ failure, failure.name = "TypeError" ∧
        (∀ message as, (there.step ⟨.signBy message name, as⟩).2 =
          .plain (.error (.failure failure))) ∧
        (∀ as, (there.step ⟨.signerKey name, as⟩).2 = .plain (.error (.failure failure))) ∧
        there.signer name = .ok (.ofKey context (.foreign foreign))) ∧
    ∀ identity,
      let there := (world.step ⟨.openStore identity, some name⟩).1.after requests
      ∀ other : World, other.host = there.host → ∀ given as as',
        (there.step ⟨.loadKey (.named name) given, as⟩).2 =
          (other.step ⟨.loadKey (.fresh identity) given, as'⟩).2 ∧
        (there.step ⟨.newSigner (.store (.named name) given), as⟩).2 =
          (other.step ⟨.newSigner (.store (.fresh identity) given), as'⟩).2 ∧
        ∀ key, (∃ context, there.Reads (.store (.named name) given) context key) ↔
          ∃ context, other.Reads (.store (.fresh identity) given) context key := by
  refine ⟨fun source context key reads => ?_, fun signer key found bound => ?_,
    fun signer key after as free found asked => ?_, fun source context foreign reads => ?_,
    fun identity => ?_⟩
  · have found := signer_newSigner_after reads leave
    exact ⟨answersFor_of_bound found (Signer.bound_asked ..), signer_eq_ok_iff.mpr found,
      Signer.publicKey_asked context key world.clock⟩
  · obtain ⟨later, found', bound'⟩ := bound_after (signer_eq_ok_iff.mp found) bound leave
    exact answersFor_of_bound found' bound'
  · refine ⟨signer_eq_ok_iff.mpr (signer_after ?_ (Signer.settled_of_publicKey asked) leave),
      Signer.publicKey_again asked⟩
    change (world.settle (world.signerKey as name) id).1.object? name = _
    rw [signerKey_eq found, asked]
    change (World.call _ as _).object? name = _
    rw [object?_call_of_ne free]
    exact object?_call_self ..
  · have found := signer_newSigner_after reads leave
    obtain ⟨signs, shows⟩ := answersFor_of_bound found (Signer.bound_asked ..)
    exact ⟨.foreignPrivate foreign.algorithm, rfl, signs, shows, signer_eq_ok_iff.mpr found⟩
  · intro there other same given as as'
    have found : there.store (.named name) = .ok ⟨there.context, identity⟩ :=
      store_openStore_after world identity leave
    have fresh : other.store (.fresh identity) = .ok ⟨other.context, identity⟩ := rfl
    refine ⟨?_, ?_, fun key => ?_⟩
    · rw [answer_loadKey found, answer_loadKey fresh, same]
    · rw [answer_newSigner found, answer_newSigner fresh, same]
    · rw [reads_store_iff found, reads_store_iff fresh, same]

/-- A signer of a user's key stays as it is when the key's file is removed. -/
theorem signers_stay_and_stores_follow_alice :
    let one : Secret := ⟨1, by decide⟩
    let tree := FileTree.aliceTree (Utf8.encode (PrivateKey.curve one).hex)
    let world : World := ⟨[("HOME", "/home")], none, 0, tree, none, [], ⟨0, ()⟩, 1⟩
    let source : SignerSource := .identity (.process none) false (some "alice")
    let requests : List Request := [⟨.remove "/home/.sawtooth/keys/alice.priv", none⟩]
    let there := (world.step ⟨.newSigner source, some "signer"⟩).1.after requests
    Leave "signer" requests ∧ world.Reads source ⟨0, ()⟩ (.curve one) ∧
      there.signer "signer" = .ok (.asked ⟨0, ()⟩ (.curve one) 1) := by
  intro one tree world source requests there
  have leave : Leave "signer" requests := by
    intro request member
    rw [List.mem_singleton.mp member]
    simp
  have filed : tree.disk.entry FileTree.aliceFile =
      .ok (.file (Utf8.encode (PrivateKey.curve one).hex)) :=
    FileTree.entry_aliceFile _
  have leads : KeyStore.LeadsTo ⟨⟨0, ()⟩, .process none⟩ world.host (some "alice")
      FileTree.aliceFile := ⟨"alice", rfl, rfl⟩
  have loaded : (KeyStore.loadKey ⟨⟨0, ()⟩, .process none⟩ world.host (some "alice")).result =
      .ok (.curve one) :=
    KeyStore.result_loadKey_of_holdsKey leads rfl filed (Bytes.holdsKey_hex one)
  have reads : world.Reads source ⟨0, ()⟩ (.curve one) := .identity rfl loaded
  exact ⟨leave, reads, ((signers_stay_and_stores_follow world leave).1 _ _ _ reads).2.1⟩

end Session.World

end Keyring
