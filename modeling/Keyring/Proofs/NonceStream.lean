import Keyring.Bytes.Lemmas
import Keyring.Ecdsa.Nonce
import Mathlib.Data.Nat.Count

/-!
The candidates for nonces as one continued stream.

`Stream.candidate` is the stream of RFC 6979 (section 3.2) in the letters of that text, for
a private scalar and a hash value modulo `order`. The generator puts out the same stream
(`output_seeded`), and asked to pass over `skip` numbers in range it gives the candidate
before which exactly `skip` are in range (`pick_seeded_eq_some_iff`): to start anew with a
larger `skip` is to go on in the stream.
-/

namespace Keyring.Ecdsa

open Curve

/-! ## The stream -/

namespace Stream

/-- The two variables of the algorithm. -/
structure State where
  K : Bytes
  V : Bytes

/-- Steps b to g: the variables are set, and the octets of the scalar and of the reduced
hash value go into them twice. -/
def start (secret : Scalar) (hash : Nat) : State :=
  let octets := Bytes.ofNat 32 secret.val ++ Bytes.ofNat 32 (hash % order)
  let V : Bytes := List.replicate 32 0x01
  let K : Bytes := List.replicate 32 0x00
  let K := Hmac.code K (V ++ [0x00] ++ octets)
  let V := Hmac.code K V
  let K := Hmac.code K (V ++ [0x01] ++ octets)
  let V := Hmac.code K V
  ⟨K, V⟩

/-- Step h, when the candidate is not taken. -/
def next (state : State) : State :=
  let V := Hmac.code state.K state.V
  let K := Hmac.code state.K (V ++ [0x00])
  ⟨K, Hmac.code K V⟩

/-- The candidate with the given index, from zero. -/
def candidate (secret : Scalar) (hash index : Nat) : Nat :=
  let state := next^[index] (start secret hash)
  Bytes.toNat (Hmac.code state.K state.V)

end Stream

/-! ## What the generator puts out -/

namespace NonceGenerator

/-- The number drawn after `index` others. -/
def output (generator : NonceGenerator) (index : Nat) : Nat :=
  ((fun g => g.draw.2)^[index] generator).draw.1

theorem output_zero (generator : NonceGenerator) :
    generator.output 0 = generator.draw.1 := rfl

theorem output_draw (generator : NonceGenerator) (index : Nat) :
    generator.draw.2.output index = generator.output (index + 1) := rfl

/-- The generator in the state of the algorithm. -/
def ofState (state : Stream.State) : NonceGenerator := ⟨state.K, state.V⟩

theorem draw_ofState (state : Stream.State) :
    (ofState state).draw =
      (Bytes.toNat (Hmac.code state.K state.V), ofState (Stream.next state)) := rfl

theorem iterate_draw_ofState (state : Stream.State) (index : Nat) :
    (fun g : NonceGenerator => g.draw.2)^[index] (ofState state) =
      ofState (Stream.next^[index] state) := by
  induction index generalizing state with
  | zero => rfl
  | succ index ih =>
    rw [Function.iterate_succ_apply, Function.iterate_succ_apply, draw_ofState, ih]

/-- One subtraction brings a hash value below `order`. -/
theorem reduceHash_eq_mod {hash : Nat} (small : hash < 256 ^ 32) :
    reduceHash hash = hash % order := by
  have wide : 256 ^ 32 < 2 * order := by decide
  rw [reduceHash]
  split
  case isTrue reached =>
    rw [Nat.mod_eq_sub_mod reached, Nat.mod_eq_of_lt (by omega)]
  case isFalse below => rw [Nat.mod_eq_of_lt (by omega)]

theorem seeded_eq_ofState_start {secret : Scalar} {hash : Nat} (small : hash < 256 ^ 32) :
    seeded secret hash = ofState (Stream.start secret hash) := by
  rw [seeded, reduceHash_eq_mod small]
  simp only [stir, Stream.start, ofState, List.append_assoc, List.singleton_append]

theorem output_seeded {secret : Scalar} {hash : Nat} (small : hash < 256 ^ 32) (index : Nat) :
    (seeded secret hash).output index = Stream.candidate secret hash index := by
  rw [output, seeded_eq_ofState_start small, iterate_draw_ofState, draw_ofState]
  rfl

/-! ## The numbers in range before one of the output -/

/-- How many numbers in range are drawn before the one with the given index. -/
def passed (generator : NonceGenerator) (index : Nat) : Nat :=
  Nat.count (fun earlier => InRange (generator.output earlier)) index

theorem passed_zero (generator : NonceGenerator) : generator.passed 0 = 0 :=
  Nat.count_zero _

theorem passed_succ (generator : NonceGenerator) (index : Nat) :
    generator.passed (index + 1) =
      generator.draw.2.passed index + if InRange generator.draw.1 then 1 else 0 :=
  Nat.count_succ' _ index

theorem lt_passed {generator : NonceGenerator} {earlier index : Nat}
    (inRange : InRange (generator.output earlier)) (before : earlier < index) :
    generator.passed earlier < generator.passed index :=
  Nat.count_strict_mono inRange before

/-- A number in range is told by how many stand before it. -/
theorem index_eq_of_passed_eq {generator : NonceGenerator} {first second : Nat}
    (inRange : InRange (generator.output first)) (inRange' : InRange (generator.output second))
    (same : generator.passed first = generator.passed second) : first = second :=
  Nat.count_injective inRange inRange' same

/-- Every lower count belongs to a number in range before. -/
theorem exists_of_lt_passed {generator : NonceGenerator} {skip index : Nat}
    (more : skip < generator.passed index) :
    ∃ earlier < index, InRange (generator.output earlier) ∧ generator.passed earlier = skip := by
  induction index with
  | zero => exact absurd more (Nat.not_lt_zero skip)
  | succ index ih =>
    by_cases soon : skip < generator.passed index
    · obtain ⟨earlier, before, found⟩ := ih soon
      exact ⟨earlier, before.trans index.lt_succ_self, found⟩
    · rw [passed, Nat.count_succ] at more
      rw [passed] at soon
      split at more
      case isTrue inRange => exact ⟨index, index.lt_succ_self, inRange, by rw [passed]; omega⟩
      case isFalse => omega

/-! ## The search -/

theorem pick_of_not_inRange {generator : NonceGenerator} (outside : ¬InRange generator.draw.1)
    (skip : Nat) : generator.pick skip = generator.draw.2.pick skip := by
  rw [pick]
  exact if_neg outside

theorem pick_zero_of_inRange {generator : NonceGenerator} (inRange : InRange generator.draw.1) :
    generator.pick 0 = some generator.draw.1 := by
  rw [pick]
  exact if_pos inRange

theorem pick_succ_of_inRange {generator : NonceGenerator} (inRange : InRange generator.draw.1)
    (skip : Nat) : generator.pick (skip + 1) = generator.draw.2.pick skip := by
  rw [pick]
  exact if_pos inRange

/-- A number that is picked stands in the output, and exactly `skip` numbers in range stand
before it. -/
theorem output_of_pick {generator : NonceGenerator} {skip nonce : Nat}
    (picked : generator.pick skip = some nonce) :
    ∃ index, generator.output index = nonce ∧ InRange nonce ∧ generator.passed index = skip := by
  revert picked
  refine pick.partial_correctness
    (fun skip generator nonce => ∃ index, generator.output index = nonce ∧ InRange nonce ∧
      generator.passed index = skip) ?_ skip generator nonce
  -- `found` holds of the rest of the search, which goes by the output after the first draw.
  intro search found skip generator nonce picked
  by_cases inRange : InRange generator.draw.1
  · simp only [if_pos inRange] at picked
    cases skip with
    | zero =>
      cases picked
      exact ⟨0, output_zero generator, inRange, passed_zero generator⟩
    | succ skip =>
      obtain ⟨index, drawn, proper, count⟩ := found skip _ nonce picked
      rw [output_draw] at drawn
      refine ⟨index + 1, drawn, proper, ?_⟩
      rw [passed_succ, count, if_pos inRange]
  · simp only [if_neg inRange] at picked
    obtain ⟨index, drawn, proper, count⟩ := found skip _ nonce picked
    rw [output_draw] at drawn
    refine ⟨index + 1, drawn, proper, ?_⟩
    rw [passed_succ, count, if_neg inRange, Nat.add_zero]

/-- A number in range is picked by passing over those in range before it. -/
theorem pick_passed {generator : NonceGenerator} {index : Nat}
    (inRange : InRange (generator.output index)) :
    generator.pick (generator.passed index) = some (generator.output index) := by
  induction index generalizing generator with
  | zero =>
    rw [output_zero] at inRange ⊢
    exact pick_zero_of_inRange inRange
  | succ index ih =>
    rw [← output_draw] at inRange ⊢
    rw [passed_succ]
    by_cases first : InRange generator.draw.1
    · rw [if_pos first, pick_succ_of_inRange first]
      exact ih inRange
    · rw [if_neg first, Nat.add_zero, pick_of_not_inRange first]
      exact ih inRange

/-- To pass over `skip` numbers in range is to go on in the stream to the candidate before
which as many are in range. -/
theorem pick_seeded_eq_some_iff {secret : Scalar} {hash skip nonce : Nat}
    (small : hash < 256 ^ 32) :
    (seeded secret hash).pick skip = some nonce ↔
      ∃ index, Stream.candidate secret hash index = nonce ∧ InRange nonce ∧
        Nat.count (fun earlier => InRange (Stream.candidate secret hash earlier)) index = skip := by
  simp only [← output_seeded small]
  constructor
  · exact output_of_pick
  · rintro ⟨index, rfl, inRange, rfl⟩
    exact pick_passed inRange

end NonceGenerator

end Keyring.Ecdsa
