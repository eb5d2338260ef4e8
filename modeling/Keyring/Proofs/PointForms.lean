import Keyring.Proofs.PointEncoding

/-!
Which bytes are read as a point, and as a public key.

A finite point is written in one of four forms (`Form`), and `Form.write` says what its
bytes are. Reading accepts exactly what is written so, for points of the curve
(`decodePoint_eq_ok_iff`): coordinates that are not reduced, a form byte that contradicts the
ordinate and a length that no form has are all refused. A key that has been read writes
the compressed form of its point, which is read as the key again
(`pointOfBytes_eq_ok_iff_written`).
-/

namespace Keyring.Curve

/-! ## Forms -/

/-- How a finite point is written. -/
inductive Form where
  /-- The two coordinates alone. -/
  | raw
  /-- The two coordinates behind the form byte `04`. -/
  | uncompressed
  /-- The two coordinates behind a form byte that tells the parity of the ordinate. -/
  | hybrid
  /-- The abscissa behind a form byte that tells the parity of the ordinate. -/
  | compressed
  deriving DecidableEq, Repr

/-- The bytes of a coordinate, the most significant first. -/
def coordinateBytes (x : Coordinate) : Bytes :=
  Bytes.ofNat coordinateSize x.val

namespace Form

/-- The bytes that write the point with the given coordinates in a form. -/
def write (x y : Coordinate) : Form → Bytes
  | raw => coordinateBytes x ++ coordinateBytes y
  | uncompressed => 4 :: (coordinateBytes x ++ coordinateBytes y)
  | hybrid => (if y.val % 2 = 0 then 6 else 7) :: (coordinateBytes x ++ coordinateBytes y)
  | compressed => (if y.val % 2 = 0 then 2 else 3) :: coordinateBytes x

end Form

/-! ## Coordinates -/

@[simp] theorem length_coordinateBytes (x : Coordinate) :
    (coordinateBytes x).length = coordinateSize :=
  Bytes.length_ofNat _ _

theorem length_coordinateBytes_append (x y : Coordinate) :
    (coordinateBytes x ++ coordinateBytes y).length = 2 * coordinateSize := by
  rw [List.length_append, length_coordinateBytes, length_coordinateBytes, two_mul]

@[simp] theorem toNat_coordinateBytes (x : Coordinate) : Bytes.toNat (coordinateBytes x) = x.val :=
  Bytes.toNat_ofNat (coordinate_lt x)

/-- Bytes of the right number that write a coordinate are the bytes of that coordinate. -/
theorem eq_coordinateBytes {bytes : Bytes} {x : Coordinate} (length : bytes.length = coordinateSize)
    (value : x.val = Bytes.toNat bytes) : bytes = coordinateBytes x := by
  rw [coordinateBytes, value, ← length, Bytes.ofNat_toNat]

/-- Two coordinates are read off bytes that write the one behind the other. -/
theorem coordinates_eq_iff {bytes : Bytes} {x y : Coordinate} :
    (bytes.length = 2 * coordinateSize ∧ coordinates bytes = (x.val, y.val)) ↔
      bytes = coordinateBytes x ++ coordinateBytes y := by
  rw [coordinates, Prod.mk.injEq, Bytes.halves_eq_iff]
  exact and_iff_left ⟨coordinate_lt x, coordinate_lt y⟩

theorem coordinates_append (x y : Coordinate) :
    coordinates (coordinateBytes x ++ coordinateBytes y) = (x.val, y.val) :=
  (coordinates_eq_iff.mpr rfl).2

/-- Bytes of two coordinates are the bytes of the one behind those of the other. -/
theorem eq_append_of_coordinates {bytes : Bytes} {x y : Coordinate}
    (length : bytes.length = 2 * coordinateSize)
    (values : coordinates bytes = (x.val, y.val)) :
    bytes = coordinateBytes x ++ coordinateBytes y :=
  coordinates_eq_iff.mp ⟨length, values⟩

/-- A pair of numbers is taken as a point when it is reduced and lies on the curve. -/
theorem finitePoint_eq_ok_iff {x y : Nat} {point : Point} :
    finitePoint x y = .ok point ↔
      ∃ a b : Coordinate, a.val = x ∧ b.val = y ∧ point = .affine a b ∧ point.OnCurve := by
  constructor
  · intro read
    rw [finitePoint] at read
    split at read
    case isFalse => cases read
    case isTrue reduced =>
      dsimp only at read
      split at read
      case isFalse => cases read
      case isTrue onCurve =>
        cases read
        exact ⟨⟨x, reduced.1⟩, ⟨y, reduced.2⟩, rfl, rfl, rfl, onCurve⟩
  · rintro ⟨a, b, rfl, rfl, rfl, onCurve⟩
    exact finitePoint_of_onCurve onCurve

/-! ## Reading each form -/

/-- Behind a form byte, two coordinates are read in the uncompressed and the hybrid form. -/
theorem decodeLong_eq_ok_iff {byte : UInt8} {rest : Bytes} {point : Point}
    (length : rest.length = 2 * coordinateSize) :
    decodeLong byte rest = .ok point ↔
      ∃ x y : Coordinate, point = .affine x y ∧ point.OnCurve ∧
        (byte :: rest = Form.uncompressed.write x y ∨ byte :: rest = Form.hybrid.write x y) := by
  constructor
  · intro read
    rw [decodeLong] at read
    dsimp only at read
    split at read
    case isTrue uncompressed =>
      obtain ⟨x, y, first, second, rfl, onCurve⟩ := finitePoint_eq_ok_iff.mp read
      have written := eq_append_of_coordinates length (Prod.ext first.symm second.symm)
      exact ⟨x, y, rfl, onCurve, .inl (by rw [uncompressed, written, Form.write])⟩
    case isFalse =>
      split at read
      case isFalse => cases read
      case isTrue hybrid =>
        split at read
        case isFalse => cases read
        case isTrue parity =>
          obtain ⟨x, y, first, second, rfl, onCurve⟩ := finitePoint_eq_ok_iff.mp read
          have written := eq_append_of_coordinates length (Prod.ext first.symm second.symm)
          have form : byte = if y.val % 2 = 0 then 6 else 7 := by
            rw [second, ← parity]
            rcases hybrid with rfl | rfl <;> rfl
          exact ⟨x, y, rfl, onCurve, .inr (by rw [form, written, Form.write])⟩
  · rintro ⟨x, y, rfl, onCurve, written | written⟩
    · rw [Form.write, List.cons.injEq] at written
      rw [written.1, written.2, decodeLong, coordinates_append]
      exact finitePoint_of_onCurve onCurve
    · rw [Form.write, List.cons.injEq] at written
      obtain ⟨form, tail⟩ := written
      have known : byte ≠ 4 ∧ (byte = 6 ∨ byte = 7) ∧ byte.toNat % 2 = y.val % 2 := by
        rw [form]
        rcases Nat.mod_two_eq_zero_or_one y.val with even | odd
        · rw [even]
          decide
        · rw [odd]
          decide
      obtain ⟨notUncompressed, hybrid, parity⟩ := known
      rw [tail, decodeLong, coordinates_append]
      simp only [if_neg notUncompressed, if_pos hybrid, if_pos parity]
      exact finitePoint_of_onCurve onCurve

/-- Behind a form byte, one coordinate is read in the compressed form. That the ordinate is a
root needs no proof in this direction, as the point is checked to lie on the curve. -/
theorem decodeShort_eq_ok_iff {byte : UInt8} {rest : Bytes} {point : Point}
    (length : rest.length = coordinateSize) :
    decodeShort byte rest = .ok point ↔
      ∃ x y : Coordinate, point = .affine x y ∧ point.OnCurve ∧
        byte :: rest = Form.compressed.write x y := by
  constructor
  · intro read
    rw [decodeShort] at read
    split at read
    case isFalse => cases read
    case isTrue known =>
      dsimp only at read
      split at read
      case h_1 => cases read
      case h_2 root found =>
        obtain ⟨x, y, first, second, rfl, onCurve⟩ := finitePoint_eq_ok_iff.mp read
        have parity : y.val % 2 = byte.toNat % 2 := by
          rw [second]
          split
          case isTrue same => exact same.symm
          case isFalse other =>
            have below := root.isLt
            have odd : fieldSize % 2 = 1 := by decide
            omega
        have form : byte = if y.val % 2 = 0 then 2 else 3 := by
          rw [parity]
          rcases known with rfl | rfl <;> rfl
        refine ⟨x, y, rfl, onCurve, ?_⟩
        rw [Form.write, form, eq_coordinateBytes length first]
  · rintro ⟨x, y, rfl, onCurve, written⟩
    rw [Form.write, List.cons.injEq] at written
    obtain ⟨form, tail⟩ := written
    have known : (byte = 2 ∨ byte = 3) ∧ byte.toNat % 2 = y.val % 2 := by
      rw [form]
      rcases Nat.mod_two_eq_zero_or_one y.val with even | odd
      · rw [even]
        decide
      · rw [odd]
        decide
    rw [tail]
    exact decodeShort_of_onCurve onCurve known.1 known.2

/-! ## Reading any form -/

/-- Bytes are read as a point when they write it in one of the four forms, and it lies on the
curve. -/
theorem decodePoint_eq_ok_iff {bytes : Bytes} {point : Point} :
    decodePoint bytes = .ok point ↔
      ∃ (form : Form) (x y : Coordinate),
        point = .affine x y ∧ point.OnCurve ∧ bytes = form.write x y := by
  constructor
  · intro read
    unfold decodePoint at read
    split at read
    case h_1 => cases read
    case h_2 byte rest =>
      split at read
      case isTrue length =>
        obtain ⟨x, y, first, second, rfl, onCurve⟩ := finitePoint_eq_ok_iff.mp read
        refine ⟨.raw, x, y, rfl, onCurve, ?_⟩
        exact eq_append_of_coordinates length (Prod.ext first.symm second.symm)
      case isFalse =>
        split at read
        case isTrue length =>
          have rest : rest.length = 2 * coordinateSize := Nat.succ.inj length
          obtain ⟨x, y, rfl, onCurve, written | written⟩ := (decodeLong_eq_ok_iff rest).mp read
          · exact ⟨.uncompressed, x, y, rfl, onCurve, written⟩
          · exact ⟨.hybrid, x, y, rfl, onCurve, written⟩
        case isFalse =>
          split at read
          case isTrue length =>
            have rest : rest.length = coordinateSize := Nat.succ.inj length
            obtain ⟨x, y, rfl, onCurve, written⟩ := (decodeShort_eq_ok_iff rest).mp read
            exact ⟨.compressed, x, y, rfl, onCurve, written⟩
          case isFalse => cases read
  · rintro ⟨form, x, y, rfl, onCurve, rfl⟩
    have both := length_coordinateBytes_append x y
    cases form with
    | raw =>
      obtain ⟨byte, rest, written⟩ : ∃ byte rest, Form.raw.write x y = byte :: rest :=
        List.exists_cons_of_length_pos (by rw [Form.write, both]; decide)
      have length : (byte :: rest).length = 2 * coordinateSize := by
        rw [← written, Form.write, both]
      rw [written, decodePoint, if_pos length, ← written, Form.write, coordinates_append]
      exact finitePoint_of_onCurve onCurve
    | uncompressed =>
      rw [Form.write, decodePoint, List.length_cons, both, if_neg (by decide), if_pos rfl]
      exact (decodeLong_eq_ok_iff both).mpr ⟨x, y, rfl, onCurve, .inl (by rw [Form.write])⟩
    | hybrid =>
      rw [Form.write, decodePoint, List.length_cons, both, if_neg (by decide), if_pos rfl]
      exact (decodeLong_eq_ok_iff both).mpr ⟨x, y, rfl, onCurve, .inr (by rw [Form.write])⟩
    | compressed =>
      have one := length_coordinateBytes x
      rw [Form.write, decodePoint, List.length_cons, one, if_neg (by decide), if_neg (by decide),
        if_pos rfl]
      exact (decodeShort_eq_ok_iff one).mpr ⟨x, y, rfl, onCurve, by rw [Form.write]⟩

/-- A point writes itself in the compressed form. -/
theorem compressed_affine (x y : Coordinate) :
    (Point.affine x y).compressed = Form.compressed.write x y := by
  rw [Point.compressed, Form.write, coordinateBytes]

end Keyring.Curve

namespace Keyring.PublicKey

open Curve

/-! ## Public keys -/

theorem pointOfBytes_eq_ok_iff {bytes : Bytes} {point : Point} :
    pointOfBytes bytes = .ok point ↔ decodePoint bytes = .ok point := by
  rw [pointOfBytes]
  cases decodePoint bytes <;> simp [Except.mapError]

theorem pointOfBytes_eq_error_iff {bytes : Bytes} {fault : KeyFault} :
    pointOfBytes bytes = .error fault ↔
      ∃ cause, decodePoint bytes = .error cause ∧ fault = .publicPoint cause := by
  rw [pointOfBytes]
  cases decodePoint bytes with
  | ok point => simp [Except.mapError]
  | error cause => simp [Except.mapError, eq_comm]

/-- Bytes are read as a public key when they write a point of the curve in one of the four
forms, and that point is the key; all other bytes are refused, as encoding no point. A key
that has been read writes its point in the compressed form, in 33 bytes, and is read back
from these bytes and from their text. -/
theorem pointOfBytes_eq_ok_iff_written (bytes : Bytes) :
    (∀ point, pointOfBytes bytes = .ok point ↔
      ∃ (form : Form) (x y : Coordinate),
        point = .affine x y ∧ point.OnCurve ∧ bytes = form.write x y) ∧
    ((∃ cause, pointOfBytes bytes = .error (.publicPoint cause)) ↔
      ¬∃ (form : Form) (x y : Coordinate),
        (Point.affine x y).OnCurve ∧ bytes = form.write x y) ∧
    ∀ point, pointOfBytes bytes = .ok point →
      (∃ x y, point = .affine x y ∧ (PublicKey.curve point).bytes = Form.compressed.write x y) ∧
      (PublicKey.curve point).bytes.length = 33 ∧
      pointOfBytes (PublicKey.curve point).bytes = .ok point ∧
      pointOfText (PublicKey.curve point).hex = .ok point := by
  refine ⟨fun point => pointOfBytes_eq_ok_iff.trans decodePoint_eq_ok_iff, ?_, ?_⟩
  · constructor
    · rintro ⟨cause, refused⟩ ⟨form, x, y, onCurve, written⟩
      obtain ⟨_, refused, -⟩ := pointOfBytes_eq_error_iff.mp refused
      rw [decodePoint_eq_ok_iff.mpr ⟨form, x, y, rfl, onCurve, written⟩] at refused
      cases refused
    · intro unwritten
      cases decoded : decodePoint bytes with
      | error cause => exact ⟨cause, pointOfBytes_eq_error_iff.mpr ⟨cause, decoded, rfl⟩⟩
      | ok point =>
        obtain ⟨form, x, y, rfl, onCurve, written⟩ := decodePoint_eq_ok_iff.mp decoded
        exact absurd ⟨form, x, y, onCurve, written⟩ unwritten
  · intro point read
    obtain ⟨form, x, y, rfl, onCurve, -⟩ := decodePoint_eq_ok_iff.mp (pointOfBytes_eq_ok_iff.mp read)
    have finite : Point.affine x y ≠ .infinity := Point.noConfusion
    have written : (PublicKey.curve (.affine x y)).bytes = Form.compressed.write x y :=
      compressed_affine x y
    refine ⟨⟨x, y, rfl, written⟩, ?_, ?_, pointOfText_hex onCurve finite⟩
    · rw [written, Form.write, List.length_cons, length_coordinateBytes]
      rfl
    · rw [PublicKey.bytes, pointOfBytes_eq_ok_iff]
      exact decodePoint_compressed onCurve finite

/-- The generator behind the form byte `04`. -/
theorem pointOfBytes_uncompressed_generator :
    pointOfBytes generator.uncompressed = .ok generator ∧
      (PublicKey.curve generator).bytes.length = 33 ∧
      pointOfBytes (PublicKey.curve generator).bytes = .ok generator ∧
      pointOfText (PublicKey.curve generator).hex = .ok generator := by
  have read : pointOfBytes generator.uncompressed = .ok generator := by
    have onCurve := onCurve_generator
    obtain ⟨x, y, finite⟩ : ∃ x y, generator = .affine x y := ⟨_, _, rfl⟩
    rw [finite] at onCurve ⊢
    refine ((pointOfBytes_eq_ok_iff_written _).1 _).mpr ⟨.uncompressed, x, y, rfl, onCurve, ?_⟩
    rw [Point.uncompressed, Form.write, coordinateBytes, coordinateBytes]
  exact ⟨read, ((pointOfBytes_eq_ok_iff_written _).2.2 _ read).2⟩

end Keyring.PublicKey
