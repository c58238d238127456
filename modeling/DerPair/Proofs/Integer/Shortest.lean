import DerPair.Proofs.Integer.Encoding

namespace DerPair.Integer
open Octets

theorem content_long_iff (given : data ≠ []) :
    ShortLength.largest < (content data).length ↔ 2 ^ 1015 ≤ value data := by
  rw [content_length given, ← @lt_bitLength_iff 1015 (value data), ShortLength.largest]
  omega

theorem encode_unchanged (refused : (encode data dest).answer = .error fault) :
    (encode data dest).dest = dest := by
  cases reason : refusal data dest.length with
  | none =>
    rw [encode_accepted reason] at refused
    cases refused
  | some cause => rw [encode_refused reason]; rfl

theorem encode_congr (left : data ≠ []) (right : other ≠ []) (same : value data = value other)
    (dest : Octets) : encode data dest = encode other dest := by
  have reasons : refusal data dest.length = refusal other dest.length := refusal_congr left right same
  have contents := content_congr left right same
  have written : encoding data = encoding other := congrArg tlv contents
  have stuffing : needsStuffing data = needsStuffing other := by
    unfold needsStuffing
    rw [magnitude_eq left, magnitude_eq right, same]
  cases reason : refusal data dest.length with
  | some cause =>
    rw [encode_refused reason, encode_refused (reasons ▸ reason)]
  | none =>
    rw [encode_accepted reason, encode_accepted (reasons ▸ reason), written, stuffing]

-- Nothing but the value and the destination decides what is written, and no
-- two's complement form of the value takes fewer octets of content.
theorem encode_shortest (given : data ≠ []) (dest : Octets) :
    let outcome := encode data dest
    let size := bitLength (value data) / 8 + 1
    (size ≤ ShortLength.largest → 2 + size ≤ dest.length →
      outcome.answer = .ok (2 + size) ∧
      ∃ payload, outcome.dest =
          0x02 :: UInt8.ofNat size :: payload ++ dest.drop (2 + size) ∧
        payload.length = size ∧ signedValue payload = value data ∧
        ∀ bytes, bytes ≠ [] → signedValue bytes = value data → size ≤ bytes.length) ∧
    (ShortLength.largest < size ↔ 2 ^ 1015 ≤ value data) ∧
    (ShortLength.largest < size → 2 + size ≤ dest.length →
      outcome.answer = .error (.longFormLength size)) ∧
    (dest.length < 2 + size →
      outcome.answer = .error (.capacityExceeded (2 + size) dest.length)) ∧
    (∀ fault, outcome.answer = .error fault → outcome.dest = dest) ∧
    ∀ other, other ≠ [] → value other = value data → encode other dest = outcome := by
  dsimp only
  have size := content_length given
  have total := encoding_length data
  rw [← size]
  refine ⟨fun short room => ?_, content_long_iff given, fun long room => ?_, fun narrow => ?_,
    fun fault refused => encode_unchanged refused,
    fun other nonempty same => encode_congr nonempty given same dest⟩
  · rw [encode_accepted (refusal_eq_none_iff.mpr ⟨given, by omega, short⟩)]
    refine ⟨congrArg Except.ok total, content data, ?_, rfl, signedValue_content data, ?_⟩
    · simp only [overwrite, total]
      rfl
    · intro bytes nonempty reading
      rw [size]
      exact signed_length nonempty reading
  · rw [← total] at room
    rw [encode_refused (refusal_long given room long)]
    rfl
  · rw [← total] at narrow ⊢
    rw [encode_refused (refusal_narrow given narrow)]
    rfl

theorem encode_shortest_stuffed :
    ([0x00, 0x80] : Octets) ≠ [] ∧ bitLength (value [0x00, 0x80]) / 8 + 1 = 2 ∧
      (encode [0x00, 0x80] [1, 2, 3, 4, 5]).answer = .ok 4 ∧
      ∃ payload, (encode [0x00, 0x80] [1, 2, 3, 4, 5]).dest = 0x02 :: 0x02 :: payload ++ [5] ∧
        payload.length = 2 ∧ signedValue payload = (128 : Nat) ∧
        ∀ bytes, bytes ≠ [] → signedValue bytes = (128 : Nat) → 2 ≤ bytes.length :=
  ⟨by decide, by decide, (encode_shortest (by decide) [1, 2, 3, 4, 5]).1 (by decide) (by decide)⟩

end DerPair.Integer
