import DerPair.Boundary.Call
import DerPair.Proofs.Bounded.Decoding
import DerPair.Proofs.Signature.Decoding

namespace DerPair
open Octets Integer

namespace Pair

theorem decodeFixed_consumed (accepted : (decodeFixed der dest).answer = .ok decoded) :
    decoded.consumed ≤ der.length := by
  unfold decodeFixed at accepted
  split at accepted
  · cases accepted
  · obtain ⟨rPayload, sPayload, rest, _, _, rfl, _, _, rfl⟩ := decodeSeparate_ok_iff.mp accepted
    simp only [tlv, List.length_append, List.length_cons]
    omega

end Pair

namespace Bounded

theorem fixedSize_small (curve : Curve) : mul 2 curve.fieldSize = some curve.fixedSize := by
  cases curve <;> exact mul_small (by decide)

theorem ofDer_eq (curve : Curve) (der : Octets) :
    ofDer curve der = some (Signature.ofDer curve der) := by
  have sized := Pair.decodeFixed_dest_length der (List.replicate curve.fixedSize 0)
  have inside : curve.fieldSize ≤
      (Pair.decodeFixed der (List.replicate curve.fixedSize 0)).dest.length := by
    rw [sized, List.length_replicate, Curve.fixedSize]
    exact Nat.le_mul_of_pos_left _ (by decide)
  simp only [ofDer, fixedSize_small, decodeFixed_eq, Option.bind_eq_bind, Option.bind_some,
    Signature.ofDer]
  cases read : (Pair.decodeFixed der (List.replicate curve.fixedSize 0)).answer with
  | error fault => rfl
  | ok decoded =>
    simp only [split_inside inside, sub_le (Pair.decodeFixed_consumed read), Option.bind_some]
    split
    · rfl
    · rfl

-- Above this width the room for the largest encoding has no size in a word.
def largestWidth : Nat := 2 ^ 63 - 4

theorem largestSize_eq (narrow : width ≤ largestWidth) :
    largestSize width = some (Pair.largestSize width) := by
  have whole : 2 * (3 + width) < wordLimit := by
    simp only [largestWidth, wordLimit, UInt64.size] at narrow ⊢
    omega
  have half : 3 + width < wordLimit := by omega
  simp only [largestSize, add_small half, mul_small whole, Option.bind_eq_bind, Option.bind_some]
  rfl

theorem largestSize_none (wide : largestWidth < width) : largestSize width = none := by
  have beyond : ¬ 2 * (3 + width) < wordLimit := by
    simp only [largestWidth, wordLimit, UInt64.size] at wide ⊢
    omega
  unfold largestSize add
  split
  · exact if_neg beyond
  · rfl

theorem toDer_eq (narrow : signature.width ≤ largestWidth) :
    toDer signature = some signature.toDer := by
  have sized : signature.r.length + 3 < wordLimit := by
    simp only [Signature.width, largestWidth, wordLimit, UInt64.size] at narrow ⊢
    omega
  simp only [toDer, largestSize_eq narrow, encodePair_eq sized, Option.bind_eq_bind,
    Option.bind_some]
  rfl

theorem toDer_none (wide : largestWidth < signature.width) : toDer signature = none := by
  simp only [toDer, largestSize_none wide, Option.bind_eq_bind, Option.bind_none]

theorem toDer_answers_iff :
    (∃ result, toDer signature = some result) ↔ signature.width ≤ largestWidth := by
  constructor
  · intro answered
    obtain ⟨result, answered⟩ := answered
    refine Nat.le_of_not_lt fun wide => ?_
    rw [toDer_none wide] at answered
    cases answered
  · exact fun narrow => ⟨_, toDer_eq narrow⟩

theorem buffer_sized {data : Octets} (held : data.length ≤ Boundary.largestBuffer) :
    data.length + 3 < wordLimit := by
  simp only [Boundary.largestBuffer, wordLimit, UInt64.size] at held ⊢
  omega

-- Whatever the octets, every access stays in its buffer and every size in a word.
-- Only the room for the largest encoding of a signature has a limit of its own.
theorem codec_in_bounds :
    (∀ data dest, data.length ≤ Boundary.largestBuffer →
      encodeInteger data dest = some (Integer.encode data dest)) ∧
    (∀ data, data.length ≤ Boundary.largestBuffer →
      encodedSize data = some (Integer.encodedSize data)) ∧
    (∀ der dest, decodeInteger der dest = some (Integer.decode der dest)) ∧
    (∀ r s dest, r.length ≤ Boundary.largestBuffer →
      encodePair r s dest = some (Pair.encode r s dest)) ∧
    (∀ der rDest sDest,
      decodeSeparate der rDest sDest = some (Pair.decodeSeparate der rDest sDest)) ∧
    (∀ der dest, decodeFixed der dest = some (Pair.decodeFixed der dest)) ∧
    (∀ curve der, ofDer curve der = some (Signature.ofDer curve der)) ∧
    (∀ signature, signature.width ≤ 2 ^ 63 - 4 → toDer signature = some signature.toDer) ∧
    ∀ signature, (∃ result, toDer signature = some result) ↔ signature.width ≤ 2 ^ 63 - 4 :=
  ⟨fun _ dest held => encodeInteger_eq (buffer_sized held) dest,
    fun _ held => encodedSize_eq (buffer_sized held),
    decodeInteger_eq,
    fun _ s dest held => encodePair_eq (buffer_sized held) s dest,
    decodeSeparate_eq, decodeFixed_eq, ofDer_eq,
    fun _ narrow => toDer_eq narrow,
    fun _ => toDer_answers_iff⟩

theorem codec_in_bounds_stuffed :
    [0x00, 0x80].length ≤ Boundary.largestBuffer ∧
    (Signature.mk [0x00, 0x80] [0x00, 0x01]).width ≤ 2 ^ 63 - 4 ∧
    (encodeInteger [0x00, 0x80] [9, 9, 9, 9, 9]).map (·.dest) = some [0x02, 0x02, 0x00, 0x80, 9] ∧
    encodedSize [0x00, 0x80] = some (.silent (.ok 4)) ∧
    (encodePair [0x00, 0x80] [0x00, 0x01] [9, 9, 9, 9, 9, 9, 9, 9]).map (·.dest) =
      some [0x02, 0x02, 0x00, 0x80, 0x02, 0x01, 0x01, 9] ∧
    (toDer ⟨[0x00, 0x80], [0x00, 0x01]⟩).map (·.answer) =
      some (.ok [0x02, 0x02, 0x00, 0x80, 0x02, 0x01, 0x01]) := by
  have held : [0x00, 0x80].length ≤ Boundary.largestBuffer := by decide
  have narrow : (Signature.mk [0x00, 0x80] [0x00, 0x01]).width ≤ 2 ^ 63 - 4 := by decide
  obtain ⟨encodes, sizes, _, pairs, _, _, _, writes, _⟩ := codec_in_bounds
  refine ⟨held, narrow, ?_, ?_, ?_, ?_⟩
  · rw [encodes _ _ held]
    rfl
  · rw [sizes _ held]
    rfl
  · rw [pairs _ _ _ held]
    rfl
  · rw [writes _ narrow]
    rfl

end Bounded
end DerPair
