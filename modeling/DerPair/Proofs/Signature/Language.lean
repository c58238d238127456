import DerPair.Proofs.Pair.Truncation
import DerPair.Proofs.Signature.Decoding

namespace DerPair.Signature
open Octets Integer Fault

variable {curve : Curve}

theorem ofDer_error_iff : (ofDer curve der).answer = .error fault ↔
    let zeros := List.replicate curve.fieldSize 0
    (Pair.decodeSeparate der zeros zeros).answer = .error fault ∨
      ∃ decoded, (Pair.decodeSeparate der zeros zeros).answer = .ok decoded ∧
        decoded.consumed ≠ der.length ∧ fault = .trailing (der.length - decoded.consumed) := by
  rw [ofDer_eq]
  dsimp only
  cases (Pair.decodeSeparate der (List.replicate curve.fieldSize 0)
      (List.replicate curve.fieldSize 0)).answer with
  | error cause => simp
  | ok decoded =>
    by_cases whole : decoded.consumed = der.length
    · simp [whole, Traced.done]
    · simp [whole, Rejection.fault, eq_comm]

theorem ofDer_separate (accepted : (ofDer curve der).answer = .ok signature) :
    ∃ decoded, (Pair.decodeSeparate der (List.replicate curve.fieldSize 0)
      (List.replicate curve.fieldSize 0)).answer = .ok decoded ∧ decoded.consumed = der.length := by
  obtain ⟨r, s, rAcceptable, sAcceptable, shape, rFits, sFits, _⟩ := ofDer_ok_iff.mp accepted
  have whole : der = tlv r ++ (tlv s ++ []) := by
    rw [shape, List.append_nil]
  refine ⟨_, Pair.decodeSeparate_ok_iff.mpr
    ⟨r, s, [], rAcceptable, sAcceptable, whole, ?_, ?_, rfl⟩, ?_⟩
  · rwa [List.length_replicate]
  · rwa [List.length_replicate]
  · rw [shape, List.length_append, tlv_length, tlv_length]

theorem ofDer_trailing_iff : (ofDer curve der).answer = .error (.trailing extra) ↔
    0 < extra ∧ ∃ decoded, (Pair.decodeSeparate der (List.replicate curve.fieldSize 0)
      (List.replicate curve.fieldSize 0)).answer = .ok decoded ∧
        extra = der.length - decoded.consumed := by
  rw [ofDer_error_iff]
  dsimp only
  constructor
  · intro refused
    rcases refused with inner | ⟨decoded, accepted, partly, same⟩
    · obtain ⟨component, cause, same, _⟩ := Pair.decodeSeparate_ofInput inner
      cases same
    · obtain ⟨r, s, rest, _, _, shape, _, _, taken⟩ := Pair.decodeSeparate_ok_iff.mp accepted
      cases same
      refine ⟨?_, decoded, accepted, rfl⟩
      rw [shape, taken] at partly ⊢
      simp only [List.length_append, tlv_length] at partly ⊢
      omega
  · intro left
    obtain ⟨positive, decoded, accepted, same⟩ := left
    exact .inr ⟨decoded, accepted, by omega, by rw [same]⟩

theorem ofDer_trailing_fixed_iff : (ofDer curve der).answer = .error (.trailing extra) ↔
    0 < extra ∧ ∀ dest, dest.length = 2 * curve.fieldSize →
      ∃ decoded, (Pair.decodeFixed der dest).answer = .ok decoded ∧
        extra = der.length - decoded.consumed := by
  rw [ofDer_trailing_iff]
  constructor
  · intro left
    obtain ⟨positive, decoded, separate, same⟩ := left
    refine ⟨positive, fun dest sized => ⟨decoded, ?_, same⟩⟩
    exact (Pair.decodeFixed_ok_iff sized).mpr separate
  · intro left
    obtain ⟨positive, every⟩ := left
    have sized : (List.replicate (2 * curve.fieldSize) (0 : UInt8)).length = 2 * curve.fieldSize :=
      List.length_replicate
    obtain ⟨decoded, fixed, same⟩ := every _ sized
    exact ⟨positive, decoded, (Pair.decodeFixed_ok_iff sized).mp fixed, same⟩

theorem ofDer_take (accepted : (ofDer curve der).answer = .ok signature)
    (inside : count < der.length) :
    ∃ component needed available, (ofDer curve (der.take count)).answer =
      .error (.within component (.truncated needed available)) := by
  obtain ⟨decoded, separate, whole⟩ := ofDer_separate accepted
  rw [← whole] at inside
  obtain ⟨r, _, _, short⟩ := Pair.decodeSeparate_take separate
  obtain ⟨early, late⟩ := short count inside
  rcases Nat.lt_or_ge count r.consumed with before | behind
  · obtain ⟨needed, _, _, refused, _⟩ := early before
    exact ⟨_, _, _, ofDer_refused curve refused⟩
  · obtain ⟨needed, _, _, refused, _⟩ := late behind
    exact ⟨_, _, _, ofDer_refused curve refused⟩

theorem ofDer_append (accepted : (ofDer curve der).answer = .ok signature) (more : rest ≠ []) :
    (ofDer curve (der ++ rest)).answer = .error (.trailing rest.length) := by
  obtain ⟨decoded, separate, whole⟩ := ofDer_separate accepted
  obtain ⟨r, s, tail, rAcceptable, sAcceptable, shape, fits⟩ :=
    Pair.decodeSeparate_ok_iff.mp separate
  refine ofDer_trailing_iff.mpr ⟨List.length_pos_iff.mpr more, decoded,
    Pair.decodeSeparate_ok_iff.mpr ⟨r, s, tail ++ rest, rAcceptable, sAcceptable, ?_, fits⟩, ?_⟩
  · simp only [shape, List.append_assoc]
  · rw [whole, List.length_append, Nat.add_sub_cancel_left]

theorem ofDer_prefix_free (accepted : (ofDer curve der).answer = .ok signature)
    (starts : der <+: other) (again : (ofDer curve other).answer = .ok held) : other = der := by
  obtain ⟨rest, rfl⟩ := starts
  by_cases more : rest = []
  · rw [more, List.append_nil]
  · cases (ofDer_append accepted more).symm.trans again

theorem ofDer_ofInput (refused : (ofDer curve der).answer = .error fault) :
    (∃ extra, fault = .trailing extra) ∨
      ∃ component cause, fault = .within component cause ∧ OfInput cause := by
  rcases ofDer_error_iff.mp refused with inner | ⟨decoded, _, _, same⟩
  · exact .inr (Pair.decodeSeparate_ofInput inner)
  · exact .inl ⟨_, same⟩

-- Two INTEGERs that fit the field, and not an octet less or more. A shorter stream is cut
-- short in one of them, a longer one has octets left over, and every other refusal is one of
-- reading and bears the name of its component.
theorem ofDer_language_exact (curve : Curve) (der : Octets) :
    let answer := (ofDer curve der).answer
    (∀ signature, answer = .ok signature ↔
      ∃ r s, Acceptable r ∧ Acceptable s ∧ der = tlv r ++ tlv s ∧
        byteWidth (value r) ≤ curve.fieldSize ∧ byteWidth (value s) ≤ curve.fieldSize ∧
        signature = ⟨ofValue curve.fieldSize (value r), ofValue curve.fieldSize (value s)⟩) ∧
    (∀ signature, answer = .ok signature →
      (∀ count, count < der.length → ∃ component needed available,
        (ofDer curve (der.take count)).answer =
          .error (.within component (.truncated needed available))) ∧
      (∀ rest, rest ≠ [] →
        (ofDer curve (der ++ rest)).answer = .error (.trailing rest.length)) ∧
      ∀ other held, der <+: other → (ofDer curve other).answer = .ok held → other = der) ∧
    (∀ extra, answer = .error (.trailing extra) ↔
      0 < extra ∧ ∀ dest, dest.length = 2 * curve.fieldSize →
        ∃ decoded, (Pair.decodeFixed der dest).answer = .ok decoded ∧
          extra = der.length - decoded.consumed) ∧
    ∀ fault, answer = .error fault →
      (∃ extra, fault = .trailing extra) ∨
        ∃ component cause, fault = .within component cause ∧ OfInput cause := by
  refine ⟨fun signature => ofDer_ok_iff, fun signature accepted => ⟨?_, ?_, ?_⟩,
    fun extra => ofDer_trailing_fixed_iff, fun fault => ofDer_ofInput⟩
  · exact fun count => ofDer_take accepted
  · exact fun rest => ofDer_append accepted
  · exact fun other held => ofDer_prefix_free accepted

theorem ofDer_language_exact_stuffed :
    (∃ signature, (ofDer .nistP256 [0x02, 0x02, 0x00, 0x80, 0x02, 0x01, 0x01]).answer =
      .ok signature) ∧
    (∃ component needed available,
      (ofDer .nistP256 [0x02, 0x02, 0x00, 0x80, 0x02, 0x01]).answer =
        .error (.within component (.truncated needed available))) ∧
    (ofDer .nistP256 [0x02, 0x02, 0x00, 0x80, 0x02, 0x01, 0x01, 0x02, 0x63]).answer =
      .error (.trailing 2) ∧
    ∃ decoded, (Pair.decodeFixed [0x02, 0x02, 0x00, 0x80, 0x02, 0x01, 0x01, 0x02, 0x63]
        (List.replicate 64 7)).answer = .ok decoded ∧ 2 = 9 - decoded.consumed := by
  have accepted : (ofDer .nistP256 [0x02, 0x02, 0x00, 0x80, 0x02, 0x01, 0x01]).answer =
      .ok ⟨List.replicate 31 0 ++ [0x80], List.replicate 31 0 ++ [0x01]⟩ := rfl
  obtain ⟨_, both, _⟩ := ofDer_language_exact .nistP256 [0x02, 0x02, 0x00, 0x80, 0x02, 0x01, 0x01]
  obtain ⟨cut, extended, _⟩ := both _ accepted
  have trailing := extended [0x02, 0x63] (by decide)
  obtain ⟨_, _, left, _⟩ :=
    ofDer_language_exact .nistP256 [0x02, 0x02, 0x00, 0x80, 0x02, 0x01, 0x01, 0x02, 0x63]
  exact ⟨⟨_, accepted⟩, cut 6 (by decide), trailing,
    ((left 2).mp trailing).2 (List.replicate 64 7) List.length_replicate⟩

end DerPair.Signature
