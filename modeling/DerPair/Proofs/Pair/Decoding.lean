import DerPair.Pair.Decoding
import DerPair.Proofs.Integer.Decoding

namespace DerPair.Pair
open Octets Integer

theorem following (payload rest : Octets) :
    (tlv payload ++ rest).drop (2 + payload.length) = rest := by
  rw [← tlv_length]
  exact List.drop_left

theorem decodeSeparate_r_refused (refused : (Integer.decode der rDest).answer = .error fault)
    (sDest : Octets) :
    (decodeSeparate der rDest sDest).answer = .error (.within .r fault) := by
  simp only [decodeSeparate, Outcome.within_error refused]

theorem decodeSeparate_r_kept (refused : (Integer.decode der rDest).answer = .error cause)
    (sDest : Octets) : (decodeSeparate der rDest sDest).dest = (rDest, sDest) := by
  simp only [decodeSeparate, Outcome.within_error refused, Outcome.within_dest,
    decode_unchanged refused]

theorem decodeSeparate_r_wide (acceptable : Acceptable rPayload) (rest sDest : Octets)
    (wide : rDest.length < byteWidth (value rPayload)) :
    decodeSeparate (tlv rPayload ++ rest) rDest sDest =
      ⟨⟨.error (.within .r (.capacityExceeded (byteWidth (value rPayload)) rDest.length)),
          [.rejected (.valueTooWide (byteWidth (value rPayload)) rDest.length)]⟩,
        (rDest, sDest)⟩ := by
  rw [decodeSeparate, decode_wide acceptable rest wide]
  rfl

theorem decodeSeparate_r_fits (acceptable : Acceptable rPayload) (rest sDest : Octets)
    (fits : byteWidth (value rPayload) ≤ rDest.length) :
    decodeSeparate (tlv rPayload ++ rest) rDest sDest =
      let second := (Integer.decode rest sDest).within .s
      ⟨⟨second.answer.map fun s =>
            ⟨2 + rPayload.length + s.consumed, byteWidth (value rPayload), s.width⟩,
          .decoded (byteWidth (value rPayload)) rDest.length (2 + rPayload.length) :: second.trace⟩,
        (ofValue rDest.length (value rPayload), second.dest)⟩ := by
  rw [decodeSeparate, decode_fits acceptable rest fits, Outcome.within_done]
  simp only [Traced.done, following, List.singleton_append]

theorem decodeSeparate_s_wide (rAcceptable : Acceptable rPayload)
    (sAcceptable : Acceptable sPayload) (rest : Octets)
    (fits : byteWidth (value rPayload) ≤ rDest.length)
    (wide : sDest.length < byteWidth (value sPayload)) :
    decodeSeparate (tlv rPayload ++ (tlv sPayload ++ rest)) rDest sDest =
      ⟨⟨.error (.within .s (.capacityExceeded (byteWidth (value sPayload)) sDest.length)),
          [.decoded (byteWidth (value rPayload)) rDest.length (2 + rPayload.length),
            .rejected (.valueTooWide (byteWidth (value sPayload)) sDest.length)]⟩,
        (ofValue rDest.length (value rPayload), sDest)⟩ := by
  rw [decodeSeparate_r_fits rAcceptable _ _ fits, decode_wide sAcceptable rest wide]
  rfl

theorem decodeSeparate_fits (rAcceptable : Acceptable rPayload) (sAcceptable : Acceptable sPayload)
    (rest : Octets) (rFits : byteWidth (value rPayload) ≤ rDest.length)
    (sFits : byteWidth (value sPayload) ≤ sDest.length) :
    decodeSeparate (tlv rPayload ++ (tlv sPayload ++ rest)) rDest sDest =
      ⟨.done ⟨2 + rPayload.length + (2 + sPayload.length), byteWidth (value rPayload),
            byteWidth (value sPayload)⟩
          [.decoded (byteWidth (value rPayload)) rDest.length (2 + rPayload.length),
            .decoded (byteWidth (value sPayload)) sDest.length (2 + sPayload.length)],
        (ofValue rDest.length (value rPayload), ofValue sDest.length (value sPayload))⟩ := by
  rw [decodeSeparate_r_fits rAcceptable _ _ rFits, decode_fits sAcceptable rest sFits]
  rfl

theorem decodeSeparate_ok_iff : (decodeSeparate der rDest sDest).answer = .ok decoded ↔
    ∃ rPayload sPayload rest, Acceptable rPayload ∧ Acceptable sPayload ∧
      der = tlv rPayload ++ (tlv sPayload ++ rest) ∧
      byteWidth (value rPayload) ≤ rDest.length ∧ byteWidth (value sPayload) ≤ sDest.length ∧
      decoded = ⟨2 + rPayload.length + (2 + sPayload.length), byteWidth (value rPayload),
        byteWidth (value sPayload)⟩ := by
  constructor
  · intro accepted
    cases first : (Integer.decode der rDest).answer with
    | error fault =>
      rw [decodeSeparate_r_refused first] at accepted
      cases accepted
    | ok r =>
      obtain ⟨rPayload, tail, rAcceptable, rfl, rFits, rfl⟩ := decode_ok_iff.mp first
      rw [decodeSeparate_r_fits rAcceptable _ _ rFits] at accepted
      cases second : (Integer.decode tail sDest).answer with
      | error fault =>
        simp only [Outcome.within_error second] at accepted
        cases accepted
      | ok s =>
        obtain ⟨sPayload, rest, sAcceptable, rfl, sFits, rfl⟩ := decode_ok_iff.mp second
        simp only [Outcome.within_ok second] at accepted
        exact ⟨rPayload, sPayload, rest, rAcceptable, sAcceptable, rfl, rFits, sFits,
          (Except.ok.inj accepted).symm⟩
  · intro shaped
    obtain ⟨rPayload, sPayload, rest, rAcceptable, sAcceptable, shape, rFits, sFits, same⟩ := shaped
    rw [shape, decodeSeparate_fits rAcceptable sAcceptable rest rFits sFits, same]
    rfl

theorem decodeFixed_odd (odd : dest.length % 2 = 1) (der : Octets) :
    decodeFixed der dest = .refused (.oddDestination dest.length) dest := by
  rw [decodeFixed, if_pos (by omega)]

theorem decodeFixed_even (even : dest.length % 2 = 0) (der : Octets) :
    let separate := decodeSeparate der (dest.take (dest.length / 2)) (dest.drop (dest.length / 2))
    decodeFixed der dest = ⟨separate.toTraced, separate.dest.1 ++ separate.dest.2⟩ := by
  rw [decodeFixed, if_neg (by omega)]

theorem decodeFixed_halves (der : Octets) (equal : r.length = s.length) :
    decodeFixed der (r ++ s) =
      ⟨(decodeSeparate der r s).toTraced,
        (decodeSeparate der r s).dest.1 ++ (decodeSeparate der r s).dest.2⟩ := by
  have half : (r ++ s).length / 2 = r.length := by
    simp only [List.length_append]
    omega
  have even : (r ++ s).length % 2 = 0 := by
    simp only [List.length_append]
    omega
  simp only [decodeFixed_even even, half, List.take_left, List.drop_left]

theorem decodeFixed_ok_iff (sized : dest.length = 2 * half) :
    (decodeFixed der dest).answer = .ok decoded ↔
      (decodeSeparate der (List.replicate half 0) (List.replicate half 0)).answer = .ok decoded := by
  have left : (dest.take half).length = half := by
    rw [List.length_take]
    omega
  have right : (dest.drop half).length = half := by
    rw [List.length_drop]
    omega
  have halves := decodeFixed_halves der (left.trans right.symm)
  rw [List.take_append_drop] at halves
  rw [halves, decodeSeparate_ok_iff, decodeSeparate_ok_iff, left, right, List.length_replicate]

end DerPair.Pair
