import DerPair.Signature
import DerPair.Proofs.Pair.Decoding

namespace DerPair.Signature
open Octets Integer

theorem ofDer_eq (curve : Curve) (der : Octets) :
    ofDer curve der =
      let zeros := List.replicate curve.fieldSize 0
      let outcome := Pair.decodeSeparate der zeros zeros
      match outcome.answer with
      | .error fault => ⟨.error fault, outcome.trace⟩
      | .ok decoded =>
        if decoded.consumed ≠ der.length then
          let cause := Rejection.bytesLeftOver (der.length - decoded.consumed)
          ⟨.error cause.fault, outcome.trace ++ [.rejected cause]⟩
        else .done ⟨outcome.dest.1, outcome.dest.2⟩ outcome.trace := by
  obtain ⟨left, _⟩ := Pair.decodeSeparate_dest_length der (List.replicate curve.fieldSize 0)
    (List.replicate curve.fieldSize 0)
  rw [List.length_replicate] at left
  rw [ofDer, curve.replicate_fixedSize, Pair.decodeFixed_halves der rfl]
  dsimp only
  cases (Pair.decodeSeparate der (List.replicate curve.fieldSize 0)
      (List.replicate curve.fieldSize 0)).answer with
  | error fault => rfl
  | ok decoded =>
    dsimp only
    rw [List.take_left' left, List.drop_left' left]

theorem ofDer_ok_iff : (ofDer curve der).answer = .ok signature ↔
    ∃ rPayload sPayload, Acceptable rPayload ∧ Acceptable sPayload ∧
      der = tlv rPayload ++ tlv sPayload ∧
      byteWidth (value rPayload) ≤ curve.fieldSize ∧
      byteWidth (value sPayload) ≤ curve.fieldSize ∧
      signature = ⟨ofValue curve.fieldSize (value rPayload),
        ofValue curve.fieldSize (value sPayload)⟩ := by
  have zeros : (List.replicate curve.fieldSize (0 : UInt8)).length = curve.fieldSize :=
    List.length_replicate
  rw [ofDer_eq]
  dsimp only
  constructor
  · intro accepted
    cases separate : (Pair.decodeSeparate der (List.replicate curve.fieldSize 0)
        (List.replicate curve.fieldSize 0)).answer with
    | error fault =>
      rw [separate] at accepted
      cases accepted
    | ok decoded =>
      obtain ⟨rPayload, sPayload, rest, rAcceptable, sAcceptable, rfl, rFits, sFits, rfl⟩ :=
        Pair.decodeSeparate_ok_iff.mp separate
      rw [Pair.decodeSeparate_fits rAcceptable sAcceptable rest rFits sFits] at accepted
      simp only [Traced.done] at accepted
      split at accepted
      · cases accepted
      · rename_i whole
        have nothing : rest = [] := by
          simp only [List.length_append, tlv_length] at whole
          exact List.eq_nil_of_length_eq_zero (by omega)
        rw [zeros] at rFits sFits accepted
        rw [nothing, List.append_nil]
        exact ⟨rPayload, sPayload, rAcceptable, sAcceptable, rfl, rFits, sFits,
          (Except.ok.inj accepted).symm⟩
  · intro shaped
    obtain ⟨rPayload, sPayload, rAcceptable, sAcceptable, shape, rFits, sFits, same⟩ := shaped
    rw [← zeros] at rFits sFits
    have separate := Pair.decodeSeparate_fits rAcceptable sAcceptable [] rFits sFits
    rw [List.append_nil, ← shape] at separate
    have whole : 2 + rPayload.length + (2 + sPayload.length) = der.length := by
      rw [shape, List.length_append, tlv_length, tlv_length]
    rw [separate, same, zeros]
    simp only [Traced.done, whole, ne_eq, not_true_eq_false, if_false]

theorem ofDer_refused (curve : Curve)
    (refused : (Pair.decodeSeparate der (List.replicate curve.fieldSize 0)
      (List.replicate curve.fieldSize 0)).answer = .error fault) :
    (ofDer curve der).answer = .error fault := by
  rw [ofDer_eq]
  simp only [refused]

theorem ofDer_r_wide (acceptable : Acceptable rPayload) (rest : Octets)
    (wide : curve.fieldSize < byteWidth (value rPayload)) :
    (ofDer curve (tlv rPayload ++ rest)).answer =
      .error (.within .r (.capacityExceeded (byteWidth (value rPayload)) curve.fieldSize)) := by
  have zeros : (List.replicate curve.fieldSize (0 : UInt8)).length = curve.fieldSize :=
    List.length_replicate
  rw [← zeros] at wide
  refine ofDer_refused curve ?_
  rw [Pair.decodeSeparate_r_wide acceptable rest _ wide, zeros]

theorem ofDer_s_wide (rAcceptable : Acceptable rPayload) (sAcceptable : Acceptable sPayload)
    (rest : Octets) (fits : byteWidth (value rPayload) ≤ curve.fieldSize)
    (wide : curve.fieldSize < byteWidth (value sPayload)) :
    (ofDer curve (tlv rPayload ++ (tlv sPayload ++ rest))).answer =
      .error (.within .s (.capacityExceeded (byteWidth (value sPayload)) curve.fieldSize)) := by
  have zeros : (List.replicate curve.fieldSize (0 : UInt8)).length = curve.fieldSize :=
    List.length_replicate
  rw [← zeros] at fits wide
  refine ofDer_refused curve ?_
  rw [Pair.decodeSeparate_s_wide rAcceptable sAcceptable rest fits wide, zeros]

-- Both components fill the field of the curve.
structure OnCurve (signature : Signature) (curve : Curve) : Prop where
  r : signature.r.length = curve.fieldSize
  s : signature.s.length = curve.fieldSize

theorem ofDer_values (accepted : (ofDer curve der).answer = .ok signature) :
    ∃ rPayload sPayload, Acceptable rPayload ∧ Acceptable sPayload ∧
      der = tlv rPayload ++ tlv sPayload ∧
      value rPayload = value signature.r ∧ value sPayload = value signature.s := by
  obtain ⟨rPayload, sPayload, rAcceptable, sAcceptable, shape, rFits, sFits, same⟩ :=
    ofDer_ok_iff.mp accepted
  refine ⟨rPayload, sPayload, rAcceptable, sAcceptable, shape, ?_, ?_⟩
  · rw [same, value_of_fits rFits]
  · rw [same, value_of_fits sFits]

theorem ofDer_onCurve (accepted : (ofDer curve der).answer = .ok signature) :
    signature.OnCurve curve := by
  obtain ⟨_, _, _, _, _, _, _, same⟩ := ofDer_ok_iff.mp accepted
  rw [same]
  exact ⟨ofValue_length _ _, ofValue_length _ _⟩

namespace OnCurve

theorem rGiven (sized : OnCurve signature curve) : signature.r ≠ [] :=
  List.ne_nil_of_length_pos (by rw [sized.r]; exact curve.fieldSize_bounds.1)

theorem sGiven (sized : OnCurve signature curve) : signature.s ≠ [] :=
  List.ne_nil_of_length_pos (by rw [sized.s]; exact curve.fieldSize_bounds.1)

end OnCurve

end DerPair.Signature
