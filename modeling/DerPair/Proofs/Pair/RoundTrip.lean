import DerPair.Proofs.Pair.Encoding
import DerPair.Proofs.Pair.Decoding

namespace DerPair.Pair
open Octets Integer

theorem encoded_stream (encoded : (encode r s dest).answer = .ok size) (suffix : Octets) :
    (encode r s dest).dest.take size ++ suffix =
      tlv (content r) ++ (tlv (content s) ++ suffix) := by
  rw [encode_written encoded, List.append_assoc]
  rfl

theorem decode_encode_fits (encoded : (encode r s dest).answer = .ok size) (suffix : Octets)
    (rFits : byteWidth (value r) ≤ rDest.length) (sFits : byteWidth (value s) ≤ sDest.length) :
    let outcome := decodeSeparate ((encode r s dest).dest.take size ++ suffix) rDest sDest
    outcome.answer = .ok ⟨size, byteWidth (value r), byteWidth (value s)⟩ ∧
      outcome.dest = (ofValue rDest.length (value r), ofValue sDest.length (value s)) := by
  obtain ⟨encodable, total⟩ := encode_ok_iff.mp encoded
  rw [← value_content r] at rFits ⊢
  rw [← value_content s] at sFits ⊢
  rw [encoded_stream encoded, total, encoding_length, encoding_length]
  dsimp only
  rw [decodeSeparate_fits encodable.rCanonical.toAcceptable encodable.sCanonical.toAcceptable
    suffix rFits sFits]
  exact ⟨rfl, rfl⟩

theorem decode_encode_fixed (encoded : (encode r s dest).answer = .ok size) (suffix : Octets)
    (sized : rs.length = 2 * r.length) :
    let outcome := decodeFixed ((encode r s dest).dest.take size ++ suffix) rs
    outcome.answer = .ok ⟨size, byteWidth (value r), byteWidth (value s)⟩ ∧
      outcome.dest = r ++ s := by
  obtain ⟨encodable, _⟩ := encode_ok_iff.mp encoded
  have equal := encodable.equal
  have left : (rs.take r.length).length = r.length := by
    simp only [List.length_take]
    omega
  have right : (rs.drop r.length).length = s.length := by
    simp only [List.length_drop]
    omega
  have rFits : byteWidth (value r) ≤ (rs.take r.length).length := by
    rw [left]
    exact byteWidth_le_length encodable.given
  have sFits : byteWidth (value s) ≤ (rs.drop r.length).length := by
    rw [right]
    exact byteWidth_le_length encodable.sGiven
  obtain ⟨answer, stored⟩ := decode_encode_fits encoded suffix rFits sFits
  have halves := decodeFixed_halves ((encode r s dest).dest.take size ++ suffix)
    (left.trans (equal.trans right.symm))
  rw [List.take_append_drop] at halves
  dsimp only
  rw [halves, stored, left, right, ofValue_value, ofValue_value]
  exact ⟨answer, rfl⟩

-- The destinations need not have the width that was encoded: only the values travel.
theorem decode_encode_widths (encoded : (encode r s dest).answer = .ok size)
    (suffix rDest sDest : Octets) :
    let stream := (encode r s dest).dest.take size ++ suffix
    let outcome := decodeSeparate stream rDest sDest
    let rWidth := byteWidth (value r)
    let sWidth := byteWidth (value s)
    (rWidth ≤ rDest.length → sWidth ≤ sDest.length →
      outcome.answer = .ok ⟨size, rWidth, sWidth⟩ ∧
      outcome.dest = (ofValue rDest.length (value r), ofValue sDest.length (value s))) ∧
    (rDest.length < rWidth →
      outcome.answer = .error (.within .r (.capacityExceeded rWidth rDest.length))) ∧
    (rWidth ≤ rDest.length → sDest.length < sWidth →
      outcome.answer = .error (.within .s (.capacityExceeded sWidth sDest.length))) ∧
    ∀ rs, rs.length = 2 * r.length →
      (decodeFixed stream rs).answer = .ok ⟨size, rWidth, sWidth⟩ ∧
      (decodeFixed stream rs).dest = r ++ s := by
  obtain ⟨encodable, _⟩ := encode_ok_iff.mp encoded
  have rAcceptable := encodable.rCanonical.toAcceptable
  have sAcceptable := encodable.sCanonical.toAcceptable
  refine ⟨decode_encode_fits encoded suffix, fun wide => ?_, fun fits wide => ?_, fun rs sized => ?_⟩
  · rw [encoded_stream encoded]
    rw [← value_content r] at wide ⊢
    rw [decodeSeparate_r_wide rAcceptable _ _ wide]
  · rw [encoded_stream encoded]
    rw [← value_content r] at fits
    rw [← value_content s] at wide ⊢
    rw [decodeSeparate_s_wide rAcceptable sAcceptable _ fits wide]
  · exact decode_encode_fixed encoded suffix sized

theorem decode_encode_widths_repadded :
    (encode [0x00, 0x80] [0x00, 0x00] [1, 2, 3, 4, 5, 6, 7, 8]).answer = .ok 7 ∧
      (decodeSeparate [0x02, 0x02, 0x00, 0x80, 0x02, 0x01, 0x00, 0x63] [1, 2, 3] [4]).answer =
        .ok ⟨7, 1, 1⟩ ∧
      (decodeSeparate [0x02, 0x02, 0x00, 0x80, 0x02, 0x01, 0x00, 0x63] [1, 2, 3] [4]).dest =
        ([0x00, 0x00, 0x80], [0x00]) := by
  have encoded :
      (encode [0x00, 0x80] [0x00, 0x00] [1, 2, 3, 4, 5, 6, 7, 8]).answer = .ok 7 := rfl
  have rWidth : byteWidth (value [0x00, 0x80]) = 1 := byteWidth_eq_one (by decide)
  have sWidth : byteWidth (value [0x00, 0x00]) = 1 := byteWidth_eq_one (by decide)
  obtain ⟨fits, _⟩ := decode_encode_widths encoded [0x63] [1, 2, 3] [4]
  rw [rWidth, sWidth] at fits
  obtain ⟨answer, stored⟩ := fits (by decide) (by decide)
  exact ⟨encoded, answer, stored⟩

end DerPair.Pair
