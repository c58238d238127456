import DerPair.Proofs.Signature.Encoding
import DerPair.Proofs.Signature.Decoding

namespace DerPair.Signature
open Octets Integer

variable {signature : Signature}

-- The values of a signature as octets of another width.
def resized (signature : Signature) (size : Nat) : Signature :=
  ⟨ofValue size (value signature.r), ofValue size (value signature.s)⟩

theorem resized_values (rFits : byteWidth (value signature.r) ≤ size)
    (sFits : byteWidth (value signature.s) ≤ size) :
    value (signature.resized size).r = value signature.r ∧
      value (signature.resized size).s = value signature.s :=
  ⟨value_of_fits rFits, value_of_fits sFits⟩

theorem resized_width (signature : Signature) (equal : signature.r.length = signature.s.length) :
    signature.resized signature.width = signature := by
  have r := ofValue_value signature.r
  have s := ofValue_value signature.s
  rw [← equal] at s
  simp only [resized, width, r, s]

theorem ofDer_encoding (encodable : Pair.Encodable signature.r signature.s capacity)
    (curve : Curve) :
    let answer := (ofDer curve (encoding signature.r ++ encoding signature.s)).answer
    let rWidth := byteWidth (value signature.r)
    let sWidth := byteWidth (value signature.s)
    (rWidth ≤ curve.fieldSize → sWidth ≤ curve.fieldSize →
      answer = .ok (signature.resized curve.fieldSize)) ∧
    (curve.fieldSize < rWidth →
      answer = .error (.within .r (.capacityExceeded rWidth curve.fieldSize))) ∧
    (rWidth ≤ curve.fieldSize → curve.fieldSize < sWidth →
      answer = .error (.within .s (.capacityExceeded sWidth curve.fieldSize))) := by
  have r := encodable.rCanonical.toAcceptable
  have s := encodable.sCanonical.toAcceptable
  dsimp only [encoding, resized]
  rw [← value_content signature.r, ← value_content signature.s]
  refine ⟨fun rFits sFits => ?_, fun wide => ofDer_r_wide r _ wide, fun fits wide => ?_⟩
  · exact ofDer_ok_iff.mpr ⟨_, _, r, s, rfl, rFits, sFits, rfl⟩
  · have stopped := ofDer_s_wide r s [] fits wide
    rwa [List.append_nil] at stopped

-- A written signature is read back on every curve that has room for its numbers,
-- and on any other the first component without room is named. Nothing else can happen.
theorem ofDer_toDer_exact (written : signature.toDer.answer = .ok der) (curve : Curve) :
    let rWidth := byteWidth (value signature.r)
    let sWidth := byteWidth (value signature.s)
    let answer := (ofDer curve der).answer
    (rWidth ≤ curve.fieldSize → sWidth ≤ curve.fieldSize → ∃ decoded, answer = .ok decoded ∧
      decoded.width = curve.fieldSize ∧ decoded.s.length = curve.fieldSize ∧
      value decoded.r = value signature.r ∧ value decoded.s = value signature.s ∧
      (signature.width = curve.fieldSize → decoded = signature)) ∧
    ∀ fault, answer = .error fault ↔
      (curve.fieldSize < rWidth ∧
        fault = .within .r (.capacityExceeded rWidth curve.fieldSize)) ∨
      (rWidth ≤ curve.fieldSize ∧ curve.fieldSize < sWidth ∧
        fault = .within .s (.capacityExceeded sWidth curve.fieldSize)) := by
  obtain ⟨encodable, same⟩ := toDer_ok_iff.mp written
  obtain ⟨both, rWide, sWide⟩ := ofDer_encoding encodable curve
  rw [← same] at both rWide sWide
  dsimp only
  refine ⟨fun rFits sFits => ?_, fun fault => ?_⟩
  · obtain ⟨rValue, sValue⟩ := resized_values rFits sFits
    refine ⟨_, both rFits sFits, ofValue_length _ _, ofValue_length _ _, rValue, sValue, ?_⟩
    intro sized
    rw [← sized]
    exact resized_width signature encodable.equal
  · rw [← Nat.not_lt]
    refine Pair.error_iff_first rWide (fun fits wide => ?_) (fun rFits sFits => ?_)
    · exact sWide (Nat.le_of_not_lt fits) wide
    · exact ⟨_, both (Nat.le_of_not_lt rFits) (Nat.le_of_not_lt sFits)⟩

theorem ofDer_toDer_exact_resized :
    (Signature.mk [0x00, 0x80] [0x00, 0x00]).toDer.answer =
      .ok [0x02, 0x02, 0x00, 0x80, 0x02, 0x01, 0x00] ∧
    (∃ decoded,
      (ofDer .nistP256 [0x02, 0x02, 0x00, 0x80, 0x02, 0x01, 0x00]).answer = .ok decoded ∧
        decoded.width = 32 ∧ value decoded.r = 0x80 ∧ value decoded.s = 0) ∧
    (Signature.mk (0x01 :: List.replicate 32 0) (List.replicate 33 0)).toDer.answer =
      .ok (0x02 :: 0x21 :: 0x01 :: (List.replicate 32 0 ++ [0x02, 0x01, 0x00])) ∧
    (ofDer .nistP256
        (0x02 :: 0x21 :: 0x01 :: (List.replicate 32 0 ++ [0x02, 0x01, 0x00]))).answer =
      .error (.within .r (.capacityExceeded 33 32)) := by
  have small : (Signature.mk [0x00, 0x80] [0x00, 0x00]).toDer.answer =
      .ok [0x02, 0x02, 0x00, 0x80, 0x02, 0x01, 0x00] := rfl
  have rWidth : byteWidth (value [0x00, 0x80]) = 1 := byteWidth_eq_one (by decide)
  have sWidth : byteWidth (value [0x00, 0x00]) = 1 := byteWidth_eq_one (by decide)
  obtain ⟨fits, _⟩ := ofDer_toDer_exact small .nistP256
  rw [rWidth, sWidth] at fits
  obtain ⟨decoded, answer, width, _, rValue, sValue, _⟩ := fits (by decide) (by decide)
  have large : (Signature.mk (0x01 :: List.replicate 32 0) (List.replicate 33 0)).toDer.answer =
      .ok (0x02 :: 0x21 :: 0x01 :: (List.replicate 32 0 ++ [0x02, 0x01, 0x00])) := rfl
  have wide : byteWidth (value (0x01 :: List.replicate 32 0)) = 33 := byteWidth_value (by decide)
  obtain ⟨_, refused⟩ := ofDer_toDer_exact large .nistP256
  rw [wide] at refused
  exact ⟨small, ⟨decoded, answer, width, rValue, sValue⟩, large,
    (refused _).mpr (.inl ⟨by decide, rfl⟩)⟩

end DerPair.Signature
