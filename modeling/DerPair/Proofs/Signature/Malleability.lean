import DerPair.Proofs.Integer.Spelling
import DerPair.Proofs.Signature.Encoding
import DerPair.Proofs.Signature.Decoding

namespace DerPair.Signature
open Octets Integer

-- Two INTEGERs in the form the encoder writes and nothing behind them.
def CanonicalPair (der : Octets) : Prop :=
  ∃ r s, Canonical r ∧ Canonical s ∧ der = tlv r ++ tlv s

theorem OnCurve.contents_short (sized : OnCurve signature curve) :
    (content signature.r).length ≤ ShortLength.largest ∧
      (content signature.s).length ≤ ShortLength.largest := by
  have bound := curve.fieldSize_bounds.2
  have r := content_length_le signature.r
  have s := content_length_le signature.s
  rw [sized.r] at r
  rw [sized.s] at s
  omega

theorem OnCurve.toDer_ok (sized : OnCurve signature curve) :
    signature.toDer.answer = .ok (encoding signature.r ++ encoding signature.s) := by
  obtain ⟨rShort, sShort⟩ := sized.contents_short
  have paired : signature.Paired := ⟨sized.rGiven, sized.r.trans sized.s.symm⟩
  exact toDer_encodable (encodable_of_paired paired rShort sShort)

theorem ofDer_iff_spells (sized : OnCurve signature curve) :
    (ofDer curve der).answer = .ok signature ↔
      ∃ rPayload sPayload, Spells signature.r rPayload ∧ Spells signature.s sPayload ∧
        der = tlv rPayload ++ tlv sPayload := by
  constructor
  · intro accepted
    obtain ⟨rPayload, sPayload, rAcceptable, sAcceptable, shape, rValue, sValue⟩ :=
      ofDer_values accepted
    exact ⟨rPayload, sPayload, spells_of_value rAcceptable sized.rGiven rValue,
      spells_of_value sAcceptable sized.sGiven sValue, shape⟩
  · intro shaped
    obtain ⟨rPayload, sPayload, rSpelled, sSpelled, shape⟩ := shaped
    have bound := curve.fieldSize_bounds.2
    have rFits := byteWidth_le_length sized.rGiven
    have sFits := byteWidth_le_length sized.sGiven
    have rHeld := ofValue_value signature.r
    have sHeld := ofValue_value signature.s
    rw [sized.r, ← rSpelled.value_eq] at rFits rHeld
    rw [sized.s, ← sSpelled.value_eq] at sFits sHeld
    refine ofDer_ok_iff.mpr ⟨rPayload, sPayload, rSpelled.acceptable sized.rGiven ?_,
      sSpelled.acceptable sized.sGiven ?_, shape, rFits, sFits, ?_⟩
    · rw [sized.r]
      omega
    · rw [sized.s]
      omega
    · rw [rHeld, sHeld]

theorem toDer_eq_iff (accepted : (ofDer curve der).answer = .ok signature) :
    signature.toDer.answer = .ok der ↔ CanonicalPair der := by
  have sized := ofDer_onCurve accepted
  obtain ⟨rShort, sShort⟩ := sized.contents_short
  rw [sized.toDer_ok]
  constructor
  · intro same
    exact ⟨content signature.r, content signature.s, content_canonical sized.rGiven rShort,
      content_canonical sized.sGiven sShort, (Except.ok.inj same).symm⟩
  · intro shaped
    obtain ⟨r, s, rCanonical, sCanonical, shape⟩ := shaped
    obtain ⟨rPayload, sPayload, rAcceptable, sAcceptable, written, rValue, sValue⟩ :=
      ofDer_values accepted
    obtain ⟨rSame, joined⟩ :=
      tlv_append_inj rCanonical.short rAcceptable.short (shape.symm.trans written)
    rw [← List.append_nil (tlv s), ← List.append_nil (tlv sPayload)] at joined
    obtain ⟨sSame, _⟩ := tlv_append_inj sCanonical.short sAcceptable.short joined
    subst rSame sSame
    rw [shape, (canonical_iff_of_value rAcceptable sized.rGiven rValue).mp rCanonical,
      (canonical_iff_of_value sAcceptable sized.sGiven sValue).mp sCanonical]
    rfl

theorem ofDer_written (sized : OnCurve signature curve) :
    (ofDer curve (encoding signature.r ++ encoding signature.s)).answer = .ok signature := by
  obtain ⟨rShort, sShort⟩ := sized.contents_short
  have r := content_spells sized.rGiven rShort
  have s := content_spells sized.sGiven sShort
  exact (ofDer_iff_spells sized).mpr ⟨_, _, r, s, rfl⟩

-- A stream comes back as it was read exactly if it is canonical. What is written
-- is the one canonical spelling among those that are read as the signature.
theorem ofDer_canonical_exact (accepted : (ofDer curve der).answer = .ok signature) :
    (signature.toDer.answer = .ok der ↔ CanonicalPair der) ∧
    (∃ written, signature.toDer.answer = .ok written ∧ CanonicalPair written ∧
      (ofDer curve written).answer = .ok signature ∧
      ∀ other, (ofDer curve other).answer = .ok signature → CanonicalPair other →
        other = written) ∧
    ∀ other, (ofDer curve other).answer = .ok signature ↔
      ∃ rPayload sPayload, Spells signature.r rPayload ∧ Spells signature.s sPayload ∧
        other = tlv rPayload ++ tlv sPayload := by
  have sized := ofDer_onCurve accepted
  have written := sized.toDer_ok
  have again := ofDer_written sized
  refine ⟨toDer_eq_iff accepted, ⟨_, written, (toDer_eq_iff again).mp written, again, ?_⟩,
    fun other => ofDer_iff_spells sized⟩
  intro other read canonical
  have same := (toDer_eq_iff read).mpr canonical
  exact Except.ok.inj (same.symm.trans written)

theorem ofDer_canonical_exact_stuffed : ∃ signature,
    (ofDer .nistP256 [0x02, 0x02, 0x00, 0x80, 0x02, 0x01, 0x01]).answer = .ok signature ∧
      CanonicalPair [0x02, 0x02, 0x00, 0x80, 0x02, 0x01, 0x01] := by
  have accepted : (ofDer .nistP256 [0x02, 0x02, 0x00, 0x80, 0x02, 0x01, 0x01]).answer =
      .ok ⟨List.replicate 31 0 ++ [0x80], List.replicate 31 0 ++ [0x01]⟩ := rfl
  exact ⟨_, accepted, (ofDer_canonical_exact accepted).1.mp rfl⟩

theorem ofDer_respelled : ∃ signature,
    (ofDer .nistP256 [0x02, 0x01, 0x80, 0x02, 0x01, 0x01]).answer = .ok signature ∧
      (ofDer .nistP256 [0x02, 0x02, 0x00, 0x80, 0x02, 0x01, 0x01]).answer = .ok signature ∧
      signature.toDer.answer = .ok [0x02, 0x02, 0x00, 0x80, 0x02, 0x01, 0x01] ∧
      signature.toDer.answer ≠ .ok [0x02, 0x01, 0x80, 0x02, 0x01, 0x01] := by
  refine ⟨_, rfl, rfl, rfl, ?_⟩
  intro same
  cases same

end DerPair.Signature
