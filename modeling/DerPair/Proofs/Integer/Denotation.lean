import DerPair.Proofs.Integer.Decoding

namespace DerPair.Integer
open Octets

theorem tlv_payload (payload rest : Octets) :
    ((tlv payload ++ rest).take (2 + payload.length)).drop 2 = payload := by
  rw [← tlv_length, List.take_left]
  rfl

theorem tlv_third (given : payload ≠ []) (rest : Octets) :
    leadsWithTopBit payload = true ↔ 0x80 ≤ (tlv payload ++ rest).getD 2 0 := by
  obtain ⟨first, tail, rfl⟩ := List.exists_cons_of_ne_nil given
  exact decide_eq_true_iff

theorem acceptable_of_negative (negative : signedValue payload < 0)
    (short : payload.length ≤ ShortLength.largest) :
    Acceptable payload ∧ magnitude payload = payload := by
  have leads := (signedValue_neg_iff payload).mp negative
  cases payload with
  | nil => cases leads
  | cons first rest =>
    -- A zero octet in front would clear the sign bit, so none is there to be redundant.
    have nonzero : first ≠ 0 := by
      intro zero
      rw [zero] at leads
      cases leads
    refine ⟨⟨List.cons_ne_nil _ _, short, fun redundant => ?_⟩, magnitude_of_head rest nonzero⟩
    obtain ⟨tail, shape⟩ := redundant
    exact nonzero (List.cons.inj shape).1.symm

theorem decode_negative_iff (negative : signedValue payload < 0)
    (short : payload.length ≤ ShortLength.largest) (rest dest : Octets) :
    (∃ decoded, (decode (tlv payload ++ rest) dest).answer = .ok decoded) ↔
      payload.length ≤ dest.length := by
  obtain ⟨acceptable, whole⟩ := acceptable_of_negative negative short
  have width := byteWidth_value acceptable.given
  rw [whole] at width
  rw [← width]
  constructor
  · intro answered
    obtain ⟨decoded, accepted⟩ := answered
    obtain ⟨other, tail, alike, same, fits, _⟩ := decode_ok_iff.mp accepted
    obtain ⟨rfl, _⟩ := tlv_append_inj short alike.short same
    exact fits
  · intro fits
    exact ⟨_, decode_ok_iff.mpr ⟨payload, rest, acceptable, rfl, fits, rfl⟩⟩

theorem decode_held (accepted : (decode der dest).answer = .ok decoded) :
    let payload := (der.take decoded.consumed).drop 2
    value (decode der dest).dest = value payload ∧
      (leadsWithTopBit payload = true ↔ 0x80 ≤ der.getD 2 0) := by
  obtain ⟨payload, rest, acceptable, rfl, fits, rfl⟩ := decode_ok_iff.mp accepted
  dsimp only
  rw [tlv_payload, decode_fits acceptable rest fits]
  exact ⟨value_of_fits fits, tlv_third acceptable.given rest⟩

-- A stored value is the denoted number cut to the range of its content: the number itself
-- exactly if that is not negative. A negative number is accepted wherever its octets fit.
theorem decode_denotation_exact (der dest : Octets) :
    (∀ decoded, (decode der dest).answer = .ok decoded →
      let payload := (der.take decoded.consumed).drop 2
      let denoted := signedValue payload
      let held : Int := value (decode der dest).dest
      held = denoted % 256 ^ payload.length ∧
      (held = denoted ↔ 0 ≤ denoted) ∧
      (denoted < 0 ↔ 0x80 ≤ der.getD 2 0)) ∧
    ∀ payload rest, der = tlv payload ++ rest → signedValue payload < 0 →
      payload.length ≤ ShortLength.largest →
      ((∃ decoded, (decode der dest).answer = .ok decoded) ↔ payload.length ≤ dest.length) := by
  refine ⟨fun decoded accepted => ?_, fun payload rest shape negative short => ?_⟩
  · obtain ⟨held, sign⟩ := decode_held accepted
    dsimp only
    rw [held]
    exact ⟨(signedValue_emod _).symm, value_eq_signedValue_iff _,
      (signedValue_neg_iff _).trans sign⟩
  · rw [shape]
    exact decode_negative_iff negative short rest dest

theorem decode_denotation_exact_signs :
    (value (decode [0x02, 0x02, 0x00, 0x80] [7, 7]).dest : Int) = signedValue [0x00, 0x80] ∧
      (value (decode [0x02, 0x01, 0x80] [7, 7]).dest : Int) = signedValue [0x80] % 256 ∧
      signedValue [0x80] = -128 ∧
      ¬ ∃ decoded, (decode [0x02, 0x01, 0x80] []).answer = .ok decoded := by
  have stuffed : (decode [0x02, 0x02, 0x00, 0x80] [7, 7]).answer = .ok ⟨4, 1⟩ := rfl
  have bare : (decode [0x02, 0x01, 0x80] [7, 7]).answer = .ok ⟨3, 1⟩ := rfl
  have negative : signedValue [0x80] < 0 := by decide
  obtain ⟨_, exact, _⟩ := (decode_denotation_exact _ _).1 _ stuffed
  obtain ⟨cut, _, _⟩ := (decode_denotation_exact _ _).1 _ bare
  have room := (decode_denotation_exact [0x02, 0x01, 0x80] []).2 [0x80] [] rfl negative (by decide)
  exact ⟨exact.mpr (by decide), cut, rfl, fun accepted => absurd (room.mp accepted) (by decide)⟩

theorem decode_negative_accepted :
    (decode [0x02, 0x01, 0x80] [0]).answer = .ok ⟨3, 1⟩ ∧
      value (decode [0x02, 0x01, 0x80] [0]).dest = 128 ∧ signedValue [0x80] = -128 :=
  ⟨rfl, rfl, rfl⟩

end DerPair.Integer
