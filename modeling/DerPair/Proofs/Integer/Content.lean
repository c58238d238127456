import DerPair.Integer.Encoding
import DerPair.Integer.Grammar
import DerPair.Proofs.Octets.Size

namespace DerPair.Integer
open Octets

theorem content_of_stuffed (stuffed : needsStuffing data = true) :
    content data = 0 :: magnitude data := by
  rw [content, if_pos stuffed]

theorem content_of_plain (plain : needsStuffing data = false) : content data = magnitude data := by
  rw [content, if_neg (ne_true_of_eq_false plain)]

theorem content_ne_nil (given : data ≠ []) : content data ≠ [] := by
  cases sign : needsStuffing data with
  | true =>
    rw [content_of_stuffed sign]
    exact List.cons_ne_nil _ _
  | false =>
    rw [content_of_plain sign]
    exact magnitude_ne_nil given

theorem value_content (data : Octets) : value (content data) = value data := by
  cases sign : needsStuffing data with
  | true => simpa [content_of_stuffed sign, value] using value_magnitude data
  | false =>
    rw [content_of_plain sign]
    exact value_magnitude data

theorem content_congr (left : data ≠ []) (right : other ≠ []) (same : value data = value other) :
    content data = content other := by
  have digits : magnitude data = magnitude other := by
    rw [magnitude_eq left, magnitude_eq right, same]
  unfold content needsStuffing
  rw [digits]

theorem content_clear (data : Octets) : leadsWithTopBit (content data) = false := by
  cases sign : needsStuffing data with
  | true =>
    rw [content_of_stuffed sign]
    rfl
  | false =>
    rw [content_of_plain sign]
    exact sign

theorem signedValue_content (data : Octets) : signedValue (content data) = value data := by
  rw [signedValue_of_clear (content_clear data), value_content]

theorem content_bits (data : Octets) :
    (content data).length ≤ 1 ∨ 8 * (content data).length ≤ bitLength (value data) + 8 := by
  cases sign : needsStuffing data with
  | true =>
    rw [content_of_stuffed sign]
    unfold needsStuffing at sign
    cases shape : magnitude data with
    | nil => exact .inl (Nat.le_refl _)
    | cons first rest =>
      rw [shape] at sign
      have filled := lt_bitLength_iff.mpr ((topBit_iff first rest).mp sign)
      rw [← shape, value_magnitude] at filled
      simp only [List.length_cons]
      omega
  | false =>
    rw [content_of_plain sign]
    rcases shape : magnitude data with _ | ⟨first, _ | ⟨second, rest⟩⟩
    · exact .inl (Nat.zero_le _)
    · exact .inl (Nat.le_refl _)
    · have filled := bitLength_of_magnitude shape
      simp only [List.length_cons]
      omega

theorem content_length (given : data ≠ []) :
    (content data).length = bitLength (value data) / 8 + 1 := by
  have least := signed_length (content_ne_nil given) (signedValue_content data)
  rcases content_bits data with single | filled
  · omega
  · omega

theorem content_length_le (data : Octets) : (content data).length ≤ data.length + 1 := by
  have stripped := magnitude_length data
  cases sign : needsStuffing data with
  | true =>
    rw [content_of_stuffed sign]
    exact Nat.succ_le_succ stripped
  | false =>
    rw [content_of_plain sign]
    exact Nat.le_succ_of_le stripped

theorem content_full_iff (data : Octets) :
    (content data).length = data.length + 1 ↔ leadsWithTopBit data = true := by
  constructor
  · intro full
    cases sign : needsStuffing data with
    | true =>
      rw [content_of_stuffed sign, List.length_cons, Nat.add_right_cancel_iff] at full
      rwa [needsStuffing, magnitude_of_whole full] at sign
    | false =>
      have stripped := magnitude_length data
      rw [content_of_plain sign] at full
      omega
  · intro leads
    have whole := magnitude_of_leading leads
    have sign : needsStuffing data = true := by rwa [needsStuffing, whole]
    rw [content_of_stuffed sign, whole, List.length_cons]

theorem content_trimmed (data : Octets) : ¬ [0, 0] <+: content data := by
  cases sign : needsStuffing data with
  | true =>
    rw [content_of_stuffed sign]
    intro redundant
    obtain ⟨rest, shape⟩ := redundant
    rw [needsStuffing, (List.cons.inj shape).2.symm] at sign
    cases sign
  | false =>
    rw [content_of_plain sign]
    exact magnitude_trimmed data

theorem content_sign (shape : content data = 0 :: second :: rest) : topBit second = true := by
  cases sign : needsStuffing data with
  | true =>
    rw [content_of_stuffed sign] at shape
    rwa [needsStuffing, (List.cons.inj shape).2] at sign
  | false =>
    rw [content_of_plain sign] at shape
    exact absurd rfl (magnitude_head shape)

theorem content_canonical (given : data ≠ [])
    (short : (content data).length ≤ ShortLength.largest) : Canonical (content data) where
  given := content_ne_nil given
  short := short
  trimmed := content_trimmed data
  nonNegative := content_clear data
  stuffedForSign _ _ shape := content_sign shape

theorem content_of_canonical (canonical : Canonical bytes) : content bytes = bytes := by
  have clear := canonical.nonNegative
  rcases trimmed_cases canonical.trimmed with plain | ⟨second, rest, nonzero, shape⟩
  · simp [content, needsStuffing, plain, clear]
  · have leads := canonical.stuffedForSign second rest shape
    subst shape
    simp [content, needsStuffing, magnitude_stuffed rest nonzero, leadsWithTopBit, leads]

theorem content_eq_self_iff (given : bytes ≠ []) (short : bytes.length ≤ ShortLength.largest) :
    content bytes = bytes ↔ Canonical bytes := by
  refine ⟨fun same => ?_, content_of_canonical⟩
  have canonical := content_canonical given (by rwa [same])
  rwa [same] at canonical

theorem tlv_length (payload : Octets) : (tlv payload).length = 2 + payload.length := by
  simp only [tlv, List.length_cons]
  omega

theorem tlv_append_inj (left : payload.length ≤ ShortLength.largest)
    (right : other.length ≤ ShortLength.largest)
    (same : tlv payload ++ rest = tlv other ++ tail) : payload = other ∧ rest = tail := by
  simp only [tlv, List.cons_append, List.cons.injEq, true_and] at same
  obtain ⟨octets, joined⟩ := same
  have lengths : payload.length = other.length := by
    have numbers := congrArg UInt8.toNat octets
    simp only [UInt8.toNat_ofNat', ShortLength.largest] at numbers left right
    omega
  exact List.append_inj joined lengths

end DerPair.Integer
