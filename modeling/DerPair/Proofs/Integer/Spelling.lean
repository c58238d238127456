import DerPair.Proofs.Integer.Content

namespace DerPair.Integer
open Octets

-- The contents that are read as the value of the data: the magnitude, and the
-- magnitude of anything but zero behind one zero octet.
inductive Spells (data : Octets) : Octets → Prop where
  | plain : Spells data (magnitude data)
  | stuffed (nonzero : value data ≠ 0) : Spells data (0 :: magnitude data)

theorem trimmed_shape (trimmed : ¬ [0, 0] <+: payload) :
    magnitude payload = payload ∨ value payload ≠ 0 ∧ payload = 0 :: magnitude payload := by
  rcases trimmed_cases trimmed with plain | ⟨second, rest, nonzero, shape⟩
  · exact .inl plain
  · subst shape
    have digits := magnitude_stuffed rest nonzero
    refine .inr ⟨fun null => nonzero ?_, by rw [digits]⟩
    rw [magnitude_of_zero (List.cons_ne_nil _ _) null] at digits
    exact (List.cons.inj digits).1.symm

theorem Spells.value_eq (spelled : Spells data payload) : value payload = value data := by
  cases spelled with
  | plain => exact value_magnitude data
  | stuffed => simpa [value] using value_magnitude data

theorem Spells.acceptable (spelled : Spells data payload) (given : data ≠ [])
    (narrow : data.length < ShortLength.largest) : Acceptable payload := by
  have stripped := magnitude_length data
  cases spelled with
  | plain => exact ⟨magnitude_ne_nil given, by omega, magnitude_trimmed data⟩
  | stuffed nonzero =>
    refine ⟨List.cons_ne_nil _ _, ?_, ?_⟩
    · simp only [List.length_cons]
      omega
    · intro redundant
      obtain ⟨rest, shape⟩ := redundant
      exact nonzero (value_of_leading_zero (List.cons.inj shape).2.symm)

theorem spells_of_value (acceptable : Acceptable payload) (given : data ≠ [])
    (same : value payload = value data) : Spells data payload := by
  have digits : magnitude payload = magnitude data := by
    rw [magnitude_eq acceptable.given, magnitude_eq given, same]
  rcases trimmed_shape acceptable.trimmed with plain | ⟨nonzero, stuffed⟩
  · rw [← plain, digits]
    exact .plain
  · rw [stuffed, digits]
    exact .stuffed (by rwa [← same])

theorem content_spells (given : data ≠ []) (short : (content data).length ≤ ShortLength.largest) :
    Spells data (content data) :=
  spells_of_value (content_canonical given short).toAcceptable given (value_content data)

theorem canonical_iff_of_value (acceptable : Acceptable payload) (given : data ≠ [])
    (same : value payload = value data) : Canonical payload ↔ payload = content data := by
  rw [← content_eq_self_iff acceptable.given acceptable.short,
    content_congr acceptable.given given same]
  exact ⟨Eq.symm, Eq.symm⟩

end DerPair.Integer
