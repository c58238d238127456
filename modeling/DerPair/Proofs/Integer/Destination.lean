import DerPair.Proofs.Integer.Truncation

namespace DerPair.Integer
open Octets Fault

theorem magnitude_bounds (acceptable : Acceptable payload) :
    1 ≤ (magnitude payload).length ∧ (magnitude payload).length ≤ ShortLength.largest :=
  ⟨List.length_pos_iff.mpr (magnitude_ne_nil acceptable.given),
    Nat.le_trans (magnitude_length payload) acceptable.short⟩

end DerPair.Integer
