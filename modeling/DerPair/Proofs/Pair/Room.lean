import DerPair.Proofs.Integer.Shortest
import DerPair.Proofs.Pair.Encoding

namespace DerPair.Pair
open Octets Integer

-- Room for the widest encodings of two components of one width.
structure Roomy (r s : Octets) (capacity : Nat) : Prop where
  given : r ≠ []
  equal : r.length = s.length
  room : largestSize r.length ≤ capacity

namespace Roomy

theorem sGiven (roomy : Roomy r s capacity) : s ≠ [] :=
  ne_nil_of_equal roomy.given roomy.equal

theorem rRoom (roomy : Roomy r s capacity) : (encoding r).length ≤ capacity := by
  have size := content_length_le r
  have room := roomy.room
  simp only [largestSize, encoding_length] at room ⊢
  omega

theorem sRoom (roomy : Roomy r s capacity) :
    (encoding s).length ≤ capacity - (encoding r).length := by
  have rSize := content_length_le r
  have sSize := content_length_le s
  have room := roomy.room
  rw [← roomy.equal] at sSize
  simp only [largestSize, encoding_length] at room ⊢
  omega

theorem encodable (roomy : Roomy r s capacity)
    (rShort : (content r).length ≤ ShortLength.largest)
    (sShort : (content s).length ≤ ShortLength.largest) : Encodable r s capacity := by
  have rRoom := roomy.rRoom
  have sRoom := roomy.sRoom
  exact ⟨roomy.equal, roomy.given, rShort, sShort, by omega⟩

theorem encode_r_long (roomy : Roomy r s dest.length)
    (long : ShortLength.largest < (content r).length) :
    (encode r s dest).answer = .error (.within .r (.longFormLength (content r).length)) :=
  encode_r_overlong roomy.given roomy.equal roomy.rRoom long

theorem encode_s_long (roomy : Roomy r s dest.length)
    (short : (content r).length ≤ ShortLength.largest)
    (long : ShortLength.largest < (content s).length) :
    (encode r s dest).answer = .error (.within .s (.longFormLength (content s).length)) := by
  have rRoom := roomy.rRoom
  have sRoom := roomy.sRoom
  exact encode_s_overlong roomy.given roomy.equal short (by omega) long

theorem encode_error_iff (roomy : Roomy r s dest.length) :
    (encode r s dest).answer = .error fault ↔
      (2 ^ 1015 ≤ value r ∧
        fault = .within .r (.longFormLength (bitLength (value r) / 8 + 1))) ∨
      (value r < 2 ^ 1015 ∧ 2 ^ 1015 ≤ value s ∧
        fault = .within .s (.longFormLength (bitLength (value s) / 8 + 1))) := by
  rw [← Nat.not_le, ← content_long_iff roomy.given, ← content_long_iff roomy.sGiven,
    ← content_length roomy.given, ← content_length roomy.sGiven]
  refine error_iff_first roomy.encode_r_long (fun rShort sLong => ?_) (fun rShort sShort => ?_)
  · exact roomy.encode_s_long (Nat.le_of_not_lt rShort) sLong
  · have encodable := roomy.encodable (Nat.le_of_not_lt rShort) (Nat.le_of_not_lt sShort)
    exact ⟨_, encode_ok_iff.mpr ⟨encodable, rfl⟩⟩

end Roomy

end DerPair.Pair
