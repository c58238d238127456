import DerPair.Proofs.Bounded.Totality
import DerPair.Proofs.Pair.Room

namespace DerPair

namespace Integer
open Octets

theorem encoding_length_le (data : Octets) : (encoding data).length ≤ 3 + data.length := by
  have size := content_length_le data
  rw [encoding_length]
  omega

theorem encoding_full_iff (data : Octets) :
    (encoding data).length = 3 + data.length ↔ leadsWithTopBit data = true := by
  rw [← content_full_iff, encoding_length]
  omega

end Integer

namespace Pair
open Octets Integer

namespace Roomy

variable {r s dest : Octets}

theorem unsupported (roomy : Roomy r s dest.length) (refused : (encode r s dest).answer = .error fault) :
    fault.kind = .unsupported := by
  rcases roomy.encode_error_iff.mp refused with ⟨_, rfl⟩ | ⟨_, _, rfl⟩
  · rfl
  · rfl

end Roomy

theorem written_full_iff (equal : r.length = s.length) :
    (encoding r).length + (encoding s).length = largestSize r.length ↔
      leadsWithTopBit r = true ∧ leadsWithTopBit s = true := by
  have rBound := encoding_length_le r
  have sBound := encoding_length_le s
  rw [← encoding_full_iff, ← encoding_full_iff, largestSize]
  omega

theorem written_length_le (equal : r.length = s.length) :
    (encoding r).length + (encoding s).length ≤ largestSize r.length := by
  have rBound := encoding_length_le r
  have sBound := encoding_length_le s
  rw [largestSize]
  omega

-- Two components that take all the room a pair of their width can take.
structure Fullest (r s : Octets) : Prop where
  equal : r.length = s.length
  narrow : r.length ≤ 126
  rLeads : leadsWithTopBit r = true
  sLeads : leadsWithTopBit s = true

namespace Fullest

variable {r s dest : Octets}

theorem given (fullest : Fullest r s) : r ≠ [] := by
  intro empty
  have leads := fullest.rLeads
  rw [empty] at leads
  cases leads

theorem rSize (fullest : Fullest r s) : (encoding r).length = 3 + r.length :=
  (encoding_full_iff r).mpr fullest.rLeads

theorem sSize (fullest : Fullest r s) : (encoding s).length = 3 + r.length := by
  rw [fullest.equal]
  exact (encoding_full_iff s).mpr fullest.sLeads

theorem encodable (fullest : Fullest r s) (room : largestSize r.length ≤ capacity) :
    Encodable r s capacity := by
  have narrow := fullest.narrow
  have rSize := fullest.rSize
  have sSize := fullest.sSize
  rw [encoding_length] at rSize sSize
  refine Roomy.encodable ⟨fullest.given, fullest.equal, room⟩ ?_ ?_
  · rw [ShortLength.largest]
    omega
  · rw [ShortLength.largest]
    omega

theorem encode_ok (fullest : Fullest r s) (room : largestSize r.length ≤ dest.length) :
    (encode r s dest).answer = .ok (largestSize r.length) := by
  refine encode_ok_iff.mpr ⟨fullest.encodable room, ?_⟩
  exact ((written_full_iff fullest.equal).mpr ⟨fullest.rLeads, fullest.sLeads⟩).symm

theorem encode_short (fullest : Fullest r s) (short : dest.length + 1 = largestSize r.length) :
    encode r s dest =
      (Outcome.refused (.encodingTooWide (3 + r.length) (2 + r.length)) dest).within .s := by
  have rSize := fullest.rSize
  have sSize := fullest.sSize
  have encodable := fullest.encodable (Nat.le_refl _)
  have left : dest.length - (encoding r).length = 2 + r.length := by
    rw [largestSize] at short
    omega
  have first : refusal r dest.length = none := by
    refine refusal_eq_none_iff.mpr ⟨fullest.given, ?_, encodable.rShort⟩
    rw [largestSize] at short
    omega
  have second : refusal s (dest.length - (encoding r).length) =
      some (.encodingTooWide (3 + r.length) (2 + r.length)) := by
    rw [left, ← sSize]
    exact refusal_narrow encodable.sGiven (by omega)
  exact encode_s_refused fullest.equal first second

end Fullest

theorem exists_fullest (filled : 1 ≤ width) (narrow : width ≤ 126) :
    ∃ r s, r.length = width ∧ Fullest r s := by
  obtain ⟨count, rfl⟩ := Nat.exists_eq_add_of_le' filled
  have sized : (List.replicate (count + 1) (0x80 : UInt8)).length = count + 1 := List.length_replicate
  exact ⟨_, _, sized, rfl, by rwa [sized], rfl, rfl⟩

theorem word_size_iff : Bounded.largestSize width = some (largestSize width) ↔
    width ≤ 2 ^ 63 - 4 := by
  constructor
  · intro sized
    refine Nat.le_of_not_lt fun wide => ?_
    rw [Bounded.largestSize_none wide] at sized
    cases sized
  · exact Bounded.largestSize_eq

-- With the room its width calls for, a pair is written unless a number has no short form. The
-- pairs that lead with two set top bits need that room to the last octet.
theorem largestSize_exact :
    (∀ r s dest : Octets, r ≠ [] → r.length = s.length → largestSize r.length ≤ dest.length →
      let answer := (encode r s dest).answer
      let rSize := bitLength (value r) / 8 + 1
      let sSize := bitLength (value s) / 8 + 1
      (rSize ≤ ShortLength.largest → sSize ≤ ShortLength.largest →
        answer = .ok (2 + rSize + (2 + sSize))) ∧
      (ShortLength.largest < rSize → answer = .error (.within .r (.longFormLength rSize))) ∧
      (rSize ≤ ShortLength.largest → ShortLength.largest < sSize →
        answer = .error (.within .s (.longFormLength sSize))) ∧
      (∀ fault, answer = .error fault → fault.kind = .unsupported) ∧
      ∀ size, answer = .ok size → size ≤ largestSize r.length ∧
        (size = largestSize r.length ↔ leadsWithTopBit r = true ∧ leadsWithTopBit s = true)) ∧
    (∀ r s : Octets, Fullest r s →
      (∀ dest : Octets, largestSize r.length ≤ dest.length →
        (encode r s dest).answer = .ok (largestSize r.length)) ∧
      ∀ dest : Octets, dest.length + 1 = largestSize r.length →
        (encode r s dest).answer =
          .error (.within .s (.capacityExceeded (3 + r.length) (2 + r.length)))) ∧
    (∀ width, 1 ≤ width → width ≤ 126 → ∃ r s, r.length = width ∧ Fullest r s) ∧
    ∀ width, Bounded.largestSize width = some (largestSize width) ↔ width ≤ 2 ^ 63 - 4 := by
  refine ⟨fun r s dest given equal room => ?_, fun r s fullest => ⟨fun dest => fullest.encode_ok,
    fun dest short => ?_⟩, fun width => exists_fullest, fun width => word_size_iff⟩
  · have roomy : Roomy r s dest.length := ⟨given, equal, room⟩
    rw [← content_length given, ← content_length roomy.sGiven]
    refine ⟨fun rShort sShort => ?_, roomy.encode_r_long, roomy.encode_s_long,
      fun fault => roomy.unsupported, fun size accepted => ?_⟩
    · rw [← encoding_length, ← encoding_length]
      exact encode_ok_iff.mpr ⟨roomy.encodable rShort sShort, rfl⟩
    · obtain ⟨_, rfl⟩ := encode_ok_iff.mp accepted
      exact ⟨written_length_le equal, written_full_iff equal⟩
  · rw [fullest.encode_short short]
    rfl

theorem largestSize_exact_single :
    largestSize 1 = 8 ∧ Fullest [0x80] [0xFF] ∧
    (encode [0x80] [0xFF] (List.replicate 8 9)).answer = .ok 8 ∧
    (encode [0x80] [0xFF] (List.replicate 7 9)).answer =
      .error (.within .s (.capacityExceeded 4 3)) ∧
    (encode [0x80] [0x7F] (List.replicate 8 9)).answer = .ok 7 ∧ 7 ≤ largestSize 1 ∧
    (7 = largestSize 1 ↔ leadsWithTopBit [0x80] = true ∧ leadsWithTopBit [0x7F] = true) := by
  have fullest : Fullest [0x80] [0xFF] := ⟨rfl, by decide, rfl, rfl⟩
  have spare : (encode [0x80] [0x7F] (List.replicate 8 9)).answer = .ok 7 := rfl
  obtain ⟨bounded, filled, _⟩ := largestSize_exact
  obtain ⟨written, short⟩ := filled _ _ fullest
  obtain ⟨_, _, _, _, sizes⟩ :=
    bounded [0x80] [0x7F] (List.replicate 8 9) (List.cons_ne_nil _ _) rfl (by decide)
  exact ⟨rfl, fullest, written _ (by decide), short _ rfl, spare, sizes 7 spare⟩

end Pair
end DerPair
