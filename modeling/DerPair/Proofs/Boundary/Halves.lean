import DerPair.Proofs.Boundary.Refinement
import DerPair.Proofs.Pair.Faults

namespace DerPair.Boundary
open Octets Integer

-- The same request twice: for a buffer of its own for each component, and for one buffer
-- that takes both.
def apart (der : Pointer) (size half : Nat) (r s : Octets) : DecodeSeparate :=
  ⟨der, size, some r, some half, some s, some half⟩

def together (der : Pointer) (size half : Nat) (rs : Octets) : DecodeFixed :=
  ⟨der, size, some rs, 2 * half⟩

variable {der : Pointer} {size half : Nat} {r s rTail sTail rsTail : Octets}

theorem apart_checks (fits : 2 * half ≤ largestBuffer) :
    firstFailure (apart der size half r s).checks =
      firstFailure [.pointer der, .size .inputSize size] := by
  have small : half ≤ largestBuffer := by omega
  have cells : firstFailure [.cell (some half), .cell (some half)] = none := rfl
  have buffers : firstFailure [.pointer (some r), .size .rCapacity half, .pointer (some s),
      .size .sCapacity half] = none := by
    simp [firstFailure, Check.failure, small]
  have parts : (apart der size half r s).checks =
      [.cell (some half), .cell (some half)] ++ ([.pointer der, .size .inputSize size] ++
        [.pointer (some r), .size .rCapacity half, .pointer (some s), .size .sCapacity half]) := rfl
  rw [parts, firstFailure_append, firstFailure_append, cells, buffers, Option.or_none,
    Option.none_or]

theorem together_checks (fits : 2 * half ≤ largestBuffer) :
    firstFailure (together der size half rs).checks =
      firstFailure [.pointer der, .size .inputSize size] := by
  have buffer : firstFailure [.pointer (some rs), .size .pairSize (2 * half)] = none := by
    simp [firstFailure, Check.failure, fits]
  have parts : (together der size half rs).checks =
      [.pointer der, .size .inputSize size] ++
        [.pointer (some rs), .size .pairSize (2 * half)] := rfl
  rw [parts, firstFailure_append, buffer, Option.or_none]

theorem apart_codec (rSized : r.length = half) (sSized : s.length = half) :
    (apart der size half (r ++ rTail) (s ++ sTail)).codec =
      Pair.decodeSeparate (der.slice size) r s := by
  simp only [apart, DecodeSeparate.codec, Pointer.slice, Option.getD_some, List.take_left' rSized,
    List.take_left' sSized]

theorem together_codec (rSized : r.length = half) (sSized : s.length = half) :
    (together der size half (r ++ s ++ rsTail)).codec =
      ⟨(Pair.decodeSeparate (der.slice size) r s).toTraced,
        (Pair.decodeSeparate (der.slice size) r s).dest.1 ++
          (Pair.decodeSeparate (der.slice size) r s).dest.2⟩ := by
  have sized : (r ++ s).length = 2 * half := by
    rw [List.length_append]
    omega
  rw [← Pair.decodeFixed_halves (der.slice size) (rSized.trans sSized.symm)]
  simp only [together, DecodeFixed.codec, Pointer.slice, Option.getD_some, List.take_left' sized]

theorem apart_stored (rSized : r.length = half) (sSized : s.length = half) :
    (apart der size half (r ++ rTail) (s ++ sTail)).stored =
      apart der size half ((Pair.decodeSeparate (der.slice size) r s).dest.1 ++ rTail)
        ((Pair.decodeSeparate (der.slice size) r s).dest.2 ++ sTail) := by
  rw [DecodeSeparate.stored, apart_codec rSized sSized]
  simp only [apart, Option.map_some, Option.getD_some, List.drop_left' rSized,
    List.drop_left' sSized]

theorem together_stored (rSized : r.length = half) (sSized : s.length = half) :
    (together der size half (r ++ s ++ rsTail)).stored =
      together der size half ((Pair.decodeSeparate (der.slice size) r s).dest.1 ++
        (Pair.decodeSeparate (der.slice size) r s).dest.2 ++ rsTail) := by
  have sized : (r ++ s).length = 2 * half := by
    rw [List.length_append]
    omega
  rw [DecodeFixed.stored, together_codec rSized sSized]
  simp only [together, Option.map_some, List.drop_left' sized]

theorem run_halves (rSized : r.length = half) (sSized : s.length = half)
    (fits : 2 * half ≤ largestBuffer) :
    let separate := (apart der size half (r ++ rTail) (s ++ sTail)).run
    let fixed := (together der size half (r ++ s ++ rsTail)).run
    separate.failure = fixed.failure ∧ separate.trace = fixed.trace ∧
      ∃ rAfter sAfter : Octets, rAfter.length = half ∧ sAfter.length = half ∧
        separate.after.r = some (rAfter ++ rTail) ∧ separate.after.s = some (sAfter ++ sTail) ∧
        fixed.after.rs = some (rAfter ++ sAfter ++ rsTail) := by
  obtain ⟨rKept, sKept⟩ := Pair.decodeSeparate_dest_length (der.slice size) r s
  dsimp only
  rw [DecodeSeparate.run_eq, DecodeFixed.run_eq, ended, ended, apart_checks fits,
    together_checks fits]
  cases firstFailure [.pointer der, .size .inputSize size] with
  | some fault => exact ⟨rfl, rfl, r, s, rSized, sSized, rfl, rfl, rfl⟩
  | none =>
    simp only [DecodeSeparate.committed, apart_stored rSized sSized, apart_codec rSized sSized,
      together_stored rSized sSized, together_codec rSized sSized]
    cases (Pair.decodeSeparate (der.slice size) r s).answer with
    | error fault =>
      exact ⟨rfl, rfl, _, _, rKept.trans rSized, sKept.trans sSized, rfl, rfl, rfl⟩
    | ok decoded =>
      exact ⟨rfl, rfl, _, _, rKept.trans rSized, sKept.trans sSized, rfl, rfl, rfl⟩

-- The two ways to decode a pair are one: the same answer, the same last fault, and side by
-- side the octets that the other stores apart, whether r or s or neither is refused. Only an
-- odd size has no halves, and is refused whatever the input.
theorem halves_exact :
    (∀ der rs : Octets, rs.length % 2 = 0 →
      let half := rs.length / 2
      let separate := Pair.decodeSeparate der (rs.take half) (rs.drop half)
      let fixed := Pair.decodeFixed der rs
      fixed.toTraced = separate.toTraced ∧ fixed.dest = separate.dest.1 ++ separate.dest.2) ∧
    (∀ der rs : Octets, rs.length % 2 = 1 →
      (Pair.decodeFixed der rs).answer = .error .oddDestination ∧
        (Pair.decodeFixed der rs).dest = rs) ∧
    (∀ der rDest sDest fault, (Pair.decodeSeparate der rDest sDest).answer = .error fault →
      (∃ cause, fault = .within .r cause ∧
        (Pair.decodeSeparate der rDest sDest).dest = (rDest, sDest)) ∨
      ∃ cause payload rest, fault = .within .s cause ∧ Acceptable payload ∧
        der = tlv payload ++ rest ∧ (magnitude payload).length ≤ rDest.length ∧
        (Pair.decodeSeparate der rDest sDest).dest =
          (padded rDest.length (magnitude payload), sDest)) ∧
    ∀ (last : LastFault) (der : Pointer) (size half : Nat) (r s rTail sTail rsTail : Octets),
      r.length = half → s.length = half → 2 * half ≤ largestBuffer →
      ∃ next separate fixed,
        step last (.decodeSeparate (apart der size half (r ++ rTail) (s ++ sTail))) =
          (next, .decodedSeparate separate) ∧
        step last (.decodeFixed (together der size half (r ++ s ++ rsTail))) =
          (next, .decodedFixed fixed) ∧
        separate.failure = fixed.failure ∧ separate.trace = fixed.trace ∧
        ∃ rAfter sAfter : Octets, rAfter.length = half ∧ sAfter.length = half ∧
          separate.after.r = some (rAfter ++ rTail) ∧ separate.after.s = some (sAfter ++ sTail) ∧
          fixed.after.rs = some (rAfter ++ sAfter ++ rsTail) := by
  refine ⟨fun der rs even => ?_, fun der rs odd => ?_, fun der rDest sDest fault =>
    Pair.decodeSeparate_refused, fun last der size half r s rTail sTail rsTail rSized sSized fits => ?_⟩
  · dsimp only
    rw [Pair.decodeFixed_even even]
    exact ⟨rfl, rfl⟩
  · rw [Pair.decodeFixed_odd odd]
    exact ⟨rfl, rfl⟩
  · obtain ⟨failure, stored⟩ := run_halves rSized sSized fits
    refine ⟨_, _, _, rfl, ?_, failure, stored⟩
    rw [failure]
    rfl

theorem halves_exact_s_cut :
    let der : Octets := [0x02, 0x01, 0x05, 0x02, 0x02, 0x00]
    (Pair.decodeSeparate der [7] [8]).answer = .error (.within .s (.truncated 4 3)) ∧
    (Pair.decodeFixed der [7, 8]).dest =
      (Pair.decodeSeparate der [7] [8]).dest.1 ++ (Pair.decodeSeparate der [7] [8]).dest.2 ∧
    (∃ payload rest, Acceptable payload ∧ der = tlv payload ++ rest ∧
      (Pair.decodeSeparate der [7] [8]).dest = (padded 1 (magnitude payload), [8])) ∧
    (Pair.decodeFixed der [7, 8, 9]).answer = .error .oddDestination ∧
    (together (some der) 6 1 [7, 8, 6]).run.after.rs = some [5, 8, 6] ∧
    ∃ next separate fixed,
      step none (.decodeSeparate (apart (some der) 6 1 [7, 9] [8])) =
        (next, .decodedSeparate separate) ∧
      step none (.decodeFixed (together (some der) 6 1 [7, 8, 6])) = (next, .decodedFixed fixed) ∧
      ∃ rAfter sAfter : Octets, separate.after.r = some (rAfter ++ [9]) ∧
        separate.after.s = some (sAfter ++ []) ∧ fixed.after.rs = some (rAfter ++ sAfter ++ [6]) := by
  intro der
  have refused : (Pair.decodeSeparate der [7] [8]).answer =
      .error (.within .s (.truncated 4 3)) := rfl
  obtain ⟨even, odd, left, calls⟩ := halves_exact
  obtain ⟨_, joined⟩ := even der [7, 8] rfl
  obtain ⟨answer, _⟩ := odd der [7, 8, 9] rfl
  refine ⟨refused, joined, ?_, answer, by decide, ?_⟩
  · rcases left _ _ _ _ refused with ⟨_, other, _⟩ | ⟨_, payload, rest, _, acceptable, shape, _, kept⟩
    · cases other
    · exact ⟨payload, rest, acceptable, shape, kept⟩
  · obtain ⟨next, separate, fixed, first, second, _, _, rAfter, sAfter, _, _, stored⟩ :=
      calls none (some der) 6 1 [7] [8] [9] [] [6] rfl rfl (by decide)
    exact ⟨next, separate, fixed, first, second, rAfter, sAfter, stored⟩

end DerPair.Boundary
