import DerPair.Pair.Encoding
import DerPair.Proofs.Pair.Encoding

namespace DerPair.Pair
open Octets Integer

variable {r s dest : Octets}

theorem take_overwrite (dest source : Octets) : (overwrite dest source).take source.length = source :=
  List.take_left

theorem drop_overwrite (dest source : Octets) :
    (overwrite dest source).drop source.length = dest.drop source.length :=
  List.drop_left

theorem overwrite_behind (dest left right : Octets) :
    left ++ overwrite (dest.drop left.length) right = overwrite dest (left ++ right) := by
  simp only [overwrite, List.drop_drop, List.length_append, List.append_assoc]

theorem stepwise_r_refused (refused : refusal r dest.length = some cause) (s : Octets) :
    encodeStepwise r s dest = (Outcome.refused cause dest).within .r := by
  rw [encodeStepwise, encode_refused refused]
  rfl

theorem stepwise_s_refused (first : refusal r dest.length = none)
    (refused : refusal s (dest.length - (encoding r).length) = some cause) :
    encodeStepwise r s dest =
      ⟨⟨.error (.within .s cause.fault),
          [.encoded (encoding r).length (needsStuffing r), .rejected cause]⟩,
        overwrite dest (encoding r)⟩ := by
  rw [← List.length_drop] at refused
  rw [encodeStepwise, Integer.encode_accepted first, Outcome.within_done]
  dsimp only [Traced.done]
  rw [drop_overwrite, take_overwrite, encode_refused refused]
  rfl

theorem stepwise_accepted (first : refusal r dest.length = none)
    (second : refusal s (dest.length - (encoding r).length) = none) :
    encodeStepwise r s dest =
      ⟨.done ((encoding r).length + (encoding s).length)
          [.encoded (encoding r).length (needsStuffing r),
            .encoded (encoding s).length (needsStuffing s)],
        overwrite dest (encoding r ++ encoding s)⟩ := by
  rw [← List.length_drop] at second
  rw [encodeStepwise, Integer.encode_accepted first, Outcome.within_done]
  dsimp only [Traced.done]
  rw [drop_overwrite, take_overwrite, Integer.encode_accepted second, Outcome.within_done,
    ← overwrite_behind]
  rfl

theorem encode_unchanged (refused : (encode r s dest).answer = .error fault) :
    (encode r s dest).dest = dest := by
  rcases encode_cases r s dest with ⟨_, shape⟩ | ⟨_, _, shape⟩ | ⟨_, _, _, shape⟩ | encodable
  · rw [shape]
    rfl
  · rw [shape]
    rfl
  · rw [shape]
    rfl
  · rw [encodable.accepted] at refused
    cases refused

theorem encode_agrees (equal : r.length = s.length) (dest : Octets) :
    (encode r s dest).answer = (encodeStepwise r s dest).answer ∧
      ∀ size, (encode r s dest).answer = .ok size →
        (encode r s dest).dest = (encodeStepwise r s dest).dest := by
  rcases encode_cases r s dest with
    ⟨unequal, _⟩ | ⟨cause, first, shape⟩ | ⟨cause, first, second, shape⟩ | encodable
  · exact absurd equal unequal
  · rw [shape, stepwise_r_refused first]
    exact ⟨rfl, fun _ _ => rfl⟩
  · rw [shape, stepwise_s_refused first second]
    refine ⟨rfl, fun size accepted => ?_⟩
    cases accepted
  · rw [encodable.accepted, stepwise_accepted encodable.rPasses encodable.sPasses]
    exact ⟨rfl, fun _ _ => rfl⟩

theorem stepwise_of_r_failed (failed : (Integer.encode r dest).answer = .error fault)
    (s : Octets) : (encodeStepwise r s dest).answer = .error (.within .r fault) := by
  simp only [encodeStepwise, Outcome.within_error failed]

theorem stepwise_of_r_written (written : (Integer.encode r dest).answer = .ok size) (s : Octets) :
    (encodeStepwise r s dest).answer =
      ((Integer.encode s ((Integer.encode r dest).dest.drop size)).within .s).answer.map
        (size + ·) := by
  simp only [encodeStepwise, Outcome.within_ok written, Outcome.within_dest]

theorem stepwise_half_written (written : (Integer.encode r dest).answer = .ok size)
    (failed : (Integer.encode s ((Integer.encode r dest).dest.drop size)).answer = .error fault) :
    (encodeStepwise r s dest).dest = overwrite dest (encoding r) := by
  obtain ⟨first, same⟩ := Integer.encode_ok_iff.mp written
  rw [Integer.encode_accepted first, same, drop_overwrite] at failed
  obtain ⟨cause, second, _⟩ := Integer.encode_error_iff.mp failed
  rw [List.length_drop] at second
  rw [stepwise_s_refused first second]

theorem encode_beyond (accepted : (encode r s dest).answer = .ok size) :
    (encode r s dest).dest.drop size = dest.drop size := by
  obtain ⟨encodable, same⟩ := encode_ok_iff.mp accepted
  rw [encodable.accepted, same, ← List.length_append]
  exact drop_overwrite dest _

-- Answers are those of the encoder that writes r before it looks at s. What it
-- leaves behind is its destination if both fit, and otherwise nothing at all.
theorem encode_atomic (r s dest : Octets) :
    let outcome := encode r s dest
    let naive := encodeStepwise r s dest
    let first := Integer.encode r dest
    let second := fun size => Integer.encode s (first.dest.drop size)
    (r.length ≠ s.length → outcome.answer = .error .unequalWidths ∧ outcome.dest = dest) ∧
    (r.length = s.length →
      (∀ size, outcome.answer = .ok size ↔ ∃ rSize sSize, first.answer = .ok rSize ∧
        (second rSize).answer = .ok sSize ∧ size = rSize + sSize) ∧
      (∀ size, outcome.answer = .ok size →
        outcome.dest = naive.dest ∧ outcome.dest.drop size = dest.drop size) ∧
      (∀ fault, first.answer = .error fault →
        outcome.answer = .error (.within .r fault) ∧ outcome.dest = dest) ∧
      ∀ rSize fault, first.answer = .ok rSize → (second rSize).answer = .error fault →
        outcome.answer = .error (.within .s fault) ∧ outcome.dest = dest ∧
        naive.dest = overwrite dest (encoding r)) := by
  dsimp only
  refine ⟨fun unequal => ?_, fun equal => ?_⟩
  · rw [encode_unequal unequal]
    exact ⟨rfl, rfl⟩
  · obtain ⟨agreed, left⟩ := encode_agrees equal dest
    refine ⟨fun size => ?_, fun size accepted => ⟨left size accepted, encode_beyond accepted⟩,
      fun fault failed => ?_, fun rSize fault written failed => ?_⟩
    · rw [agreed]
      cases first : (Integer.encode r dest).answer with
      | error fault =>
        rw [stepwise_of_r_failed first]
        simp
      | ok rSize =>
        rw [stepwise_of_r_written first]
        cases second : (Integer.encode s ((Integer.encode r dest).dest.drop rSize)).answer with
        | error fault => simp [second, Outcome.within_error second, Except.map]
        | ok sSize => simp [second, Outcome.within_ok second, Except.map, eq_comm]
    · have refused : (encode r s dest).answer = .error (.within .r fault) := by
        rw [agreed, stepwise_of_r_failed failed]
      exact ⟨refused, encode_unchanged refused⟩
    · have refused : (encode r s dest).answer = .error (.within .s fault) := by
        rw [agreed, stepwise_of_r_written written, Outcome.within_error failed]
        rfl
      exact ⟨refused, encode_unchanged refused, stepwise_half_written written failed⟩

theorem encode_atomic_half_written :
    (Integer.encode [0x01] [9, 9, 9, 9]).answer = .ok 3 ∧
      (Integer.encode [0x01] [9]).answer = .error (.capacityExceeded 3 1) ∧
      (encode [0x01] [0x01] [9, 9, 9, 9]).answer = .error (.within .s (.capacityExceeded 3 1)) ∧
      (encode [0x01] [0x01] [9, 9, 9, 9]).dest = [9, 9, 9, 9] ∧
      (encodeStepwise [0x01] [0x01] [9, 9, 9, 9]).dest = [0x02, 0x01, 0x01, 9] := by
  obtain ⟨_, _, _, halfway⟩ := (encode_atomic [0x01] [0x01] [9, 9, 9, 9]).2 rfl
  obtain ⟨refused, unchanged, written⟩ := halfway 3 (.capacityExceeded 3 1) rfl rfl
  exact ⟨rfl, rfl, refused, unchanged, written⟩

end DerPair.Pair
