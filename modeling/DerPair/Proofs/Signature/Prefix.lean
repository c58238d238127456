import DerPair.Proofs.Signature.Encoding

namespace DerPair.Signature
open Octets Integer

variable {left right : Signature}

theorem toDer_append_iff (leftWritten : left.toDer.answer = .ok leftDer)
    (rightWritten : right.toDer.answer = .ok rightDer) (rest : Octets) :
    leftDer ++ rest = rightDer ↔
      (value left.r = value right.r ∧ value left.s = value right.s) ∧ rest = [] := by
  obtain ⟨leftEncodable, leftShape⟩ := toDer_ok_iff.mp leftWritten
  obtain ⟨rightEncodable, rightShape⟩ := toDer_ok_iff.mp rightWritten
  rw [leftShape, rightShape, ← List.append_nil (encoding right.r ++ encoding right.s)]
  exact leftEncodable.append_eq_iff rightEncodable

theorem eq_of_values (leftWritten : left.toDer.answer = .ok leftDer)
    (rightWritten : right.toDer.answer = .ok rightDer) (sized : left.width = right.width)
    (values : value left.r = value right.r ∧ value left.s = value right.s) : left = right := by
  obtain ⟨leftEncodable, _⟩ := toDer_ok_iff.mp leftWritten
  obtain ⟨rightEncodable, _⟩ := toDer_ok_iff.mp rightWritten
  have lengths : left.s.length = right.s.length :=
    leftEncodable.equal.symm.trans (sized.trans rightEncodable.equal)
  have r := eq_of_value sized values.1
  have s := eq_of_value lengths values.2
  cases left
  cases right
  exact congr (congrArg mk r) s

-- A written stream stands in front of another only as the same stream, and that happens
-- exactly if the two signatures denote the same numbers.
theorem toDer_prefix_exact (leftWritten : left.toDer.answer = .ok leftDer)
    (rightWritten : right.toDer.answer = .ok rightDer) :
    (leftDer <+: rightDer ↔ leftDer = rightDer) ∧
    (leftDer = rightDer ↔ value left.r = value right.r ∧ value left.s = value right.s) ∧
    (left.width = right.width → leftDer = rightDer → left = right) := by
  have whole : leftDer = rightDer ↔
      value left.r = value right.r ∧ value left.s = value right.s := by
    have same := toDer_append_iff leftWritten rightWritten []
    rwa [List.append_nil, and_iff_left rfl] at same
  refine ⟨⟨fun starts => ?_, fun same => ?_⟩, whole, fun sized same => ?_⟩
  · obtain ⟨rest, joined⟩ := starts
    exact whole.mpr ((toDer_append_iff leftWritten rightWritten rest).mp joined).1
  · subst same
    exact List.prefix_refl _
  · exact eq_of_values leftWritten rightWritten sized (whole.mp same)

theorem toDer_prefix_exact_widened :
    (Signature.mk [0x80] [0x01]).toDer.answer =
        .ok [0x02, 0x02, 0x00, 0x80, 0x02, 0x01, 0x01] ∧
      (Signature.mk [0x00, 0x80] [0x00, 0x01]).toDer.answer =
        .ok [0x02, 0x02, 0x00, 0x80, 0x02, 0x01, 0x01] ∧
      value [0x80] = value [0x00, 0x80] ∧ value [0x01] = value [0x00, 0x01] := by
  have narrow : (Signature.mk [0x80] [0x01]).toDer.answer =
      .ok [0x02, 0x02, 0x00, 0x80, 0x02, 0x01, 0x01] := rfl
  have wide : (Signature.mk [0x00, 0x80] [0x00, 0x01]).toDer.answer =
      .ok [0x02, 0x02, 0x00, 0x80, 0x02, 0x01, 0x01] := rfl
  obtain ⟨_, values, _⟩ := toDer_prefix_exact narrow wide
  exact ⟨narrow, wide, values.mp rfl⟩

end DerPair.Signature
