import DerPair.Pair.Encoding
import DerPair.Proofs.Integer.Encoding

namespace DerPair.Pair
open Octets Integer

theorem error_iff_first {answer : Except Fault α} {rBad sBad : Prop}
    (rFails : rBad → answer = .error rFault) (sFails : ¬rBad → sBad → answer = .error sFault)
    (passes : ¬rBad → ¬sBad → ∃ result, answer = .ok result) :
    answer = .error fault ↔ (rBad ∧ fault = rFault) ∨ (¬rBad ∧ sBad ∧ fault = sFault) := by
  by_cases r : rBad
  · rw [rFails r]
    simp [r, eq_comm]
  · by_cases s : sBad
    · rw [sFails r s]
      simp [r, s, eq_comm]
    · obtain ⟨result, passed⟩ := passes r s
      rw [passed]
      simp [r, s]

theorem encode_unequal (unequal : r.length ≠ s.length) (dest : Octets) :
    encode r s dest = .refused (.unequalWidths r.length s.length) dest := by
  rw [encode, if_pos unequal]

theorem encode_r_refused (equal : r.length = s.length)
    (refused : refusal r dest.length = some cause) :
    encode r s dest = (Outcome.refused cause dest).within .r := by
  rw [encode, if_neg (fun unequal => unequal equal), plan_refused refused]

theorem encode_s_refused (equal : r.length = s.length) (first : refusal r dest.length = none)
    (refused : refusal s (dest.length - (encoding r).length) = some cause) :
    encode r s dest = (Outcome.refused cause dest).within .s := by
  obtain ⟨planned, ran, _, size, _⟩ := plan_accepted first
  rw [← size] at refused
  rw [encode, if_neg (fun unequal => unequal equal), ran]
  dsimp only
  rw [plan_refused refused]

theorem encode_accepted (equal : r.length = s.length) (first : refusal r dest.length = none)
    (second : refusal s (dest.length - (encoding r).length) = none) :
    encode r s dest =
      ⟨.done ((encoding r).length + (encoding s).length)
          [.encoded (encoding r).length (needsStuffing r),
            .encoded (encoding s).length (needsStuffing s)],
        overwrite dest (encoding r ++ encoding s)⟩ := by
  obtain ⟨rPlanned, rRan, rOctets, rSize, rLine⟩ := plan_accepted first
  rw [← rSize] at second
  obtain ⟨sPlanned, sRan, sOctets, sSize, sLine⟩ := plan_accepted second
  rw [encode, if_neg (fun unequal => unequal equal), rRan]
  dsimp only
  rw [sRan]
  simp only [rOctets, rSize, rLine, sOctets, sSize, sLine]

theorem ne_nil_of_equal (given : r ≠ []) (equal : r.length = s.length) : s ≠ [] := by
  intro empty
  rw [empty] at equal
  exact given (List.eq_nil_of_length_eq_zero equal)

theorem encode_r_overlong (given : r ≠ []) (equal : r.length = s.length)
    (room : (encoding r).length ≤ dest.length) (long : ShortLength.largest < (content r).length) :
    (encode r s dest).answer = .error (.within .r (.longFormLength (content r).length)) := by
  rw [encode_r_refused equal (refusal_long given room long)]
  rfl

theorem encode_s_overlong (given : r ≠ []) (equal : r.length = s.length)
    (short : (content r).length ≤ ShortLength.largest)
    (room : (encoding r).length + (encoding s).length ≤ dest.length)
    (long : ShortLength.largest < (content s).length) :
    (encode r s dest).answer = .error (.within .s (.longFormLength (content s).length)) := by
  have first : refusal r dest.length = none :=
    refusal_eq_none_iff.mpr ⟨given, Nat.le_of_add_right_le room, short⟩
  have left : (encoding s).length ≤ dest.length - (encoding r).length := by omega
  rw [encode_s_refused equal first (refusal_long (ne_nil_of_equal given equal) left long)]
  rfl

-- What has to hold of both components before the first octet is written.
structure Encodable (r s : Octets) (capacity : Nat) : Prop where
  equal : r.length = s.length
  given : r ≠ []
  rShort : (content r).length ≤ ShortLength.largest
  sShort : (content s).length ≤ ShortLength.largest
  room : (encoding r).length + (encoding s).length ≤ capacity

namespace Encodable

theorem sGiven (encodable : Encodable r s capacity) : s ≠ [] :=
  ne_nil_of_equal encodable.given encodable.equal

theorem rCanonical (encodable : Encodable r s capacity) : Canonical (content r) :=
  content_canonical encodable.given encodable.rShort

theorem sCanonical (encodable : Encodable r s capacity) : Canonical (content s) :=
  content_canonical encodable.sGiven encodable.sShort

theorem rPasses (encodable : Encodable r s capacity) : refusal r capacity = none := by
  have room := encodable.room
  exact refusal_eq_none_iff.mpr ⟨encodable.given, by omega, encodable.rShort⟩

theorem sPasses (encodable : Encodable r s capacity) :
    refusal s (capacity - (encoding r).length) = none := by
  have room := encodable.room
  exact refusal_eq_none_iff.mpr ⟨encodable.sGiven, by omega, encodable.sShort⟩

theorem accepted (encodable : Encodable r s dest.length) :
    encode r s dest =
      ⟨.done ((encoding r).length + (encoding s).length)
          [.encoded (encoding r).length (needsStuffing r),
            .encoded (encoding s).length (needsStuffing s)],
        overwrite dest (encoding r ++ encoding s)⟩ :=
  encode_accepted encodable.equal encodable.rPasses encodable.sPasses

theorem append_eq_iff (left : Encodable r s capacity) (right : Encodable r' s' limit) :
    encoding r ++ encoding s ++ rest = encoding r' ++ encoding s' ++ tail ↔
      (value r = value r' ∧ value s = value s') ∧ rest = tail := by
  rw [List.append_assoc, List.append_assoc,
    encoding_append_eq_iff left.rCanonical right.rCanonical left.given right.given,
    encoding_append_eq_iff left.sCanonical right.sCanonical left.sGiven right.sGiven, and_assoc]

end Encodable

theorem encode_cases (r s dest : Octets) :
    (r.length ≠ s.length ∧ encode r s dest = .refused (.unequalWidths r.length s.length) dest) ∨
    (∃ cause, refusal r dest.length = some cause ∧
      encode r s dest = (Outcome.refused cause dest).within .r) ∨
    (∃ cause, refusal r dest.length = none ∧
      refusal s (dest.length - (encoding r).length) = some cause ∧
      encode r s dest = (Outcome.refused cause dest).within .s) ∨
    Encodable r s dest.length := by
  by_cases equal : r.length = s.length
  · cases first : refusal r dest.length with
    | some cause => exact .inr (.inl ⟨cause, rfl, encode_r_refused equal first⟩)
    | none =>
      cases second : refusal s (dest.length - (encoding r).length) with
      | some cause =>
        exact .inr (.inr (.inl ⟨cause, rfl, rfl, encode_s_refused equal first second⟩))
      | none =>
        obtain ⟨given, rRoom, rShort⟩ := refusal_eq_none_iff.mp first
        obtain ⟨_, sRoom, sShort⟩ := refusal_eq_none_iff.mp second
        exact .inr (.inr (.inr ⟨equal, given, rShort, sShort, by omega⟩))
  · exact .inl ⟨equal, encode_unequal equal dest⟩

theorem encode_ok_iff : (encode r s dest).answer = .ok size ↔
    Encodable r s dest.length ∧ size = (encoding r).length + (encoding s).length := by
  constructor
  · intro accepted
    rcases encode_cases r s dest with
      ⟨_, shape⟩ | ⟨_, _, shape⟩ | ⟨_, _, _, shape⟩ | encodable
    · rw [shape] at accepted
      cases accepted
    · rw [shape] at accepted
      cases accepted
    · rw [shape] at accepted
      cases accepted
    · rw [encodable.accepted] at accepted
      exact ⟨encodable, (Except.ok.inj accepted).symm⟩
  · intro shaped
    obtain ⟨encodable, same⟩ := shaped
    rw [encodable.accepted, same]
    rfl

theorem encode_written (accepted : (encode r s dest).answer = .ok size) :
    (encode r s dest).dest.take size = encoding r ++ encoding s := by
  obtain ⟨encodable, same⟩ := encode_ok_iff.mp accepted
  rw [encodable.accepted, same, ← List.length_append]
  exact List.take_left

end DerPair.Pair
