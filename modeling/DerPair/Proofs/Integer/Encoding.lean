import DerPair.Proofs.Integer.Content

namespace DerPair.Integer
open Octets

-- What the encoder writes for an integer that it accepts.
def encoding (data : Octets) : Octets := tlv (content data)

-- Why an integer is refused for a capacity. The first reason wins.
def refusal (data : Octets) (capacity : Nat) : Option Rejection :=
  if data = [] then some .nothingToEncode
  else if capacity < (encoding data).length then
    some (.encodingTooWide (encoding data).length capacity)
  else if ShortLength.largest < (content data).length then
    some (.encodingTooLong (.tooLong (content data).length))
  else none

theorem encoding_length (data : Octets) : (encoding data).length = 2 + (content data).length :=
  tlv_length _

theorem encoding_append_eq_iff (left : Canonical (content data)) (right : Canonical (content other))
    (given : data ≠ []) (otherGiven : other ≠ []) :
    encoding data ++ rest = encoding other ++ tail ↔ value data = value other ∧ rest = tail := by
  constructor
  · intro same
    obtain ⟨contents, follow⟩ := tlv_append_inj left.short right.short same
    rw [← value_content data, contents, value_content other]
    exact ⟨rfl, follow⟩
  · intro same
    obtain ⟨values, follow⟩ := same
    rw [encoding, content_congr given otherGiven values, follow, encoding]

theorem refusal_narrow (given : data ≠ []) (narrow : capacity < (encoding data).length) :
    refusal data capacity = some (.encodingTooWide (encoding data).length capacity) := by
  unfold refusal
  rw [if_neg given, if_pos narrow]

theorem refusal_long (given : data ≠ []) (room : (encoding data).length ≤ capacity)
    (long : ShortLength.largest < (content data).length) :
    refusal data capacity = some (.encodingTooLong (.tooLong (content data).length)) := by
  unfold refusal
  rw [if_neg given, if_neg (Nat.not_lt_of_le room), if_pos long]

theorem refusal_eq_none_iff : refusal data capacity = none ↔
    data ≠ [] ∧ (encoding data).length ≤ capacity ∧ (content data).length ≤ ShortLength.largest := by
  unfold refusal
  split
  · rename_i empty
    simp [empty]
  · rename_i given
    split
    · rename_i narrow
      simp [Nat.not_le_of_lt narrow]
    · rename_i room
      split
      · rename_i long
        simp [Nat.not_le_of_lt long]
      · rename_i short
        simp [given, Nat.le_of_not_lt room, Nat.le_of_not_lt short]

theorem refusal_congr (left : data ≠ []) (right : other ≠ []) (same : value data = value other) :
    refusal data capacity = refusal other capacity := by
  have written : encoding data = encoding other := by
    unfold encoding
    rw [content_congr left right same]
  simp only [refusal, left, right, written, content_congr left right same]

theorem plan_refused (refused : refusal data capacity = some cause) :
    plan data capacity = .error cause := by
  unfold refusal at refused
  unfold plan
  split at refused
  · rename_i empty
    cases Option.some.inj refused
    rw [if_pos (by simpa using empty)]
  · rename_i given
    rw [if_neg (by simpa using given)]
    dsimp only
    rw [encoding_length] at refused
    split at refused
    · rename_i narrow
      cases Option.some.inj refused
      rw [if_pos narrow]
    · rename_i room
      rw [if_neg room]
      split at refused
      · rename_i long
        cases Option.some.inj refused
        split
        · rename_i cause read
          rw [ShortLength.ofNat, dif_neg (Nat.not_le_of_lt long)] at read
          cases read
          rfl
        · rename_i length read
          rw [ShortLength.ofNat, dif_neg (Nat.not_le_of_lt long)] at read
          cases read
      · cases refused

theorem plan_accepted (accepted : refusal data capacity = none) :
    ∃ planned, plan data capacity = .ok planned ∧ planned.octets = encoding data ∧
      planned.size = (encoding data).length ∧
      planned.line = .encoded (encoding data).length (needsStuffing data) := by
  obtain ⟨given, room, short⟩ := refusal_eq_none_iff.mp accepted
  obtain ⟨length, read⟩ : ∃ length, ShortLength.ofNat (content data).length = .ok length :=
    ⟨_, dif_pos short⟩
  have announced := ShortLength.ofNat_toNat read
  have octet : length.octet = UInt8.ofNat (content data).length := by
    rw [← announced]
    exact UInt8.ofNat_toNat.symm
  have size : 2 + length.toNat = (encoding data).length := by
    rw [encoding_length, announced]
  refine ⟨⟨content data, length, needsStuffing data, announced⟩, ?_, ?_, size, ?_⟩
  · rw [encoding_length] at room
    unfold plan
    rw [if_neg (by simpa using given)]
    dsimp only
    rw [if_neg (Nat.not_lt_of_le room)]
    split
    · rename_i cause found
      cases read.symm.trans found
    · rename_i found
      cases read.symm.trans found
      rfl
  · simp only [Planned.octets, octet, encoding, tlv]
  · simp only [Planned.line, Planned.size, size]

theorem encode_refused (refused : refusal data dest.length = some cause) :
    encode data dest = .refused cause dest := by
  simp only [encode, plan_refused refused]

theorem encode_narrow (given : data ≠ []) (narrow : dest.length < (encoding data).length) :
    encode data dest = .refused (.encodingTooWide (encoding data).length dest.length) dest :=
  encode_refused (refusal_narrow given narrow)

theorem encode_long (given : data ≠ []) (room : (encoding data).length ≤ dest.length)
    (long : ShortLength.largest < (content data).length) :
    encode data dest = .refused (.encodingTooLong (.tooLong (content data).length)) dest :=
  encode_refused (refusal_long given room long)

theorem encode_accepted (accepted : refusal data dest.length = none) :
    encode data dest =
      ⟨.done (encoding data).length [.encoded (encoding data).length (needsStuffing data)],
        overwrite dest (encoding data)⟩ := by
  obtain ⟨planned, ran, octets, size, line⟩ := plan_accepted accepted
  simp only [encode, ran, octets, size, line]

theorem encode_ok_iff : (encode data dest).answer = .ok size ↔
    refusal data dest.length = none ∧ size = (encoding data).length := by
  cases reason : refusal data dest.length with
  | none =>
    rw [encode_accepted reason]
    simp [Traced.done, eq_comm]
  | some cause =>
    rw [encode_refused reason]
    simp [Outcome.refused, Traced.refused]

theorem encode_error_iff : (encode data dest).answer = .error fault ↔
    ∃ cause, refusal data dest.length = some cause ∧ fault = cause.fault := by
  cases reason : refusal data dest.length with
  | none =>
    rw [encode_accepted reason]
    simp [Traced.done]
  | some cause =>
    rw [encode_refused reason]
    simp [Outcome.refused, Traced.refused, eq_comm]

end DerPair.Integer
