import DerPair.Proofs.Integer.Encoding

namespace DerPair.Integer
open Octets

theorem encodedSize_accepted (given : data ≠ [])
    (short : (content data).length ≤ ShortLength.largest) :
    (encodedSize data).answer = .ok (encoding data).length := by
  unfold encodedSize
  rw [if_neg (by simpa using given)]
  split
  · rename_i cause read
    cases (dif_pos short).symm.trans read
  · rename_i length read
    rw [encoding_length, ← ShortLength.ofNat_toNat read]
    rfl

theorem encodedSize_long (given : data ≠ [])
    (long : ShortLength.largest < (content data).length) :
    encodedSize data = .silent (.error (.longFormLength (content data).length)) := by
  unfold encodedSize
  rw [if_neg (by simpa using given)]
  split
  · rename_i cause read
    cases (dif_neg (Nat.not_le_of_lt long)).symm.trans read
    rfl
  · rename_i length read
    cases (dif_neg (Nat.not_le_of_lt long)).symm.trans read

theorem encodedSize_ok_iff : (encodedSize data).answer = .ok size ↔
    data ≠ [] ∧ (content data).length ≤ ShortLength.largest ∧ size = (encoding data).length := by
  by_cases given : data = []
  · subst given
    simp [encodedSize, Traced.refused]
  · by_cases short : (content data).length ≤ ShortLength.largest
    · rw [encodedSize_accepted given short, Except.ok.injEq]
      simp [given, short, eq_comm]
    · rw [encodedSize_long given (Nat.lt_of_not_le short)]
      simp [Traced.silent, short]

theorem encodedSize_error_iff : (encodedSize data).answer = .error fault ↔
    (data = [] ∧ fault = .emptyInteger) ∨
    (data ≠ [] ∧ ShortLength.largest < (content data).length ∧
      fault = .longFormLength (content data).length) := by
  by_cases given : data = []
  · subst given
    simp [encodedSize, Traced.refused, Rejection.fault, eq_comm]
  · by_cases long : ShortLength.largest < (content data).length
    · rw [encodedSize_long given long]
      simp [Traced.silent, given, long, eq_comm]
    · rw [encodedSize_accepted given (Nat.le_of_not_lt long)]
      simp [given, long]

theorem exists_encode_iff : (∃ dest, (encode data dest).answer = .ok size) ↔
    data ≠ [] ∧ (content data).length ≤ ShortLength.largest ∧ size = (encoding data).length := by
  constructor
  · intro written
    obtain ⟨dest, answer⟩ := written
    obtain ⟨accepted, same⟩ := encode_ok_iff.mp answer
    obtain ⟨given, _, short⟩ := refusal_eq_none_iff.mp accepted
    exact ⟨given, short, same⟩
  · intro encodable
    obtain ⟨given, short, same⟩ := encodable
    have accepted : refusal data (encoding data).length = none :=
      refusal_eq_none_iff.mpr ⟨given, Nat.le_refl _, short⟩
    exact ⟨encoding data, encode_ok_iff.mpr ⟨accepted, same⟩⟩

-- The query needs no buffer and foretells every call that has one. What it answers is the
-- least room, and what it refuses no room will mend. Too long a number is still reported as
-- too little room for as long as the buffer is too small for it.
theorem encodedSize_exact (data : Octets) :
    (∀ size, (encodedSize data).answer = .ok size ↔
      ∃ dest, (encode data dest).answer = .ok size) ∧
    (∀ size, (encodedSize data).answer = .ok size → ∀ dest : Octets,
      (size ≤ dest.length → (encode data dest).answer = .ok size) ∧
      (dest.length < size →
        (encode data dest).answer = .error (.capacityExceeded size dest.length))) ∧
    ∀ fault, (encodedSize data).answer = .error fault →
      (fault.kind = .invalidArgument ∧ ∀ dest, (encode data dest).answer = .error fault) ∨
      ∃ length, fault = .longFormLength length ∧ ∀ dest : Octets,
        (length + 2 ≤ dest.length → (encode data dest).answer = .error fault) ∧
        (dest.length < length + 2 →
          (encode data dest).answer = .error (.capacityExceeded (length + 2) dest.length)) := by
  refine ⟨fun size => ?_, fun size known dest => ?_, fun fault refused => ?_⟩
  · rw [encodedSize_ok_iff, exists_encode_iff]
  · obtain ⟨given, short, rfl⟩ := encodedSize_ok_iff.mp known
    constructor
    · intro room
      exact encode_ok_iff.mpr ⟨refusal_eq_none_iff.mpr ⟨given, room, short⟩, rfl⟩
    · intro narrow
      rw [encode_narrow given narrow]
      rfl
  · rcases encodedSize_error_iff.mp refused with ⟨rfl, rfl⟩ | ⟨given, long, rfl⟩
    · exact .inl ⟨rfl, fun dest => rfl⟩
    · refine .inr ⟨_, rfl, fun dest => ?_⟩
      rw [Nat.add_comm, ← encoding_length]
      constructor
      · intro room
        rw [encode_long given room long]
        rfl
      · intro narrow
        rw [encode_narrow given narrow]
        rfl

theorem encodedSize_exact_limits :
    let long : Octets := List.replicate 128 0x01
    (encodedSize [0x80]).answer = .ok 4 ∧
    (encode [0x80] [9, 9, 9]).answer = .error (.capacityExceeded 4 3) ∧
    (encodedSize long).answer = .error (.longFormLength 128) ∧
    (encode long (List.replicate 129 9)).answer = .error (.capacityExceeded 130 129) ∧
    (encode long (List.replicate 130 9)).answer = .error (.longFormLength 128) := by
  intro long
  have four : (encodedSize [0x80]).answer = .ok 4 := rfl
  have size : (content long).length = 128 := by decide +kernel
  have refused : (encodedSize long).answer = .error (.longFormLength 128) :=
    encodedSize_error_iff.mpr (.inr ⟨List.cons_ne_nil _ _, by rw [size]; decide, by rw [size]⟩)
  obtain ⟨_, foretold, _⟩ := encodedSize_exact [0x80]
  obtain ⟨_, _, unmended⟩ := encodedSize_exact long
  refine ⟨four, (foretold 4 four [9, 9, 9]).2 (by decide), refused, ?_⟩
  rcases unmended _ refused with ⟨kind, _⟩ | ⟨length, same, capacity⟩
  · cases kind
  · cases same
    have room : (List.replicate 130 (9 : UInt8)).length = 130 := List.length_replicate
    have narrow : (List.replicate 129 (9 : UInt8)).length = 129 := List.length_replicate
    have short := (capacity (List.replicate 129 9)).2 (by rw [narrow]; decide)
    rw [narrow] at short
    exact ⟨short, (capacity (List.replicate 130 9)).1 (Nat.le_of_eq room.symm)⟩

end DerPair.Integer
