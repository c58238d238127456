import DerPair.Bounded.Pair
import DerPair.Proofs.Pair.Atomicity

namespace DerPair.Bounded
open Octets Integer

-- How many octets the scan passes over: all zeros in front, but never the last octet.
def leadingZeros (data : Octets) : Nat :=
  (data.dropLast.findIdx? (· != 0)).getD (data.length - 1)

theorem leadingZeros_zero (second : UInt8) (rest : Octets) :
    leadingZeros (0 :: second :: rest) = leadingZeros (second :: rest) + 1 := by
  simp only [leadingZeros, List.dropLast_cons_cons, List.findIdx?_cons]
  cases ((second :: rest).dropLast.findIdx? (· != 0)) with
  | none => simp
  | some count => simp

theorem drop_leadingZeros (data : Octets) : data.drop (leadingZeros data) = magnitude data := by
  fun_induction magnitude data with
  | case1 second rest ih => rw [leadingZeros_zero, List.drop_succ_cons, ih]
  | case2 first second rest nonzero => simp [leadingZeros, List.findIdx?_cons, nonzero]
  | case3 bytes short =>
    rcases bytes with _ | ⟨first, _ | ⟨second, rest⟩⟩
    · rfl
    · rfl
    · exact absurd rfl (short first second rest)

theorem leadingZeros_lt (given : data ≠ []) : leadingZeros data < data.length := by
  refine Nat.lt_of_not_le fun beyond => magnitude_ne_nil given ?_
  rw [← drop_leadingZeros, List.drop_of_length_le beyond]

theorem minimal_given (given : data ≠ []) :
    minimal data = some (.ok ⟨magnitude data, needsStuffing data⟩) := by
  have filled := List.length_pos_iff.mpr given
  have scanned : range data 0 (data.length - 1) = some data.dropLast := by
    rw [range_inside (Nat.zero_le _) (Nat.sub_le _ _), List.dropLast_eq_take]
    rfl
  have kept : range data (leadingZeros data) data.length = some (magnitude data) := by
    rw [range_to_end (Nat.le_of_lt (leadingZeros_lt given)), drop_leadingZeros]
  obtain ⟨first, rest, shape⟩ := List.exists_cons_of_ne_nil (magnitude_ne_nil given)
  unfold minimal
  rw [if_neg (by simpa using given), sub_le filled]
  simp only [Option.bind_eq_bind, Option.bind_some, scanned]
  rw [← leadingZeros, kept]
  simp [shape, index, needsStuffing, leadsWithTopBit]

theorem content_parts (data : Octets) :
    (magnitude data).length + (needsStuffing data).toNat = (content data).length := by
  cases sign : needsStuffing data with
  | true =>
    rw [content_of_stuffed sign]
    rfl
  | false =>
    rw [content_of_plain sign]
    rfl

theorem minimal_empty : minimal [] = some (.error .nothingToEncode) := rfl

theorem content_size (sized : data.length + 3 < wordLimit) :
    add (magnitude data).length (needsStuffing data).toNat = some (content data).length := by
  have bound := content_length_le data
  rw [add_small, content_parts]
  rw [content_parts]
  omega

theorem encoding_size (sized : data.length + 3 < wordLimit) :
    add 2 (content data).length = some (encoding data).length := by
  have bound := content_length_le data
  rw [encoding_length, add_small]
  omega

theorem plan_given (given : data ≠ []) (sized : data.length + 3 < wordLimit) (capacity : Nat) :
    plan data capacity = some (
      if capacity < (encoding data).length then
        .error (.encodingTooWide (encoding data).length capacity)
      else match ShortLength.ofNat (content data).length with
        | .error cause => .error (.encodingTooLong cause)
        | .ok length => .ok ⟨magnitude data, needsStuffing data, length⟩) := by
  simp only [plan, minimal_given given, content_size sized, encoding_size sized,
    Option.bind_eq_bind, Option.bind_some]
  split
  · rfl
  · cases ShortLength.ofNat (content data).length with
    | error cause => rfl
    | ok length => rfl

theorem plan_refused (sized : data.length + 3 < wordLimit)
    (refused : refusal data capacity = some cause) : plan data capacity = some (.error cause) := by
  unfold refusal at refused
  split at refused
  · rename_i empty
    cases refused
    rw [plan, empty, minimal_empty]
    rfl
  · rename_i given
    rw [plan_given given sized]
    split at refused
    · rename_i narrow
      cases refused
      rw [if_pos narrow]
    · rename_i room
      rw [if_neg room]
      split at refused
      · rename_i long
        cases refused
        rw [ShortLength.ofNat, dif_neg (Nat.not_le_of_lt long)]
      · cases refused

theorem plan_accepted (sized : data.length + 3 < wordLimit)
    (accepted : refusal data capacity = none) :
    ∃ length : ShortLength, length.toNat = (content data).length ∧
      plan data capacity = some (.ok ⟨magnitude data, needsStuffing data, length⟩) := by
  obtain ⟨given, room, short⟩ := refusal_eq_none_iff.mp accepted
  have read : ShortLength.ofNat (content data).length = .ok _ := dif_pos short
  refine ⟨_, ShortLength.ofNat_toNat read, ?_⟩
  rw [plan_given given sized, if_neg (Nat.not_lt_of_le room), read]

theorem short_size (length : ShortLength) : add 2 length.toNat = some (2 + length.toNat) := by
  have short := length.short
  refine add_small ?_
  simp only [ShortLength.toNat, wordLimit, UInt64.size]
  omega

theorem encodedSize_eq (sized : data.length + 3 < wordLimit) :
    encodedSize data = some (Integer.encodedSize data) := by
  by_cases given : data = []
  · rw [given]
    rfl
  · simp only [encodedSize, minimal_given given, content_size sized, Option.bind_eq_bind,
      Option.bind_some]
    rw [Integer.encodedSize, if_neg (by simpa using given)]
    cases read : ShortLength.ofNat (content data).length with
    | error cause => rfl
    | ok length =>
      simp only [short_size, Option.bind_some]
      rfl

theorem exists_header (room : 2 ≤ dest.length) : ∃ tag octet rest, dest = tag :: octet :: rest := by
  obtain ⟨tag, tail, rfl⟩ := List.exists_cons_of_length_pos (Nat.lt_of_succ_lt room)
  obtain ⟨octet, rest, rfl⟩ := List.exists_cons_of_length_pos (Nat.lt_of_succ_lt_succ room)
  exact ⟨tag, octet, rest, rfl⟩

theorem write_plain (magnitude : Octets) (length : ShortLength)
    (announced : length.toNat = magnitude.length) (fits : 2 + length.toNat ≤ dest.length) :
    (Planned.mk magnitude false length).write dest =
      some ⟨overwrite dest (Tag.integer.octet :: length.octet :: magnitude),
        2 + length.toNat, .encoded (2 + length.toNat) false⟩ := by
  have begins : add 2 false.toNat = some 2 := add_small (by decide)
  obtain ⟨tag, octet, rest, rfl⟩ := exists_header (Nat.le_of_add_right_le fits)
  have copied : copyInto (tag :: octet :: rest) 2 (2 + length.toNat) magnitude =
      some (tag :: octet :: overwrite rest magnitude) := by
    rw [copyInto_inside (by omega) fits (by omega)]
    rfl
  rw [Planned.write, Planned.size, short_size]
  simp only [Option.bind_eq_bind, Option.bind_some, begins, copied, set_one, set_zero]
  rfl

theorem write_stuffed (magnitude : Octets) (length : ShortLength)
    (announced : length.toNat = magnitude.length + 1) (fits : 2 + length.toNat ≤ dest.length) :
    (Planned.mk magnitude true length).write dest =
      some ⟨overwrite dest (Tag.integer.octet :: length.octet :: 0 :: magnitude),
        2 + length.toNat, .encoded (2 + length.toNat) true⟩ := by
  have begins : add 2 true.toNat = some 3 := add_small (by decide)
  obtain ⟨tag, octet, tail, rfl⟩ := exists_header (Nat.le_of_add_right_le fits)
  obtain ⟨zero, rest, rfl⟩ : ∃ zero rest, tail = zero :: rest := by
    refine List.exists_cons_of_length_pos ?_
    simp only [List.length_cons] at fits
    omega
  have copied : copyInto (tag :: octet :: zero :: rest) 3 (2 + length.toNat) magnitude =
      some (tag :: octet :: zero :: overwrite rest magnitude) := by
    rw [copyInto_inside (by omega) fits (by omega)]
    rfl
  rw [Planned.write, Planned.size, short_size]
  simp only [Option.bind_eq_bind, Option.bind_some, begins, copied, if_true, set_two, set_one,
    set_zero]
  rfl

theorem write_planned {length : ShortLength} (announced : length.toNat = (content data).length)
    (fits : (encoding data).length ≤ dest.length) :
    (Planned.mk (magnitude data) (needsStuffing data) length).write dest =
      some ⟨overwrite dest (encoding data), (encoding data).length,
        .encoded (encoding data).length (needsStuffing data)⟩ := by
  have octet : UInt8.ofNat (content data).length = length.octet := by
    rw [← announced]
    exact UInt8.ofNat_toNat
  rw [encoding_length, ← announced] at fits ⊢
  rw [encoding, tlv, octet]
  cases sign : needsStuffing data with
  | true =>
    rw [content_of_stuffed sign] at announced ⊢
    exact write_stuffed _ _ announced fits
  | false =>
    rw [content_of_plain sign] at announced ⊢
    exact write_plain _ _ announced fits

theorem encodeInteger_eq (sized : data.length + 3 < wordLimit) (dest : Octets) :
    encodeInteger data dest = some (Integer.encode data dest) := by
  unfold encodeInteger
  cases reason : refusal data dest.length with
  | some cause =>
    rw [plan_refused sized reason, encode_refused reason]
    rfl
  | none =>
    obtain ⟨length, announced, planned⟩ := plan_accepted sized reason
    obtain ⟨_, fits, _⟩ := refusal_eq_none_iff.mp reason
    rw [planned, encode_accepted reason]
    simp only [Option.bind_eq_bind, Option.bind_some, write_planned announced fits]
    rfl

theorem overwrite_whole (sized : source.length = dest.length) : overwrite dest source = source := by
  rw [overwrite, sized, List.drop_length, List.append_nil]

theorem copyInto_behind {dest : Octets} (fits : left.length + right.length ≤ dest.length) :
    copyInto (overwrite dest left) left.length (overwrite dest left).length
        (overwrite (dest.drop left.length) right) =
      some (overwrite dest (left ++ right)) := by
  have whole : (overwrite dest left).length = dest.length := overwrite_length (by omega)
  have rest : (overwrite (dest.drop left.length) right).length = (dest.drop left.length).length :=
    overwrite_length (by rw [List.length_drop]; omega)
  have gap : (overwrite (dest.drop left.length) right).length = dest.length - left.length := by
    rw [rest, List.length_drop]
  rw [copyInto_inside (by omega) (Nat.le_refl _) (by omega), splice, Pair.take_overwrite,
    Pair.drop_overwrite, overwrite_whole rest, Pair.overwrite_behind]

theorem range_behind {dest : Octets} (fits : left.length ≤ dest.length) :
    range (overwrite dest left) left.length (overwrite dest left).length =
      some (dest.drop left.length) := by
  rw [range_to_end, Pair.drop_overwrite]
  rwa [overwrite_length fits]

theorem pair_size (rShort : (content r).length ≤ ShortLength.largest)
    (sShort : (content s).length ≤ ShortLength.largest) :
    add (encoding r).length (encoding s).length =
      some ((encoding r).length + (encoding s).length) := by
  refine add_small ?_
  simp only [ShortLength.largest] at rShort sShort
  simp only [encoding_length, wordLimit, UInt64.size]
  omega

theorem encodePair_eq (sized : r.length + 3 < wordLimit) (s dest : Octets) :
    encodePair r s dest = some (Pair.encode r s dest) := by
  unfold encodePair
  by_cases equal : r.length = s.length
  · have sSized : s.length + 3 < wordLimit := by rwa [equal] at sized
    rw [if_neg (fun unequal => unequal equal)]
    cases first : refusal r dest.length with
    | some cause =>
      rw [plan_refused sized first, Pair.encode_r_refused equal first]
      rfl
    | none =>
      obtain ⟨length, announced, planned⟩ := plan_accepted sized first
      obtain ⟨_, fits, rShort⟩ := refusal_eq_none_iff.mp first
      have taken : 2 + length.toNat = (encoding r).length := by rw [encoding_length, announced]
      simp only [planned, Option.bind_eq_bind, Option.bind_some, Planned.size, short_size, taken,
        sub_le fits]
      cases second : refusal s (dest.length - (encoding r).length) with
      | some cause =>
        rw [plan_refused sSized second, Pair.encode_s_refused equal first second]
        rfl
      | none =>
        obtain ⟨sLength, sAnnounced, sPlanned⟩ := plan_accepted sSized second
        obtain ⟨_, sFits, sShort⟩ := refusal_eq_none_iff.mp second
        have behind : (encoding s).length ≤ (dest.drop (encoding r).length).length := by
          rwa [List.length_drop]
        have both : (encoding r).length + (encoding s).length ≤ dest.length := by omega
        rw [Pair.encode_accepted equal first second]
        simp only [sPlanned, Option.bind_some, write_planned announced fits, range_behind fits,
          write_planned sAnnounced behind, pair_size rShort sShort, copyInto_behind both]
        rfl
  · rw [if_pos equal, Pair.encode_unequal equal]
    rfl

end DerPair.Bounded
