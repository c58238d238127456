import DerPair.Octets.Value

namespace DerPair.Octets

theorem octet_power (count : Nat) : 256 ^ count = 2 ^ (8 * count) := by
  rw [Nat.pow_mul]

theorem bitLength_le_iff : bitLength number ≤ bits ↔ number < 2 ^ bits := by
  unfold bitLength
  split
  · rename_i zero
    subst zero
    exact ⟨fun _ => Nat.two_pow_pos _, fun _ => Nat.zero_le _⟩
  · rename_i positive
    exact Nat.log2_lt positive

theorem lt_bitLength_iff : bits < bitLength number ↔ 2 ^ bits ≤ number := by
  rw [← Nat.not_le, bitLength_le_iff, Nat.not_lt]

theorem byteWidth_eq_one (small : number < 256) : byteWidth number = 1 := by
  rw [byteWidth, if_pos small]

theorem byteWidth_pos (number : Nat) : 1 ≤ byteWidth number := by
  unfold byteWidth
  split
  · exact Nat.le_refl _
  · exact Nat.le_add_left _ _

theorem byteWidth_le_iff : byteWidth number ≤ width + 1 ↔ number < 256 ^ (width + 1) := by
  induction width generalizing number with
  | zero =>
    unfold byteWidth
    split
    · rename_i small
      simpa using small
    · rename_i large
      have wide := byteWidth_pos (number / 256)
      simp only [Nat.zero_add, Nat.pow_one, large, iff_false]
      omega
  | succ width ih =>
    unfold byteWidth
    split
    · rename_i small
      have base : 256 ^ 1 ≤ 256 ^ (width + 1 + 1) := Nat.pow_le_pow_right (by decide) (by omega)
      refine ⟨fun _ => ?_, fun _ => by omega⟩
      omega
    · rw [Nat.add_le_add_iff_right, ih, Nat.div_lt_iff_lt_mul (by decide), ← Nat.pow_succ]

theorem topBit_iff (octet : UInt8) (rest : Octets) :
    topBit octet = true ↔ 2 ^ (8 * rest.length + 7) ≤ value (octet :: rest) := by
  have lower := value_lt rest
  have unit : 2 ^ (8 * rest.length + 7) = 128 * 256 ^ rest.length := by
    rw [octet_power, Nat.pow_add, Nat.mul_comm]
  have leads : topBit octet = true ↔ 128 ≤ octet.toNat := by
    simp only [topBit, decide_eq_true_eq]
    exact UInt8.le_iff_toNat_le
  rw [leads, unit]
  simp only [value]
  constructor
  · intro large
    have scaled := Nat.mul_le_mul_right (256 ^ rest.length) large
    omega
  · intro large
    refine Nat.le_of_not_lt fun small => ?_
    have scaled := Nat.mul_le_mul_right (256 ^ rest.length) (Nat.le_of_lt_succ small)
    omega

theorem signedValue_of_clear (clear : leadsWithTopBit bytes = false) :
    signedValue bytes = value bytes := by
  simp [signedValue, clear]

theorem signedValue_of_leading (leads : leadsWithTopBit bytes = true) :
    signedValue bytes = value bytes - 256 ^ bytes.length := by
  simp [signedValue, leads]

theorem value_lt_power (bytes : Octets) : (value bytes : Int) < 256 ^ bytes.length := by
  have bound := Int.ofNat_lt.mpr (value_lt bytes)
  rwa [Int.natCast_pow, Int.cast_ofNat_Int] at bound

theorem signedValue_neg_iff (bytes : Octets) :
    signedValue bytes < 0 ↔ leadsWithTopBit bytes = true := by
  have bound := value_lt_power bytes
  cases leads : leadsWithTopBit bytes with
  | true =>
    rw [signedValue_of_leading leads, iff_true_right rfl]
    omega
  | false =>
    rw [signedValue_of_clear leads, iff_false_right Bool.false_ne_true]
    omega

theorem clear_of_signedValue {number : Nat} (reading : signedValue bytes = number) :
    leadsWithTopBit bytes = false := by
  rw [Bool.eq_false_iff, ne_eq, ← signedValue_neg_iff, reading]
  omega

theorem signedValue_emod (bytes : Octets) :
    signedValue bytes % 256 ^ bytes.length = value bytes := by
  have unsigned := Int.emod_eq_of_lt (Int.natCast_nonneg _) (value_lt_power bytes)
  cases leads : leadsWithTopBit bytes with
  | true => rw [signedValue_of_leading leads, Int.sub_emod_right, unsigned]
  | false => rw [signedValue_of_clear leads, unsigned]

theorem value_eq_signedValue_iff (bytes : Octets) :
    (value bytes : Int) = signedValue bytes ↔ 0 ≤ signedValue bytes := by
  constructor
  · intro same
    omega
  · intro positive
    rw [← Int.not_lt, signedValue_neg_iff] at positive
    rw [signedValue_of_clear (Bool.eq_false_iff.mpr positive)]

theorem bitLength_of_clear (given : bytes ≠ []) (clear : leadsWithTopBit bytes = false) :
    bitLength (value bytes) + 1 ≤ 8 * bytes.length := by
  cases bytes with
  | nil => exact absurd rfl given
  | cons octet rest =>
    have short : ¬ 2 ^ (8 * rest.length + 7) ≤ value (octet :: rest) := by
      rw [← topBit_iff]
      simpa [leadsWithTopBit] using clear
    have bits := bitLength_le_iff.mpr (Nat.lt_of_not_le short)
    simp only [List.length_cons]
    omega

theorem signed_length {number : Nat} (given : bytes ≠ []) (reading : signedValue bytes = number) :
    bitLength number / 8 + 1 ≤ bytes.length := by
  have clear := clear_of_signedValue reading
  have same : value bytes = number := by
    rw [signedValue_of_clear clear] at reading
    exact Int.ofNat.inj reading
  have bits := bitLength_of_clear given clear
  rw [same] at bits
  omega

theorem magnitude_of_head (rest : Octets) (nonzero : first ≠ 0) :
    magnitude (first :: rest) = first :: rest := by
  cases rest with
  | nil => rfl
  | cons second rest => rw [magnitude, if_neg nonzero]

theorem magnitude_of_leading (leads : leadsWithTopBit bytes = true) : magnitude bytes = bytes := by
  cases bytes with
  | nil => rfl
  | cons first rest =>
    refine magnitude_of_head rest fun zero => ?_
    rw [zero] at leads
    cases leads

theorem magnitude_of_whole (whole : (magnitude bytes).length = bytes.length) :
    magnitude bytes = bytes := by
  fun_induction magnitude bytes with
  | case1 second rest =>
    have shorter := magnitude_length (second :: rest)
    rw [whole, List.length_cons] at shorter
    exact absurd shorter (Nat.not_succ_le_self _)
  | case2 => rfl
  | case3 => rfl

theorem magnitude_head (shape : magnitude bytes = first :: second :: rest) : first ≠ 0 := by
  fun_induction magnitude bytes with
  | case1 => rename_i ih; exact ih shape
  | case2 head next tail nonzero => cases shape; exact nonzero
  | case3 bytes short => exact absurd shape (short _ _ _)

theorem bitLength_of_magnitude (shape : magnitude bytes = first :: second :: rest) :
    8 * (rest.length + 1) < bitLength (value bytes) := by
  have given : bytes ≠ [] := by
    intro empty
    rw [empty] at shape
    cases shape
  have width : byteWidth (value bytes) = rest.length + 2 := by
    rw [byteWidth_value given, shape]
    rfl
  rw [lt_bitLength_iff, ← octet_power]
  refine Nat.le_of_not_lt fun small => ?_
  have narrow := byteWidth_le_iff.mpr small
  omega

theorem value_of_leading_zero (shape : magnitude bytes = 0 :: rest) : value bytes = 0 := by
  rw [← value_magnitude, shape]
  cases rest with
  | nil => rfl
  | cons second rest => exact absurd rfl (magnitude_head shape)

theorem magnitude_eq (given : bytes ≠ []) :
    magnitude bytes = ofValue (byteWidth (value bytes)) (value bytes) := by
  have digits := ofValue_value (magnitude bytes)
  rw [← byteWidth_value given, value_magnitude] at digits
  exact digits.symm

theorem magnitude_of_zero (given : bytes ≠ []) (zero : value bytes = 0) : magnitude bytes = [0] := by
  have width : byteWidth 0 = 1 := byteWidth_eq_one (by decide)
  rw [magnitude_eq given, zero, width]
  rfl

theorem magnitude_trimmed (bytes : Octets) : ¬ [0, 0] <+: magnitude bytes := by
  intro redundant
  obtain ⟨rest, shape⟩ := redundant
  exact magnitude_head shape.symm rfl

theorem trimmed_cases (trimmed : ¬ [0, 0] <+: bytes) :
    magnitude bytes = bytes ∨ ∃ second rest, second ≠ 0 ∧ bytes = 0 :: second :: rest := by
  cases bytes with
  | nil => exact .inl rfl
  | cons first rest =>
    cases rest with
    | nil => exact .inl rfl
    | cons second rest =>
      by_cases zero : first = 0
      · subst zero
        refine .inr ⟨second, rest, ?_, rfl⟩
        intro leading
        rw [leading] at trimmed
        exact trimmed ⟨rest, rfl⟩
      · exact .inl (magnitude_of_head _ zero)

theorem magnitude_stuffed (rest : Octets) (nonzero : second ≠ 0) :
    magnitude (0 :: second :: rest) = second :: rest :=
  magnitude_of_head rest nonzero

theorem ofValue_magnitude (given : bytes ≠ []) (fits : byteWidth (value bytes) ≤ width) :
    ofValue width (value bytes) = padded width (magnitude bytes) := by
  rw [← value_magnitude bytes]
  exact ofValue_padded (by rwa [← byteWidth_value given])

theorem eq_of_value {left right : Octets} (lengths : left.length = right.length)
    (values : value left = value right) : left = right := by
  rw [← ofValue_value left, lengths, values, ofValue_value right]

theorem value_of_fits (fits : byteWidth number ≤ width) : value (ofValue width number) = number := by
  cases width with
  | zero => exact absurd (byteWidth_pos number) (Nat.not_le_of_lt (Nat.lt_succ_of_le fits))
  | succ width => exact value_ofValue (byteWidth_le_iff.mp fits)

theorem byteWidth_le_length (given : bytes ≠ []) : byteWidth (value bytes) ≤ bytes.length := by
  rw [byteWidth_value given]
  exact magnitude_length bytes

theorem ofValue_front (given : bytes ≠ []) (fits : byteWidth (value bytes) ≤ width)
    (front : position < width - byteWidth (value bytes)) :
    (ofValue width (value bytes))[position]? = some 0 := by
  rw [byteWidth_value given] at front
  rw [ofValue_magnitude given fits, padded, List.getElem?_append_left (by simpa using front),
    List.getElem?_replicate_of_lt front]

theorem ofValue_first (given : bytes ≠ []) (fits : byteWidth (value bytes) ≤ width) :
    ∃ octet, (ofValue width (value bytes))[width - byteWidth (value bytes)]? = some octet ∧
      (octet = 0 → value bytes = 0) := by
  obtain ⟨octet, rest, shape⟩ := List.exists_cons_of_ne_nil (magnitude_ne_nil given)
  refine ⟨octet, ?_, ?_⟩
  · rw [ofValue_magnitude given fits, byteWidth_value given, padded,
      List.getElem?_append_right (by simp)]
    simp [shape]
  · intro zero
    rw [zero] at shape
    exact value_of_leading_zero shape

end DerPair.Octets
