import Mathlib.Algebra.Group.Int.Defs
import Mathlib.Algebra.Group.Nat.Defs
import DerPair.Octets

namespace DerPair.Octets

-- Big-endian and unsigned. The empty string denotes zero, so leading zero
-- octets never matter.
def value : Octets → Nat
  | [] => 0
  | octet :: rest => octet.toNat * 256 ^ rest.length + value rest

-- The same digits cut to a given number of octets, most significant first.
def ofValue : Nat → Nat → Octets
  | 0, _ => []
  | width + 1, number => UInt8.ofNat (number / 256 ^ width) :: ofValue width number

-- Two's complement: the top bit of the first octet carries the negative weight.
def signedValue (bytes : Octets) : Int :=
  if leadsWithTopBit bytes then (value bytes : Int) - 256 ^ bytes.length else value bytes

theorem value_append (left right : Octets) :
    value (left ++ right) = value left * 256 ^ right.length + value right := by
  induction left with
  | nil => simp [value]
  | cons octet rest ih =>
    simp only [List.cons_append, value, ih, List.length_append, Nat.pow_add, Nat.add_mul,
      Nat.mul_assoc, Nat.add_assoc]

theorem value_lt (bytes : Octets) : value bytes < 256 ^ bytes.length := by
  induction bytes with
  | nil => simp [value]
  | cons octet rest ih =>
    have digit : octet.toNat ≤ 255 := Nat.le_of_lt_succ octet.toNat_lt
    have scaled := Nat.mul_le_mul_right (256 ^ rest.length) digit
    simp only [value, List.length_cons, Nat.pow_succ]
    omega

theorem value_zeros (count : Nat) : value (List.replicate count 0) = 0 := by
  induction count with
  | zero => rfl
  | succ count ih => simp [List.replicate_succ, value, ih]

theorem value_padded (width : Nat) (bytes : Octets) : value (padded width bytes) = value bytes := by
  simp [padded, value_append, value_zeros]

theorem value_magnitude (bytes : Octets) : value (magnitude bytes) = value bytes := by
  fun_induction magnitude bytes with
  | case1 second rest ih => simpa [value] using ih
  | case2 => rfl
  | case3 => rfl

theorem ofValue_length (width number : Nat) : (ofValue width number).length = width := by
  induction width with
  | zero => rfl
  | succ width ih => simp [ofValue, ih]

theorem ofValue_add (width high low : Nat) :
    ofValue width (high * 256 ^ width + low) = ofValue width low := by
  induction width generalizing high with
  | zero => rfl
  | succ width ih =>
    have positive : 0 < 256 ^ width := Nat.pow_pos (by decide)
    have split : high * 256 ^ (width + 1) = high * 256 * 256 ^ width := by
      rw [Nat.pow_succ, Nat.mul_comm (256 ^ width), Nat.mul_assoc]
    have digit : (high * 256 * 256 ^ width + low) / 256 ^ width = high * 256 + low / 256 ^ width := by
      rw [Nat.add_comm, Nat.add_mul_div_right _ _ positive, Nat.add_comm]
    simp only [ofValue, split, digit, ih, List.cons.injEq, and_true]
    apply UInt8.toNat_inj.mp
    simp only [UInt8.toNat_ofNat']
    omega

theorem ofValue_value (bytes : Octets) : ofValue bytes.length (value bytes) = bytes := by
  induction bytes with
  | nil => rfl
  | cons octet rest ih =>
    have small := value_lt rest
    have positive : 0 < 256 ^ rest.length := Nat.pow_pos (by decide)
    have digit : (octet.toNat * 256 ^ rest.length + value rest) / 256 ^ rest.length = octet.toNat := by
      rw [Nat.add_comm, Nat.add_mul_div_right _ _ positive, Nat.div_eq_of_lt small, Nat.zero_add]
    simp only [List.length_cons, ofValue, value, digit, ofValue_add, ih, List.cons.injEq, and_true]
    exact UInt8.ofNat_toNat

theorem ofValue_padded (fits : bytes.length ≤ width) : ofValue width (value bytes) = padded width bytes := by
  have same := ofValue_value (padded width bytes)
  rwa [padded_length fits, value_padded] at same

theorem value_ofValue (small : number < 256 ^ width) : value (ofValue width number) = number := by
  induction width generalizing number with
  | zero =>
    have zero : number = 0 := by simpa using small
    simp [ofValue, value, zero]
  | succ width ih =>
    have positive : 0 < 256 ^ width := Nat.pow_pos (by decide)
    have digit : number / 256 ^ width < 256 := by
      rw [Nat.div_lt_iff_lt_mul positive, Nat.mul_comm]
      rwa [Nat.pow_succ] at small
    have parts : number / 256 ^ width * 256 ^ width + number % 256 ^ width = number := by
      rw [Nat.mul_comm]; exact Nat.div_add_mod _ _
    have lower : ofValue width number = ofValue width (number % 256 ^ width) := by
      rw [← ofValue_add width (number / 256 ^ width) (number % 256 ^ width), parts]
    simp only [ofValue, value, ofValue_length, lower, ih (Nat.mod_lt _ positive)]
    rw [UInt8.toNat_ofNat', Nat.mod_eq_of_lt digit, parts]

theorem byteWidth_eq (low : 256 ^ width ≤ number) (high : number < 256 ^ (width + 1)) :
    byteWidth number = width + 1 := by
  induction width generalizing number with
  | zero =>
    unfold byteWidth
    simp only [Nat.zero_add, Nat.pow_one] at high
    rw [if_pos high]
  | succ width ih =>
    have large : ¬ number < 256 := by
      have base : 256 ^ 1 ≤ 256 ^ (width + 1) := Nat.pow_le_pow_right (by decide) (by omega)
      omega
    unfold byteWidth
    rw [if_neg large, ih]
    · rw [Nat.le_div_iff_mul_le (by decide), ← Nat.pow_succ]; exact low
    · rw [Nat.div_lt_iff_lt_mul (by decide), ← Nat.pow_succ]; exact high

theorem byteWidth_value (given : bytes ≠ []) : byteWidth (value bytes) = (magnitude bytes).length := by
  fun_induction magnitude bytes with
  | case1 second rest ih =>
    rw [← ih (List.cons_ne_nil _ _)]
    simp [value]
  | case2 first second rest nonzero =>
    have upper := value_lt (first :: second :: rest)
    have digit : 1 ≤ first.toNat := by
      refine Nat.pos_of_ne_zero fun zero => nonzero ?_
      exact UInt8.toNat_inj.mp zero
    have scaled := Nat.mul_le_mul_right (256 ^ (second :: rest).length) digit
    apply byteWidth_eq
    · rw [Nat.one_mul] at scaled
      exact Nat.le_trans scaled (Nat.le_add_right _ _)
    · exact upper
  | case3 bytes short =>
    obtain ⟨octet, rest, shape⟩ := List.exists_cons_of_ne_nil given
    subst shape
    cases rest with
    | nil =>
      unfold byteWidth
      have small := octet.toNat_lt
      simp [value, small]
    | cons second rest => exact absurd rfl (short octet second rest)

end DerPair.Octets
