namespace DerPair

-- The bytes a caller hands over, and the bytes a buffer holds.
abbrev Octets := List UInt8

namespace Octets

def topBit (octet : UInt8) : Bool := decide (0x80 ≤ octet)

def leadsWithTopBit : Octets → Bool
  | [] => false
  | octet :: _ => topBit octet

-- Leading zero octets go, the last octet stays: zero keeps one digit.
def magnitude : Octets → Octets
  | first :: second :: rest =>
    if first = 0 then magnitude (second :: rest) else first :: second :: rest
  | bytes => bytes

-- Digits of a number in base 256, and one digit for zero.
def byteWidth (number : Nat) : Nat :=
  if number < 256 then 1 else byteWidth (number / 256) + 1

def bitLength (number : Nat) : Nat :=
  if number = 0 then 0 else number.log2 + 1

def padded (width : Nat) (bytes : Octets) : Octets :=
  List.replicate (width - bytes.length) 0 ++ bytes

-- Later bytes of the destination survive.
def overwrite (dest source : Octets) : Octets :=
  source ++ dest.drop source.length

-- Bytes before the offset survive as well.
def splice (dest : Octets) (offset : Nat) (source : Octets) : Octets :=
  dest.take offset ++ overwrite (dest.drop offset) source

theorem padded_length (fits : bytes.length ≤ width) : (padded width bytes).length = width := by
  simp only [padded, List.length_append, List.length_replicate]
  omega

theorem overwrite_length (fits : source.length ≤ dest.length) :
    (overwrite dest source).length = dest.length := by
  simp only [overwrite, List.length_append, List.length_drop]
  omega

theorem magnitude_length (bytes : Octets) : (magnitude bytes).length ≤ bytes.length := by
  fun_induction magnitude bytes with
  | case1 second rest ih => exact Nat.le_succ_of_le ih
  | case2 => exact Nat.le_refl _
  | case3 => exact Nat.le_refl _

theorem magnitude_ne_nil (given : bytes ≠ []) : magnitude bytes ≠ [] := by
  fun_induction magnitude bytes with
  | case1 second rest ih => exact ih (List.cons_ne_nil _ _)
  | case2 => exact List.cons_ne_nil _ _
  | case3 => exact given

end Octets

def upperHexDigit (digit : Nat) : Char :=
  if digit < 10 then Char.ofNat (48 + digit) else Char.ofNat (55 + digit)

def hexPair (octet : UInt8) : String :=
  String.ofList [upperHexDigit (octet.toNat / 16), upperHexDigit (octet.toNat % 16)]

end DerPair
