import DerPair.Octets

namespace DerPair

inductive LengthFault where
  | longForm (octet : UInt8)
  | tooLong (length : Nat)
  deriving DecidableEq, Repr

-- A length octet in short form is the content length itself.
structure ShortLength where
  octet : UInt8
  short : octet.toNat ≤ 127
  deriving DecidableEq, Repr

namespace ShortLength

def largest : Nat := 127

def toNat (length : ShortLength) : Nat := length.octet.toNat

-- The top bit announces a length of several octets.
def read (octet : UInt8) : Except LengthFault ShortLength :=
  if short : octet.toNat ≤ largest then .ok ⟨octet, short⟩ else .error (.longForm octet)

def ofNat (length : Nat) : Except LengthFault ShortLength :=
  if short : length ≤ largest then
    .ok ⟨UInt8.ofNat length, Nat.le_trans (Nat.mod_le _ _) short⟩
  else .error (.tooLong length)

def name (length : ShortLength) : String := toString length.toNat

def label (length : ShortLength) : String := "ShortLength(" ++ length.name ++ ")"

theorem ofNat_toNat (read : ofNat count = .ok length) : length.toNat = count := by
  unfold ofNat at read
  split at read
  · rename_i short
    cases read
    exact Nat.mod_eq_of_lt (Nat.lt_of_le_of_lt short (by decide))
  · cases read

end ShortLength

-- Octets of a whole INTEGER: identifier, length, and at least one of content.
def smallestInteger : Nat := 3
def largestInteger : Nat := 2 + ShortLength.largest

def LengthFault.message : LengthFault → String
  | .longForm octet => "long-form length octet 0x" ++ hexPair octet ++ " is not supported"
  | .tooLong length =>
    "content length " ++ toString length ++ " does not fit a short-form length octet (max "
      ++ toString ShortLength.largest ++ ")"

end DerPair
