import DerPair.Pair.Encoding

namespace DerPair

inductive Curve where
  | nistP256
  | nistP384
  | nistP521
  | secp256k1
  deriving DecidableEq, Repr

namespace Curve

def name : Curve → String
  | .nistP256 => "NIST-P256"
  | .nistP384 => "NIST-P384"
  | .nistP521 => "NIST-P521"
  | .secp256k1 => "secp256k1"

def fieldSize : Curve → Nat
  | .nistP256 => 32
  | .nistP384 => 48
  | .nistP521 => 66
  | .secp256k1 => 32

-- r and s side by side.
def fixedSize (curve : Curve) : Nat := 2 * curve.fieldSize

def largestDer (curve : Curve) : Nat := Pair.largestSize curve.fieldSize

theorem replicate_fixedSize (curve : Curve) (octet : UInt8) :
    List.replicate curve.fixedSize octet =
      List.replicate curve.fieldSize octet ++ List.replicate curve.fieldSize octet := by
  simp [fixedSize, Nat.two_mul]

theorem fieldSize_bounds (curve : Curve) :
    0 < curve.fieldSize ∧ curve.fieldSize + 1 ≤ ShortLength.largest := by
  cases curve <;> decide

end Curve
end DerPair
