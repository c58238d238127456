import DerPair.Curve
import DerPair.Pair.Decoding

namespace DerPair

structure Signature where
  r : Octets
  s : Octets
  deriving DecidableEq, Repr

namespace Signature

-- What every constructor establishes; the structure alone does not.
def Paired (signature : Signature) : Prop :=
  signature.r ≠ [] ∧ signature.r.length = signature.s.length

def width (signature : Signature) : Nat := signature.r.length

-- This constructor and the next refuse without a line.
def ofComponents (r s : Octets) : Traced Signature :=
  if r.isEmpty || r.length != s.length then .silent (.error .unpairedComponents)
  else .silent (.ok ⟨r, s⟩)

def ofFixed (rs : Octets) : Traced Signature :=
  if rs.isEmpty || rs.length % 2 != 0 then .silent (.error .unpairedOctets)
  else .silent (.ok ⟨rs.take (rs.length / 2), rs.drop (rs.length / 2)⟩)

-- Both components take the width of the field, and nothing may follow them.
def ofDer (curve : Curve) (der : Octets) : Traced Signature :=
  let outcome := Pair.decodeFixed der (List.replicate curve.fixedSize 0)
  match outcome.answer with
  | .error fault => ⟨.error fault, outcome.trace⟩
  | .ok decoded =>
    if decoded.consumed ≠ der.length then
      let cause := Rejection.bytesLeftOver (der.length - decoded.consumed)
      ⟨.error cause.fault, outcome.trace ++ [.rejected cause]⟩
    else
      .done ⟨outcome.dest.take curve.fieldSize, outcome.dest.drop curve.fieldSize⟩ outcome.trace

def toFixed (signature : Signature) : Octets := signature.r ++ signature.s

def toDer (signature : Signature) : Traced Octets :=
  let outcome := Pair.encode signature.r signature.s
    (List.replicate (Pair.largestSize signature.width) 0)
  outcome.toTraced.map fun written => outcome.dest.take written

-- Through the wire and back, onto a curve of another width if need be.
def recode (curve : Curve) (signature : Signature) : Traced Signature :=
  let encoded := signature.toDer
  match encoded.answer with
  | .error fault => ⟨.error fault, encoded.trace⟩
  | .ok der =>
    let decoded := ofDer curve der
    ⟨decoded.answer, encoded.trace ++ decoded.trace⟩

end Signature
end DerPair
