import DerPair.Bounded.Integer
import DerPair.Signature

namespace DerPair.Bounded

def largestSize (width : Nat) : Option Nat := do
  let component ← add 3 width
  mul 2 component

def encodePair (r s dest : Octets) : Option (Outcome Octets Nat) := do
  if r.length ≠ s.length then return .refused (.unequalWidths r.length s.length) dest
  match ← plan r dest.length with
  | .error cause => return (Outcome.refused cause dest).within .r
  | .ok first =>
    let taken ← first.size
    let left ← sub dest.length taken
    match ← plan s left with
    | .error cause => return (Outcome.refused cause dest).within .s
    | .ok second =>
      let written ← first.write dest
      let rest ← range written.dest written.size written.dest.length
      let following ← second.write rest
      let total ← add written.size following.size
      let dest ← copyInto written.dest written.size written.dest.length following.dest
      return ⟨.done total [written.line, following.line], dest⟩

def decodeSeparate (der rDest sDest : Octets) :
    Option (Outcome (Octets × Octets) Pair.Decoded) := do
  let first := (← decodeInteger der rDest).within .r
  match first.answer with
  | .error fault => return ⟨⟨.error fault, first.trace⟩, (first.dest, sDest)⟩
  | .ok r =>
    let rest ← range der r.consumed der.length
    let second := (← decodeInteger rest sDest).within .s
    match second.answer with
    | .error fault => return ⟨⟨.error fault, first.trace ++ second.trace⟩, (first.dest, second.dest)⟩
    | .ok s =>
      let consumed ← add r.consumed s.consumed
      return ⟨.done ⟨consumed, r.width, s.width⟩ (first.trace ++ second.trace),
        (first.dest, second.dest)⟩

def decodeFixed (der dest : Octets) : Option (Outcome Octets Pair.Decoded) := do
  if dest.length % 2 ≠ 0 then return .refused (.oddDestination dest.length) dest
  let (r, s) ← split dest (dest.length / 2)
  let outcome ← decodeSeparate der r s
  return ⟨outcome.toTraced, outcome.dest.1 ++ outcome.dest.2⟩

def ofDer (curve : Curve) (der : Octets) : Option (Traced Signature) := do
  let size ← mul 2 curve.fieldSize
  let outcome ← decodeFixed der (List.replicate size 0)
  match outcome.answer with
  | .error fault => return ⟨.error fault, outcome.trace⟩
  | .ok decoded =>
    if decoded.consumed ≠ der.length then
      let extra ← sub der.length decoded.consumed
      return ⟨.error (.trailing extra), outcome.trace ++ [.rejected (.bytesLeftOver extra)]⟩
    let (r, s) ← split outcome.dest curve.fieldSize
    return .done ⟨r, s⟩ outcome.trace

def toDer (signature : Signature) : Option (Traced Octets) := do
  let size ← largestSize signature.width
  let outcome ← encodePair signature.r signature.s (List.replicate size 0)
  return outcome.toTraced.map fun written => outcome.dest.take written

end DerPair.Bounded
