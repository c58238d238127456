import DerPair.Bounded.Access
import DerPair.Integer.Decoding

namespace DerPair.Bounded
open Octets

structure Minimal where
  magnitude : Octets
  stuffed : Bool

-- Scans everything but the last octet for the first digit that counts.
def minimal (data : Octets) : Option (Except Rejection Minimal) :=
  if data.isEmpty then some (.error .nothingToEncode)
  else do
    let last ← sub data.length 1
    let front ← range data 0 last
    let start := (front.findIdx? (· != 0)).getD last
    let magnitude ← range data start data.length
    let first ← index magnitude 0
    return .ok ⟨magnitude, topBit first⟩

def encodedSize (data : Octets) : Option (Traced Nat) := do
  match ← minimal data with
  | .error cause => return .refused cause
  | .ok least =>
    let size ← add least.magnitude.length least.stuffed.toNat
    match ShortLength.ofNat size with
    | .error cause => return .silent (.error (.ofLength cause))
    | .ok length =>
      let total ← add 2 length.toNat
      return .silent (.ok total)

structure Planned where
  magnitude : Octets
  stuffed : Bool
  length : ShortLength

def Planned.size (planned : Planned) : Option Nat := add 2 planned.length.toNat

def plan (data : Octets) (capacity : Nat) : Option (Except Rejection Planned) := do
  match ← minimal data with
  | .error cause => return .error cause
  | .ok least =>
    let size ← add least.magnitude.length least.stuffed.toNat
    let total ← add 2 size
    if capacity < total then return .error (.encodingTooWide total capacity)
    else match ShortLength.ofNat size with
      | .error cause => return .error (.encodingTooLong cause)
      | .ok length => return .ok ⟨least.magnitude, least.stuffed, length⟩

structure Written where
  dest : Octets
  size : Nat
  line : Line

-- Magnitude first, then the octets in front of it, back to the tag.
def Planned.write (planned : Planned) (dest : Octets) : Option Written := do
  let size ← planned.size
  let start ← add 2 planned.stuffed.toNat
  let dest ← copyInto dest start size planned.magnitude
  let dest ← if planned.stuffed then set dest 2 0 else some dest
  let dest ← set dest 1 planned.length.octet
  let dest ← set dest 0 Tag.integer.octet
  return ⟨dest, size, .encoded size planned.stuffed⟩

def encodeInteger (data dest : Octets) : Option (Outcome Octets Nat) := do
  match ← plan data dest.length with
  | .error cause => return .refused cause dest
  | .ok planned =>
    let written ← planned.write dest
    return ⟨.done written.size [written.line], written.dest⟩

def decodeInteger (der dest : Octets) : Option (Outcome Octets Integer.Decoded) := do
  if der.length < smallestInteger then return .refused (.inputTooShort der.length) dest
  let tag ← index der 0
  if Tag.mk tag ≠ .integer then return .refused (.wrongTag ⟨tag⟩) dest
  let octet ← index der 1
  match ShortLength.read octet with
  | .error cause => return .refused (.longFormInput cause) dest
  | .ok length =>
    if length.toNat = 0 then return .refused .noContent dest
    let consumed ← add 2 length.toNat
    match range der 2 consumed with
    | none => return .refused (.contentPastEnd consumed der.length) dest
    | some content =>
      match Integer.unstuffed content with
      | .error cause => return .refused cause dest
      | .ok magnitude =>
        if dest.length < magnitude.length then
          return .refused (.valueTooWide magnitude.length dest.length) dest
        let padding ← sub dest.length magnitude.length
        let cleared ← copyInto dest 0 padding (List.replicate padding 0)
        let filled ← copyInto cleared padding dest.length magnitude
        return ⟨.done ⟨consumed, magnitude.length⟩
          [.decoded magnitude.length dest.length consumed], filled⟩

end DerPair.Bounded
