import DerPair.Octets.Value
import DerPair.Fault

namespace DerPair.Integer
open Octets

-- Contents that are accepted. A first octet with its top bit set is not ruled out,
-- nor is a zero octet in front of one without: both are outside canonical DER.
structure Acceptable (content : Octets) : Prop where
  given : content ≠ []
  short : content.length ≤ ShortLength.largest
  trimmed : ¬ [0, 0] <+: content

-- Contents that the encoder writes: never negative, and a zero octet in front
-- only where the sign needs it.
structure Canonical (content : Octets) : Prop extends Acceptable content where
  nonNegative : leadsWithTopBit content = false
  stuffedForSign : ∀ second rest, content = 0 :: second :: rest → topBit second = true

def tlv (content : Octets) : Octets :=
  Tag.integer.octet :: UInt8.ofNat content.length :: content

structure Objection where
  applies : Bool
  fault : Fault

-- The reasons to refuse an input, in the order in which they win. Each is a
-- condition on the input and the capacity alone and follows no reading of it.
def objections (der : Octets) (capacity : Nat) : List Objection :=
  let tag := der.headD 0
  let length := der.getD 1 0
  let needed := 2 + length.toNat
  let content := (der.drop 2).take length.toNat
  let width := byteWidth (value content)
  [⟨der.length < smallestInteger, .truncated smallestInteger der.length⟩,
   ⟨tag != Tag.integer.octet, .unexpectedTag .integer ⟨tag⟩⟩,
   ⟨topBit length, .longFormOctet length⟩,
   ⟨length == 0, .emptyContent⟩,
   ⟨der.length < needed, .truncated needed der.length⟩,
   ⟨[0, 0].isPrefixOf content, .nonMinimal⟩,
   ⟨capacity < width, .capacityExceeded width capacity⟩]

def firstFault (objections : List Objection) : Option Fault :=
  (objections.find? Objection.applies).map Objection.fault

end DerPair.Integer
