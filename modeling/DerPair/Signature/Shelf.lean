import DerPair.Named
import DerPair.Signature

namespace DerPair

-- Signatures kept under slot names while a caller works with several.
abbrev Shelf := Named Signature

namespace Shelf

inductive Action where
  | pair (slot : String) (r s : Octets)
  | split (slot : String) (rs : Octets)
  | decode (slot : String) (curve : Curve) (der : Octets)
  | copy (slot source : String)
  | recode (slot source : String) (curve : Curve)
  | inspect (slot : String)
  | fixed (slot : String)
  | encode (slot : String)
  | compare (left right : String)

inductive Reply where
  | emptySlot (slot : String)
  | made (result : Traced Signature)
  | inspected (signature : Signature)
  | fixed (rs : Octets)
  | encoded (result : Traced Octets)
  | compared (same : Bool)

def Reply.trace : Reply → List Line
  | .made result => result.trace
  | .encoded result => result.trace
  | _ => []

-- A refused signature leaves the slot as it was.
def keep (shelf : Shelf) (slot : String) (result : Traced Signature) : Shelf × Reply :=
  match result.answer with
  | .ok signature => (shelf.put slot signature, .made result)
  | .error _ => (shelf, .made result)

def withSlot (shelf : Shelf) (slot : String) (use : Signature → Shelf × Reply) : Shelf × Reply :=
  match shelf.get? slot with
  | none => (shelf, .emptySlot slot)
  | some signature => use signature

def step (shelf : Shelf) : Action → Shelf × Reply
  | .pair slot r s => shelf.keep slot (Signature.ofComponents r s)
  | .split slot rs => shelf.keep slot (Signature.ofFixed rs)
  | .decode slot curve der => shelf.keep slot (Signature.ofDer curve der)
  | .copy slot source => shelf.withSlot source fun signature =>
      shelf.keep slot (.done signature [])
  | .recode slot source curve => shelf.withSlot source fun signature =>
      shelf.keep slot (signature.recode curve)
  | .inspect slot => shelf.withSlot slot fun signature => (shelf, .inspected signature)
  | .fixed slot => shelf.withSlot slot fun signature => (shelf, .fixed signature.toFixed)
  | .encode slot => shelf.withSlot slot fun signature => (shelf, .encoded signature.toDer)
  | .compare left right => shelf.withSlot left fun first => shelf.withSlot right fun second =>
      (shelf, .compared (first = second))

def run (shelf : Shelf) : List Action → Shelf × List Reply
  | [] => (shelf, [])
  | action :: rest =>
    let (next, reply) := shelf.step action
    let (last, replies) := run next rest
    (last, reply :: replies)

end Shelf
end DerPair
