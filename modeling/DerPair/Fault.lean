import DerPair.Tag
import DerPair.ShortLength

namespace DerPair

inductive Component where
  | r
  | s
  deriving DecidableEq, Repr

def Component.name : Component → String
  | .r => "r"
  | .s => "s"

inductive FaultKind where
  | invalidArgument
  | malformed
  | capacityExceeded
  | unsupported
  deriving DecidableEq, Repr

-- Why a call was refused. `within` names the component it was refused for and
-- keeps the cause whole; the codec nests once, values of the type may nest deeper.
inductive Fault where
  | invalidArgument (context : String)
  | truncated (needed available : Nat)
  | unexpectedTag (expected found : Tag)
  | emptyContent
  | nonMinimal
  | trailing (extra : Nat)
  | capacityExceeded (required capacity : Nat)
  | longFormLength (length : Nat)
  | longFormOctet (octet : UInt8)
  | within (component : Component) (cause : Fault)
  deriving DecidableEq, Repr

namespace Fault

def emptyInteger : Fault := .invalidArgument "integer to encode is empty"
def unequalWidths : Fault := .invalidArgument "r and s must have the same width"
def oddDestination : Fault := .invalidArgument "r || s destination must have an even length"
def unpairedComponents : Fault :=
  .invalidArgument "r and s must be non-empty and of the same width"
def unpairedOctets : Fault := .invalidArgument "r || s must have a non-zero even length"

def ofLength : LengthFault → Fault
  | .longForm octet => .longFormOctet octet
  | .tooLong length => .longFormLength length

def message : Fault → String
  | .invalidArgument context => "invalid argument: " ++ context
  | .truncated needed available =>
    "truncated data: " ++ toString needed ++ " bytes needed, " ++ toString available ++ " available"
  | .unexpectedTag expected found =>
    "unexpected tag: expected " ++ expected.name ++ ", found " ++ found.name
  | .emptyContent => "INTEGER with zero-length content"
  | .nonMinimal => "non-minimal INTEGER encoding (redundant leading zero byte)"
  | .trailing extra => toString extra ++ " unexpected bytes after the signature"
  | .capacityExceeded required capacity =>
    "output buffer too small: " ++ toString required ++ " bytes required, capacity is "
      ++ toString capacity
  | .longFormLength length =>
    "content length " ++ toString length ++ " requires a long-form DER length"
  | .longFormOctet octet => LengthFault.message (.longForm octet)
  | .within component cause => component.name ++ " component: " ++ cause.message

-- A wrapped fault is of the kind of its innermost cause.
def kind : Fault → FaultKind
  | .invalidArgument _ => .invalidArgument
  | .truncated _ _ | .unexpectedTag _ _ | .emptyContent | .nonMinimal | .trailing _ => .malformed
  | .capacityExceeded _ _ => .capacityExceeded
  | .longFormLength _ | .longFormOctet _ => .unsupported
  | .within _ cause => cause.kind

-- Only the outermost attribution counts.
def component? : Fault → Option Component
  | .within component _ => some component
  | _ => none

-- Layers of attribution around a leaf, outermost first.
def nest (components : List Component) (leaf : Fault) : Fault := components.foldr within leaf

def depth : Fault → Nat
  | .within _ cause => cause.depth + 1
  | _ => 0

-- Every cause below this fault, outermost first.
def causes : Fault → List Fault
  | .within _ cause => cause :: cause.causes
  | _ => []

end Fault
end DerPair
