import DerPair.Fault

namespace DerPair

-- What the codec refuses, seen from where it refuses it. Two rejections may raise
-- the same fault and still read differently in the trace.
inductive Rejection where
  | nothingToEncode
  | encodingTooWide (required capacity : Nat)
  | encodingTooLong (cause : LengthFault)
  | inputTooShort (available : Nat)
  | wrongTag (found : Tag)
  | longFormInput (cause : LengthFault)
  | noContent
  | contentPastEnd (needed available : Nat)
  | redundantZero
  | valueTooWide (required capacity : Nat)
  | unequalWidths (r s : Nat)
  | oddDestination (size : Nat)
  | bytesLeftOver (extra : Nat)
  deriving DecidableEq, Repr

namespace Rejection

def fault : Rejection → Fault
  | .nothingToEncode => .emptyInteger
  | .encodingTooWide required capacity => .capacityExceeded required capacity
  | .encodingTooLong cause => .ofLength cause
  | .inputTooShort available => .truncated smallestInteger available
  | .wrongTag found => .unexpectedTag .integer found
  | .longFormInput cause => .ofLength cause
  | .noContent => .emptyContent
  | .contentPastEnd needed available => .truncated needed available
  | .redundantZero => .nonMinimal
  | .valueTooWide required capacity => .capacityExceeded required capacity
  | .unequalWidths _ _ => .unequalWidths
  | .oddDestination _ => .oddDestination
  | .bytesLeftOver extra => .trailing extra

def excess (required available : Nat) : String :=
  "(" ++ toString required ++ " > " ++ toString available ++ ")"

def text : Rejection → String
  | .nothingToEncode => "integer: INVALID ARGUMENT (nothing to encode)"
  | .encodingTooWide required capacity =>
    "encode_integer: BUFFER TOO SMALL " ++ excess required capacity
  | .encodingTooLong cause => "encode_integer: UNSUPPORTED (" ++ cause.message ++ ")"
  | .inputTooShort available =>
    "decode_integer: TRUNCATED DATA (only " ++ toString available ++ " bytes)"
  | .wrongTag found => "decode_integer: INVALID (found " ++ found.name ++ ")"
  | .longFormInput cause => "decode_integer: UNSUPPORTED (" ++ cause.message ++ ")"
  | .noContent => "decode_integer: INVALID (zero length)"
  | .contentPastEnd needed available =>
    "decode_integer: TRUNCATED DATA " ++ excess needed available
  | .redundantZero => "decode_integer: INVALID (non-minimal encoding)"
  | .valueTooWide required capacity =>
    "decode_integer: BUFFER TOO SMALL " ++ excess required capacity
  | .unequalWidths r s =>
    "encode_signature: INVALID ARGUMENT (r is " ++ toString r ++ " bytes, s is "
      ++ toString s ++ ")"
  | .oddDestination size =>
    "decode_signature_fixed: INVALID ARGUMENT (odd length " ++ toString size ++ ")"
  | .bytesLeftOver extra => "from_der: TRAILING DATA (" ++ toString extra ++ " bytes)"

end Rejection

inductive Line where
  | encoded (size : Nat) (stuffed : Bool)
  | decoded (width capacity consumed : Nat)
  | rejected (cause : Rejection)
  deriving DecidableEq, Repr

def Line.text : Line → String
  | .encoded size stuffed =>
    "encode_integer: " ++ toString size ++ " bytes (stuffed: " ++ toString stuffed ++ ")"
  | .decoded width capacity consumed =>
    "decode_integer: " ++ toString width ++ " bytes into " ++ toString capacity
      ++ " (consumed " ++ toString consumed ++ ")"
  | .rejected cause => cause.text

-- An answer with the lines that led to it.
structure Traced (α : Type) where
  answer : Except Fault α
  trace : List Line

-- An answer with the destination as the call leaves it, written or not.
structure Outcome (δ α : Type) extends Traced α where
  dest : δ

namespace Traced

def done (value : α) (trace : List Line) : Traced α := ⟨.ok value, trace⟩
def refused (cause : Rejection) : Traced α := ⟨.error cause.fault, [.rejected cause]⟩

-- Some constructors refuse without a line.
def silent (answer : Except Fault α) : Traced α := ⟨answer, []⟩

def map (f : α → β) (traced : Traced α) : Traced β := ⟨traced.answer.map f, traced.trace⟩

end Traced

namespace Outcome

def refused (cause : Rejection) (dest : δ) : Outcome δ α := ⟨.refused cause, dest⟩

def map (f : α → β) (outcome : Outcome δ α) : Outcome δ β := ⟨outcome.toTraced.map f, outcome.dest⟩

-- The fault is attributed; the trace still shows the bare rejection.
def within (component : Component) (outcome : Outcome δ α) : Outcome δ α :=
  ⟨⟨outcome.answer.mapError (.within component), outcome.trace⟩, outcome.dest⟩

@[simp]
theorem within_done (result : α) (trace : List Line) (dest : δ) (component : Component) :
    within component ⟨.done result trace, dest⟩ = ⟨.done result trace, dest⟩ := rfl

@[simp]
theorem within_dest (outcome : Outcome δ α) (component : Component) :
    (outcome.within component).dest = outcome.dest := rfl

theorem within_error {outcome : Outcome δ α} (refused : outcome.answer = .error fault)
    (component : Component) :
    (outcome.within component).answer = .error (.within component fault) := by
  unfold within
  rw [refused]
  rfl

theorem within_ok {outcome : Outcome δ α} (accepted : outcome.answer = .ok result)
    (component : Component) : (outcome.within component).answer = .ok result := by
  unfold within
  rw [accepted]
  rfl

end Outcome
end DerPair
