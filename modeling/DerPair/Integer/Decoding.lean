import DerPair.Trace

namespace DerPair.Integer
open Octets

-- What one INTEGER says before anyone asks where it goes.
structure Parsed where
  magnitude : Octets
  consumed : Nat
  deriving DecidableEq, Repr

structure Decoded where
  consumed : Nat
  width : Nat
  deriving DecidableEq, Repr

-- A lone zero octet is the value zero, not stuffing. A first octet with its top
-- bit set is accepted and read as part of an unsigned value.
def unstuffed : Octets → Except Rejection Octets
  | first :: second :: rest =>
    if first = 0 then
      if second = 0 then .error .redundantZero else .ok (second :: rest)
    else .ok (first :: second :: rest)
  | content => .ok content

-- Octets behind the announced content are not looked at.
def parse (der : Octets) : Except Rejection Parsed :=
  match der with
  | tag :: octet :: first :: rest =>
    if Tag.mk tag ≠ .integer then .error (.wrongTag ⟨tag⟩)
    else match ShortLength.read octet with
      | .error cause => .error (.longFormInput cause)
      | .ok length =>
        if length.toNat = 0 then .error .noContent
        else
          let content := (first :: rest).take length.toNat
          if content.length < length.toNat then
            .error (.contentPastEnd (2 + length.toNat) der.length)
          else (unstuffed content).map fun magnitude => ⟨magnitude, 2 + length.toNat⟩
  | _ => .error (.inputTooShort der.length)

def Parsed.decoded (parsed : Parsed) : Decoded := ⟨parsed.consumed, parsed.magnitude.length⟩

-- Right-aligned; everything in front becomes zero.
def Parsed.store (parsed : Parsed) (dest : Octets) : Outcome Octets Decoded :=
  if dest.length < parsed.magnitude.length then
    .refused (.valueTooWide parsed.magnitude.length dest.length) dest
  else
    ⟨.done parsed.decoded [.decoded parsed.magnitude.length dest.length parsed.consumed],
      padded dest.length parsed.magnitude⟩

-- The destination is consulted only after the input has been read in full.
def decode (der dest : Octets) : Outcome Octets Decoded :=
  match parse der with
  | .error cause => .refused cause dest
  | .ok parsed => parsed.store dest

theorem parse_consumed (accepted : parse der = .ok parsed) :
    3 ≤ parsed.consumed ∧ parsed.consumed ≤ der.length := by
  unfold parse at accepted
  split at accepted
  · rename_i tag octet first rest
    split at accepted
    · cases accepted
    · split at accepted
      · cases accepted
      · rename_i length _
        split at accepted
        · cases accepted
        · rename_i nonzero
          dsimp only at accepted
          split at accepted
          · cases accepted
          · rename_i present
            simp only [List.length_take] at present
            cases stripped : unstuffed ((first :: rest).take length.toNat) with
            | error cause => rw [stripped] at accepted; cases accepted
            | ok magnitude =>
              rw [stripped] at accepted
              cases accepted
              simp only [List.length_cons] at present ⊢
              omega
  · cases accepted

theorem decode_consumed (accepted : (decode der dest).answer = .ok decoded) :
    3 ≤ decoded.consumed ∧ decoded.consumed ≤ der.length := by
  unfold decode at accepted
  cases read : parse der with
  | error cause => rw [read] at accepted; cases accepted
  | ok parsed =>
    rw [read] at accepted
    simp only [Parsed.store] at accepted
    split at accepted
    · cases accepted
    · cases accepted
      exact parse_consumed read

theorem decode_dest_length (der dest : Octets) : (decode der dest).dest.length = dest.length := by
  unfold decode
  split
  · rfl
  · unfold Parsed.store
    split
    · rfl
    · exact padded_length (Nat.le_of_not_lt ‹_›)

end DerPair.Integer
