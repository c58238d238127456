import DerPair.Fault
import DerPair.Pair.Encoding
import DerPair.Pair.Decoding

namespace DerPair.Boundary
open Octets

-- The size arguments that are checked. A size that comes by value is reported under the
-- name of its argument, and one read from a cell as the capacity it stands for.
inductive SizeArgument where
  | pairSize
  | inputSize
  | capacity
  | rCapacity
  | sCapacity
  deriving DecidableEq, Repr

def SizeArgument.name : SizeArgument → String
  | .pairSize => "rs_len"
  | .inputSize => "asn1_len"
  | .capacity => "capacity"
  | .rCapacity => "r_capacity"
  | .sCapacity => "s_capacity"

inductive CallFault where
  | nullPointer
  | invalidSize (argument : SizeArgument)
  | codec (fault : Fault)
  deriving DecidableEq, Repr

-- For a null pointer the text follows the documented one of ffi_helpers.
def CallFault.message : CallFault → String
  | .nullPointer => "A null pointer was passed in where it wasn't expected"
  | .invalidSize argument => "invalid size parameter " ++ argument.name
  | .codec fault => fault.message

-- No buffer spans more bytes than a signed 64-bit size can count.
def largestBuffer : Nat := UInt64.size / 2 - 1

-- The memory behind a pointer argument; `none` is a null pointer.
abbrev Pointer := Option Octets

-- A length cell is read on entry as a capacity and set on success.
abbrev Cell := Option Nat

def Cell.read (cell : Cell) : Except CallFault Nat :=
  match cell with
  | none => .error .nullPointer
  | some value => .ok value

-- The part of the memory a call may touch. Null comes before size.
def Pointer.window (pointer : Pointer) (argument : SizeArgument) (size : Nat) :
    Except CallFault Octets :=
  match pointer with
  | none => .error .nullPointer
  | some memory =>
    if largestBuffer < size then .error (.invalidSize argument) else .ok (memory.take size)

-- Memory behind the window stays as it is.
def Pointer.store (pointer : Pointer) (window : Octets) : Pointer :=
  pointer.map fun memory => overwrite memory window

-- What a caller sees after a call: the failure if there was one, and the
-- arguments as the call leaves them.
structure Finished (κ : Type) where
  failure : Option CallFault
  after : κ
  trace : List Line

def Finished.rejected (fault : CallFault) (call : κ) : Finished κ := ⟨some fault, call, []⟩

structure EncodePair where
  r : Pointer
  s : Pointer
  size : Nat
  dest : Pointer
  cell : Cell
  deriving DecidableEq, Repr

-- The order of the checks is the order in which faults win.
def EncodePair.windows (call : EncodePair) : Except CallFault (Octets × Octets × Octets) := do
  let capacity ← call.cell.read
  let r ← call.r.window .pairSize call.size
  let s ← call.s.window .pairSize call.size
  let dest ← call.dest.window .capacity capacity
  return (r, s, dest)

def EncodePair.run (call : EncodePair) : Finished EncodePair :=
  match call.windows with
  | .error fault => .rejected fault call
  | .ok (r, s, dest) =>
    let outcome := Pair.encode r s dest
    let stored := { call with dest := call.dest.store outcome.dest }
    match outcome.answer with
    | .error fault => ⟨some (.codec fault), stored, outcome.trace⟩
    | .ok written => ⟨none, { stored with cell := some written }, outcome.trace⟩

structure DecodeSeparate where
  der : Pointer
  size : Nat
  r : Pointer
  rCell : Cell
  s : Pointer
  sCell : Cell
  deriving DecidableEq, Repr

def DecodeSeparate.windows (call : DecodeSeparate) :
    Except CallFault (Octets × Octets × Octets) := do
  let rCapacity ← call.rCell.read
  let sCapacity ← call.sCell.read
  let der ← call.der.window .inputSize call.size
  let r ← call.r.window .rCapacity rCapacity
  let s ← call.s.window .sCapacity sCapacity
  return (der, r, s)

-- Both cells are set together or not at all, even when r has been stored already.
def DecodeSeparate.run (call : DecodeSeparate) : Finished DecodeSeparate :=
  match call.windows with
  | .error fault => .rejected fault call
  | .ok (der, r, s) =>
    let outcome := Pair.decodeSeparate der r s
    let stored :=
      { call with r := call.r.store outcome.dest.1, s := call.s.store outcome.dest.2 }
    match outcome.answer with
    | .error fault => ⟨some (.codec fault), stored, outcome.trace⟩
    | .ok decoded =>
      ⟨none, { stored with rCell := some decoded.rWidth, sCell := some decoded.sWidth },
        outcome.trace⟩

structure DecodeFixed where
  der : Pointer
  size : Nat
  rs : Pointer
  rsSize : Nat
  deriving DecidableEq, Repr

def DecodeFixed.windows (call : DecodeFixed) : Except CallFault (Octets × Octets) := do
  let der ← call.der.window .inputSize call.size
  let rs ← call.rs.window .pairSize call.rsSize
  return (der, rs)

def DecodeFixed.run (call : DecodeFixed) : Finished DecodeFixed :=
  match call.windows with
  | .error fault => .rejected fault call
  | .ok (der, rs) =>
    let outcome := Pair.decodeFixed der rs
    let stored := { call with rs := call.rs.store outcome.dest }
    match outcome.answer with
    | .error fault => ⟨some (.codec fault), stored, outcome.trace⟩
    | .ok _ => ⟨none, stored, outcome.trace⟩

-- One condition that an argument has to meet before the codec is called.
inductive Check where
  | cell (cell : Cell)
  | pointer (pointer : Pointer)
  | size (argument : SizeArgument) (size : Nat)
  deriving DecidableEq, Repr

def Check.failure : Check → Option CallFault
  | .cell held => if held.isSome then none else some .nullPointer
  | .pointer memory => if memory.isSome then none else some .nullPointer
  | .size argument count => if count ≤ largestBuffer then none else some (.invalidSize argument)

def firstFailure (checks : List Check) : Option CallFault := checks.findSome? Check.failure

-- Cells come first, then each pointer with its size. r and s share one size, so
-- it is checked for each of them.
def EncodePair.checks (call : EncodePair) : List Check :=
  [.cell call.cell,
   .pointer call.r, .size .pairSize call.size,
   .pointer call.s, .size .pairSize call.size,
   .pointer call.dest, .size .capacity (call.cell.getD 0)]

def DecodeSeparate.checks (call : DecodeSeparate) : List Check :=
  [.cell call.rCell, .cell call.sCell,
   .pointer call.der, .size .inputSize call.size,
   .pointer call.r, .size .rCapacity (call.rCell.getD 0),
   .pointer call.s, .size .sCapacity (call.sCell.getD 0)]

def DecodeFixed.checks (call : DecodeFixed) : List Check :=
  [.pointer call.der, .size .inputSize call.size,
   .pointer call.rs, .size .pairSize call.rsSize]

end DerPair.Boundary
