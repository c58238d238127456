import DerPair.Named
import DerPair.Integer.Encoding
import DerPair.Pair.Encoding
import DerPair.Pair.Decoding

namespace DerPair

-- Byte buffers under names. Codec calls read and write parts of them.
abbrev Arena := Named Octets

-- A part of a buffer as asked for. Without a length it runs to the end of the buffer.
structure Span where
  buffer : String
  offset : Nat
  length : Option Nat

-- A part of a buffer that has been found to lie inside it.
structure Region where
  buffer : String
  offset : Nat
  length : Nat
  deriving DecidableEq, Repr

namespace Region

def Covers (region : Region) (buffer : String) (position : Nat) : Prop :=
  buffer = region.buffer ∧ region.offset ≤ position ∧ position < region.offset + region.length

-- Judged octet by octet: an empty region shares nothing with any other.
def Disjoint (left right : Region) : Prop :=
  ∀ buffer position, left.Covers buffer position → ¬ right.Covers buffer position

end Region

inductive Misplaced where
  | noSuchBuffer (buffer : String)
  | outOfRange (buffer : String)
  deriving DecidableEq, Repr

-- The codec calls that work on parts of buffers; `ρ` says how a part is given.
inductive Job (ρ : Type) where
  | encodeInteger (data dest : ρ)
  | decodeInteger (der dest : ρ)
  | encodePair (r s dest : ρ)
  | decodePair (der dest : ρ)

inductive Done where
  | encoded (size : Nat)
  | decoded (integer : Integer.Decoded)
  | decodedPair (pair : Pair.Decoded)
  deriving DecidableEq, Repr

namespace Job

def dest : Job ρ → ρ
  | .encodeInteger _ dest | .decodeInteger _ dest | .encodePair _ _ dest | .decodePair _ dest => dest

def inputs : Job ρ → List ρ
  | .encodeInteger data _ => [data]
  | .decodeInteger der _ => [der]
  | .encodePair r s _ => [r, s]
  | .decodePair der _ => [der]

def run : Job Octets → Outcome Octets Done
  | .encodeInteger data dest => (Integer.encode data dest).map .encoded
  | .decodeInteger der dest => (Integer.decode der dest).map .decoded
  | .encodePair r s dest => (Pair.encode r s dest).map .encoded
  | .decodePair der dest => (Pair.decodeFixed der dest).map .decodedPair

def map (f : ρ → σ) : Job ρ → Job σ
  | .encodeInteger data dest => .encodeInteger (f data) (f dest)
  | .decodeInteger der dest => .decodeInteger (f der) (f dest)
  | .encodePair r s dest => .encodePair (f r) (f s) (f dest)
  | .decodePair der dest => .decodePair (f der) (f dest)

end Job

namespace Arena

def locate (arena : Arena) (span : Span) : Except Misplaced Region :=
  match arena.get? span.buffer with
  | none => .error (.noSuchBuffer span.buffer)
  | some contents =>
    let length := span.length.getD (contents.length - span.offset)
    if contents.length < span.offset + length then .error (.outOfRange span.buffer)
    else .ok ⟨span.buffer, span.offset, length⟩

-- The destination is located first, then the inputs in their order.
def locateJob (arena : Arena) : Job Span → Except Misplaced (Job Region)
  | .encodeInteger data dest => do
    let dest ← arena.locate dest
    return .encodeInteger (← arena.locate data) dest
  | .decodeInteger der dest => do
    let dest ← arena.locate dest
    return .decodeInteger (← arena.locate der) dest
  | .encodePair r s dest => do
    let dest ← arena.locate dest
    return .encodePair (← arena.locate r) (← arena.locate s) dest
  | .decodePair der dest => do
    let dest ← arena.locate dest
    return .decodePair (← arena.locate der) dest

def Holds (arena : Arena) (region : Region) : Prop :=
  ∃ contents, arena.get? region.buffer = some contents ∧
    region.offset + region.length ≤ contents.length

def contents (arena : Arena) (buffer : String) : Octets := (arena.get? buffer).getD []

def read (arena : Arena) (region : Region) : Octets :=
  ((arena.contents region.buffer).drop region.offset).take region.length

def write (arena : Arena) (region : Region) (bytes : Octets) : Arena :=
  arena.put region.buffer (Octets.splice (arena.contents region.buffer) region.offset bytes)

-- Every input is read before the destination is written.
def perform (arena : Arena) (job : Job Region) : Arena × Traced Done :=
  let outcome := (job.map arena.read).run
  (arena.write job.dest outcome.dest, outcome.toTraced)

inductive Action where
  | allocate (buffer : String) (size : Nat) (fill : UInt8)
  | poke (dest : Span) (data : Octets)
  | call (job : Job Span)

inductive Reply where
  | misplaced (cause : Misplaced)
  | stored
  | finished (result : Traced Done)

def Action.buffer : Action → String
  | .allocate buffer _ _ => buffer
  | .poke dest _ => dest.buffer
  | .call job => job.dest.buffer

def Reply.trace : Reply → List Line
  | .finished result => result.trace
  | _ => []

def poke (arena : Arena) (dest : Span) (data : Octets) : Except Misplaced Arena := do
  let region ← arena.locate dest
  if region.length < data.length then .error (.outOfRange region.buffer)
  else return arena.write region data

def step (arena : Arena) : Action → Arena × Reply
  | .allocate buffer size fill => (arena.put buffer (List.replicate size fill), .stored)
  | .poke dest data =>
    match arena.poke dest data with
    | .error cause => (arena, .misplaced cause)
    | .ok next => (next, .stored)
  | .call job =>
    match arena.locateJob job with
    | .error cause => (arena, .misplaced cause)
    | .ok located =>
      let (next, result) := arena.perform located
      (next, .finished result)

-- Each reply comes with the arena that its action has left.
def run (arena : Arena) : List Action → Arena × List (Arena × Reply)
  | [] => (arena, [])
  | action :: rest =>
    let (next, reply) := arena.step action
    let (last, replies) := run next rest
    (last, (next, reply) :: replies)

end Arena
end DerPair
