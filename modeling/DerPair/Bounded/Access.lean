import DerPair.Octets

namespace DerPair.Bounded
open Octets

-- Accesses and word arithmetic that have no answer outside their bounds. A codec
-- written with them and never left without an answer stays inside its buffers.
def index (bytes : Octets) (position : Nat) : Option UInt8 := bytes[position]?

def range (bytes : Octets) (start stop : Nat) : Option Octets :=
  if start ≤ stop ∧ stop ≤ bytes.length then some ((bytes.take stop).drop start) else none

def split (bytes : Octets) (position : Nat) : Option (Octets × Octets) :=
  if position ≤ bytes.length then some (bytes.take position, bytes.drop position) else none

def set (dest : Octets) (position : Nat) (octet : UInt8) : Option Octets :=
  if position < dest.length then some (List.set dest position octet) else none

-- The source fills the range exactly.
def copyInto (dest : Octets) (start stop : Nat) (source : Octets) : Option Octets :=
  if start ≤ stop ∧ stop ≤ dest.length ∧ source.length = stop - start then
    some (splice dest start source)
  else none

def wordLimit : Nat := UInt64.size

def add (left right : Nat) : Option Nat :=
  if left + right < wordLimit then some (left + right) else none

def sub (left right : Nat) : Option Nat :=
  if right ≤ left then some (left - right) else none

def mul (left right : Nat) : Option Nat :=
  if left * right < wordLimit then some (left * right) else none

theorem range_inside (ordered : start ≤ stop) (inside : stop ≤ bytes.length) :
    range bytes start stop = some ((bytes.take stop).drop start) :=
  if_pos ⟨ordered, inside⟩

theorem range_past_end (beyond : bytes.length < stop) : range bytes start stop = none :=
  if_neg fun inside => Nat.not_le_of_lt beyond inside.2

theorem range_to_end (inside : start ≤ bytes.length) :
    range bytes start bytes.length = some (bytes.drop start) := by
  rw [range_inside inside (Nat.le_refl _), List.take_length]

theorem split_inside (inside : position ≤ bytes.length) :
    split bytes position = some (bytes.take position, bytes.drop position) :=
  if_pos inside

theorem set_inside (inside : position < dest.length) (octet : UInt8) :
    set dest position octet = some (List.set dest position octet) :=
  if_pos inside

theorem set_zero (head octet : UInt8) (rest : Octets) :
    set (head :: rest) 0 octet = some (octet :: rest) :=
  set_inside (Nat.succ_pos _) octet

theorem set_one (head second octet : UInt8) (rest : Octets) :
    set (head :: second :: rest) 1 octet = some (head :: octet :: rest) :=
  set_inside (Nat.succ_lt_succ (Nat.succ_pos _)) octet

theorem set_two (head second third octet : UInt8) (rest : Octets) :
    set (head :: second :: third :: rest) 2 octet = some (head :: second :: octet :: rest) :=
  set_inside (Nat.succ_lt_succ (Nat.succ_lt_succ (Nat.succ_pos _))) octet

theorem copyInto_inside (ordered : start ≤ stop) (inside : stop ≤ dest.length)
    (exact : source.length = stop - start) :
    copyInto dest start stop source = some (splice dest start source) :=
  if_pos ⟨ordered, inside, exact⟩

theorem add_small (small : left + right < wordLimit) : add left right = some (left + right) :=
  if_pos small

theorem sub_le (ordered : right ≤ left) : sub left right = some (left - right) :=
  if_pos ordered

theorem mul_small (small : left * right < wordLimit) : mul left right = some (left * right) :=
  if_pos small

end DerPair.Bounded
