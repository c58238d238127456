import DerPair.Trace

namespace DerPair.Integer
open Octets

-- A set top bit would read as a sign; one zero octet in front keeps the value
-- non-negative.
def needsStuffing (data : Octets) : Bool := leadsWithTopBit (magnitude data)

def content (data : Octets) : Octets :=
  if needsStuffing data then 0 :: magnitude data else magnitude data

-- An integer that passed every check and only remains to be written.
structure Planned where
  content : Octets
  length : ShortLength
  stuffed : Bool
  announced : length.toNat = content.length

namespace Planned

def octets (planned : Planned) : Octets :=
  Tag.integer.octet :: planned.length.octet :: planned.content

def size (planned : Planned) : Nat := 2 + planned.length.toNat

def line (planned : Planned) : Line := .encoded planned.size planned.stuffed

theorem octets_length (planned : Planned) : planned.octets.length = planned.size := by
  simp only [octets, size, planned.announced, List.length_cons]
  omega

end Planned

-- Room is asked for before the short form is: a long content in a small buffer
-- is reported as a capacity fault.
def plan (data : Octets) (capacity : Nat) : Except Rejection Planned :=
  if data.isEmpty then .error .nothingToEncode
  else
    let octets := content data
    if capacity < 2 + octets.length then .error (.encodingTooWide (2 + octets.length) capacity)
    else match read : ShortLength.ofNat octets.length with
      | .error cause => .error (.encodingTooLong cause)
      | .ok length => .ok ⟨octets, length, needsStuffing data, ShortLength.ofNat_toNat read⟩

-- The answer is the number of octets written at the start of the destination.
def encode (data dest : Octets) : Outcome Octets Nat :=
  match plan data dest.length with
  | .error cause => .refused cause dest
  | .ok planned => ⟨.done planned.size [planned.line], overwrite dest planned.octets⟩

-- What `encode` would write into a large enough destination. The length limit is
-- reported without a line.
def encodedSize (data : Octets) : Traced Nat :=
  if data.isEmpty then .refused .nothingToEncode
  else match ShortLength.ofNat (content data).length with
    | .error cause => .silent (.error (.ofLength cause))
    | .ok length => .silent (.ok (2 + length.toNat))

theorem plan_fits (planned : plan data capacity = .ok result) : result.size ≤ capacity := by
  unfold plan at planned
  split at planned
  · cases planned
  · dsimp only at planned
    split at planned
    · cases planned
    · rename_i room
      split at planned
      · cases planned
      · cases planned
        simp only [Planned.size, ShortLength.ofNat_toNat ‹_›]
        omega

theorem encode_dest_length (data dest : Octets) : (encode data dest).dest.length = dest.length := by
  unfold encode
  split
  · rfl
  · rename_i planned accepted
    have fits : planned.octets.length ≤ dest.length := by
      rw [planned.octets_length]; exact plan_fits accepted
    exact overwrite_length fits

end DerPair.Integer
