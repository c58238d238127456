import DerPair.Integer.Encoding

namespace DerPair.Pair
open Octets

-- Both components are planned before the first octet is written, so a refusal
-- leaves the destination alone. s is planned for what r leaves over.
def encode (r s dest : Octets) : Outcome Octets Nat :=
  if r.length ≠ s.length then .refused (.unequalWidths r.length s.length) dest
  else match Integer.plan r dest.length with
    | .error cause => (Outcome.refused cause dest).within .r
    | .ok first => match Integer.plan s (dest.length - first.size) with
      | .error cause => (Outcome.refused cause dest).within .s
      | .ok second =>
        ⟨.done (first.size + second.size) [first.line, second.line],
          overwrite dest (first.octets ++ second.octets)⟩

-- Tag, length octet and stuffing on top of each component.
def largestSize (width : Nat) : Nat := 2 * (3 + width)

theorem encode_dest_length (r s dest : Octets) : (encode r s dest).dest.length = dest.length := by
  unfold encode
  split
  · rfl
  · split
    · rfl
    · rename_i first planned
      split
      · rfl
      · rename_i second remaining
        have left := Integer.plan_fits planned
        have right := Integer.plan_fits remaining
        apply overwrite_length
        simp only [List.length_append, Integer.Planned.octets_length]
        omega

-- The encoder without a plan: r is written before s is looked at. It agrees with
-- the planning encoder except for the destination it leaves behind when s fails.
def encodeStepwise (r s dest : Octets) : Outcome Octets Nat :=
  let first := (Integer.encode r dest).within .r
  match first.answer with
  | .error fault => ⟨⟨.error fault, first.trace⟩, first.dest⟩
  | .ok size =>
    let second := (Integer.encode s (first.dest.drop size)).within .s
    ⟨⟨second.answer.map (size + ·), first.trace ++ second.trace⟩,
      first.dest.take size ++ second.dest⟩

def shortfall : Except Fault Nat → Option Nat
  | .error (.within _ (.capacityExceeded required capacity)) => some (required - capacity)
  | _ => none

-- A caller that enlarges its buffer by the reported shortfall and tries again.
-- What the new room holds is left open. The count is the number of enlargements.
inductive Grows (r s : Octets) : Octets → Nat → Outcome Octets Nat → Prop where
  | settled : shortfall (encode r s dest).answer = none → Grows r s dest 0 (encode r s dest)
  | enlarged : shortfall (encode r s dest).answer = some room.length →
      Grows r s (dest ++ room) count outcome → Grows r s dest (count + 1) outcome

-- The buffers that such a caller comes to hold, settled or not.
inductive Enlarges (r s : Octets) : Octets → Nat → Octets → Prop where
  | start : Enlarges r s dest 0 dest
  | enlarged : shortfall (encode r s dest).answer = some room.length →
      Enlarges r s (dest ++ room) count reached → Enlarges r s dest (count + 1) reached

end DerPair.Pair
