import DerPair.Integer.Decoding

namespace DerPair.Pair

structure Decoded where
  consumed : Nat
  rWidth : Nat
  sWidth : Nat
  deriving DecidableEq, Repr

-- r is stored before s is looked at, so a fault of s leaves r in its destination.
def decodeSeparate (der rDest sDest : Octets) : Outcome (Octets × Octets) Decoded :=
  let first := (Integer.decode der rDest).within .r
  match first.answer with
  | .error fault => ⟨⟨.error fault, first.trace⟩, (first.dest, sDest)⟩
  | .ok r =>
    let second := (Integer.decode (der.drop r.consumed) sDest).within .s
    ⟨⟨second.answer.map fun s => ⟨r.consumed + s.consumed, r.width, s.width⟩,
        first.trace ++ second.trace⟩,
      (first.dest, second.dest)⟩

-- The destination holds r and s side by side, one half each.
def decodeFixed (der dest : Octets) : Outcome Octets Decoded :=
  if dest.length % 2 ≠ 0 then .refused (.oddDestination dest.length) dest
  else
    let half := dest.length / 2
    let outcome := decodeSeparate der (dest.take half) (dest.drop half)
    ⟨outcome.toTraced, outcome.dest.1 ++ outcome.dest.2⟩

theorem decodeSeparate_dest_length (der rDest sDest : Octets) :
    (decodeSeparate der rDest sDest).dest.1.length = rDest.length ∧
      (decodeSeparate der rDest sDest).dest.2.length = sDest.length := by
  unfold decodeSeparate
  dsimp only
  split
  · exact ⟨Integer.decode_dest_length _ _, rfl⟩
  · exact ⟨Integer.decode_dest_length _ _, Integer.decode_dest_length _ _⟩

theorem decodeFixed_dest_length (der dest : Octets) :
    (decodeFixed der dest).dest.length = dest.length := by
  unfold decodeFixed
  split
  · rfl
  · obtain ⟨left, right⟩ := decodeSeparate_dest_length der
      (dest.take (dest.length / 2)) (dest.drop (dest.length / 2))
    simp only [List.length_append, left, right, List.length_take, List.length_drop]
    omega

end DerPair.Pair
