import DerPair.Integer.Decoding

namespace DerPair.Integer

structure Visit where
  offset : Nat
  outcome : Outcome Octets Decoded

-- One INTEGER after another, each into its own copy of the fresh destination.
-- The first refusal ends the walk and is its last visit.
def walk (fresh : Octets) (offset : Nat) (der : Octets) : List Visit :=
  if der = [] then []
  else
    let outcome := decode der fresh
    match _read : outcome.answer with
    | .error _ => [⟨offset, outcome⟩]
    | .ok decoded =>
      ⟨offset, outcome⟩ :: walk fresh (offset + decoded.consumed) (der.drop decoded.consumed)
termination_by der.length
decreasing_by
  have taken := decode_consumed _read
  simp only [List.length_drop]
  omega

def visits (fresh der : Octets) : List Visit := walk fresh 0 der

theorem walk_nil (fresh : Octets) (offset : Nat) : walk fresh offset [] = [] := by
  rw [walk, if_pos rfl]

theorem walk_accepted (accepted : (decode der fresh).answer = .ok decoded) (offset : Nat) :
    walk fresh offset der =
      ⟨offset, decode der fresh⟩ ::
        walk fresh (offset + decoded.consumed) (der.drop decoded.consumed) := by
  have given : der ≠ [] := by
    have taken := decode_consumed accepted
    exact List.ne_nil_of_length_pos (by omega)
  rw [walk, if_neg given]
  dsimp only
  split
  · rename_i refused
    cases refused.symm.trans accepted
  · rename_i other read
    cases accepted.symm.trans read
    rfl

-- Accepted visits side by side from one offset to another, each as large as one INTEGER.
inductive Tiles : Nat → List Visit → Nat → Prop where
  | nil : Tiles offset [] offset
  | cons (accepted : outcome.answer = .ok decoded) (large : 3 ≤ decoded.consumed)
      (small : decoded.consumed ≤ 129) (next : Tiles (offset + decoded.consumed) rest stop) :
      Tiles offset (⟨offset, outcome⟩ :: rest) stop

-- What follows the accepted visits: nothing where the input ends, and before that the
-- refusal that ended the walk.
inductive Ends (stop limit : Nat) : List Visit → Prop where
  | whole (reached : stop = limit) : Ends stop limit []
  | refused (failed : outcome.answer = .error fault) (short : stop < limit) :
      Ends stop limit [⟨stop, outcome⟩]

def shortage : Except Fault Decoded → Option Nat
  | .error (.truncated needed _) => some needed
  | _ => none

-- A reader that holds the first octets of a source and asks for exactly as many
-- as the last truncation named. The count is how often it was sent back.
inductive Reads (source dest : Octets) : Nat → Nat → Outcome Octets Decoded → Prop where
  | settled : shortage (decode (source.take held) dest).answer = none →
      Reads source dest held 0 (decode (source.take held) dest)
  | fetched : shortage (decode (source.take held) dest).answer = some needed →
      needed ≤ source.length → Reads source dest needed rounds outcome →
      Reads source dest held (rounds + 1) outcome

end DerPair.Integer
