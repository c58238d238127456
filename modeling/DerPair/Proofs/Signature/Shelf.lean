import DerPair.Signature.Shelf
import DerPair.Proofs.Signature.Malleability

namespace DerPair.Signature

variable {signature : Signature}

theorem ofComponents_paired {r s : Octets} (accepted : (ofComponents r s).answer = .ok signature) :
    signature.Paired := by
  unfold ofComponents at accepted
  split at accepted
  · cases accepted
  · rename_i sound
    cases Except.ok.inj accepted
    simpa [Paired] using sound

theorem ofFixed_paired (accepted : (ofFixed rs).answer = .ok signature) : signature.Paired := by
  unfold ofFixed at accepted
  split at accepted
  · cases accepted
  · rename_i sound
    cases Except.ok.inj accepted
    have shaped : rs ≠ [] ∧ rs.length % 2 = 0 := by simpa using sound
    have filled := List.length_pos_iff.mpr shaped.1
    refine ⟨List.ne_nil_of_length_pos ?_, ?_⟩
    · simp only [List.length_take]
      omega
    · simp only [List.length_take, List.length_drop]
      omega

theorem OnCurve.paired (sized : OnCurve signature curve) : signature.Paired :=
  ⟨sized.rGiven, sized.r.trans sized.s.symm⟩

theorem ofDer_paired (accepted : (ofDer curve der).answer = .ok signature) : signature.Paired :=
  (ofDer_onCurve accepted).paired

theorem recode_paired (accepted : (recode curve source).answer = .ok signature) :
    signature.Paired := by
  unfold recode at accepted
  dsimp only at accepted
  split at accepted
  · cases accepted
  · exact ofDer_paired accepted

end DerPair.Signature

namespace DerPair.Shelf
open Octets Signature

variable {shelf : Shelf}

def Sound (shelf : Shelf) : Prop :=
  ∀ slot signature, shelf.get? slot = some signature → signature.Paired

theorem empty_sound : Sound .empty := by
  intro slot signature held
  cases held

theorem keep_sound (sound : shelf.Sound) (slot : String)
    (paired : ∀ signature, result.answer = .ok signature → signature.Paired) :
    (shelf.keep slot result).1.Sound := by
  unfold keep
  split
  · rename_i made accepted
    intro other signature held
    rw [Named.get?_put] at held
    split at held
    · cases held
      exact paired made accepted
    · exact sound other signature held
  · exact sound

theorem withSlot_sound (sound : shelf.Sound) (slot : String)
    (used : ∀ signature, signature.Paired → (use signature).1.Sound) :
    (shelf.withSlot slot use).1.Sound := by
  unfold withSlot
  split
  · exact sound
  · rename_i signature held
    exact used signature (sound slot signature held)

theorem step_sound (sound : shelf.Sound) (action : Action) : (shelf.step action).1.Sound := by
  cases action with
  | pair slot r s => exact keep_sound sound slot fun _ => ofComponents_paired
  | split slot rs => exact keep_sound sound slot fun _ => ofFixed_paired
  | decode slot curve der => exact keep_sound sound slot fun _ => ofDer_paired
  | copy slot source =>
    refine withSlot_sound sound source fun held paired => keep_sound sound slot ?_
    intro signature same
    cases same
    exact paired
  | recode slot source curve =>
    exact withSlot_sound sound source fun held _ => keep_sound sound slot fun _ => recode_paired
  | inspect slot => exact withSlot_sound sound slot fun _ _ => sound
  | fixed slot => exact withSlot_sound sound slot fun _ _ => sound
  | encode slot => exact withSlot_sound sound slot fun _ _ => sound
  | compare left right =>
    exact withSlot_sound sound left fun _ _ => withSlot_sound sound right fun _ _ => sound

theorem run_sound (sound : shelf.Sound) (actions : List Action) : (shelf.run actions).1.Sound := by
  induction actions generalizing shelf with
  | nil => exact sound
  | cons action rest ih => exact ih (step_sound sound action)

-- Whatever was asked for on the way, refused or not, a held signature is one that
-- can be written unless a number is too large for the short form of a length. r is
-- measured first. The sizes stay below what a 64-bit word counts.
theorem run_held_exact (actions : List Action)
    (held : (Shelf.run .empty actions).1.get? slot = some signature) :
    signature.Paired ∧
    (signature.width ≤ 2 ^ 63 - 4 →
      Pair.largestSize signature.width < UInt64.size ∧
      (∀ fault, signature.toDer.answer = .error fault ↔
        (2 ^ 1015 ≤ value signature.r ∧
          fault = .within .r (.longFormLength (bitLength (value signature.r) / 8 + 1))) ∨
        (value signature.r < 2 ^ 1015 ∧ 2 ^ 1015 ≤ value signature.s ∧
          fault = .within .s (.longFormLength (bitLength (value signature.s) / 8 + 1)))) ∧
      ∀ fault, signature.toDer.answer = .error fault →
        fault.kind ≠ .invalidArgument ∧ fault.kind ≠ .capacityExceeded) ∧
    ∀ curve der, (Signature.ofDer curve der).answer = .ok signature →
      ∃ written, signature.toDer.answer = .ok written := by
  have paired := run_sound empty_sound actions slot signature held
  refine ⟨paired, fun bounded => ⟨?_, fun fault => toDer_error_iff paired, ?_⟩, ?_⟩
  · simp only [Pair.largestSize, UInt64.size]
    omega
  · intro fault failed
    rcases (toDer_error_iff paired).mp failed with ⟨_, same⟩ | ⟨_, _, same⟩
    · rw [same]
      simp [Fault.kind]
    · rw [same]
      simp [Fault.kind]
  · intro curve der accepted
    exact ⟨_, (ofDer_onCurve accepted).toDer_ok⟩

theorem run_held_exact_long :
    let long := Signature.mk (0x80 :: List.replicate 126 0) (List.replicate 127 0)
    let actions : List Action :=
      [.pair "a" [] [], .pair "a" long.r long.s, .copy "b" "a", .recode "a" "b" .nistP256]
    (Shelf.run .empty actions).1.get? "a" = some long ∧ long.width ≤ 2 ^ 63 - 4 ∧
      2 ^ 1015 ≤ value long.r ∧
      long.toDer.answer = .error (.within .r (.longFormLength 128)) := by
  intro long actions
  have held : (Shelf.run .empty actions).1.get? "a" = some long := by decide +kernel
  have narrow : long.width ≤ 2 ^ 63 - 4 := by decide +kernel
  have large : 2 ^ 1015 ≤ value long.r := by decide +kernel
  have size : bitLength (value long.r) / 8 + 1 = 128 := by decide +kernel
  obtain ⟨_, bounded, _⟩ := run_held_exact actions held
  obtain ⟨_, exact, _⟩ := bounded narrow
  refine ⟨held, narrow, large, ?_⟩
  rw [← size]
  exact (exact _).mpr (.inl ⟨large, rfl⟩)

end DerPair.Shelf
