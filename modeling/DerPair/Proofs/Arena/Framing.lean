import DerPair.Proofs.Arena.Writing
import DerPair.Proofs.Integer.Shortest
import DerPair.Proofs.Pair.Atomicity
import DerPair.Proofs.Pair.Faults

namespace DerPair
open Octets

namespace Pair

theorem decodeFixed_refused_dest (refused : (decodeFixed der dest).answer = .error fault) :
    (decodeFixed der dest).dest = dest ∨
      ∃ cause, fault = .within .s cause ∧
        (decodeFixed der dest).dest.drop (dest.length / 2) = dest.drop (dest.length / 2) := by
  rcases Nat.mod_two_eq_zero_or_one dest.length with even | odd
  · rw [decodeFixed_even even] at refused ⊢
    rcases decodeSeparate_refused refused with
      ⟨cause, _, kept⟩ | ⟨cause, payload, rest, same, _, _, fits, kept⟩
    · left
      simp only [kept, List.take_append_drop]
    · right
      refine ⟨cause, same, ?_⟩
      simp only [kept]
      refine List.drop_left' ?_
      rw [padded_length fits, List.length_take]
      omega
  · rw [decodeFixed_odd odd]
    exact .inl rfl

end Pair

namespace Integer

theorem encode_beyond (accepted : (encode data dest).answer = .ok size) :
    (encode data dest).dest.drop size = dest.drop size := by
  obtain ⟨passed, same⟩ := encode_ok_iff.mp accepted
  rw [encode_accepted passed, same]
  exact Pair.drop_overwrite dest _

end Integer

namespace Outcome

theorem refused_of_map {outcome : Outcome δ α} {f : α → β}
    (refused : (outcome.map f).answer = .error fault) : outcome.answer = .error fault := by
  change outcome.answer.map f = _ at refused
  cases answer : outcome.answer with
  | error cause =>
    rw [answer] at refused
    cases refused
    rfl
  | ok value =>
    rw [answer] at refused
    cases refused

theorem done_of_map {outcome : Outcome δ α} {f : α → β}
    (answered : (outcome.map f).answer = .ok result) :
    ∃ value, outcome.answer = .ok value ∧ f value = result := by
  change outcome.answer.map f = _ at answered
  cases answer : outcome.answer with
  | error cause =>
    rw [answer] at answered
    cases answered
  | ok value =>
    rw [answer] at answered
    exact ⟨value, rfl, Except.ok.inj answered⟩

end Outcome

namespace Job

-- A pair is decoded, and its components are stored one after the other.
def DecodesPair : Job ρ → Prop
  | .decodePair _ _ => True
  | _ => False

theorem map_dest (job : Job ρ) (f : ρ → σ) : (job.map f).dest = f job.dest := by
  cases job <;> rfl

theorem map_decodesPair (job : Job ρ) (f : ρ → σ) : (job.map f).DecodesPair ↔ job.DecodesPair := by
  cases job <;> rfl

theorem run_dest_length (job : Job Octets) : job.run.dest.length = job.dest.length := by
  cases job with
  | encodeInteger data dest => exact Integer.encode_dest_length data dest
  | decodeInteger der dest => exact Integer.decode_dest_length der dest
  | encodePair r s dest => exact Pair.encode_dest_length r s dest
  | decodePair der dest => exact Pair.decodeFixed_dest_length der dest

theorem run_encoded {job : Job Octets} (answered : job.run.answer = .ok (.encoded size)) :
    size ≤ job.dest.length ∧ job.run.dest.drop size = job.dest.drop size := by
  cases job with
  | encodeInteger data dest =>
    obtain ⟨written, accepted, same⟩ := Outcome.done_of_map answered
    cases same
    obtain ⟨passed, counted⟩ := Integer.encode_ok_iff.mp accepted
    obtain ⟨_, fits, _⟩ := Integer.refusal_eq_none_iff.mp passed
    refine ⟨?_, Integer.encode_beyond accepted⟩
    rw [counted]
    exact fits
  | decodeInteger der dest =>
    obtain ⟨decoded, _, other⟩ := Outcome.done_of_map answered
    cases other
  | encodePair r s dest =>
    obtain ⟨written, accepted, same⟩ := Outcome.done_of_map answered
    cases same
    obtain ⟨encodable, counted⟩ := Pair.encode_ok_iff.mp accepted
    refine ⟨?_, Pair.encode_beyond accepted⟩
    rw [counted]
    exact encodable.room
  | decodePair der dest =>
    obtain ⟨decoded, _, other⟩ := Outcome.done_of_map answered
    cases other

theorem run_refused {job : Job Octets} (refused : job.run.answer = .error fault) :
    job.run.dest = job.dest ∨ job.DecodesPair ∧ ∃ cause, fault = .within .s cause ∧
      job.run.dest.drop (job.dest.length / 2) = job.dest.drop (job.dest.length / 2) := by
  cases job with
  | encodeInteger data dest => exact .inl (Integer.encode_unchanged (Outcome.refused_of_map refused))
  | decodeInteger der dest => exact .inl (Integer.decode_unchanged (Outcome.refused_of_map refused))
  | encodePair r s dest => exact .inl (Pair.encode_unchanged (Outcome.refused_of_map refused))
  | decodePair der dest =>
    rcases Pair.decodeFixed_refused_dest (Outcome.refused_of_map refused) with same | half
    · exact .inl same
    · exact .inr ⟨trivial, half⟩

end Job

namespace Arena

theorem located_holds {arena : Arena} (located : arena.locate span = .ok region) :
    arena.Holds region := by
  unfold locate at located
  split at located
  · cases located
  · rename_i contents found
    dsimp only at located
    split at located
    · cases located
    · rename_i inside
      cases located
      exact ⟨contents, found, Nat.le_of_not_lt inside⟩

theorem bind_ok {step : Except ε α} {next : α → Except ε β} (done : step.bind next = .ok result) :
    ∃ value, step = .ok value ∧ next value = .ok result := by
  cases step with
  | error cause => cases done
  | ok value => exact ⟨value, rfl, done⟩

theorem located_dest {arena : Arena} (located : arena.locateJob job = .ok placed) :
    arena.locate job.dest = .ok placed.dest := by
  cases job with
  | encodeInteger data dest | decodeInteger der dest | decodePair der dest =>
    obtain ⟨region, found, rest⟩ := bind_ok located
    obtain ⟨input, _, same⟩ := bind_ok rest
    cases same
    exact found
  | encodePair r s dest =>
    obtain ⟨region, found, rest⟩ := bind_ok located
    obtain ⟨first, _, rest⟩ := bind_ok rest
    obtain ⟨second, _, same⟩ := bind_ok rest
    cases same
    exact found

section Performing
variable {arena : Arena} {job : Job Region}

theorem perform_sized (held : arena.Holds job.dest) :
    (job.map arena.read).run.dest.length = job.dest.length := by
  rw [Job.run_dest_length, Job.map_dest, read_length held]

theorem perform_kept (held : arena.Holds job.dest)
    (same : (job.map arena.read).run.dest.drop count = (arena.read job.dest).drop count) :
    KeptOutside (job.dest.first count) arena (arena.perform job).1 :=
  write_kept held (perform_sized held) same

end Performing

-- A call answers and stores what the codec makes of the octets it read, and its answer
-- says which octets it leaves alone.
structure Framed (job : Job Region) (before after : Arena) (result : Traced Done) : Prop where
  answered : result = (job.map before.read).run.toTraced
  stored : after.read job.dest = (job.map before.read).run.dest
  beyond : KeptOutside job.dest before after
  encoded : ∀ size, result.answer = .ok (.encoded size) →
    size ≤ job.dest.length ∧ KeptOutside (job.dest.first size) before after
  refused : ∀ fault, result.answer = .error fault →
    (∀ buffer, after.get? buffer = before.get? buffer) ∨
      job.DecodesPair ∧ ∃ cause, fault = .within .s cause ∧
        KeptOutside (job.dest.first (job.dest.length / 2)) before after

theorem perform_framed {arena : Arena} (held : arena.Holds job.dest) :
    Framed job arena (arena.perform job).1 (arena.perform job).2 := by
  have sized := read_length held
  refine ⟨rfl, read_write held (perform_sized held), write_framed held (perform_sized held),
    fun size answered => ?_, fun fault refused => ?_⟩
  · obtain ⟨fits, same⟩ := Job.run_encoded answered
    rw [Job.map_dest] at fits same
    rw [sized] at fits
    exact ⟨fits, perform_kept held same⟩
  · rcases Job.run_refused refused with same | ⟨decodes, cause, within, half⟩
    · left
      rw [Job.map_dest] at same
      have kept : KeptOutside (job.dest.first 0) arena (arena.perform job).1 :=
        perform_kept held (by rw [same])
      exact kept.unchanged rfl
    · right
      rw [Job.map_dest, sized] at half
      exact ⟨(Job.map_decodesPair job _).mp decodes, cause, within, perform_kept held half⟩

theorem step_located {arena : Arena} (located : arena.locateJob job = .ok placed) :
    arena.step (.call job) = ((arena.perform placed).1, .finished (arena.perform placed).2) := by
  rw [step, located]

end Arena
end DerPair
