import DerPair.Proofs.Arena.Framing

namespace DerPair
open Octets

namespace Job

-- Neither call writes where the other reads or writes.
structure Apart (left right : Job Region) : Prop where
  dests : left.dest.Disjoint right.dest
  rightInputs : ∀ input ∈ right.inputs, left.dest.Disjoint input
  leftInputs : ∀ input ∈ left.inputs, right.dest.Disjoint input

theorem Apart.symm {left right : Job Region} (apart : left.Apart right) : right.Apart left :=
  ⟨apart.dests.symm, apart.leftInputs, apart.rightInputs⟩

theorem map_congr {job : Job ρ} {f g : ρ → σ} (dest : f job.dest = g job.dest)
    (inputs : ∀ input ∈ job.inputs, f input = g input) : job.map f = job.map g := by
  cases job with
  | encodeInteger data out | decodeInteger data out | decodePair data out =>
    have input := inputs data (List.mem_singleton_self data)
    dsimp only [Job.dest] at dest
    rw [map, map, dest, input]
  | encodePair r s out =>
    have first := inputs r (List.mem_cons_self ..)
    have second := inputs s (List.mem_cons_of_mem _ (List.mem_singleton_self s))
    dsimp only [Job.dest] at dest
    rw [map, map, dest, first, second]

end Job

namespace Arena

section Kept
variable {before after : Arena} {region : Region}

theorem locate_kept (kept : KeptOutside region before after) (span : Span) :
    after.locate span = before.locate span := by
  unfold locate
  rcases sizes_cases (kept.sizes span.buffer) with ⟨now, was⟩ | ⟨others, bytes, now, was, same⟩
  · rw [now, was]
  · rw [now, was]
    dsimp only
    rw [same]

theorem locateJob_kept (kept : KeptOutside region before after) (job : Job Span) :
    after.locateJob job = before.locateJob job := by
  cases job <;> simp only [locateJob, locate_kept kept]

theorem holds_kept (kept : KeptOutside region before after) (held : before.Holds other) :
    after.Holds other := by
  have sizes := kept.sizes other.buffer
  obtain ⟨bytes, found, inside⟩ := held
  rw [found] at sizes
  obtain ⟨others, present, same⟩ := Option.map_eq_some_iff.mp sizes
  refine ⟨others, present, ?_⟩
  rwa [same]

theorem read_kept (kept : KeptOutside region before after) (apart : region.Disjoint other) :
    after.read other = before.read other := by
  refine List.ext_getElem? fun index => ?_
  rw [read_getElem?, read_getElem?]
  split
  · rename_i inside
    refine kept.octets other.buffer (other.offset + index) fun covered => ?_
    exact apart _ _ covered ⟨rfl, Nat.le_add_right _ _, Nat.add_lt_add_left inside _⟩
  · rfl

theorem map_read_kept (kept : KeptOutside region before after) {job : Job Region}
    (dest : region.Disjoint job.dest) (inputs : ∀ input ∈ job.inputs, region.Disjoint input) :
    job.map after.read = job.map before.read :=
  Job.map_congr (read_kept kept dest) fun input member => read_kept kept (inputs input member)

theorem perform_kept_answer (kept : KeptOutside region before after) {job : Job Region}
    (dest : region.Disjoint job.dest) (inputs : ∀ input ∈ job.inputs, region.Disjoint input) :
    (after.perform job).2 = (before.perform job).2 := by
  unfold perform
  rw [map_read_kept kept dest inputs]

end Kept

section Commuting
variable {arena : Arena}

theorem write_comm {left right : Region} (leftHeld : arena.Holds left)
    (rightHeld : arena.Holds right) (leftSized : bytes.length = left.length)
    (rightSized : others.length = right.length) (apart : left.Disjoint right) (buffer : String) :
    ((arena.write left bytes).write right others).get? buffer =
      ((arena.write right others).write left bytes).get? buffer := by
  have leftKept := write_framed leftHeld leftSized
  have rightKept := write_framed rightHeld rightSized
  have rightStays := holds_kept leftKept rightHeld
  have leftStays := holds_kept rightKept leftHeld
  have rightBehind := write_framed rightStays rightSized
  have leftBehind := write_framed leftStays leftSized
  refine get?_eq ?_ fun position => ?_
  · rw [rightBehind.sizes, leftKept.sizes, leftBehind.sizes, rightKept.sizes]
  · by_cases inLeft : left.Covers buffer position
    · rw [rightBehind.octets _ _ (apart _ _ inLeft), write_inside leftHeld leftSized inLeft,
        write_inside leftStays leftSized inLeft]
    · rw [leftBehind.octets _ _ inLeft]
      by_cases inRight : right.Covers buffer position
      · rw [write_inside rightStays rightSized inRight, write_inside rightHeld rightSized inRight]
      · rw [rightBehind.octets _ _ inRight, leftKept.octets _ _ inLeft,
          rightKept.octets _ _ inRight]

theorem perform_comm {left right : Job Region} (leftHeld : arena.Holds left.dest)
    (rightHeld : arena.Holds right.dest) (apart : left.Apart right) (buffer : String) :
    ((arena.perform left).1.perform right).1.get? buffer =
      ((arena.perform right).1.perform left).1.get? buffer := by
  have leftKept := (perform_framed leftHeld).beyond
  have rightKept := (perform_framed rightHeld).beyond
  change ((arena.perform left).1.write right.dest
      (right.map (arena.perform left).1.read).run.dest).get? buffer =
    ((arena.perform right).1.write left.dest
      (left.map (arena.perform right).1.read).run.dest).get? buffer
  rw [map_read_kept leftKept apart.dests apart.rightInputs,
    map_read_kept rightKept apart.dests.symm apart.leftInputs]
  exact write_comm leftHeld rightHeld (perform_sized leftHeld) (perform_sized rightHeld)
    apart.dests buffer

theorem step_framed (located : arena.locateJob job = .ok placed) :
    ∃ result, (arena.step (.call job)).2 = .finished result ∧
      Framed placed arena (arena.step (.call job)).1 result := by
  rw [step_located located]
  exact ⟨_, rfl, perform_framed (located_holds (located_dest located))⟩

theorem step_kept_reply {before after : Arena} {left : Job Region}
    (kept : KeptOutside left.dest before after)
    (located : before.locateJob job = .ok right) (apart : left.Apart right) :
    (after.step (.call job)).2 = (before.step (.call job)).2 := by
  have moved : after.locateJob job = .ok right := (locateJob_kept kept job).trans located
  rw [step_located moved, step_located located,
    perform_kept_answer kept apart.dests apart.rightInputs]

theorem step_comm (leftLocated : arena.locateJob first = .ok left)
    (rightLocated : arena.locateJob second = .ok right) (apart : left.Apart right)
    (buffer : String) :
    ((arena.step (.call first)).1.step (.call second)).1.get? buffer =
      ((arena.step (.call second)).1.step (.call first)).1.get? buffer := by
  have leftHeld := located_holds (located_dest leftLocated)
  have rightHeld := located_holds (located_dest rightLocated)
  have leftKept := (perform_framed leftHeld).beyond
  have rightKept := (perform_framed rightHeld).beyond
  rw [step_located leftLocated, step_located rightLocated,
    step_located ((locateJob_kept leftKept second).trans rightLocated),
    step_located ((locateJob_kept rightKept first).trans leftLocated)]
  exact perform_comm leftHeld rightHeld apart buffer

end Commuting

-- A call does to its destination what the codec does and leaves alone what its answer
-- says, and two calls that keep out of each other's way neither notice nor undo one another.
theorem calls_framed_exact (arena : Arena) :
    (∀ job placed, arena.locateJob job = .ok placed →
      ∃ result, (arena.step (.call job)).2 = .finished result ∧
        Framed placed arena (arena.step (.call job)).1 result) ∧
    ∀ first second left right,
      arena.locateJob first = .ok left → arena.locateJob second = .ok right → left.Apart right →
      ((arena.step (.call first)).1.step (.call second)).2 = (arena.step (.call second)).2 ∧
      ((arena.step (.call second)).1.step (.call first)).2 = (arena.step (.call first)).2 ∧
      ∀ buffer, ((arena.step (.call first)).1.step (.call second)).1.get? buffer =
        ((arena.step (.call second)).1.step (.call first)).1.get? buffer := by
  refine ⟨fun job placed located => step_framed located, ?_⟩
  intro first second left right leftLocated rightLocated apart
  obtain ⟨_, _, leftFramed⟩ := step_framed leftLocated
  obtain ⟨_, _, rightFramed⟩ := step_framed rightLocated
  exact ⟨step_kept_reply leftFramed.beyond rightLocated apart,
    step_kept_reply rightFramed.beyond leftLocated apart.symm,
    step_comm leftLocated rightLocated apart⟩

-- Five octets to read, and eight for two calls to share.
def sharedArena : Arena :=
  ⟨[("in", [0x02, 0x01, 0x05, 0x02, 0x01]), ("out", [9, 9, 9, 9, 9, 9, 9, 9])]⟩

def frontDecode : Job Span := .decodePair ⟨"in", 0, none⟩ ⟨"out", 0, some 4⟩

def backEncode : Job Span := .encodeInteger ⟨"in", 2, some 1⟩ ⟨"out", 4, none⟩

theorem calls_framed_exact_shared :
    let decoded := (sharedArena.step (.call frontDecode)).1
    let encoded := (sharedArena.step (.call backEncode)).1
    let left : Job Region := .decodePair ⟨"in", 0, 5⟩ ⟨"out", 0, 4⟩
    let right : Job Region := .encodeInteger ⟨"in", 2, 1⟩ ⟨"out", 4, 4⟩
    sharedArena.locateJob frontDecode = .ok left ∧ sharedArena.locateJob backEncode = .ok right ∧
    left.Apart right ∧
    decoded.get? "out" = some [0, 5, 9, 9, 9, 9, 9, 9] ∧
    KeptOutside ⟨"out", 0, 2⟩ sharedArena decoded ∧
    encoded.get? "out" = some [9, 9, 9, 9, 2, 1, 5, 9] ∧
    KeptOutside ⟨"out", 4, 3⟩ sharedArena encoded ∧
    (decoded.step (.call backEncode)).1.get? "out" = some [0, 5, 9, 9, 2, 1, 5, 9] ∧
    (encoded.step (.call frontDecode)).1.get? "out" = some [0, 5, 9, 9, 2, 1, 5, 9] := by
  intro decoded encoded left right
  have leftLocated : sharedArena.locateJob frontDecode = .ok left := rfl
  have rightLocated : sharedArena.locateJob backEncode = .ok right := rfl
  have elsewhere : ∀ dest input : Region, dest.buffer ≠ input.buffer → dest.Disjoint input :=
    fun _ _ other _ _ covered inside => other (covered.1.symm.trans inside.1)
  have apart : left.Apart right := by
    refine ⟨fun _ position covered inside => ?_, fun input member => ?_, fun input member => ?_⟩
    · exact absurd covered.2.2 (Nat.not_lt_of_le inside.2.1)
    · cases List.mem_singleton.mp member
      exact elsewhere _ _ (by decide)
    · cases List.mem_singleton.mp member
      exact elsewhere _ _ (by decide)
  have stored : decoded.get? "out" = some [0, 5, 9, 9, 9, 9, 9, 9] := rfl
  have both : (decoded.step (.call backEncode)).1.get? "out" = some [0, 5, 9, 9, 2, 1, 5, 9] := rfl
  obtain ⟨framed, commute⟩ := calls_framed_exact sharedArena
  obtain ⟨_, _, same⟩ := commute frontDecode backEncode left right leftLocated rightLocated apart
  obtain ⟨failed, failing, decodeKept⟩ := framed frontDecode left leftLocated
  obtain ⟨_, encoding, encodeKept⟩ := framed backEncode right rightLocated
  cases encoding
  obtain ⟨_, written⟩ := encodeKept.encoded 3 rfl
  refine ⟨leftLocated, rightLocated, apart, stored, ?_, rfl, written, both, ?_⟩
  · cases failing
    rcases decodeKept.refused (.within .s (.truncated 3 2)) rfl with unchanged | ⟨_, _, _, half⟩
    · cases stored.symm.trans (unchanged "out")
    · have front : left.dest.first (left.dest.length / 2) = ⟨"out", 0, 2⟩ := by decide
      rwa [front] at half
  · exact (same "out").symm.trans both

end Arena
end DerPair
