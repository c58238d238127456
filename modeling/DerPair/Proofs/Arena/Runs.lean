import DerPair.Proofs.Arena.Commutation

namespace DerPair
open Octets

def Span.Covers (span : Span) (buffer : String) (position : Nat) : Prop :=
  buffer = span.buffer ∧ span.offset ≤ position ∧
    ∀ length ∈ span.length, position < span.offset + length

namespace Arena

-- Where an action may leave another octet than it has found. A new buffer replaces the old
-- one of its name as a whole.
def Action.Reaches : Action → String → Nat → Prop
  | .allocate allocated _ _, buffer, _ => buffer = allocated
  | .poke dest data, buffer, position =>
    buffer = dest.buffer ∧ dest.offset ≤ position ∧ position < dest.offset + data.length
  | .call job, buffer, position => job.dest.Covers buffer position

section Reaching
variable {arena : Arena} {action : Action} {buffer : String} {position : Nat}

theorem locate_parts (located : arena.locate span = .ok region) :
    region.buffer = span.buffer ∧ region.offset = span.offset ∧
      ∀ length ∈ span.length, region.length = length := by
  unfold locate at located
  split at located
  · cases located
  · dsimp only at located
    split at located
    · cases located
    · cases located
      simp +contextual

theorem located_covers (located : arena.locate span = .ok region)
    (covered : region.Covers buffer position) : span.Covers buffer position := by
  obtain ⟨same, offset, sized⟩ := locate_parts located
  obtain ⟨inside, low, high⟩ := covered
  refine ⟨inside.trans same, offset ▸ low, fun length given => ?_⟩
  rwa [← offset, ← sized length given]

theorem poke_framed (poked : arena.poke dest data = .ok next) :
    ∃ region : Region, KeptOutside (region.first data.length) arena next ∧
      region.buffer = dest.buffer ∧ region.offset = dest.offset := by
  obtain ⟨region, located, stored⟩ := bind_ok poked
  split at stored
  · cases stored
  · rename_i fits
    cases stored
    obtain ⟨same, offset, _⟩ := locate_parts located
    obtain ⟨contents, found, inside⟩ := located_holds located
    have held : arena.Holds (region.first data.length) := ⟨contents, found, by
      simp only [Region.first]
      omega⟩
    exact ⟨region, write_framed held rfl, same, offset⟩

theorem step_cases (arena : Arena) (action : Action) :
    (∃ buffer size fill, action = .allocate buffer size fill) ∨
    (arena.step action).1 = arena ∨
    ∃ region, KeptOutside region arena (arena.step action).1 ∧
      ∀ buffer position, region.Covers buffer position → action.Reaches buffer position := by
  cases action with
  | allocate buffer size fill => exact .inl ⟨buffer, size, fill, rfl⟩
  | poke dest data =>
    cases poked : arena.poke dest data with
    | error cause => exact .inr (.inl (by simp [step, poked]))
    | ok next =>
      obtain ⟨region, kept, same, offset⟩ := poke_framed poked
      refine .inr (.inr ⟨region.first data.length, by simpa [step, poked] using kept, ?_⟩)
      rintro buffer position ⟨inside, low, high⟩
      exact ⟨inside.trans same, offset ▸ low, offset ▸ high⟩
  | call job =>
    cases located : arena.locateJob job with
    | error cause => exact .inr (.inl (by simp [step, located]))
    | ok placed =>
      have dest := located_dest located
      rw [step_located located]
      exact .inr (.inr ⟨placed.dest, (perform_framed (located_holds dest)).beyond,
        fun _ _ covered => located_covers dest covered⟩)

theorem step_octet (spared : ¬ action.Reaches buffer position) :
    (arena.step action).1.octet buffer position = arena.octet buffer position := by
  rcases step_cases arena action with ⟨allocated, size, fill, rfl⟩ | same | ⟨region, kept, reaches⟩
  · have other : buffer ≠ allocated := spared
    simp [step, octet, contents, Named.get?_put, other]
  · rw [same]
  · apply kept.octets
    exact fun covered => spared (reaches _ _ covered)

theorem step_sizes (old : ∀ size fill, action ≠ .allocate buffer size fill) :
    ((arena.step action).1.get? buffer).map List.length =
      (arena.get? buffer).map List.length := by
  rcases step_cases arena action with ⟨allocated, size, fill, rfl⟩ | same | ⟨region, kept, _⟩
  · have other : buffer ≠ allocated := by
      rintro rfl
      exact old size fill rfl
    simp [step, Named.get?_put, other]
  · rw [same]
  · exact kept.sizes buffer

end Reaching

section Running
variable {arena : Arena} {earlier later actions : List Action} {job : Job Span}
  {placed : Job Region} {buffer : String} {position : Nat}

theorem run_kept (view : Arena → β) (kept : ∀ arena : Arena, ∀ action ∈ actions,
    view (arena.step action).1 = view arena) : view (arena.run actions).1 = view arena := by
  induction actions generalizing arena with
  | nil => rfl
  | cons action rest ih =>
    have behind : view ((arena.step action).1.run rest).1 = view (arena.step action).1 :=
      ih fun later other member => kept later other (List.mem_cons_of_mem _ member)
    exact behind.trans (kept arena action List.mem_cons_self)

theorem run_octet (spared : ∀ action ∈ actions, ¬ action.Reaches buffer position) :
    (arena.run actions).1.octet buffer position = arena.octet buffer position :=
  run_kept (octet · buffer position) fun _ action member => step_octet (spared action member)

theorem run_sizes (old : ∀ action ∈ actions, ∀ size fill, action ≠ .allocate buffer size fill) :
    ((arena.run actions).1.get? buffer).map List.length =
      (arena.get? buffer).map List.length :=
  run_kept (fun arena => (arena.get? buffer).map List.length)
    fun _ action member => step_sizes (old action member)

theorem run_append (arena : Arena) (earlier later : List Action) :
    arena.run (earlier ++ later) =
      (((arena.run earlier).1.run later).1,
        (arena.run earlier).2 ++ ((arena.run earlier).1.run later).2) := by
  induction earlier generalizing arena with
  | nil => rfl
  | cons action rest ih => simp [run, ih]

theorem run_stored (located : (arena.run earlier).1.locateJob job = .ok placed)
    (covered : placed.dest.Covers buffer position)
    (spared : ∀ action ∈ later, ¬ action.Reaches buffer position) :
    (arena.run (earlier ++ .call job :: later)).1.octet buffer position =
      (placed.map (arena.run earlier).1.read).run.dest[position - placed.dest.offset]? := by
  have held := located_holds (located_dest located)
  simp only [run_append, run, step_located located]
  rw [run_octet spared]
  exact write_inside held (perform_sized held) covered

end Running

-- The same buffers with the same octets, whatever order they are kept in.
def Alike (left right : Arena) : Prop := ∀ buffer, left.get? buffer = right.get? buffer

def replies (arena : Arena) (actions : List Action) : List Reply :=
  (arena.run actions).2.map Prod.snd

theorem replies_cons (arena : Arena) (action : Action) (rest : List Action) :
    arena.replies (action :: rest) = (arena.step action).2 :: (arena.step action).1.replies rest :=
  rfl

namespace Alike
variable {left right : Arena}

theorem contents (alike : left.Alike right) : left.contents = right.contents := by
  funext buffer
  simp [Arena.contents, alike buffer]

theorem read (alike : left.Alike right) : left.read = right.read := by
  funext region
  simp [Arena.read, alike.contents]

theorem locate (alike : left.Alike right) : left.locate = right.locate := by
  funext span
  simp [Arena.locate, alike span.buffer]

theorem locateJob (alike : left.Alike right) (job : Job Span) :
    left.locateJob job = right.locateJob job := by
  cases job <;> simp only [Arena.locateJob, alike.locate]

theorem put (alike : left.Alike right) (buffer : String) (bytes : Octets) :
    Alike (left.put buffer bytes) (right.put buffer bytes) := by
  intro other
  simp [Named.get?_put, alike other]

theorem write (alike : left.Alike right) (region : Region) (bytes : Octets) :
    (left.write region bytes).Alike (right.write region bytes) := by
  simpa [Arena.write, alike.contents] using alike.put _ _

theorem step (alike : left.Alike right) (action : Action) :
    (left.step action).2 = (right.step action).2 ∧
      (left.step action).1.Alike (right.step action).1 := by
  cases action with
  | allocate buffer size fill => exact ⟨rfl, alike.put _ _⟩
  | poke dest data =>
    simp only [Arena.step, Arena.poke, alike.locate]
    cases right.locate dest with
    | error cause => exact ⟨rfl, alike⟩
    | ok region =>
      by_cases wide : region.length < data.length
      · simpa [Bind.bind, Except.bind, wide] using alike
      · simpa [Bind.bind, Except.bind, wide, pure, Except.pure] using alike.write region data
  | call job =>
    simp only [Arena.step, alike.locateJob]
    cases right.locateJob job with
    | error cause => exact ⟨rfl, alike⟩
    | ok placed =>
      simpa only [perform, alike.read, true_and] using alike.write _ _

theorem run (alike : left.Alike right) (actions : List Action) :
    left.replies actions = right.replies actions ∧
      (left.run actions).1.Alike (right.run actions).1 := by
  induction actions generalizing left right with
  | nil => exact ⟨rfl, alike⟩
  | cons action rest ih =>
    obtain ⟨same, next⟩ := alike.step action
    obtain ⟨others, final⟩ := ih next
    refine ⟨?_, final⟩
    rw [replies_cons, replies_cons, same, others]

end Alike

theorem replies_append (arena : Arena) (earlier later : List Action) :
    arena.replies (earlier ++ later) =
      arena.replies earlier ++ (arena.run earlier).1.replies later := by
  simp [replies, run_append]

-- Neighbouring calls that keep out of each other's way may trade places anywhere in a run.
theorem run_exchange {arena : Arena} {earlier : List Action} {first second : Job Span}
    {left right : Job Region} (firstLocated : (arena.run earlier).1.locateJob first = .ok left)
    (secondLocated : (arena.run earlier).1.locateJob second = .ok right)
    (apart : left.Apart right) (later : List Action) :
    (arena.run (earlier ++ .call first :: .call second :: later)).1.Alike
        (arena.run (earlier ++ .call second :: .call first :: later)).1 ∧
      ∃ one other rest,
        arena.replies (earlier ++ .call first :: .call second :: later) =
          arena.replies earlier ++ one :: other :: rest ∧
        arena.replies (earlier ++ .call second :: .call first :: later) =
          arena.replies earlier ++ other :: one :: rest := by
  obtain ⟨_, _, firstFramed⟩ := step_framed firstLocated
  obtain ⟨_, _, secondFramed⟩ := step_framed secondLocated
  have secondReply := step_kept_reply firstFramed.beyond secondLocated apart
  have firstReply := step_kept_reply secondFramed.beyond firstLocated apart.symm
  -- Both orders leave like arenas behind, and no later action can tell these apart.
  obtain ⟨rest, final⟩ := Alike.run (step_comm firstLocated secondLocated apart) later
  simp only [run_append, replies_append, replies_cons]
  refine ⟨final, ((arena.run earlier).1.step (.call first)).2,
    ((arena.run earlier).1.step (.call second)).2, _, by rw [secondReply], ?_⟩
  rw [firstReply, rest]

end Arena
end DerPair
