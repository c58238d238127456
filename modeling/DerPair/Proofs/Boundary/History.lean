import Mathlib.Data.List.Induction
import DerPair.Boundary.Session

namespace DerPair.Boundary

namespace Exchange

-- The exchanges that fail, each with the fault it leaves behind. A read into a null
-- pointer is one of them although it answers 0.
inductive Raises : Exchange → CallFault → Prop where
  | encodedPair (failed : result.failure = some fault) :
      Raises ⟨.encodePair call, .encodedPair result⟩ fault
  | decodedSeparate (failed : result.failure = some fault) :
      Raises ⟨.decodeSeparate call, .decodedSeparate result⟩ fault
  | decodedFixed (failed : result.failure = some fault) :
      Raises ⟨.decodeFixed call, .decodedFixed result⟩ fault
  | nullRead : Raises ⟨.readMessage none, .message 0 none⟩ .nullPointer

-- The exchanges that neither fail nor clear.
inductive Quiet : Exchange → Prop where
  | encodedPair (passed : result.failure = none) : Quiet ⟨.encodePair call, .encodedPair result⟩
  | decodedSeparate (passed : result.failure = none) :
      Quiet ⟨.decodeSeparate call, .decodedSeparate result⟩
  | decodedFixed (passed : result.failure = none) :
      Quiet ⟨.decodeFixed call, .decodedFixed result⟩
  | messageSize : Quiet ⟨.messageSize, .messageSize size⟩
  | read : Quiet ⟨.readMessage (some buffer), .message returned (some after)⟩

-- What an exchange does to the last fault.
inductive Turns (last : LastFault) : Exchange → LastFault → Prop where
  | raised (raises : Raises exchange fault) : Turns last exchange (some fault)
  | kept (quiet : Quiet exchange) : Turns last exchange last
  | cleared : Turns last ⟨.clear, .cleared⟩ none

variable {exchange : Exchange}

theorem Raises.failure_eq (raises : exchange.Raises fault) : exchange.failure = some fault := by
  cases raises with
  | encodedPair failed => exact failed
  | decodedSeparate failed => exact failed
  | decodedFixed failed => exact failed
  | nullRead => rfl

theorem Raises.not_clears (raises : exchange.Raises fault) : exchange.request.clears = false := by
  cases raises <;> rfl

theorem Quiet.failure_eq (quiet : exchange.Quiet) : exchange.failure = none := by
  cases quiet with
  | encodedPair passed => exact passed
  | decodedSeparate passed => exact passed
  | decodedFixed passed => exact passed
  | messageSize => rfl
  | read => rfl

theorem Quiet.not_clears (quiet : exchange.Quiet) : exchange.request.clears = false := by
  cases quiet <;> rfl

theorem Turns.raises_iff (turns : Turns last exchange next) : exchange.Raises fault ↔
    exchange.failure = some fault ∧ exchange.request.clears = false := by
  refine ⟨fun raises => ⟨raises.failure_eq, raises.not_clears⟩, fun shown => ?_⟩
  obtain ⟨failed, uncleared⟩ := shown
  cases turns with
  | raised raises =>
    cases failed.symm.trans raises.failure_eq
    exact raises
  | kept quiet => cases failed.symm.trans quiet.failure_eq
  | cleared => cases uncleared

theorem Turns.quiet_iff (turns : Turns last exchange next) : exchange.Quiet ↔
    exchange.failure = none ∧ exchange.request.clears = false := by
  refine ⟨fun quiet => ⟨quiet.failure_eq, quiet.not_clears⟩, fun shown => ?_⟩
  obtain ⟨passed, uncleared⟩ := shown
  cases turns with
  | raised raises => cases passed.symm.trans raises.failure_eq
  | kept quiet => exact quiet
  | cleared => cases uncleared

end Exchange

open Exchange (Turns)

theorem record_turns {last : LastFault} {exchange : Exchange} {failure : Option CallFault}
    (raises : ∀ fault, failure = some fault → exchange.Raises fault)
    (quiet : failure = none → exchange.Quiet) : Turns last exchange (last.record failure) := by
  cases failure with
  | none => exact .kept (quiet rfl)
  | some fault => exact .raised (raises fault rfl)

theorem step_turns (last : LastFault) (request : Request) :
    Turns last ⟨request, (step last request).2⟩ (step last request).1 := by
  cases request with
  | encodePair call => exact record_turns (fun _ => .encodedPair) .encodedPair
  | decodeSeparate call => exact record_turns (fun _ => .decodedSeparate) .decodedSeparate
  | decodeFixed call => exact record_turns (fun _ => .decodedFixed) .decodedFixed
  | messageSize => exact .kept .messageSize
  | readMessage buffer =>
    cases buffer with
    | none => exact .raised .nullRead
    | some memory => exact .kept .read
  | clear => exact .cleared

theorem latest_append (earlier : List Exchange) (exchange : Exchange) :
    latest (earlier ++ [exchange]) =
      if exchange.request.clears then none else exchange.failure.or (latest earlier) := by
  unfold latest
  rw [List.reverse_concat, List.takeWhile_cons]
  cases exchange.request.clears with
  | true => rfl
  | false => cases failed : exchange.failure <;> simp [failed]

theorem turns_latest (known : last = latest earlier) (turns : Turns last exchange next) :
    next = latest (earlier ++ [exchange]) := by
  rw [latest_append]
  cases turns with
  | raised raises => simp [raises.failure_eq, raises.not_clears]
  | kept quiet => simp [quiet.failure_eq, quiet.not_clears, known]
  | cleared => rfl

theorem latest_of_quiet (quiet : ∀ later ∈ after, later.failure = none ∧ later.request.clears = false)
    (earlier : List Exchange) : latest (earlier ++ after) = latest earlier := by
  induction after generalizing earlier with
  | nil => rw [List.append_nil]
  | cons exchange rest ih =>
    obtain ⟨passed, uncleared⟩ := quiet exchange List.mem_cons_self
    rw [List.append_cons, ih fun later member => quiet later (List.mem_cons_of_mem _ member),
      latest_append, uncleared, passed]
    rfl

theorem latest_of_uncleared (uncleared : ∀ later ∈ after, later.request.clears = false)
    (held : latest earlier ≠ none) : latest (earlier ++ after) ≠ none := by
  induction after generalizing earlier with
  | nil => rwa [List.append_nil]
  | cons exchange rest ih =>
    rw [List.append_cons]
    refine ih (fun later member => uncleared later (List.mem_cons_of_mem _ member)) ?_
    rw [latest_append, uncleared exchange List.mem_cons_self]
    simp [held]

theorem latest_eq_some_iff : latest history = some fault ↔
    ∃ before failing after, history = before ++ failing :: after ∧
      failing.failure = some fault ∧ failing.request.clears = false ∧
      ∀ later ∈ after, later.failure = none ∧ later.request.clears = false := by
  constructor
  · intro held
    induction history using List.reverseRecOn with
    | nil => cases held
    | append_singleton earlier exchange ih =>
      rw [latest_append] at held
      cases clears : exchange.request.clears with
      | true => simp [clears] at held
      | false =>
        cases failed : exchange.failure with
        | some cause =>
          have same : cause = fault := by simpa [clears, failed] using held
          exact ⟨earlier, exchange, [], rfl, by rw [failed, same], clears, by simp⟩
        | none =>
          have kept : latest earlier = some fault := by simpa [clears, failed] using held
          obtain ⟨before, failing, after, shape, failure, uncleared, quiet⟩ := ih kept
          refine ⟨before, failing, after ++ [exchange], ?_, failure, uncleared, ?_⟩
          · rw [shape, List.append_assoc, List.cons_append]
          · intro later member
            rcases List.mem_append.mp member with older | newest
            · exact quiet later older
            · rw [List.mem_singleton.mp newest]
              exact ⟨failed, clears⟩
  · intro shown
    obtain ⟨before, failing, after, shape, failed, uncleared, quiet⟩ := shown
    rw [shape, List.append_cons, latest_of_quiet quiet, latest_append, uncleared, failed]
    rfl

theorem latest_eq_none_iff : latest history = none ↔
    ∀ before failing after, history = before ++ failing :: after →
      failing.failure ≠ none → failing.request.clears = false →
      ∃ later ∈ after, later.request.clears = true := by
  constructor
  · intro forgotten before failing after shape failed uncleared
    by_contra kept
    have since : ∀ later ∈ after, later.request.clears = false := by
      intro later member
      exact Bool.eq_false_iff.mpr fun clears => kept ⟨later, member, clears⟩
    have held : latest (before ++ [failing]) ≠ none := by
      rw [latest_append, uncleared]
      simp [failed]
    refine latest_of_uncleared since held ?_
    rw [← List.append_cons, ← shape]
    exact forgotten
  · intro cleared
    cases held : latest history with
    | none => rfl
    | some fault =>
      obtain ⟨before, failing, after, shape, failed, uncleared, quiet⟩ :=
        latest_eq_some_iff.mp held
      obtain ⟨later, member, clears⟩ :=
        cleared before failing after shape (by simp [failed]) uncleared
      cases clears.symm.trans (quiet later member).2

theorem run_latest (known : last = latest earlier) (requests : List Request)
    (recorded : (run last requests).2[count]? = some (next, reply)) :
    next = latest (earlier ++ (exchanges requests (run last requests).2).take (count + 1)) := by
  -- The history grows by one exchange with each request, so the induction carries it along.
  induction requests generalizing last earlier count with
  | nil => cases recorded
  | cons request rest ih =>
    have taken := turns_latest known (step_turns last request)
    cases count with
    | zero =>
      cases recorded
      exact taken
    | succ count =>
      have later := ih taken recorded
      rwa [← List.append_cons] at later

theorem run_length (last : LastFault) (requests : List Request) :
    (run last requests).2.length = requests.length := by
  induction requests generalizing last with
  | nil => rfl
  | cons request rest ih => exact congrArg (· + 1) (ih _)

-- Every exchange is one that some step makes.
def Answered (history : List Exchange) : Prop :=
  ∀ exchange ∈ history, ∃ before after, Turns before exchange after

theorem exchanges_answered (last : LastFault) (requests : List Request) :
    Answered (exchanges requests (run last requests).2) := by
  induction requests generalizing last with
  | nil =>
    intro exchange member
    cases member
  | cons request rest ih =>
    intro exchange member
    rcases List.mem_cons.mp member with head | tail
    · rw [head]
      exact ⟨_, _, step_turns last request⟩
    · exact ih _ exchange tail

theorem latest_some_iff_raised (answered : Answered history) : latest history = some fault ↔
    ∃ before failing after, history = before ++ failing :: after ∧ failing.Raises fault ∧
      ∀ later ∈ after, later.Quiet := by
  rw [latest_eq_some_iff]
  constructor
  · intro shown
    obtain ⟨before, failing, after, shape, failed, uncleared, quiet⟩ := shown
    subst shape
    obtain ⟨_, _, turns⟩ := answered failing (by simp)
    refine ⟨before, failing, after, rfl, turns.raises_iff.mpr ⟨failed, uncleared⟩, ?_⟩
    intro later member
    obtain ⟨_, _, turns⟩ := answered later (by simp [member])
    exact turns.quiet_iff.mpr (quiet later member)
  · intro shown
    obtain ⟨before, failing, after, shape, raises, quiet⟩ := shown
    exact ⟨before, failing, after, shape, raises.failure_eq, raises.not_clears,
      fun later member => ⟨(quiet later member).failure_eq, (quiet later member).not_clears⟩⟩

theorem clears_iff (request : Request) : request.clears = true ↔ request = .clear := by
  cases request <;> simp [Request.clears]

theorem latest_none_iff_cleared (answered : Answered history) : latest history = none ↔
    ∀ before failing after fault, history = before ++ failing :: after → failing.Raises fault →
      ∃ later ∈ after, later.request = .clear := by
  simp only [latest_eq_none_iff, clears_iff]
  constructor
  · intro cleared before failing after fault shape raises
    exact cleared before failing after shape (by simp [raises.failure_eq]) raises.not_clears
  · intro cleared before failing after shape failed uncleared
    obtain ⟨fault, failure⟩ := Option.ne_none_iff_exists'.mp failed
    obtain ⟨_, _, turns⟩ := answered failing (by simp [shape])
    exact cleared before failing after fault shape (turns.raises_iff.mpr ⟨failure, uncleared⟩)

-- After every step the last fault is that of the latest failure since it was last
-- cleared. A step changes it by failing and by clearing only.
theorem run_last_exact (requests : List Request) :
    let replies := (run none requests).2
    let history := exchanges requests replies
    replies.length = requests.length ∧
    (∀ count last reply, replies[count]? = some (last, reply) →
      let past := history.take (count + 1)
      last = latest past ∧
      (∀ fault, last = some fault ↔ ∃ before failing after, past = before ++ failing :: after ∧
        failing.Raises fault ∧ ∀ later ∈ after, later.Quiet) ∧
      (last = none ↔ ∀ before failing after fault, past = before ++ failing :: after →
        failing.Raises fault → ∃ later ∈ after, later.request = .clear)) ∧
    ∀ last request, Turns last ⟨request, (step last request).2⟩ (step last request).1 := by
  refine ⟨run_length none requests, fun count last reply recorded => ?_, step_turns⟩
  have start : none = latest [] := rfl
  have known : last = latest ((exchanges requests (run none requests).2).take (count + 1)) :=
    run_latest start requests recorded
  have answered : Answered ((exchanges requests (run none requests).2).take (count + 1)) :=
    fun exchange member => exchanges_answered none requests exchange (List.mem_of_mem_take member)
  dsimp only
  rw [known]
  exact ⟨rfl, fun fault => latest_some_iff_raised answered, latest_none_iff_cleared answered⟩

theorem run_last_exact_cleared :
    let requests : List Request :=
      [.decodeFixed ⟨some [], 0, some [9], 1⟩,
        .encodePair ⟨some [1], some [1], 1, some [9, 9, 9, 9, 9, 9], some 6⟩,
        .readMessage (some [9]), .readMessage none, .messageSize, .clear, .messageSize]
    let replies := (run none requests).2
    let history := exchanges requests replies
    (∃ reply, replies[2]? = some (some (.codec .oddDestination), reply)) ∧
    (∃ before failing after, history.take 3 = before ++ failing :: after ∧
      failing.Raises (.codec .oddDestination) ∧ ∀ later ∈ after, later.Quiet) ∧
    (∃ reply, replies[4]? = some (some .nullPointer, reply)) ∧
    (∃ reply, replies[6]? = some (none, reply)) ∧
    ∀ before failing after fault, history.take 7 = before ++ failing :: after →
      failing.Raises fault → ∃ later ∈ after, later.request = .clear := by
  intro requests replies history
  obtain ⟨_, exact, _⟩ := run_last_exact requests
  have failed : ∃ reply, replies[2]? = some (some (.codec .oddDestination), reply) := ⟨_, rfl⟩
  have null : ∃ reply, replies[4]? = some (some .nullPointer, reply) := ⟨_, rfl⟩
  have cleared : ∃ reply, replies[6]? = some (none, reply) := ⟨_, rfl⟩
  obtain ⟨_, third⟩ := failed
  obtain ⟨_, last⟩ := cleared
  obtain ⟨_, raised, _⟩ := exact 2 _ _ third
  obtain ⟨_, _, forgotten⟩ := exact 6 _ _ last
  exact ⟨⟨_, third⟩, (raised _).mp rfl, null, ⟨_, last⟩, forgotten.mp rfl⟩

end DerPair.Boundary
