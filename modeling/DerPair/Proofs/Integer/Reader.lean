import DerPair.Integer.Stream
import DerPair.Proofs.Integer.Truncation

namespace DerPair.Integer
open Octets

variable {source dest : Octets}

theorem shortage_eq_some_iff : shortage (decode der dest).answer = some needed ↔ Cut der needed := by
  constructor
  · intro asked
    unfold shortage at asked
    split at asked
    · rename_i available refused
      cases asked
      exact (decode_truncated_iff.mp refused).1
    · cases asked
  · intro cut
    rw [(cut.decode_error dest).1]
    rfl

theorem shortage_eq_none_iff : shortage (decode der dest).answer = none ↔ Settled der := by
  simp only [Option.eq_none_iff_forall_ne_some, ne_eq, shortage_eq_some_iff, Settled]

theorem take_second (source : Octets) (opened : smallestInteger ≤ held) :
    (source.take held).getD 1 0 = source.getD 1 0 := by
  simp only [smallestInteger] at opened
  rw [List.getD_eq_getElem?_getD, List.getElem?_take_of_lt (by omega), List.getD_eq_getElem?_getD]

theorem Cut.supplied (cut : Cut (source.take held) needed)
    (opened : smallestInteger ≤ (source.take held).length) (long : needed ≤ source.length) :
    Settled (source.take needed) := by
  intro other again
  have held_opened : smallestInteger ≤ held := by
    rw [List.length_take] at opened
    omega
  have size : (source.take needed).length = needed := by
    rw [List.length_take]
    omega
  have more : smallestInteger ≤ needed := Nat.le_trans opened (Nat.le_of_lt cut.missing)
  have first := cut.announced opened
  have second := again.announced (by rwa [size])
  rw [take_second source held_opened] at first
  rw [take_second source more, ← first] at second
  have missing := again.missing
  rw [size, second] at missing
  exact Nat.lt_irrefl _ missing

theorem Settled.take (settled : Settled source) (cut : Cut (source.take held) needed)
    (opened : smallestInteger ≤ (source.take held).length) : needed ≤ source.length := by
  refine Nat.le_of_not_lt fun short => settled needed ?_
  have whole := List.take_append_drop held source
  have longer := cut.append opened (source.drop held) (by rwa [whole])
  rwa [whole] at longer

theorem Reads.outcome_eq (reads : Reads source dest held rounds outcome) :
    outcome = decode source dest := by
  induction reads with
  | @settled held finished =>
    have settled := shortage_eq_none_iff.mp finished
    have whole := decode_append settled (source.drop held) dest
    rwa [List.take_append_drop, eq_comm] at whole
  | fetched asked long next ih => exact ih

theorem Reads.settled_of (settled : Settled (source.take held)) (dest : Octets) :
    Reads source dest held 0 (decode source dest) := by
  have finished : shortage (decode (source.take held) dest).answer = none :=
    shortage_eq_none_iff.mpr settled
  have reads := Reads.settled finished
  have same := reads.outcome_eq
  rwa [same] at reads

theorem Reads.rounds_opened (reads : Reads source dest held rounds outcome)
    (opened : smallestInteger ≤ (source.take held).length) : rounds ≤ 1 := by
  cases reads with
  | settled => exact Nat.zero_le _
  | fetched asked long next =>
    have cut := shortage_eq_some_iff.mp asked
    -- Behind a header the whole INTEGER was asked for, so nothing is left to ask for.
    cases next with
    | settled => exact Nat.le_refl _
    | fetched again => exact absurd (shortage_eq_some_iff.mp again) (cut.supplied opened long _)

theorem cut_nil (cut : Cut [] needed) : needed = smallestInteger := by
  cases cut with
  | header => rfl

theorem Reads.rounds_le (reads : Reads source dest 0 rounds outcome) : rounds ≤ 2 := by
  cases reads with
  | settled => exact Nat.zero_le _
  | fetched asked long next =>
    obtain rfl := cut_nil (shortage_eq_some_iff.mp asked)
    refine Nat.succ_le_succ (next.rounds_opened ?_)
    rw [List.length_take]
    omega

theorem reads_settled (settled : Settled source) (dest : Octets) :
    ∃ rounds, Reads source dest 0 rounds (decode source dest) := by
  have long : smallestInteger ≤ source.length :=
    Nat.le_of_not_lt fun short => settled _ (.header short)
  have opened : smallestInteger ≤ (source.take smallestInteger).length := by
    rw [List.length_take]
    omega
  have start : shortage (decode (source.take 0) dest).answer = some smallestInteger :=
    shortage_eq_some_iff.mpr (.header (by simp [smallestInteger]))
  by_cases header : Settled (source.take smallestInteger)
  · exact ⟨_, .fetched start long (.settled_of header dest)⟩
  · obtain ⟨needed, cut⟩ : ∃ needed, Cut (source.take smallestInteger) needed := by
      simpa [Settled] using header
    have enough := settled.take cut opened
    exact ⟨_, .fetched start long (.fetched (shortage_eq_some_iff.mpr cut) enough
      (.settled_of (cut.supplied opened enough) dest))⟩

theorem settled_of_long (long : largestInteger ≤ der.length) : Settled der := by
  intro needed cut
  have missing := cut.missing
  have bound := cut.needed_le
  omega

end DerPair.Integer
