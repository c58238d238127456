import DerPair.Pair.Encoding
import DerPair.Proofs.Integer.Sizing
import DerPair.Proofs.Pair.Encoding

namespace DerPair.Pair
open Octets Integer

variable {r s dest : Octets}

theorem shortfall_r_narrow (given : r ≠ []) (equal : r.length = s.length)
    (narrow : dest.length < (encoding r).length) :
    shortfall (encode r s dest).answer = some ((encoding r).length - dest.length) := by
  rw [encode_r_refused equal (refusal_narrow given narrow)]
  rfl

theorem shortfall_s_narrow (given : r ≠ []) (equal : r.length = s.length)
    (room : (encoding r).length ≤ dest.length) (short : (content r).length ≤ ShortLength.largest)
    (narrow : dest.length < (encoding r).length + (encoding s).length) :
    shortfall (encode r s dest).answer =
      some ((encoding r).length + (encoding s).length - dest.length) := by
  have first : refusal r dest.length = none := refusal_eq_none_iff.mpr ⟨given, room, short⟩
  have left : dest.length - (encoding r).length < (encoding s).length := by omega
  have second := refusal_narrow (ne_nil_of_equal given equal) left
  rw [encode_s_refused equal first second]
  -- s is measured against what r leaves over, so the octets of r cancel in the difference.
  refine congrArg some ?_
  omega

-- How often a buffer will be enlarged: once for each component that lacks room, but s is
-- never reached behind an r that no room helps.
def enlargements (r s : Octets) (capacity : Nat) : Nat :=
  (if capacity < (encoding r).length then 1 else 0) +
    if capacity < (encoding r).length + (encoding s).length ∧
      (content r).length ≤ ShortLength.largest then 1 else 0

theorem enlargements_le (r s : Octets) (capacity : Nat) : enlargements r s capacity ≤ 2 := by
  unfold enlargements
  split <;> split <;> decide

-- What one call tells a caller: to enlarge the buffer, never beyond the size of both
-- encodings and with one enlargement fewer to come, or nothing more about room.
inductive Told (r s dest : Octets) : Prop where
  | enlarge (asked : shortfall (encode r s dest).answer = some more) (positive : 0 < more)
      (bounded : dest.length + more ≤ (encoding r).length + (encoding s).length)
      (fewer : enlargements r s (dest.length + more) + 1 = enlargements r s dest.length)
  | overlong (component : Component) (length : Nat)
      (refused : (encode r s dest).answer = .error (.within component (.longFormLength length)))
      (long : ShortLength.largest < (content r).length ∨ ShortLength.largest < (content s).length)
      (last : enlargements r s dest.length = 0)
  | written (encodable : Encodable r s dest.length) (last : enlargements r s dest.length = 0)

theorem told (given : r ≠ []) (equal : r.length = s.length) (dest : Octets) : Told r s dest := by
  by_cases rNarrow : dest.length < (encoding r).length
  · have grown : dest.length + ((encoding r).length - dest.length) = (encoding r).length := by omega
    refine .enlarge (shortfall_r_narrow given equal rNarrow) (by omega) (by omega) ?_
    have filled : 0 < (encoding s).length := by
      rw [encoding_length]
      omega
    rw [grown]
    by_cases short : (content r).length ≤ ShortLength.largest
    · simp [enlargements, short, filled, rNarrow, Nat.lt_add_right _ rNarrow]
    · simp [enlargements, short, rNarrow]
  · have room := Nat.le_of_not_lt rNarrow
    by_cases short : (content r).length ≤ ShortLength.largest
    · by_cases narrow : dest.length < (encoding r).length + (encoding s).length
      · refine .enlarge (shortfall_s_narrow given equal room short narrow) (by omega) (by omega) ?_
        have grown : dest.length + ((encoding r).length + (encoding s).length - dest.length) =
            (encoding r).length + (encoding s).length := by omega
        rw [grown]
        simp [enlargements, short, rNarrow, narrow]
      · have wide := Nat.le_of_not_lt narrow
        have last : enlargements r s dest.length = 0 := by simp [enlargements, rNarrow, narrow]
        by_cases sShort : (content s).length ≤ ShortLength.largest
        · exact .written ⟨equal, given, short, sShort, wide⟩ last
        · have long := Nat.lt_of_not_le sShort
          exact .overlong .s _ (encode_s_overlong given equal short wide long) (.inr long) last
    · have long := Nat.lt_of_not_le short
      refine .overlong .r _ (encode_r_overlong given equal room long) (.inl long) ?_
      simp [enlargements, rNarrow, short]

theorem Told.asked (told : Told r s dest)
    (asked : shortfall (encode r s dest).answer = some more) :
    0 < more ∧ dest.length + more ≤ (encoding r).length + (encoding s).length ∧
      enlargements r s (dest.length + more) + 1 = enlargements r s dest.length := by
  cases told with
  | enlarge other positive bounded fewer =>
    cases asked.symm.trans other
    exact ⟨positive, bounded, fewer⟩
  | overlong component length refused =>
    rw [refused] at asked
    cases asked
  | written encodable =>
    rw [encodable.accepted] at asked
    cases asked

theorem Enlarges.count_eq (path : Enlarges r s dest count reached) (given : r ≠ [])
    (equal : r.length = s.length) :
    count + enlargements r s reached.length = enlargements r s dest.length := by
  induction path with
  | start => exact Nat.zero_add _
  | @enlarged dest room count reached asked next ih =>
    -- The new octets are not looked at: their number alone brings the count down by one.
    obtain ⟨_, _, fewer⟩ := (told given equal dest).asked asked
    rw [List.length_append] at ih
    omega

theorem Enlarges.longer (path : Enlarges r s dest count reached) (given : r ≠ [])
    (equal : r.length = s.length) :
    dest <+: reached ∧
      reached.length ≤ max dest.length ((encoding r).length + (encoding s).length) := by
  induction path with
  | start => exact ⟨List.prefix_refl _, Nat.le_max_left _ _⟩
  | @enlarged dest room count reached asked next ih =>
    obtain ⟨_, bounded, _⟩ := (told given equal dest).asked asked
    obtain ⟨longer, within⟩ := ih
    refine ⟨(List.prefix_append dest room).trans longer, Nat.le_trans within ?_⟩
    rw [List.length_append]
    omega

theorem Grows.path (grows : Grows r s dest count outcome) :
    ∃ reached, Enlarges r s dest count reached ∧
      shortfall (encode r s reached).answer = none ∧ outcome = encode r s reached := by
  induction grows with
  | settled finished => exact ⟨_, .start, finished, rfl⟩
  | enlarged asked next ih =>
    obtain ⟨reached, path, finished, same⟩ := ih
    exact ⟨reached, .enlarged asked path, finished, same⟩

theorem exists_grows (given : r ≠ []) (equal : r.length = s.length) (dest : Octets) :
    ∃ count outcome, Grows r s dest count outcome := by
  induction left : enlargements r s dest.length generalizing dest with
  | zero =>
    cases told given equal dest with
    | enlarge asked positive bounded fewer => omega
    | overlong component length refused =>
      exact ⟨0, _, .settled (by rw [refused]; rfl)⟩
    | written encodable => exact ⟨0, _, .settled (by rw [encodable.accepted]; rfl)⟩
  | succ left ih =>
    cases told given equal dest with
    | @enlarge more asked positive bounded fewer =>
      have sized : (List.replicate more (0 : UInt8)).length = more := List.length_replicate
      obtain ⟨count, outcome, grows⟩ := ih (dest ++ List.replicate more 0) (by
        rw [List.length_append, sized]
        omega)
      exact ⟨count + 1, outcome, .enlarged (by rwa [sized]) grows⟩
    | overlong component length refused long last => omega
    | written encodable last => omega

theorem drop_of_longer {dest reached : Octets} (longer : dest <+: reached)
    (sized : reached.length = max dest.length size) : reached.drop size = dest.drop size := by
  obtain ⟨room, rfl⟩ := longer
  rw [List.length_append] at sized
  rcases Nat.lt_or_ge dest.length size with narrow | wide
  · rw [List.drop_of_length_le (by rw [List.length_append]; omega),
      List.drop_of_length_le (Nat.le_of_lt narrow)]
  · obtain rfl : room = [] := List.eq_nil_of_length_eq_zero (by omega)
    rw [List.append_nil]

theorem Enlarges.written (path : Enlarges r s dest count reached)
    (encodable : Encodable r s reached.length) :
    (encode r s reached).dest.length =
        max dest.length ((encoding r).length + (encoding s).length) ∧
      (encode r s reached).dest =
        encoding r ++ encoding s ++ dest.drop ((encoding r).length + (encoding s).length) := by
  obtain ⟨longer, within⟩ := path.longer encodable.given encodable.equal
  have room := encodable.room
  have start := longer.length_le
  have sized : reached.length = max dest.length ((encoding r).length + (encoding s).length) := by
    omega
  rw [encode_dest_length]
  refine ⟨sized, ?_⟩
  rw [encodable.accepted]
  simp only [overwrite, List.length_append, drop_of_longer longer sized]

-- A caller that adds the octets it is told to is told so twice at most. In the end both
-- components are there, with no octet of room too many, or one of them has no short form.
theorem growth_exact (given : r ≠ []) (equal : r.length = s.length) (dest : Octets) :
    (∀ component required capacity, (encode r s dest).answer =
      .error (.within component (.capacityExceeded required capacity)) → capacity < required) ∧
    (∀ count reached, Enlarges r s dest count reached → count ≤ 2) ∧
    (∃ count outcome, Grows r s dest count outcome) ∧
    ∀ count outcome, Grows r s dest count outcome →
      count ≤ 2 ∧
      ((∃ size, outcome.answer = .ok size) ∨
        ∃ component length,
          outcome.answer = .error (.within component (.longFormLength length))) ∧
      ((∃ size, outcome.answer = .ok size) ↔
        (∃ rSize, (encodedSize r).answer = .ok rSize) ∧
          ∃ sSize, (encodedSize s).answer = .ok sSize) ∧
      ∀ rSize sSize, (encodedSize r).answer = .ok rSize → (encodedSize s).answer = .ok sSize →
        outcome.answer = .ok (rSize + sSize) ∧
        outcome.dest.length = max dest.length (rSize + sSize) ∧
        outcome.dest = encoding r ++ encoding s ++ dest.drop (rSize + sSize) := by
  have bounded (count : Nat) (reached : Octets) (path : Enlarges r s dest count reached) :
      count ≤ 2 := by
    have total := path.count_eq given equal
    have most := enlargements_le r s dest.length
    omega
  refine ⟨fun component required capacity refused => ?_, bounded, exists_grows given equal dest,
    fun count outcome grows => ?_⟩
  · have asked : shortfall (encode r s dest).answer = some (required - capacity) := by
      rw [refused]
      rfl
    obtain ⟨positive, _⟩ := (told given equal dest).asked asked
    exact Nat.lt_of_sub_pos positive
  · obtain ⟨reached, path, finished, rfl⟩ := grows.path
    refine ⟨bounded count reached path, ?_⟩
    cases told given equal reached with
    | enlarge asked => cases finished.symm.trans asked
    | overlong component length refused long =>
      have unwritten : ¬ ((∃ size, (encodedSize r).answer = .ok size) ∧
          ∃ size, (encodedSize s).answer = .ok size) := by
        simp only [encodedSize_ok_iff]
        omega
      refine ⟨.inr ⟨component, length, refused⟩, ?_, fun rSize sSize rKnown sKnown => ?_⟩
      · refine iff_of_false (fun accepted => ?_) unwritten
        obtain ⟨size, answer⟩ := accepted
        cases refused.symm.trans answer
      · exact absurd ⟨⟨rSize, rKnown⟩, sSize, sKnown⟩ unwritten
    | written encodable =>
      have rKnown := encodedSize_accepted given encodable.rShort
      have sKnown := encodedSize_accepted encodable.sGiven encodable.sShort
      have answer := encode_ok_iff.mpr ⟨encodable, rfl⟩
      refine ⟨.inl ⟨_, answer⟩, ⟨fun _ => ⟨⟨_, rKnown⟩, _, sKnown⟩, fun _ => ⟨_, answer⟩⟩,
        fun rSize sSize rSame sSame => ?_⟩
      cases rKnown.symm.trans rSame
      cases sKnown.symm.trans sSame
      exact ⟨answer, path.written encodable⟩

theorem growth_exact_from_nothing :
    ([0x80] : Octets) ≠ [] ∧ ([0x80] : Octets).length = ([0x7F] : Octets).length ∧
    (encode [0x80] [0x7F] []).answer = .error (.within .r (.capacityExceeded 4 0)) ∧
    (encode [0x80] [0x7F] [9, 9, 9, 9]).answer = .error (.within .s (.capacityExceeded 3 0)) ∧
    ∃ outcome, Grows [0x80] [0x7F] [] 2 outcome ∧ outcome.answer = .ok 7 ∧
      outcome.dest.length = max 0 7 ∧
      outcome.dest = [0x02, 0x02, 0x00, 0x80] ++ [0x02, 0x01, 0x7F] ++ [] := by
  have given : ([0x80] : Octets) ≠ [] := by decide
  have equal : ([0x80] : Octets).length = ([0x7F] : Octets).length := rfl
  have settled : Grows [0x80] [0x7F] ([] ++ [9, 9, 9, 9] ++ [8, 8, 8]) 0 _ := .settled rfl
  have grows : Grows [0x80] [0x7F] [] 2 _ := .enlarged rfl (.enlarged rfl settled)
  obtain ⟨_, _, _, ends⟩ := growth_exact given equal []
  obtain ⟨_, _, _, exact⟩ := ends 2 _ grows
  exact ⟨given, equal, rfl, rfl, _, grows, exact 4 3 rfl rfl⟩

end DerPair.Pair
