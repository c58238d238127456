import Mathlib.Data.List.Forall2
import DerPair.Integer.Stream
import DerPair.Proofs.Integer.Sizing
import DerPair.Proofs.Integer.Decoding

namespace DerPair.Integer
open Octets

theorem consumed_bounds (accepted : (decode der dest).answer = .ok decoded) :
    3 ≤ decoded.consumed ∧ decoded.consumed ≤ 129 ∧ decoded.consumed ≤ der.length := by
  obtain ⟨enough, held⟩ := decode_consumed accepted
  obtain ⟨payload, _, acceptable, _, _, same⟩ := decode_ok_iff.mp accepted
  have short := acceptable.short
  simp only [ShortLength.largest] at short
  refine ⟨enough, ?_, held⟩
  rw [same]
  simp only
  omega

theorem Tiles.length_le (tiles : Tiles offset accepted stop) :
    offset + 3 * accepted.length ≤ stop := by
  induction tiles with
  | nil => exact Nat.le_refl _
  | cons accepted large small next ih =>
    simp only [List.length_cons]
    omega

theorem Tiles.all_accepted (tiles : Tiles offset accepted stop) :
    ∀ visit ∈ accepted, ∃ decoded, visit.outcome.answer = .ok decoded := by
  induction tiles with
  | nil =>
    intro visit member
    cases member
  | cons answer large small next ih =>
    intro visit member
    rcases List.mem_cons.mp member with head | tail
    · rw [head]
      exact ⟨_, answer⟩
    · exact ih visit tail

theorem Ends.stop_le (ends : Ends stop limit rest) : stop ≤ limit := by
  cases ends with
  | whole reached => exact Nat.le_of_eq reached
  | refused failed short => exact Nat.le_of_lt short

theorem Ends.length_le (ends : Ends stop limit rest) : rest.length ≤ 1 := by
  cases ends with
  | whole reached => exact Nat.zero_le _
  | refused failed short => exact Nat.le_refl _

theorem Ends.whole_iff (ends : Ends stop limit rest) : stop = limit ↔
    ∀ visit ∈ rest, ∃ decoded, visit.outcome.answer = .ok decoded := by
  cases ends with
  | whole reached => simp [reached]
  | refused failed short => simp [failed, Nat.ne_of_lt short]

theorem walk_tiles (fresh : Octets) (offset : Nat) (der : Octets) :
    ∃ accepted rest stop, walk fresh offset der = accepted ++ rest ∧
      Tiles offset accepted stop ∧ Ends stop (offset + der.length) rest := by
  fun_induction walk fresh offset der with
  | case1 offset => exact ⟨[], [], offset, rfl, .nil, .whole rfl⟩
  | case2 offset der given outcome fault refused =>
    have filled := List.length_pos_iff.mpr given
    exact ⟨[], _, offset, rfl, .nil, .refused refused (by omega)⟩
  | case3 offset der given outcome decoded read ih =>
    obtain ⟨large, small, held⟩ := consumed_bounds read
    obtain ⟨accepted, rest, stop, shape, tiles, ends⟩ := ih
    have limit : offset + decoded.consumed + (der.drop decoded.consumed).length =
        offset + der.length := by
      rw [List.length_drop]
      omega
    rw [limit] at ends
    exact ⟨_ :: accepted, rest, stop, by rw [shape, List.cons_append],
      .cons read large small tiles, ends⟩

theorem walk_outcome (source : Octets) (left : der = source.drop offset)
    (member : visit ∈ walk fresh offset der) :
    visit.outcome = decode (source.drop visit.offset) fresh := by
  fun_induction walk fresh offset der with
  | case1 offset => cases member
  | case2 offset der given outcome fault refused =>
    rw [List.mem_singleton.mp member, ← left]
  | case3 offset der given outcome decoded read ih =>
    rcases List.mem_cons.mp member with head | tail
    · rw [head, ← left]
    · exact ih (by rw [left, List.drop_drop]) tail

-- Octets that some call of the encoder has written for the data.
def Written (data octets : Octets) : Prop :=
  ∃ dest size, (encode data dest).answer = .ok size ∧ octets = (encode data dest).dest.take size

theorem written_iff : Written data octets ↔
    data ≠ [] ∧ (content data).length ≤ ShortLength.largest ∧ octets = encoding data := by
  constructor
  · intro written
    obtain ⟨dest, size, answer, same⟩ := written
    obtain ⟨accepted, total⟩ := encode_ok_iff.mp answer
    obtain ⟨given, _, short⟩ := refusal_eq_none_iff.mp accepted
    rw [encode_accepted accepted, total] at same
    exact ⟨given, short, same.trans List.take_left⟩
  · intro encodable
    obtain ⟨given, short, same⟩ := encodable
    have accepted : refusal data (encoding data).length = none :=
      refusal_eq_none_iff.mpr ⟨given, Nat.le_refl _, short⟩
    refine ⟨encoding data, _, encode_ok_iff.mpr ⟨accepted, rfl⟩, ?_⟩
    rw [encode_accepted accepted, same]
    exact List.take_left.symm

-- A visit that gives back the data: as many octets consumed as the encoder needs for it,
-- and its value in a destination of the given capacity.
structure Recovers (capacity : Nat) (data : Octets) (visit : Visit) : Prop where
  answer : ∃ size, (encodedSize data).answer = .ok size ∧
    visit.outcome.answer = .ok ⟨size, byteWidth (value data)⟩
  stored : visit.outcome.dest = ofValue capacity (value data)

theorem decode_encoding (given : data ≠ [])
    (short : (content data).length ≤ ShortLength.largest) (rest : Octets)
    (fits : byteWidth (value data) ≤ dest.length) :
    (decode (encoding data ++ rest) dest).answer =
        .ok ⟨(encoding data).length, byteWidth (value data)⟩ ∧
      (decode (encoding data ++ rest) dest).dest = ofValue dest.length (value data) := by
  have acceptable := (content_canonical given short).toAcceptable
  rw [encoding_length]
  rw [← value_content data] at fits ⊢
  rw [encoding, decode_fits acceptable rest fits]
  exact ⟨rfl, rfl⟩

theorem walk_recovers (written : List.Forall₂ Written items pieces)
    (fits : ∀ data ∈ items, byteWidth (value data) ≤ fresh.length) (offset : Nat) :
    List.Forall₂ (Recovers fresh.length) items (walk fresh offset pieces.flatten) := by
  induction written generalizing offset with
  | nil =>
    rw [List.flatten_nil, walk_nil]
    exact .nil
  | @cons data octets items pieces first others ih =>
    obtain ⟨given, short, same⟩ := written_iff.mp first
    obtain ⟨answer, stored⟩ :=
      decode_encoding given short pieces.flatten (fits data List.mem_cons_self)
    rw [List.flatten_cons, same, walk_accepted answer, List.drop_left]
    refine .cons ⟨⟨_, encodedSize_accepted given short, answer⟩, stored⟩ (ih ?_ _)
    exact fun other member => fits other (List.mem_cons_of_mem _ member)

-- Any input is walked in few visits that leave no gap up to where they stop. The written
-- forms of integers are walked to their end and give back every one of them.
theorem visits_exact (fresh : Octets) :
    (∀ der, let calls := visits fresh der
      calls.length ≤ der.length / 3 + 1 ∧
      (∀ visit ∈ calls, visit.outcome = decode (der.drop visit.offset) fresh) ∧
      ∃ accepted rest stop, calls = accepted ++ rest ∧ Tiles 0 accepted stop ∧
        Ends stop der.length rest ∧ stop ≤ der.length ∧
        (stop = der.length ↔
          ∀ visit ∈ calls, ∃ decoded, visit.outcome.answer = .ok decoded)) ∧
    ∀ items pieces, List.Forall₂ Written items pieces →
      (∀ data ∈ items, byteWidth (value data) ≤ fresh.length) →
      (visits fresh pieces.flatten).length = items.length ∧
        List.Forall₂ (Recovers fresh.length) items (visits fresh pieces.flatten) := by
  refine ⟨fun der => ?_, fun items pieces written fits => ?_⟩
  · obtain ⟨accepted, rest, stop, shape, tiles, ends⟩ := walk_tiles fresh 0 der
    rw [Nat.zero_add] at ends
    have reached := ends.stop_le
    refine ⟨?_, fun visit => walk_outcome der rfl, accepted, rest, stop, shape, tiles, ends, reached,
      ?_⟩
    · have covered := tiles.length_le
      have last := ends.length_le
      rw [visits, shape, List.length_append]
      omega
    · rw [visits, shape, ends.whole_iff, List.forall_mem_append]
      exact ⟨fun accepted => ⟨tiles.all_accepted, accepted⟩, fun all => all.2⟩
  · have recovers := walk_recovers written fits 0
    exact ⟨recovers.length_eq.symm, recovers⟩

theorem visits_exact_two :
    List.Forall₂ Written [[0x00, 0x05], [0x80]] [[0x02, 0x01, 0x05], [0x02, 0x02, 0x00, 0x80]] ∧
      (visits [9, 9] [0x02, 0x01, 0x05, 0x02, 0x02, 0x00, 0x80]).length = 2 ∧
      List.Forall₂ (Recovers 2) [[0x00, 0x05], [0x80]]
        (visits [9, 9] [0x02, 0x01, 0x05, 0x02, 0x02, 0x00, 0x80]) := by
  have five : Written [0x00, 0x05] [0x02, 0x01, 0x05] := ⟨[9, 9, 9, 9], 3, rfl, rfl⟩
  have stuffed : Written [0x80] [0x02, 0x02, 0x00, 0x80] := ⟨[9, 9, 9, 9], 4, rfl, rfl⟩
  have written : List.Forall₂ Written [[0x00, 0x05], [0x80]]
      [[0x02, 0x01, 0x05], [0x02, 0x02, 0x00, 0x80]] := .cons five (.cons stuffed .nil)
  have fits : ∀ data ∈ [[0x00, 0x05], [0x80]], byteWidth (value data) ≤ 2 := by
    intro data member
    rcases List.mem_pair.mp member with same | same
    · rw [same, byteWidth_eq_one (by decide)]
      decide
    · rw [same, byteWidth_eq_one (by decide)]
      decide
  obtain ⟨length, recovers⟩ := (visits_exact [9, 9]).2 _ _ written fits
  exact ⟨written, length, recovers⟩

end DerPair.Integer
