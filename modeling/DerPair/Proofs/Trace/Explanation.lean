import DerPair.Signature
import DerPair.Proofs.Integer.Shortest
import DerPair.Proofs.Integer.Sizing

namespace DerPair

-- The fault is the one of the rejection, bare or attributed to components.
def Rejection.Raises (cause : Rejection) (fault : Fault) : Prop :=
  ∃ components, fault = .nest components cause.fault

namespace Traced

-- A refusal that can be traced: the last line is the rejection that was raised.
def Explained (traced : Traced α) : Prop :=
  ∀ fault, traced.answer = .error fault →
    ∃ earlier cause, traced.trace = earlier ++ [.rejected cause] ∧ cause.Raises fault

theorem explained_of_ok {traced : Traced α} (accepted : traced.answer = .ok result) :
    traced.Explained := by
  intro fault failed
  cases accepted.symm.trans failed

theorem explained_refused (cause : Rejection) : (refused cause : Traced α).Explained := by
  intro fault failed
  cases failed
  exact ⟨[], cause, rfl, [], rfl⟩

theorem Explained.map {traced : Traced α} (explained : traced.Explained) (f : α → β) :
    (traced.map f).Explained := by
  intro fault failed
  cases answer : traced.answer with
  | ok result =>
    simp only [Traced.map, answer, Except.map] at failed
    cases failed
  | error inner =>
    simp only [Traced.map, answer, Except.map] at failed
    cases failed
    exact explained fault answer

theorem Explained.rethrown {traced : Traced α} (explained : traced.Explained)
    (failed : traced.answer = .error fault) : Explained (⟨.error fault, traced.trace⟩ : Traced β) := by
  intro other same
  cases same
  exact explained fault failed

theorem Explained.behind {traced : Traced α} (explained : traced.Explained) (lines : List Line) :
    Explained ⟨traced.answer, lines ++ traced.trace⟩ := by
  intro fault failed
  obtain ⟨earlier, cause, shape, raises⟩ := explained fault failed
  exact ⟨lines ++ earlier, cause, by rw [shape, List.append_assoc], raises⟩

theorem silent_explained_iff {answer : Except Fault α} :
    (silent answer).Explained ↔ ∃ result, answer = .ok result := by
  cases answer with
  | ok result => exact ⟨fun _ => ⟨result, rfl⟩, fun _ => explained_of_ok rfl⟩
  | error fault =>
    constructor
    · intro explained
      obtain ⟨earlier, cause, shape, _⟩ := explained fault rfl
      cases earlier <;> cases shape
    · intro accepted
      obtain ⟨result, same⟩ := accepted
      cases same

theorem checked_explained_iff {unsound : Prop} [Decidable unsound] :
    (if unsound then silent (.error fault) else silent (.ok result) : Traced α).Explained ↔
      ¬unsound := by
  split
  · simp [silent_explained_iff, *]
  · simp [silent_explained_iff, *]

theorem checked_trace {unsound : Prop} [Decidable unsound] :
    (if unsound then silent (.error fault) else silent (.ok result) : Traced α).trace = [] := by
  split
  · rfl
  · rfl

end Traced

theorem Outcome.explained_within {outcome : Outcome δ α} (explained : outcome.toTraced.Explained)
    (component : Component) : (outcome.within component).toTraced.Explained := by
  intro fault failed
  cases answer : outcome.answer with
  | ok result => cases (within_ok answer component).symm.trans failed
  | error inner =>
    cases (within_error answer component).symm.trans failed
    obtain ⟨earlier, cause, shape, components, same⟩ := explained inner answer
    exact ⟨earlier, cause, shape, component :: components, by rw [same]; rfl⟩

open Traced Octets

theorem Integer.encode_explained (data dest : Octets) : (encode data dest).toTraced.Explained := by
  unfold encode
  split
  · exact explained_refused _
  · exact explained_of_ok rfl

theorem Integer.decode_explained (der dest : Octets) : (decode der dest).toTraced.Explained := by
  unfold decode
  split
  · exact explained_refused _
  · unfold Parsed.store
    split
    · exact explained_refused _
    · exact explained_of_ok rfl

theorem Integer.ne_nil_of_large (large : 2 ^ 1015 ≤ value data) : data ≠ [] := by
  intro empty
  rw [empty, value, ← lt_bitLength_iff] at large
  cases large

theorem Integer.encodedSize_explained_iff (data : Octets) :
    (encodedSize data).Explained ↔ value data < 2 ^ 1015 := by
  by_cases given : data = []
  · subst given
    exact ⟨fun _ => Nat.lt_of_not_le fun large => ne_nil_of_large large rfl,
      fun _ => explained_refused .nothingToEncode⟩
  · rw [← Nat.not_le, ← content_long_iff given]
    by_cases long : ShortLength.largest < (content data).length
    · rw [encodedSize_long given long, silent_explained_iff]
      simp [long]
    · have accepted := encodedSize_accepted given (Nat.le_of_not_lt long)
      exact ⟨fun _ => long, fun _ => explained_of_ok accepted⟩

theorem Pair.encode_explained (r s dest : Octets) : (encode r s dest).toTraced.Explained := by
  unfold encode
  split
  · exact explained_refused _
  · split
    · exact Outcome.explained_within (explained_refused _) .r
    · split
      · exact Outcome.explained_within (explained_refused _) .s
      · exact explained_of_ok rfl

theorem Pair.decodeSeparate_explained (der rDest sDest : Octets) :
    (decodeSeparate der rDest sDest).toTraced.Explained := by
  unfold decodeSeparate
  dsimp only
  have first := Outcome.explained_within (Integer.decode_explained der rDest) .r
  split
  · exact first.rethrown ‹_›
  · rename_i r _
    have second := Outcome.explained_within (Integer.decode_explained (der.drop r.consumed) sDest) .s
    exact (second.map _).behind _

theorem Pair.decodeFixed_explained (der dest : Octets) :
    (decodeFixed der dest).toTraced.Explained := by
  unfold decodeFixed
  split
  · exact explained_refused _
  · exact decodeSeparate_explained _ _ _

theorem Signature.ofDer_explained (curve : Curve) (der : Octets) : (ofDer curve der).Explained := by
  unfold ofDer
  dsimp only
  split
  · exact (Pair.decodeFixed_explained _ _).rethrown ‹_›
  · split
    · exact (explained_refused (.bytesLeftOver _)).behind _
    · exact explained_of_ok rfl

theorem Signature.toDer_explained (signature : Signature) : signature.toDer.Explained :=
  (Pair.encode_explained _ _ _).map _

theorem Signature.ofComponents_explained_iff (r s : Octets) :
    (ofComponents r s).Explained ↔ r ≠ [] ∧ r.length = s.length := by
  rw [ofComponents, checked_explained_iff]
  simp

theorem Signature.ofFixed_explained_iff (rs : Octets) :
    (ofFixed rs).Explained ↔ rs ≠ [] ∧ rs.length % 2 = 0 := by
  rw [ofFixed, checked_explained_iff]
  simp

-- Every call on buffers, and every reading or writing of a signature, ends a refusal with
-- its line. Three refusals leave no line at all: the length limit in the size query, and
-- the widths in both constructors from components.
theorem refusals_explained_exact (data der dest r s rDest sDest rs : Octets) (curve : Curve)
    (signature : Signature) :
    (Integer.encode data dest).toTraced.Explained ∧
    (Integer.decode der dest).toTraced.Explained ∧
    (Pair.encode r s dest).toTraced.Explained ∧
    (Pair.decodeSeparate der rDest sDest).toTraced.Explained ∧
    (Pair.decodeFixed der dest).toTraced.Explained ∧
    (Signature.ofDer curve der).Explained ∧
    signature.toDer.Explained ∧
    ((Integer.encodedSize data).Explained ↔ value data < 2 ^ 1015) ∧
    (2 ^ 1015 ≤ value data → Integer.encodedSize data =
      .silent (.error (.longFormLength (bitLength (value data) / 8 + 1)))) ∧
    ((Signature.ofComponents r s).Explained ↔ r ≠ [] ∧ r.length = s.length) ∧
    (Signature.ofComponents r s).trace = [] ∧
    ((Signature.ofFixed rs).Explained ↔ rs ≠ [] ∧ rs.length % 2 = 0) ∧
    (Signature.ofFixed rs).trace = [] := by
  refine ⟨Integer.encode_explained _ _, Integer.decode_explained _ _, Pair.encode_explained _ _ _,
    Pair.decodeSeparate_explained _ _ _, Pair.decodeFixed_explained _ _,
    Signature.ofDer_explained _ _, Signature.toDer_explained _,
    Integer.encodedSize_explained_iff data, fun large => ?_,
    Signature.ofComponents_explained_iff r s, ?_, Signature.ofFixed_explained_iff rs, ?_⟩
  · have given := Integer.ne_nil_of_large large
    rw [← Integer.content_length given]
    exact Integer.encodedSize_long given ((Integer.content_long_iff given).mpr large)
  · rw [Signature.ofComponents, checked_trace]
  · rw [Signature.ofFixed, checked_trace]

theorem refusals_explained_exact_trailing :
    let result := Signature.ofDer .nistP256 [0x02, 0x01, 0x01, 0x02, 0x01, 0x01, 0x05, 0x00]
    result.answer = .error (.trailing 2) ∧
      result.trace = [.decoded 1 32 3, .decoded 1 32 3, .rejected (.bytesLeftOver 2)] ∧
      ∃ earlier cause, result.trace = earlier ++ [.rejected cause] ∧ cause.Raises (.trailing 2) := by
  obtain ⟨_, _, _, _, _, decoding, _⟩ := refusals_explained_exact []
    [0x02, 0x01, 0x01, 0x02, 0x01, 0x01, 0x05, 0x00] [] [] [] [] [] [] .nistP256 ⟨[], []⟩
  exact ⟨rfl, rfl, decoding _ rfl⟩

theorem refusals_unexplained :
    (Signature.ofComponents [0x01] [0x01, 0x02]).answer = .error .unpairedComponents ∧
      ¬ (Signature.ofComponents [0x01] [0x01, 0x02]).Explained ∧
      (Signature.ofFixed [0x01]).answer = .error .unpairedOctets ∧
      ¬ (Signature.ofFixed [0x01]).Explained ∧
      (Integer.encodedSize (List.replicate 128 0x01)).answer = .error (.longFormLength 128) ∧
      ¬ (Integer.encodedSize (List.replicate 128 0x01)).Explained := by
  have size : (Integer.content (List.replicate 128 0x01)).length = 128 := by decide +kernel
  have unsaid : Integer.encodedSize (List.replicate 128 0x01) =
      .silent (.error (.longFormLength 128)) := by
    rw [Integer.encodedSize_long (by simp) (by rw [size]; decide), size]
  rw [unsaid, silent_explained_iff, Signature.ofComponents_explained_iff,
    Signature.ofFixed_explained_iff]
  exact ⟨rfl, by decide, rfl, by decide, rfl, by simp⟩

end DerPair
