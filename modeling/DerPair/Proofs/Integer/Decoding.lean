import DerPair.Integer.Decoding
import DerPair.Proofs.Integer.Content

namespace DerPair.Integer
open Octets

theorem unstuffed_magnitude (plain : magnitude payload = payload) :
    unstuffed payload = .ok payload := by
  cases payload with
  | nil => rfl
  | cons first rest =>
    cases rest with
    | nil => rfl
    | cons second rest => rw [unstuffed, if_neg (magnitude_head plain)]

theorem unstuffed_trimmed (trimmed : ¬ [0, 0] <+: payload) :
    unstuffed payload = .ok (magnitude payload) := by
  rcases trimmed_cases trimmed with plain | ⟨second, rest, nonzero, shape⟩
  · rw [unstuffed_magnitude plain, plain]
  · rw [shape, magnitude_stuffed rest nonzero, unstuffed, if_pos rfl, if_neg nonzero]

theorem unstuffed_redundant (redundant : [0, 0] <+: payload) :
    unstuffed payload = .error .redundantZero := by
  obtain ⟨rest, shape⟩ := redundant
  subst shape
  rfl

theorem firstFault_cons (objection : Objection) (rest : List Objection) :
    firstFault (objection :: rest) =
      if objection.applies then some objection.fault else firstFault rest := by
  unfold firstFault
  cases applies : objection.applies <;> simp [applies]

theorem topBit_octet (octet : UInt8) : topBit octet = decide (ShortLength.largest < octet.toNat) := by
  have order : (0x80 : UInt8) ≤ octet ↔ ShortLength.largest < octet.toNat := UInt8.le_iff_toNat_le
  simp only [topBit, order]

theorem header_present (count : Nat) : ¬ count + 1 + 1 + 1 < smallestInteger := by
  simp only [smallestInteger]
  omega

theorem parse_header (octet : UInt8) (first : UInt8) (rest : Octets)
    (short : octet.toNat ≤ ShortLength.largest) (nonzero : octet.toNat ≠ 0) :
    parse (Tag.integer.octet :: octet :: first :: rest) =
      if rest.length + 1 < octet.toNat then
        .error (.contentPastEnd (2 + octet.toNat) (rest.length + 3))
      else (unstuffed ((first :: rest).take octet.toNat)).map (⟨·, 2 + octet.toNat⟩) := by
  have read : ShortLength.read octet = .ok ⟨octet, short⟩ := dif_pos short
  have tagged : ¬ Tag.mk Tag.integer.octet ≠ .integer := fun other => other rfl
  have cut : (first :: rest).length < octet.toNat ↔
      ((first :: rest).take octet.toNat).length < octet.toNat := by
    simp only [List.length_take]
    omega
  simp only [parse, if_neg tagged, read, ShortLength.toNat, if_neg nonzero, ← cut]
  rfl

theorem objections_header (octet : UInt8) (first : UInt8) (rest : Octets) (capacity : Nat)
    (short : octet.toNat ≤ ShortLength.largest) (nonzero : octet.toNat ≠ 0) :
    firstFault (objections (Tag.integer.octet :: octet :: first :: rest) capacity) =
      let content := (first :: rest).take octet.toNat
      if rest.length + 1 < octet.toNat then some (.truncated (2 + octet.toNat) (rest.length + 3))
      else if [0, 0] <+: content then some .nonMinimal
      else if capacity < byteWidth (value content) then
        some (.capacityExceeded (byteWidth (value content)) capacity)
      else none := by
  have given : octet ≠ 0 := by
    intro empty
    rw [empty] at nonzero
    exact nonzero rfl
  have cut : rest.length + 1 + 1 + 1 < 2 + octet.toNat ↔ rest.length + 1 < octet.toNat := by omega
  have sound : firstFault [] = none := rfl
  simp [objections, firstFault_cons, sound, topBit_octet, Nat.not_lt_of_le short, given, cut,
    header_present]

theorem tlv_header (acceptable : Acceptable payload) (rest : Octets) :
    ∃ octet first tail, octet.toNat = payload.length ∧ octet.toNat ≤ ShortLength.largest ∧
      octet.toNat ≠ 0 ∧ (first :: tail).take octet.toNat = payload ∧
      ¬ tail.length + 1 < octet.toNat ∧
      tlv payload ++ rest = Tag.integer.octet :: octet :: first :: tail := by
  have short := acceptable.short
  have announced : (UInt8.ofNat payload.length).toNat = payload.length := by
    simp only [UInt8.toNat_ofNat', ShortLength.largest] at short ⊢
    omega
  obtain ⟨first, tail, shape⟩ := List.exists_cons_of_ne_nil acceptable.given
  have length : payload.length = tail.length + 1 := by rw [shape]; rfl
  refine ⟨UInt8.ofNat payload.length, first, tail ++ rest, announced, ?_, ?_, ?_, ?_, ?_⟩
  · rwa [announced]
  · rw [announced, length]
    exact Nat.succ_ne_zero _
  · rw [announced, ← List.cons_append, ← shape, List.take_left]
  · rw [announced, length, List.length_append]
    omega
  · have joined : payload ++ rest = first :: (tail ++ rest) := by rw [shape, List.cons_append]
    rw [tlv, List.cons_append, List.cons_append, joined]

theorem parse_tlv (acceptable : Acceptable payload) (rest : Octets) :
    parse (tlv payload ++ rest) = .ok ⟨magnitude payload, 2 + payload.length⟩ := by
  obtain ⟨octet, first, tail, announced, short, nonzero, taken, present, shape⟩ :=
    tlv_header acceptable rest
  rw [shape, parse_header octet first tail short nonzero, if_neg present, taken,
    unstuffed_trimmed acceptable.trimmed, announced]
  rfl

theorem objections_tlv (acceptable : Acceptable payload) (rest : Octets) (capacity : Nat) :
    firstFault (objections (tlv payload ++ rest) capacity) =
      if capacity < byteWidth (value payload) then
        some (.capacityExceeded (byteWidth (value payload)) capacity)
      else none := by
  obtain ⟨octet, first, tail, announced, short, nonzero, taken, present, shape⟩ :=
    tlv_header acceptable rest
  rw [shape, objections_header octet first tail capacity short nonzero]
  simp only [if_neg present, taken, if_neg acceptable.trimmed]

-- Either an input has the shape of the grammar, or it is refused for a reason
-- that no destination changes.
inductive Reading : Octets → Prop where
  | shaped (acceptable : Acceptable payload) (rest : Octets) : Reading (tlv payload ++ rest)
  | refused (cause : Rejection) (read : parse der = .error cause)
      (objected : ∀ capacity, firstFault (objections der capacity) = some cause.fault) : Reading der

theorem reading_announced (octet first : UInt8) (rest : Octets)
    (short : octet.toNat ≤ ShortLength.largest) (nonzero : octet.toNat ≠ 0) :
    Reading (Tag.integer.octet :: octet :: first :: rest) := by
  have read := parse_header octet first rest short nonzero
  have objected := fun capacity => objections_header octet first rest capacity short nonzero
  by_cases cut : rest.length + 1 < octet.toNat
  · refine .refused (.contentPastEnd (2 + octet.toNat) (rest.length + 3)) ?_ fun capacity => ?_
    · rw [read, if_pos cut]
    · simp only [objected, if_pos cut, Rejection.fault]
  · by_cases redundant : [0, 0] <+: (first :: rest).take octet.toNat
    · refine .refused .redundantZero ?_ fun capacity => ?_
      · rw [read, if_neg cut, unstuffed_redundant redundant]
        rfl
      · simp only [objected, if_neg cut, if_pos redundant, Rejection.fault]
    · have size : ((first :: rest).take octet.toNat).length = octet.toNat := by
        simp only [List.length_take, List.length_cons]
        omega
      have acceptable : Acceptable ((first :: rest).take octet.toNat) := by
        refine ⟨fun empty => ?_, by rwa [size], redundant⟩
        rw [empty] at size
        exact nonzero size.symm
      have shaped := Reading.shaped acceptable ((first :: rest).drop octet.toNat)
      rwa [tlv, size, List.cons_append, List.cons_append, List.take_append_drop,
        UInt8.ofNat_toNat] at shaped

theorem reading (der : Octets) : Reading der := by
  rcases der with _ | ⟨tag, _ | ⟨octet, _ | ⟨first, rest⟩⟩⟩
  · exact .refused _ rfl fun _ => rfl
  · exact .refused _ rfl fun _ => rfl
  · exact .refused _ rfl fun _ => rfl
  · by_cases tagged : tag = Tag.integer.octet
    · subst tagged
      by_cases short : octet.toNat ≤ ShortLength.largest
      · by_cases zero : octet.toNat = 0
        · obtain rfl : octet = 0 := UInt8.toNat_inj.mp zero
          refine .refused .noContent rfl fun capacity => ?_
          simp [objections, firstFault_cons, header_present, topBit, Rejection.fault]
        · exact reading_announced octet first rest short zero
      · have long : ShortLength.largest < octet.toNat := Nat.lt_of_not_le short
        refine .refused (.longFormInput (.longForm octet)) ?_ fun capacity => ?_
        · simp [parse, ShortLength.read, short]
        · simp [objections, firstFault_cons, header_present, topBit_octet, long, Rejection.fault,
            Fault.ofLength]
    · have other : Tag.mk tag ≠ .integer := fun same => tagged (congrArg Tag.octet same)
      refine .refused (.wrongTag ⟨tag⟩) ?_ fun capacity => ?_
      · simp [parse, other]
      · simp [objections, firstFault_cons, header_present, tagged, Rejection.fault]

theorem refused_error_iff (cause : Rejection) (dest : δ) :
    (Outcome.refused cause dest : Outcome δ α).answer = .error fault ↔
      some cause.fault = some fault := by
  simp [Outcome.refused, Traced.refused]

theorem decode_refused (read : parse der = .error cause) (dest : Octets) :
    decode der dest = .refused cause dest := by
  simp only [decode, read]

theorem decode_fits (acceptable : Acceptable payload) (rest : Octets)
    (fits : byteWidth (value payload) ≤ dest.length) :
    decode (tlv payload ++ rest) dest =
      ⟨.done ⟨2 + payload.length, byteWidth (value payload)⟩
          [.decoded (byteWidth (value payload)) dest.length (2 + payload.length)],
        ofValue dest.length (value payload)⟩ := by
  have stored := ofValue_magnitude acceptable.given fits
  rw [byteWidth_value acceptable.given] at fits ⊢
  simp only [decode, parse_tlv acceptable, Parsed.store, if_neg (Nat.not_lt_of_le fits), stored]
  rfl

theorem decode_wide (acceptable : Acceptable payload) (rest : Octets)
    (wide : dest.length < byteWidth (value payload)) :
    decode (tlv payload ++ rest) dest =
      .refused (.valueTooWide (byteWidth (value payload)) dest.length) dest := by
  rw [byteWidth_value acceptable.given] at wide ⊢
  simp only [decode, parse_tlv acceptable, Parsed.store, if_pos wide]

theorem decode_ok_iff : (decode der dest).answer = .ok decoded ↔
    ∃ payload rest, Acceptable payload ∧ der = tlv payload ++ rest ∧
      byteWidth (value payload) ≤ dest.length ∧
      decoded = ⟨2 + payload.length, byteWidth (value payload)⟩ := by
  constructor
  · intro accepted
    cases reading der with
    | refused cause read =>
      rw [decode_refused read] at accepted
      cases accepted
    | @shaped payload acceptable rest =>
      refine ⟨payload, rest, acceptable, rfl, ?_⟩
      by_cases fits : byteWidth (value payload) ≤ dest.length
      · rw [decode_fits acceptable rest fits] at accepted
        exact ⟨fits, (Except.ok.inj accepted).symm⟩
      · rw [decode_wide acceptable rest (Nat.lt_of_not_le fits)] at accepted
        cases accepted
  · intro shaped
    obtain ⟨payload, rest, acceptable, shape, fits, same⟩ := shaped
    rw [shape, decode_fits acceptable rest fits, same]
    rfl

theorem decode_error_iff : (decode der dest).answer = .error fault ↔
    firstFault (objections der dest.length) = some fault := by
  cases reading der with
  | refused cause read objected => rw [decode_refused read, objected, refused_error_iff]
  | @shaped payload acceptable rest =>
    rw [objections_tlv acceptable]
    by_cases fits : byteWidth (value payload) ≤ dest.length
    · rw [decode_fits acceptable rest fits, if_neg (Nat.not_lt_of_le fits)]
      constructor
      · intro same
        cases same
      · intro same
        cases same
    · have wide := Nat.lt_of_not_le fits
      rw [decode_wide acceptable rest wide, if_pos wide, refused_error_iff]
      rfl

theorem decode_unchanged (refused : (decode der dest).answer = .error fault) :
    (decode der dest).dest = dest := by
  cases reading der with
  | refused cause read => rw [decode_refused read]; rfl
  | @shaped payload acceptable rest =>
    by_cases fits : byteWidth (value payload) ≤ dest.length
    · rw [decode_fits acceptable rest fits] at refused
      cases refused
    · rw [decode_wide acceptable rest (Nat.lt_of_not_le fits)]
      rfl

-- Acceptance, result and destination for every input, and for every other input
-- the first objection that applies and a destination left alone.
theorem decode_exact (der dest : Octets) :
    let outcome := decode der dest
    ((∃ decoded, outcome.answer = .ok decoded) ↔
      ∃ payload rest, Acceptable payload ∧ der = tlv payload ++ rest ∧
        byteWidth (value payload) ≤ dest.length) ∧
    (∀ payload rest, Acceptable payload → der = tlv payload ++ rest →
      let width := byteWidth (value payload)
      width ≤ dest.length →
        outcome.answer = .ok ⟨2 + payload.length, width⟩ ∧
        outcome.dest = ofValue dest.length (value payload) ∧
        (∀ position, position < dest.length - width → outcome.dest[position]? = some 0) ∧
        ∃ octet, outcome.dest[dest.length - width]? = some octet ∧
          (octet = 0 → value payload = 0)) ∧
    (∀ fault, outcome.answer = .error fault ↔
      firstFault (objections der dest.length) = some fault) ∧
    ∀ fault, outcome.answer = .error fault → outcome.dest = dest := by
  dsimp only
  refine ⟨⟨?_, ?_⟩, ?_, fun fault => decode_error_iff, fun fault refused => decode_unchanged refused⟩
  · intro accepted
    obtain ⟨decoded, accepted⟩ := accepted
    obtain ⟨payload, rest, acceptable, shape, fits, _⟩ := decode_ok_iff.mp accepted
    exact ⟨payload, rest, acceptable, shape, fits⟩
  · intro shaped
    obtain ⟨payload, rest, acceptable, shape, fits⟩ := shaped
    exact ⟨_, decode_ok_iff.mpr ⟨payload, rest, acceptable, shape, fits, rfl⟩⟩
  · intro payload rest acceptable shape fits
    rw [shape, decode_fits acceptable rest fits]
    exact ⟨rfl, rfl, fun position front => ofValue_front acceptable.given fits front,
      ofValue_first acceptable.given fits⟩

theorem decode_exact_stuffed : Acceptable [0x00, 0x80] ∧ byteWidth (value [0x00, 0x80]) ≤ 3 ∧
    (decode [0x02, 0x02, 0x00, 0x80, 0x63] [1, 2, 3]).answer = .ok ⟨4, 1⟩ ∧
    (decode [0x02, 0x02, 0x00, 0x80, 0x63] [1, 2, 3]).dest = [0x00, 0x00, 0x80] := by
  have acceptable : Acceptable [0x00, 0x80] := ⟨by decide, by decide, by decide⟩
  have width : byteWidth (value [0x00, 0x80]) = 1 := byteWidth_eq_one (by decide)
  have fits : byteWidth (value [0x00, 0x80]) ≤ 3 := by
    rw [width]
    decide
  obtain ⟨answer, stored, _⟩ := (decode_exact [0x02, 0x02, 0x00, 0x80, 0x63] [1, 2, 3]).2.1
    [0x00, 0x80] [0x63] acceptable rfl fits
  rw [width] at answer
  exact ⟨acceptable, fits, answer, stored⟩

end DerPair.Integer
