import DerPair.Proofs.Integer.Decoding

namespace DerPair.Fault

-- Faults of octets that are there. No further octet mends them.
inductive Flaw : Fault → Prop where
  | unexpectedTag (found : Tag) : Flaw (.unexpectedTag .integer found)
  | longFormOctet (octet : UInt8) : Flaw (.longFormOctet octet)
  | emptyContent : Flaw .emptyContent
  | nonMinimal : Flaw .nonMinimal

theorem Flaw.lasting (flaw : Flaw fault) :
    (∀ needed available, fault ≠ .truncated needed available) ∧
      ∀ required capacity, fault ≠ .capacityExceeded required capacity := by
  cases flaw <;> exact ⟨nofun, nofun⟩

-- The faults of one INTEGER that is read. The caller's arguments and the length of
-- something to be written are never to blame.
inductive OfInput : Fault → Prop where
  | truncated (short : available < needed) : OfInput (.truncated needed available)
  | flawed (flaw : Flaw fault) : OfInput fault
  | capacityExceeded (wide : capacity < required) : OfInput (.capacityExceeded required capacity)

end DerPair.Fault

namespace DerPair.Integer
open Octets Fault

-- Inputs that end before their INTEGER does, and the size they would have to reach: that
-- of the smallest INTEGER, and behind a sound header the announced one.
inductive Cut : Octets → Nat → Prop where
  | header (short : der.length < smallestInteger) : Cut der smallestInteger
  | content (octet first : UInt8) (rest : Octets) (short : octet.toNat ≤ ShortLength.largest)
      (missing : rest.length + 3 < 2 + octet.toNat) :
      Cut (Tag.integer.octet :: octet :: first :: rest) (2 + octet.toNat)

namespace Cut

theorem missing (cut : Cut der needed) : der.length < needed := by
  cases cut with
  | header short => exact short
  | content octet first rest short missing => exact missing

theorem needed_le (cut : Cut der needed) : needed ≤ largestInteger := by
  cases cut with
  | header short => decide
  | content octet first rest short missing => exact Nat.add_le_add_left short 2

theorem announced (cut : Cut der needed) (opened : smallestInteger ≤ der.length) :
    needed = 2 + (der.getD 1 0).toNat := by
  cases cut with
  | header short => exact absurd short (Nat.not_lt_of_le opened)
  | content octet first rest short missing => rfl

theorem append (cut : Cut der needed) (opened : smallestInteger ≤ der.length) (more : Octets)
    (missing : (der ++ more).length < needed) : Cut (der ++ more) needed := by
  cases cut with
  | header short => exact absurd short (Nat.not_lt_of_le opened)
  | content octet first rest short _ =>
    refine .content octet first (rest ++ more) short ?_
    simpa only [List.cons_append, List.length_cons] using missing

theorem parse_error (cut : Cut der needed) :
    ∃ cause, parse der = .error cause ∧ cause.fault = .truncated needed der.length := by
  cases cut with
  | header short =>
    rcases der with _ | ⟨tag, _ | ⟨octet, _ | ⟨first, rest⟩⟩⟩
    · exact ⟨_, rfl, rfl⟩
    · exact ⟨_, rfl, rfl⟩
    · exact ⟨_, rfl, rfl⟩
    · exact absurd short (header_present rest.length)
  | content octet first rest short missing =>
    have nonzero : octet.toNat ≠ 0 := by omega
    have cut : rest.length + 1 < octet.toNat := by omega
    rw [parse_header octet first rest short nonzero, if_pos cut]
    exact ⟨_, rfl, rfl⟩

theorem decode_error (cut : Cut der needed) (dest : Octets) :
    (decode der dest).answer = .error (.truncated needed der.length) ∧
      (decode der dest).dest = dest := by
  obtain ⟨cause, read, same⟩ := cut.parse_error
  rw [decode_refused read, ← same]
  exact ⟨rfl, rfl⟩

end Cut

theorem parse_announced_refused (octet first : UInt8) (rest : Octets)
    (short : octet.toNat ≤ ShortLength.largest) (nonzero : octet.toNat ≠ 0)
    (read : parse (Tag.integer.octet :: octet :: first :: rest) = .error cause) :
    (∃ needed, Cut (Tag.integer.octet :: octet :: first :: rest) needed) ∨
      Flaw cause.fault ∧
        ∀ more, parse (Tag.integer.octet :: octet :: first :: (rest ++ more)) = .error cause := by
  by_cases missing : rest.length + 1 < octet.toNat
  · exact .inl ⟨_, .content octet first rest short (by omega)⟩
  · have present (more : Octets) : ¬ (rest ++ more).length + 1 < octet.toNat := by
      rw [List.length_append]
      omega
    have same (more : Octets) :
        (first :: (rest ++ more)).take octet.toNat = (first :: rest).take octet.toNat := by
      rw [← List.cons_append]
      exact List.take_append_of_le_length (Nat.le_of_not_lt missing)
    rw [parse_header octet first rest short nonzero, if_neg missing] at read
    by_cases redundant : [0, 0] <+: (first :: rest).take octet.toNat
    · rw [unstuffed_redundant redundant] at read
      cases read
      refine .inr ⟨.nonMinimal, fun more => ?_⟩
      rw [parse_header octet first _ short nonzero, if_neg (present more), same,
        unstuffed_redundant redundant]
      rfl
    · rw [unstuffed_trimmed redundant] at read
      cases read

theorem exists_opened (opened : smallestInteger ≤ der.length) :
    ∃ tag octet first rest, der = tag :: octet :: first :: rest := by
  rcases der with _ | ⟨tag, _ | ⟨octet, _ | ⟨first, rest⟩⟩⟩
  · exact absurd opened (by simp [smallestInteger])
  · exact absurd opened (by simp [smallestInteger])
  · exact absurd opened (by simp [smallestInteger])
  · exact ⟨tag, octet, first, rest, rfl⟩

theorem parse_refused (read : parse der = .error cause) :
    (∃ needed, Cut der needed) ∨
      Flaw cause.fault ∧ ∀ more, parse (der ++ more) = .error cause := by
  by_cases header : der.length < smallestInteger
  · exact .inl ⟨_, .header header⟩
  · obtain ⟨tag, octet, first, rest, rfl⟩ := exists_opened (Nat.le_of_not_lt header)
    by_cases tagged : tag = Tag.integer.octet
    · subst tagged
      by_cases short : octet.toNat ≤ ShortLength.largest
      · by_cases zero : octet.toNat = 0
        · obtain rfl : octet = 0 := UInt8.toNat_inj.mp zero
          cases read
          exact .inr ⟨.emptyContent, fun more => rfl⟩
        · exact parse_announced_refused octet first rest short zero read
      · have long (more : Octets) : parse (Tag.integer.octet :: octet :: first :: more) =
            .error (.longFormInput (.longForm octet)) := by
          simp [parse, ShortLength.read, short]
        cases (long rest).symm.trans read
        exact .inr ⟨.longFormOctet octet, fun more => long _⟩
    · have other (more : Octets) : parse (tag :: octet :: first :: more) =
          .error (.wrongTag ⟨tag⟩) := by
        have named : Tag.mk tag ≠ .integer := fun same => tagged (congrArg Tag.octet same)
        simp [parse, named]
      cases (other rest).symm.trans read
      exact .inr ⟨.unexpectedTag _, fun more => other _⟩

-- What the octets read so far allow: more of them are needed, none will help, or an INTEGER
-- is there in full.
inductive Standing : Octets → Prop where
  | cut (cut : Cut der needed) : Standing der
  | flawed (flaw : Flaw cause.fault) (read : ∀ more, parse (der ++ more) = .error cause) :
      Standing der
  | shaped (acceptable : Acceptable payload) (rest : Octets) : Standing (tlv payload ++ rest)

theorem standing (der : Octets) : Standing der := by
  cases reading der with
  | shaped acceptable rest => exact .shaped acceptable rest
  | refused cause read =>
    rcases parse_refused read with ⟨needed, cut⟩ | ⟨flaw, final⟩
    · exact .cut cut
    · exact .flawed flaw final

theorem decode_flawed (read : ∀ more, parse (der ++ more) = .error cause) (dest : Octets) :
    decode der dest = .refused cause dest := by
  have alone := read []
  rw [List.append_nil] at alone
  exact decode_refused alone dest

theorem decode_shaped (acceptable : Acceptable payload) (rest dest : Octets) :
    (∃ decoded, (decode (tlv payload ++ rest) dest).answer = .ok decoded) ∨
      ∃ required, dest.length < required ∧
        (decode (tlv payload ++ rest) dest).answer =
          .error (.capacityExceeded required dest.length) := by
  by_cases fits : byteWidth (value payload) ≤ dest.length
  · rw [decode_fits acceptable rest fits]
    exact .inl ⟨_, rfl⟩
  · have wide := Nat.lt_of_not_le fits
    rw [decode_wide acceptable rest wide]
    exact .inr ⟨_, wide, rfl⟩

theorem decode_ofInput (refused : (decode der dest).answer = .error fault) : OfInput fault := by
  cases standing der with
  | cut cut =>
    obtain ⟨answer, _⟩ := cut.decode_error dest
    cases answer.symm.trans refused
    exact .truncated cut.missing
  | flawed flaw read =>
    rw [decode_flawed read] at refused
    cases refused
    exact .flawed flaw
  | shaped acceptable rest =>
    rcases decode_shaped acceptable rest dest with ⟨_, accepted⟩ | ⟨required, wide, answer⟩
    · cases accepted.symm.trans refused
    · cases answer.symm.trans refused
      exact .capacityExceeded wide

theorem decode_truncated_iff : (decode der dest).answer = .error (.truncated needed available) ↔
    Cut der needed ∧ available = der.length := by
  constructor
  · intro refused
    cases standing der with
    | cut cut =>
      obtain ⟨answer, _⟩ := cut.decode_error dest
      cases answer.symm.trans refused
      exact ⟨cut, rfl⟩
    | flawed flaw read =>
      rw [decode_flawed read, refused_error_iff, Option.some.injEq] at refused
      exact absurd refused (flaw.lasting.1 _ _)
    | shaped acceptable rest =>
      rcases decode_shaped acceptable rest dest with ⟨_, accepted⟩ | ⟨_, _, answer⟩
      · cases accepted.symm.trans refused
      · cases answer.symm.trans refused
  · intro shaped
    obtain ⟨cut, rfl⟩ := shaped
    exact (cut.decode_error dest).1

-- Nothing is missing: an INTEGER is there in full, or a flaw.
def Settled (der : Octets) : Prop := ∀ needed, ¬ Cut der needed

theorem decode_append (settled : Settled der) (more dest : Octets) :
    decode (der ++ more) dest = decode der dest := by
  cases standing der with
  | cut cut => exact absurd cut (settled _)
  | flawed flaw read =>
    rw [decode_refused (read more), decode_flawed read]
  | @shaped payload acceptable rest =>
    rw [List.append_assoc]
    by_cases fits : byteWidth (value payload) ≤ dest.length
    · rw [decode_fits acceptable _ fits, decode_fits acceptable _ fits]
    · have wide := Nat.lt_of_not_le fits
      rw [decode_wide acceptable _ wide, decode_wide acceptable _ wide]

theorem take_inside (rest : Octets) (inside : count < 2 + payload.length) :
    ((tlv payload ++ rest).take count).length = count := by
  rw [List.length_take, List.length_append, tlv_length]
  omega

theorem cut_take (acceptable : Acceptable payload) (rest : Octets)
    (inside : count < 2 + payload.length) :
    ∃ needed, Cut ((tlv payload ++ rest).take count) needed ∧
      count < needed ∧ needed ≤ 2 + payload.length := by
  have filled := List.length_pos_iff.mpr acceptable.given
  by_cases opened : smallestInteger ≤ count
  · obtain ⟨octet, first, tail, announced, short, _, _, _, shape⟩ := tlv_header acceptable rest
    obtain ⟨behind, rfl⟩ := Nat.exists_eq_add_of_le' opened
    rw [shape]
    refine ⟨_, .content octet first (tail.take behind) short ?_, ?_, ?_⟩
    · rw [List.length_take, announced]
      simp only [smallestInteger] at inside
      omega
    · rwa [announced]
    · exact Nat.add_le_add_left (Nat.le_of_eq announced) 2
  · have header := Nat.lt_of_not_le opened
    refine ⟨_, .header ?_, header, Nat.add_le_add_left filled 2⟩
    rw [List.length_take]
    omega

theorem decode_take (accepted : (decode der dest).answer = .ok decoded) :
    (∀ rest, decode (der.take decoded.consumed ++ rest) dest = decode der dest) ∧
      ∀ count, count < decoded.consumed →
        ∃ needed, count < needed ∧ needed ≤ decoded.consumed ∧
          (decode (der.take count) dest).answer = .error (.truncated needed count) ∧
          (decode (der.take count) dest).dest = dest := by
  obtain ⟨payload, rest, acceptable, rfl, fits, rfl⟩ := decode_ok_iff.mp accepted
  refine ⟨fun other => ?_, fun count inside => ?_⟩
  · dsimp only
    rw [← tlv_length, List.take_left, decode_fits acceptable other fits,
      decode_fits acceptable rest fits]
  · obtain ⟨needed, cut, above, below⟩ := cut_take acceptable rest inside
    have shortened := cut.decode_error dest
    rw [take_inside rest inside] at shortened
    exact ⟨needed, above, below, shortened⟩

theorem decode_final (refused : (decode der dest).answer = .error fault)
    (final : ∀ needed available, fault ≠ .truncated needed available) (more : Octets) :
    decode (der ++ more) dest = decode der dest := by
  refine decode_append (fun needed cut => ?_) more dest
  obtain ⟨answer, _⟩ := cut.decode_error dest
  exact final _ _ (Except.error.inj (refused.symm.trans answer))

end DerPair.Integer
