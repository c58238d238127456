import DerPair.Bounded.Pair
import DerPair.Proofs.Bounded.Encoding
import DerPair.Proofs.Integer.Stream

namespace DerPair.Bounded
open Octets Integer

theorem copyInto_cleared (fits : padding ≤ dest.length) :
    copyInto dest 0 padding (List.replicate padding 0) =
      some (List.replicate padding 0 ++ dest.drop padding) := by
  rw [copyInto_inside (Nat.zero_le _) fits (by simp)]
  simp [splice, overwrite]

theorem copyInto_filled {dest : Octets} (whole : padding + digits.length = dest.length) :
    copyInto (List.replicate padding 0 ++ dest.drop padding) padding dest.length digits =
      some (List.replicate padding 0 ++ digits) := by
  have front : (List.replicate padding (0 : UInt8)).length = padding := List.length_replicate
  have sized : (List.replicate padding 0 ++ dest.drop padding).length = dest.length := by
    rw [List.length_append, front, List.length_drop]
    omega
  rw [copyInto_inside (by omega) (Nat.le_of_eq sized.symm) (by omega), splice,
    List.take_left' front, List.drop_left' front, overwrite, List.drop_drop, whole, List.drop_length,
    List.append_nil]

theorem content_present (tag octet first : UInt8) (present : ¬ rest.length + 1 < octet.toNat) :
    range (tag :: octet :: first :: rest) 2 (2 + octet.toNat) =
      some ((first :: rest).take octet.toNat) := by
  have inside : 2 + octet.toNat ≤ (tag :: octet :: first :: rest).length := by
    simp only [List.length_cons]
    omega
  rw [range_inside (Nat.le_add_right _ _) inside, Nat.add_comm]
  rfl

theorem content_cut (tag octet first : UInt8) (cut : rest.length + 1 < octet.toNat) :
    range (tag :: octet :: first :: rest) 2 (2 + octet.toNat) = none := by
  refine range_past_end ?_
  simp only [List.length_cons]
  omega

theorem decodeInteger_header (octet first : UInt8) (rest dest : Octets)
    (short : octet.toNat ≤ ShortLength.largest) (nonzero : octet.toNat ≠ 0) :
    decodeInteger (Tag.integer.octet :: octet :: first :: rest) dest =
      some (Integer.decode (Tag.integer.octet :: octet :: first :: rest) dest) := by
  have enough : ¬ (Tag.integer.octet :: octet :: first :: rest).length < smallestInteger :=
    header_present _
  have read : ShortLength.read octet = .ok ⟨octet, short⟩ := dif_pos short
  have tagged : ¬ Tag.mk Tag.integer.octet ≠ .integer := fun other => other rfl
  have size := short_size ⟨octet, short⟩
  unfold decodeInteger Integer.decode
  rw [if_neg enough, parse_header octet first rest short nonzero]
  simp only [index, List.getElem?_cons_zero, List.getElem?_cons_succ, Option.bind_eq_bind,
    Option.bind_some, if_neg tagged, read, ShortLength.toNat, if_neg nonzero] at size ⊢
  rw [size]
  simp only [Option.bind_some]
  by_cases cut : rest.length + 1 < octet.toNat
  · rw [content_cut _ _ _ cut, if_pos cut]
    rfl
  · rw [content_present _ _ _ cut, if_neg cut]
    cases stripped : unstuffed ((first :: rest).take octet.toNat) with
    | error cause =>
      simp only [stripped]
      rfl
    | ok digits =>
      simp only [stripped, Except.map, Parsed.store]
      by_cases wide : dest.length < digits.length
      · rw [if_pos wide, if_pos wide]
        rfl
      · have fits := Nat.le_of_not_lt wide
        have whole : dest.length - digits.length + digits.length = dest.length := Nat.sub_add_cancel fits
        simp only [if_neg wide, sub_le fits, copyInto_cleared (Nat.sub_le _ _),
          copyInto_filled whole, Option.bind_some]
        rfl

theorem decodeInteger_eq (der dest : Octets) :
    decodeInteger der dest = some (Integer.decode der dest) := by
  rcases der with _ | ⟨tag, _ | ⟨octet, _ | ⟨first, rest⟩⟩⟩
  · rfl
  · rfl
  · rfl
  · have enough : ¬ (tag :: octet :: first :: rest).length < smallestInteger :=
      header_present _
    by_cases tagged : tag = Tag.integer.octet
    · subst tagged
      by_cases short : octet.toNat ≤ ShortLength.largest
      · by_cases zero : octet.toNat = 0
        · obtain rfl : octet = 0 := UInt8.toNat_inj.mp zero
          unfold decodeInteger
          rw [if_neg enough]
          rfl
        · exact decodeInteger_header octet first rest dest short zero
      · have long : ShortLength.read octet = .error (.longForm octet) := dif_neg short
        unfold decodeInteger
        rw [if_neg enough]
        simp [index, Integer.decode, parse, Tag.integer, long]
    · have other : Tag.mk tag ≠ .integer := fun same => tagged (congrArg Tag.octet same)
      unfold decodeInteger
      rw [if_neg enough]
      simp [index, Integer.decode, parse, other]

theorem consumed_size (first : (Integer.decode der rDest).answer = .ok r)
    (second : (Integer.decode (der.drop r.consumed) sDest).answer = .ok s) :
    add r.consumed s.consumed = some (r.consumed + s.consumed) := by
  have rBound := consumed_bounds first
  have sBound := consumed_bounds second
  refine add_small ?_
  simp only [wordLimit, UInt64.size]
  omega

theorem decodeSeparate_eq (der rDest sDest : Octets) :
    decodeSeparate der rDest sDest = some (Pair.decodeSeparate der rDest sDest) := by
  simp only [decodeSeparate, decodeInteger_eq, Option.bind_eq_bind, Option.bind_some,
    Pair.decodeSeparate]
  cases first : (Integer.decode der rDest).answer with
  | error fault =>
    simp only [Outcome.within_error first]
    rfl
  | ok r =>
    have inside := (consumed_bounds first).2.2
    simp only [Outcome.within_ok first, range_to_end inside, Option.bind_some]
    cases second : (Integer.decode (der.drop r.consumed) sDest).answer with
    | error fault =>
      simp only [Outcome.within_error second]
      rfl
    | ok s =>
      simp only [Outcome.within_ok second, consumed_size first second]
      rfl

theorem decodeFixed_eq (der dest : Octets) :
    decodeFixed der dest = some (Pair.decodeFixed der dest) := by
  have half : dest.length / 2 ≤ dest.length := Nat.div_le_self _ _
  simp only [decodeFixed, split_inside half, decodeSeparate_eq, Option.bind_eq_bind,
    Option.bind_some, Pair.decodeFixed]
  split
  · rfl
  · rfl

end DerPair.Bounded
