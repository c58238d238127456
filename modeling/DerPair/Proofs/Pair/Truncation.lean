import DerPair.Proofs.Integer.Reader
import DerPair.Proofs.Pair.Faults

namespace DerPair.Pair
open Octets Integer Fault

theorem decodeSeparate_ofInput (refused : (decodeSeparate der rDest sDest).answer = .error fault) :
    ∃ component cause, fault = .within component cause ∧ OfInput cause := by
  rcases decodeSeparate_error_iff.mp refused with ⟨cause, first, same⟩ | ⟨_, cause, _, second, same⟩
  · exact ⟨.r, cause, same, decode_ofInput first⟩
  · exact ⟨.s, cause, same, decode_ofInput second⟩

theorem decodeSeparate_r_cut (cut : Cut der needed) (rDest sDest : Octets) :
    (decodeSeparate der rDest sDest).answer = .error (.within .r (.truncated needed der.length)) ∧
      (decodeSeparate der rDest sDest).dest = (rDest, sDest) := by
  obtain ⟨refused, _⟩ := cut.decode_error rDest
  exact ⟨decodeSeparate_r_refused refused sDest, decodeSeparate_r_kept refused sDest⟩

theorem decodeSeparate_s_cut (acceptable : Acceptable rPayload) (cut : Cut rest needed)
    (fits : byteWidth (value rPayload) ≤ rDest.length) (sDest : Octets) :
    (decodeSeparate (tlv rPayload ++ rest) rDest sDest).answer =
        .error (.within .s (.truncated needed rest.length)) ∧
      (decodeSeparate (tlv rPayload ++ rest) rDest sDest).dest =
        (ofValue rDest.length (value rPayload), sDest) := by
  obtain ⟨refused, kept⟩ := cut.decode_error sDest
  rw [decodeSeparate_r_fits acceptable rest sDest fits]
  dsimp only
  rw [Outcome.within_error refused, Outcome.within_dest, kept]
  exact ⟨rfl, rfl⟩

theorem decodeSeparate_take_r (acceptable : Acceptable rPayload) (rest rDest sDest : Octets)
    (inside : count < 2 + rPayload.length) :
    ∃ needed, count < needed ∧ needed ≤ 2 + rPayload.length ∧
      let short := decodeSeparate ((tlv rPayload ++ rest).take count) rDest sDest
      short.answer = .error (.within .r (.truncated needed count)) ∧ short.dest = (rDest, sDest) := by
  obtain ⟨needed, cut, above, below⟩ := cut_take acceptable rest inside
  have shortened := decodeSeparate_r_cut cut rDest sDest
  rw [take_inside rest inside] at shortened
  exact ⟨needed, above, below, shortened⟩

theorem decodeSeparate_take_s (rAcceptable : Acceptable rPayload)
    (sAcceptable : Acceptable sPayload) (rest sDest : Octets)
    (fits : byteWidth (value rPayload) ≤ rDest.length) (inside : count < 2 + sPayload.length) :
    ∃ needed, count < needed ∧ needed ≤ 2 + sPayload.length ∧
      let short := decodeSeparate
        ((tlv rPayload ++ (tlv sPayload ++ rest)).take (2 + rPayload.length + count)) rDest sDest
      short.answer = .error (.within .s (.truncated needed count)) ∧
        short.dest = (ofValue rDest.length (value rPayload), sDest) := by
  obtain ⟨needed, cut, above, below⟩ := cut_take sAcceptable rest inside
  have shortened := decodeSeparate_s_cut rAcceptable cut fits sDest
  rw [take_inside rest inside, ← List.take_length_add_append, tlv_length] at shortened
  exact ⟨needed, above, below, shortened⟩

theorem decodeSeparate_take (accepted : (decodeSeparate der rDest sDest).answer = .ok decoded) :
    ∃ r, (Integer.decode der rDest).answer = .ok r ∧ r.consumed < decoded.consumed ∧
      ∀ count, count < decoded.consumed →
        let short := decodeSeparate (der.take count) rDest sDest
        (count < r.consumed → ∃ needed, count < needed ∧ needed ≤ r.consumed ∧
          short.answer = .error (.within .r (.truncated needed count)) ∧
          short.dest = (rDest, sDest)) ∧
        (r.consumed ≤ count → ∃ needed, count - r.consumed < needed ∧
          needed ≤ decoded.consumed - r.consumed ∧
          short.answer = .error (.within .s (.truncated needed (count - r.consumed))) ∧
          short.dest = ((Integer.decode der rDest).dest, sDest)) := by
  obtain ⟨rPayload, sPayload, rest, rAcceptable, sAcceptable, rfl, rFits, sFits, rfl⟩ :=
    decodeSeparate_ok_iff.mp accepted
  have read := decode_fits rAcceptable (tlv sPayload ++ rest) rFits
  refine ⟨⟨2 + rPayload.length, byteWidth (value rPayload)⟩, by rw [read]; rfl, by dsimp only; omega,
    fun count inside => ⟨fun early => ?_, fun late => ?_⟩⟩
  · exact decodeSeparate_take_r rAcceptable _ rDest sDest early
  · obtain ⟨behind, rfl⟩ := Nat.exists_eq_add_of_le late
    dsimp only at inside ⊢
    rw [read, Nat.add_sub_cancel_left, Nat.add_sub_cancel_left]
    exact decodeSeparate_take_s rAcceptable sAcceptable rest sDest rFits (by omega)

-- An accepted INTEGER is read alike whatever follows it, a shorter input is told how much more
-- to bring, and any other refusal stands whatever follows. So a reader that brings what it is
-- told is sent back twice at most.
theorem truncation_exact :
    (∀ der dest decoded, (Integer.decode der dest).answer = .ok decoded →
      (∀ rest, Integer.decode (der.take decoded.consumed ++ rest) dest = Integer.decode der dest) ∧
      ∀ count, count < decoded.consumed →
        ∃ needed, count < needed ∧ needed ≤ decoded.consumed ∧
          (Integer.decode (der.take count) dest).answer = .error (.truncated needed count) ∧
          (Integer.decode (der.take count) dest).dest = dest) ∧
    (∀ der dest fault, (Integer.decode der dest).answer = .error fault →
      (∀ needed available, fault ≠ .truncated needed available) →
      ∀ rest, Integer.decode (der ++ rest) dest = Integer.decode der dest) ∧
    (∀ source dest,
      (∀ rounds outcome, Reads source dest 0 rounds outcome →
        rounds ≤ 2 ∧ outcome = Integer.decode source dest) ∧
      (shortage (Integer.decode source dest).answer = none ∨ largestInteger ≤ source.length →
        ∃ rounds, Reads source dest 0 rounds (Integer.decode source dest))) ∧
    ∀ der rDest sDest decoded, (decodeSeparate der rDest sDest).answer = .ok decoded →
      ∃ r, (Integer.decode der rDest).answer = .ok r ∧ r.consumed < decoded.consumed ∧
        ∀ count, count < decoded.consumed →
          let short := decodeSeparate (der.take count) rDest sDest
          (count < r.consumed → ∃ needed, count < needed ∧ needed ≤ r.consumed ∧
            short.answer = .error (.within .r (.truncated needed count)) ∧
            short.dest = (rDest, sDest)) ∧
          (r.consumed ≤ count → ∃ needed, count - r.consumed < needed ∧
            needed ≤ decoded.consumed - r.consumed ∧
            short.answer = .error (.within .s (.truncated needed (count - r.consumed))) ∧
            short.dest = ((Integer.decode der rDest).dest, sDest)) := by
  refine ⟨fun der dest decoded => decode_take, fun der dest fault => decode_final,
    fun source dest => ⟨fun rounds outcome reads => ?_, fun long => ?_⟩,
    fun der rDest sDest decoded => decodeSeparate_take⟩
  · exact ⟨reads.rounds_le, reads.outcome_eq⟩
  · rcases long with whole | long
    · exact reads_settled (shortage_eq_none_iff.mp whole) dest
    · exact reads_settled (settled_of_long long) dest

theorem truncation_exact_pair :
    (∃ needed, 2 < needed ∧ needed ≤ 3 ∧
      (Integer.decode [0x02, 0x01] [7]).answer = .error (.truncated needed 2)) ∧
    (Integer.decode [0x30, 0x01, 0x05, 0x63] [7]).answer =
      .error (.unexpectedTag .integer .sequence) ∧
    (∃ rounds, rounds ≤ 2 ∧
      Reads [0x02, 0x02, 0x00, 0x80] [7] 0 rounds (Integer.decode [0x02, 0x02, 0x00, 0x80] [7])) ∧
    ∃ needed, 3 < needed ∧ needed ≤ 4 ∧
      (decodeSeparate [0x02, 0x01, 0x05, 0x02, 0x02, 0x00] [7] [8]).answer =
        .error (.within .s (.truncated needed 3)) ∧
      (decodeSeparate [0x02, 0x01, 0x05, 0x02, 0x02, 0x00] [7] [8]).dest = ([5], [8]) := by
  obtain ⟨accepted, final, reader, pair⟩ := truncation_exact
  have five : (Integer.decode [0x02, 0x01, 0x05, 0x63] [7]).answer = .ok ⟨3, 1⟩ := rfl
  have tagged : (Integer.decode [0x30, 0x01, 0x05] [7]).answer =
      .error (.unexpectedTag .integer .sequence) := rfl
  have both : (decodeSeparate [0x02, 0x01, 0x05, 0x02, 0x02, 0x00, 0x80] [7] [8]).answer =
      .ok ⟨7, 1, 1⟩ := rfl
  refine ⟨?_, ?_, ?_, ?_⟩
  · obtain ⟨needed, above, below, answer, _⟩ := (accepted _ _ _ five).2 2 (by decide)
    exact ⟨needed, above, below, answer⟩
  · exact (congrArg (·.answer) (final _ _ _ tagged (by simp) [0x63])).trans tagged
  · obtain ⟨bounded, exists_rounds⟩ := reader [0x02, 0x02, 0x00, 0x80] [7]
    obtain ⟨rounds, reads⟩ := exists_rounds (.inl rfl)
    exact ⟨rounds, (bounded _ _ reads).1, reads⟩
  · obtain ⟨r, read, _, cut⟩ := pair _ _ _ _ both
    cases read
    exact (cut 6 (by decide)).2 (by decide)

end DerPair.Pair
