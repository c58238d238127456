import DerPair.Proofs.Boundary.Refinement
import DerPair.Proofs.Integer.Destination
import DerPair.Proofs.Pair.Encoding
import DerPair.Proofs.Pair.Decoding

namespace DerPair.Pair
open Octets Integer

theorem encode_again (accepted : (encode r s dest).answer = .ok size) :
    encode r s ((encode r s dest).dest.take size) =
      ⟨(encode r s dest).toTraced, (encode r s dest).dest.take size⟩ := by
  obtain ⟨encodable, rfl⟩ := encode_ok_iff.mp accepted
  have exactRoom : Encodable r s (encoding r ++ encoding s).length :=
    { encodable with room := Nat.le_of_eq List.length_append.symm }
  rw [encode_written accepted, exactRoom.accepted, encodable.accepted]
  simp [overwrite]

theorem encode_size_bounds (accepted : (encode r s dest).answer = .ok size) :
    6 ≤ size ∧ size ≤ dest.length := by
  obtain ⟨encodable, rfl⟩ := encode_ok_iff.mp accepted
  have rFilled := List.length_pos_iff.mpr (content_ne_nil encodable.given)
  have sFilled := List.length_pos_iff.mpr (content_ne_nil encodable.sGiven)
  refine ⟨?_, encodable.room⟩
  simp only [encoding_length]
  omega

theorem decodeSeparate_unpadded (rAcceptable : Acceptable rPayload)
    (sAcceptable : Acceptable sPayload) (rest : Octets)
    (rSized : rDest.length = (magnitude rPayload).length)
    (sSized : sDest.length = (magnitude sPayload).length) :
    let rWidth := (magnitude rPayload).length
    let sWidth := (magnitude sPayload).length
    decodeSeparate (tlv rPayload ++ (tlv sPayload ++ rest)) rDest sDest =
      ⟨.done ⟨2 + rPayload.length + (2 + sPayload.length), rWidth, sWidth⟩
          [.decoded rWidth rWidth (2 + rPayload.length),
            .decoded sWidth sWidth (2 + sPayload.length)],
        (magnitude rPayload, magnitude sPayload)⟩ := by
  rw [← byteWidth_value rAcceptable.given] at rSized
  rw [← byteWidth_value sAcceptable.given] at sSized
  rw [decodeSeparate_fits rAcceptable sAcceptable rest (Nat.le_of_eq rSized.symm)
    (Nat.le_of_eq sSized.symm)]
  rw [rSized, sSized, ← magnitude_eq rAcceptable.given, ← magnitude_eq sAcceptable.given,
    byteWidth_value rAcceptable.given, byteWidth_value sAcceptable.given]

end DerPair.Pair

namespace DerPair.Boundary
open Octets Integer

variable {last : LastFault} {call : κ} {checks : List Check} {codec : Outcome δ α}
  {stored : κ} {committed : α → κ}

theorem ended_accepted (admitted : firstFailure checks = none)
    (answer : codec.answer = .ok result) :
    ended call checks codec stored committed = ⟨none, committed result, codec.trace⟩ := by
  simp only [ended, admitted, answer]

theorem ended_passed (passed : (ended call checks codec stored committed).failure = none) :
    firstFailure checks = none ∧ ∃ result, codec.answer = .ok result := by
  cases admitted : firstFailure checks with
  | some fault =>
    rw [ended, admitted] at passed
    cases passed
  | none =>
    cases answer : codec.answer with
    | error fault =>
      rw [ended, admitted, answer] at passed
      cases passed
    | ok result => exact ⟨rfl, result, rfl⟩

theorem EncodePair.checks_pass_iff {call : EncodePair} : firstFailure call.checks = none ↔
    call.size ≤ largestBuffer ∧
      (∃ capacity, call.cell = some capacity ∧ capacity ≤ largestBuffer) ∧
      call.r ≠ none ∧ call.s ≠ none ∧ ∃ held, call.dest = some held := by
  obtain ⟨r, s, size, dest, cell⟩ := call
  cases r <;> cases s <;> cases dest <;> cases cell <;>
    simp [EncodePair.checks, firstFailure, Check.failure]

theorem DecodeSeparate.checks_pass_iff {call : DecodeSeparate} :
    firstFailure call.checks = none ↔ call.size ≤ largestBuffer ∧
      (∃ capacity, call.rCell = some capacity ∧ capacity ≤ largestBuffer) ∧
      (∃ capacity, call.sCell = some capacity ∧ capacity ≤ largestBuffer) ∧
      call.der ≠ none ∧ (∃ held, call.r = some held) ∧ ∃ held, call.s = some held := by
  obtain ⟨der, size, r, rCell, s, sCell⟩ := call
  cases der <;> cases r <;> cases rCell <;> cases s <;> cases sCell <;>
    simp [DecodeSeparate.checks, firstFailure, Check.failure]

theorem Pointer.le_capacity {pointer : Pointer} (set : cell = some capacity)
    (fits : count ≤ (pointer.slice (cell.getD 0)).length) : count ≤ capacity := by
  rw [set, Option.getD_some, slice, List.length_take] at fits
  exact Nat.le_trans fits (Nat.min_le_left _ _)

theorem EncodePair.codec_again {call : EncodePair} (answer : call.codec.answer = .ok written)
    (front : held.take written = call.codec.dest.take written) :
    ({ call with dest := some held, cell := some written } : EncodePair).codec =
      ⟨call.codec.toTraced, held.take written⟩ := by
  have again := Pair.encode_again answer
  rw [front]
  simp only [codec, Pointer.slice, Option.getD_some] at front ⊢
  rw [front]
  exact again

theorem EncodePair.run_again {call : EncodePair} (passed : call.run.failure = none) :
    ∃ capacity written held, call.cell = some capacity ∧ 6 ≤ written ∧ written ≤ capacity ∧
      call.run.after = { call with dest := some held, cell := some written } ∧
      call.run.after.run = call.run := by
  rw [run_eq] at passed
  obtain ⟨admitted, written, answer⟩ := ended_passed passed
  obtain ⟨sized, ⟨capacity, cell, fits⟩, r, s, memory, dest⟩ := checks_pass_iff.mp admitted
  obtain ⟨least, most⟩ := Pair.encode_size_bounds answer
  have within : written ≤ capacity := Pointer.le_capacity cell most
  let held := call.codec.dest ++ memory.drop capacity
  have front : held.take written = call.codec.dest.take written := by
    rw [← Pair.encode_dest_length (call.r.slice call.size) (call.s.slice call.size)] at most
    exact List.take_append_of_le_length most
  let after : EncodePair := { call with dest := some held, cell := some written }
  have ran : call.run = ⟨none, after, call.codec.trace⟩ := by
    rw [run_eq, ended_accepted admitted answer, committed, stored, dest, cell]
    rfl
  have readmitted : firstFailure after.checks = none :=
    checks_pass_iff.mpr ⟨sized, ⟨written, rfl, Nat.le_trans within fits⟩, r, s, held, rfl⟩
  have again : after.codec = ⟨call.codec.toTraced, held.take written⟩ := codec_again answer front
  have reanswered : after.codec.answer = .ok written := by
    rw [again]
    exact answer
  have kept : after.committed written = after := by
    rw [committed, stored, again]
    simp only [after, Option.map_some, Option.getD_some, List.take_append_drop]
  refine ⟨capacity, written, held, cell, least, within, congrArg Finished.after ran, ?_⟩
  rw [ran]
  dsimp only
  rw [run_eq, ended_accepted readmitted reanswered, kept, again]

namespace DecodeSeparate

-- A call whose cells hold the widths of the two values that its input begins with.
structure Exact (call : DecodeSeparate) (rPayload sPayload rHeld sHeld : Octets) : Prop where
  given : call.der ≠ none
  sized : call.size ≤ largestBuffer
  stream : ∃ rest, call.der.slice call.size = tlv rPayload ++ (tlv sPayload ++ rest)
  rAcceptable : Acceptable rPayload
  sAcceptable : Acceptable sPayload
  r : call.r = some rHeld
  rCell : call.rCell = some (magnitude rPayload).length
  rRoom : (magnitude rPayload).length ≤ rHeld.length
  s : call.s = some sHeld
  sCell : call.sCell = some (magnitude sPayload).length
  sRoom : (magnitude sPayload).length ≤ sHeld.length

variable {call : DecodeSeparate} {rPayload sPayload rHeld sHeld : Octets}

theorem width_fits (acceptable : Acceptable payload) :
    (magnitude payload).length ≤ largestBuffer :=
  Nat.le_trans (magnitude_bounds acceptable).2 (by decide)

theorem Exact.admitted (exact : Exact call rPayload sPayload rHeld sHeld) :
    firstFailure call.checks = none :=
  checks_pass_iff.mpr ⟨exact.sized, ⟨_, exact.rCell, width_fits exact.rAcceptable⟩,
    ⟨_, exact.sCell, width_fits exact.sAcceptable⟩, exact.given, ⟨_, exact.r⟩, _, exact.s⟩

theorem Exact.codec_eq (exact : Exact call rPayload sPayload rHeld sHeld) :
    let rWidth := (magnitude rPayload).length
    let sWidth := (magnitude sPayload).length
    call.codec =
      ⟨.done ⟨2 + rPayload.length + (2 + sPayload.length), rWidth, sWidth⟩
          [.decoded rWidth rWidth (2 + rPayload.length),
            .decoded sWidth sWidth (2 + sPayload.length)],
        (magnitude rPayload, magnitude sPayload)⟩ := by
  obtain ⟨rest, stream⟩ := exact.stream
  have rSized : (call.r.slice (call.rCell.getD 0)).length = (magnitude rPayload).length := by
    simp [exact.r, exact.rCell, Pointer.slice, exact.rRoom]
  have sSized : (call.s.slice (call.sCell.getD 0)).length = (magnitude sPayload).length := by
    simp [exact.s, exact.sCell, Pointer.slice, exact.sRoom]
  rw [codec, stream]
  exact Pair.decodeSeparate_unpadded exact.rAcceptable exact.sAcceptable rest rSized sSized

theorem Exact.run_eq (exact : Exact call rPayload sPayload rHeld sHeld) :
    let rDigits := magnitude rPayload
    let sDigits := magnitude sPayload
    call.run =
      ⟨none,
        { call with
          r := some (rDigits ++ rHeld.drop rDigits.length)
          s := some (sDigits ++ sHeld.drop sDigits.length) },
        [.decoded rDigits.length rDigits.length (2 + rPayload.length),
          .decoded sDigits.length sDigits.length (2 + sPayload.length)]⟩ := by
  have read := exact.codec_eq
  have answer := congrArg (·.answer) read
  rw [DecodeSeparate.run_eq, ended_accepted exact.admitted answer, committed, stored, read,
    exact.r, exact.s, exact.rCell, exact.sCell]
  rfl

theorem Exact.after (exact : Exact call rPayload sPayload rHeld sHeld) :
    Exact call.run.after rPayload sPayload
      (magnitude rPayload ++ rHeld.drop (magnitude rPayload).length)
      (magnitude sPayload ++ sHeld.drop (magnitude sPayload).length) := by
  rw [exact.run_eq]
  exact { exact with
    r := rfl
    s := rfl
    rRoom := by rw [List.length_append]; exact Nat.le_add_right _ _
    sRoom := by rw [List.length_append]; exact Nat.le_add_right _ _ }

theorem Exact.run_again (exact : Exact call rPayload sPayload rHeld sHeld) :
    call.run.after.run = call.run := by
  rw [exact.after.run_eq, exact.run_eq, List.drop_left, List.drop_left]

theorem run_exact (passed : call.run.failure = none) :
    ∃ rCapacity sCapacity rPayload sPayload rHeld sHeld,
      call.rCell = some rCapacity ∧ (magnitude rPayload).length ≤ rCapacity ∧
      call.sCell = some sCapacity ∧ (magnitude sPayload).length ≤ sCapacity ∧
      call.run.after =
        { call with
          r := some rHeld
          rCell := some (magnitude rPayload).length
          s := some sHeld
          sCell := some (magnitude sPayload).length } ∧
      Exact call.run.after rPayload sPayload rHeld sHeld := by
  rw [DecodeSeparate.run_eq] at passed
  obtain ⟨admitted, decoded, answer⟩ := ended_passed passed
  obtain ⟨sized, ⟨rCapacity, rCell, _⟩, ⟨sCapacity, sCell, _⟩, given, ⟨rMemory, r⟩,
    sMemory, s⟩ := checks_pass_iff.mp admitted
  obtain ⟨rPayload, sPayload, rest, rAcceptable, sAcceptable, stream, rWide, sWide, shape⟩ :=
    Pair.decodeSeparate_ok_iff.mp answer
  obtain ⟨rLasts, sLasts⟩ := Pair.decodeSeparate_dest_length (call.der.slice call.size)
    (call.r.slice (call.rCell.getD 0)) (call.s.slice (call.sCell.getD 0))
  rw [byteWidth_value rAcceptable.given] at rWide
  rw [byteWidth_value sAcceptable.given] at sWide
  let rHeld := call.codec.dest.1 ++ rMemory.drop rCapacity
  let sHeld := call.codec.dest.2 ++ sMemory.drop sCapacity
  have after : call.run.after =
      { call with
        r := some rHeld
        rCell := some (magnitude rPayload).length
        s := some sHeld
        sCell := some (magnitude sPayload).length } := by
    rw [DecodeSeparate.run_eq, ended_accepted admitted answer, committed, stored, r, s, rCell,
      sCell, shape, byteWidth_value rAcceptable.given, byteWidth_value sAcceptable.given]
    rfl
  have rRoom : (magnitude rPayload).length ≤ rHeld.length := by
    rw [List.length_append]
    exact Nat.le_add_right_of_le (Nat.le_trans rWide (Nat.le_of_eq rLasts.symm))
  have sRoom : (magnitude sPayload).length ≤ sHeld.length := by
    rw [List.length_append]
    exact Nat.le_add_right_of_le (Nat.le_trans sWide (Nat.le_of_eq sLasts.symm))
  refine ⟨rCapacity, sCapacity, rPayload, sPayload, rHeld, sHeld, rCell,
    Pointer.le_capacity rCell rWide, sCell, Pointer.le_capacity sCell sWide, after, ?_⟩
  rw [after]
  exact
    { given, sized, rAcceptable, sAcceptable, rRoom, sRoom
      stream := ⟨rest, stream⟩
      r := rfl
      rCell := rfl
      s := rfl
      sCell := rfl }

end DecodeSeparate

theorem run_replicate (settled : step last request = (last, reply)) (count : Nat) :
    run last (List.replicate count request) = (last, List.replicate count (last, reply)) := by
  induction count with
  | zero => rfl
  | succ count ih => simp only [List.replicate_succ, run, settled, ih]

theorem run_cons_settled (settled : step last request = (last, reply))
    (ran : run last rest = (last, replies)) :
    run last (request :: rest) = (last, (last, reply) :: replies) := by
  simp only [run, settled, ran]

theorem EncodePair.step_passed {call : EncodePair} (passed : call.run.failure = none) :
    step last (.encodePair call) = (last, .encodedPair call.run) := by
  rw [step, passed]
  rfl

theorem DecodeSeparate.step_passed {call : DecodeSeparate} (passed : call.run.failure = none) :
    step last (.decodeSeparate call) = (last, .decodedSeparate call.run) := by
  rw [step, passed]
  rfl

theorem encodePair_repeated {call : EncodePair} (passed : call.run.failure = none)
    (again : call.run.after.run = call.run) (count : Nat) :
    run last (.encodePair call :: List.replicate count (.encodePair call.run.after)) =
      (last, List.replicate (count + 1) (last, .encodedPair call.run)) := by
  have settled : step last (.encodePair call.run.after) = (last, .encodedPair call.run) := by
    rw [EncodePair.step_passed (by rwa [again]), again]
  exact run_cons_settled (EncodePair.step_passed passed) (run_replicate settled count)

theorem decodeSeparate_repeated {call : DecodeSeparate} (passed : call.run.failure = none)
    (repassed : call.run.after.run.failure = none)
    (again : call.run.after.run.after.run = call.run.after.run) (count : Nat) :
    run last (.decodeSeparate call :: .decodeSeparate call.run.after ::
        List.replicate count (.decodeSeparate call.run.after.run.after)) =
      (last, (last, .decodedSeparate call.run) ::
        List.replicate (count + 1) (last, .decodedSeparate call.run.after.run)) := by
  have settled : step last (.decodeSeparate call.run.after.run.after) =
      (last, .decodedSeparate call.run.after.run) := by
    rw [DecodeSeparate.step_passed (by rwa [again]), again]
  apply run_cons_settled (DecodeSeparate.step_passed passed)
  exact run_cons_settled (DecodeSeparate.step_passed repassed) (run_replicate settled count)

-- The cells that a call leaves are the sizes the same call needs. Encoded once more, a pair
-- changes nothing. Decoded once more, it sheds its zeros, and nothing changes after that.
theorem repetition_exact (last : LastFault) :
    (∀ call : EncodePair, call.run.failure = none →
      ∃ capacity written held,
        call.cell = some capacity ∧ 6 ≤ written ∧ written ≤ capacity ∧
        call.run.after = { call with dest := some held, cell := some written } ∧
        call.run.after.run = call.run ∧
        ∀ count,
          run last (.encodePair call :: List.replicate count (.encodePair call.run.after)) =
            (last, List.replicate (count + 1) (last, .encodedPair call.run))) ∧
    ∀ call : DecodeSeparate, call.run.failure = none →
      ∃ rCapacity sCapacity rPayload sPayload rest rHeld sHeld,
        let first := call.run
        let again := first.after.run
        let rDigits := magnitude rPayload
        let sDigits := magnitude sPayload
        Acceptable rPayload ∧ Acceptable sPayload ∧
        call.der.slice call.size = tlv rPayload ++ (tlv sPayload ++ rest) ∧
        call.rCell = some rCapacity ∧ 1 ≤ rDigits.length ∧ rDigits.length ≤ rCapacity ∧
        call.sCell = some sCapacity ∧ 1 ≤ sDigits.length ∧ sDigits.length ≤ sCapacity ∧
        rDigits.length ≤ rHeld.length ∧ sDigits.length ≤ sHeld.length ∧
        first.after =
          { call with
            r := some rHeld
            rCell := some rDigits.length
            s := some sHeld
            sCell := some sDigits.length } ∧
        again.failure = none ∧
        again.after =
          { first.after with
            r := some (rDigits ++ rHeld.drop rDigits.length)
            s := some (sDigits ++ sHeld.drop sDigits.length) } ∧
        again.after.run = again ∧
        ∀ count,
          run last (.decodeSeparate call :: .decodeSeparate first.after ::
              List.replicate count (.decodeSeparate again.after)) =
            (last, (last, .decodedSeparate first) ::
              List.replicate (count + 1) (last, .decodedSeparate again)) := by
  constructor
  · intro call passed
    obtain ⟨capacity, written, held, cell, least, within, after, again⟩ :=
      EncodePair.run_again passed
    exact ⟨capacity, written, held, cell, least, within, after, again,
      encodePair_repeated passed again⟩
  · intro call passed
    obtain ⟨rCapacity, sCapacity, rPayload, sPayload, rHeld, sHeld, rCell, rWithin, sCell, sWithin,
      after, exact⟩ := DecodeSeparate.run_exact passed
    obtain ⟨rest, stream⟩ := exact.stream
    have same : call.der.slice call.size = tlv rPayload ++ (tlv sPayload ++ rest) := by
      rwa [after] at stream
    have repassed : call.run.after.run.failure = none := by rw [exact.run_eq]
    exact ⟨rCapacity, sCapacity, rPayload, sPayload, rest, rHeld, sHeld, exact.rAcceptable,
      exact.sAcceptable, same, rCell, (magnitude_bounds exact.rAcceptable).1, rWithin, sCell,
      (magnitude_bounds exact.sAcceptable).1, sWithin, exact.rRoom, exact.sRoom, after, repassed,
      congrArg Finished.after exact.run_eq, exact.run_again,
      decodeSeparate_repeated passed repassed exact.run_again⟩

theorem repetition_exact_unpadded :
    let encoded : EncodePair :=
      ⟨some [0x80], some [0], 1, some [9, 9, 9, 9, 9, 9, 9, 9, 9], some 8⟩
    let decoded : DecodeSeparate :=
      ⟨some [0x02, 0x02, 0x00, 0x80, 0x02, 0x01, 0x00], 7, some [9, 9, 9], some 2, some [9, 9],
        some 1⟩
    let first := decoded.run.after
    let second := first.run.after
    encoded.run.failure = none ∧ decoded.run.failure = none ∧
    encoded.run.after = { encoded with
      dest := some [0x02, 0x02, 0x00, 0x80, 0x02, 0x01, 0x00, 9, 9], cell := some 7 } ∧
    run none (.encodePair encoded :: List.replicate 2 (.encodePair encoded.run.after)) =
      (none, List.replicate 3 (none, .encodedPair encoded.run)) ∧
    first = { decoded with r := some [0x00, 0x80, 9], rCell := some 1, s := some [0x00, 9] } ∧
    second = { first with r := some [0x80, 0x80, 9] } ∧
    run none (.decodeSeparate decoded :: .decodeSeparate first ::
        List.replicate 2 (.decodeSeparate second)) =
      (none, (none, .decodedSeparate decoded.run) ::
        List.replicate 3 (none, .decodedSeparate first.run)) := by
  intro encoded decoded first second
  have encodes : encoded.run.failure = none := by decide
  have decodes : decoded.run.failure = none := by decide
  obtain ⟨_, _, _, _, _, _, _, _, encodedRuns⟩ := (repetition_exact none).1 encoded encodes
  obtain ⟨_, _, _, _, _, _, _, _, _, _, _, _, _, _, _, _, _, _, _, _, _, _, decodedRuns⟩ :=
    (repetition_exact none).2 decoded decodes
  exact ⟨encodes, decodes, by decide, encodedRuns 2, by decide, by decide, decodedRuns 2⟩

end DerPair.Boundary
