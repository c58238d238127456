import DerPair.Boundary.Session
import DerPair.Proofs.Boundary.Admission

namespace DerPair.Boundary
open Octets

-- What a failing check tells the caller.
def Check.text : Check → String
  | .cell _ | .pointer _ => "A null pointer was passed in where it wasn't expected"
  | .size argument _ => "invalid size parameter " ++ argument.name

def LastFault.text (last : LastFault) : Option String := last.map CallFault.message

theorem Check.message_of_failure {check : Check} (failed : check.failure = some fault) :
    fault.message = check.text := by
  cases check with
  | cell held =>
    cases held with
    | none =>
      obtain rfl : CallFault.nullPointer = fault := by simpa [failure] using failed
      rfl
    | some capacity => simp [failure] at failed
  | pointer memory =>
    cases memory with
    | none =>
      obtain rfl : CallFault.nullPointer = fault := by simpa [failure] using failed
      rfl
    | some octets => simp [failure] at failed
  | size argument count =>
    by_cases fits : count ≤ largestBuffer
    · simp [failure, fits] at failed
    · obtain rfl : CallFault.invalidSize argument = fault := by simpa [failure, fits] using failed
      rfl

-- What a call owes to the codec function behind it. `stored` are the arguments with
-- the buffers as the codec leaves them, `committed` those with the cells set as well.
structure Refines (last : LastFault) (call : κ) (checks : List Check) (codec : Outcome δ α)
    (stored : κ) (committed : α → κ) (next : LastFault) (result : Finished κ) : Prop where
  -- The first check that fails decides, and nothing is touched.
  rejected : ∀ passed check rest fault, checks = passed ++ check :: rest →
    (∀ earlier ∈ passed, earlier.failure = none) → check.failure = some fault →
      result.failure = some fault ∧ next.text = some check.text ∧ result.after = call
  status : (∀ check ∈ checks, check.failure = none) →
    (result.failure = none ↔ ∃ value, codec.answer = .ok value)
  accepted : (∀ check ∈ checks, check.failure = none) → ∀ value, codec.answer = .ok value →
    result.after = committed value ∧ next = last
  refused : (∀ check ∈ checks, check.failure = none) → ∀ fault, codec.answer = .error fault →
    result.after = stored ∧ next.text = some fault.message

-- How a call ends if it stops at its first failing check and otherwise does as the
-- codec does.
def ended (call : κ) (checks : List Check) (codec : Outcome δ α) (stored : κ)
    (committed : α → κ) : Finished κ :=
  match firstFailure checks with
  | some fault => .rejected fault call
  | none =>
    match codec.answer with
    | .error fault => ⟨some (.codec fault), stored, codec.trace⟩
    | .ok value => ⟨none, committed value, codec.trace⟩

theorem refines_of_ended {codec : Outcome δ α} {result : Finished κ} (last : LastFault)
    (ends : result = ended call checks codec stored committed) :
    Refines last call checks codec stored committed (last.record result.failure) result where
  rejected passed check rest fault shape earlier failed := by
    have first : firstFailure checks = some fault :=
      List.findSome?_eq_some_iff.mpr ⟨passed, check, rest, shape, failed, earlier⟩
    rw [ends, ended, first, ← Check.message_of_failure failed]
    exact ⟨rfl, rfl, rfl⟩
  status passed := by
    rw [ends, ended, firstFailure, List.findSome?_eq_none_iff.mpr passed]
    cases answer : codec.answer with
    | error fault => simp
    | ok value => simp
  accepted passed value answer := by
    rw [ends, ended, firstFailure, List.findSome?_eq_none_iff.mpr passed, answer]
    exact ⟨rfl, rfl⟩
  refused passed fault answer := by
    rw [ends, ended, firstFailure, List.findSome?_eq_none_iff.mpr passed, answer]
    exact ⟨rfl, rfl⟩

theorem Pointer.store_eq (pointer : Pointer) (sized : bytes.length = (pointer.slice size).length) :
    pointer.store bytes = pointer.map (bytes ++ ·.drop size) := by
  cases pointer with
  | none => rfl
  | some memory =>
    have cut : memory.drop bytes.length = memory.drop size := by
      simp only [slice, Option.getD_some, List.length_take] at sized
      rcases Nat.le_total size memory.length with inside | beyond
      · rw [sized, Nat.min_eq_left inside]
      · rw [sized, Nat.min_eq_right beyond, List.drop_length, List.drop_of_length_le beyond]
    simp only [store, overwrite, Option.map_some, cut]

-- The codec function behind each call on the slices the call stands for, and the
-- arguments as it leaves them, without and with the cells.
def EncodePair.codec (call : EncodePair) : Outcome Octets Nat :=
  Pair.encode (call.r.slice call.size) (call.s.slice call.size) (call.dest.slice (call.cell.getD 0))

def EncodePair.stored (call : EncodePair) : EncodePair :=
  { call with dest := call.dest.map (call.codec.dest ++ ·.drop (call.cell.getD 0)) }

def EncodePair.committed (call : EncodePair) (written : Nat) : EncodePair :=
  { call.stored with cell := some written }

def DecodeSeparate.codec (call : DecodeSeparate) : Outcome (Octets × Octets) Pair.Decoded :=
  Pair.decodeSeparate (call.der.slice call.size) (call.r.slice (call.rCell.getD 0))
    (call.s.slice (call.sCell.getD 0))

def DecodeSeparate.stored (call : DecodeSeparate) : DecodeSeparate :=
  { call with
    r := call.r.map (call.codec.dest.1 ++ ·.drop (call.rCell.getD 0))
    s := call.s.map (call.codec.dest.2 ++ ·.drop (call.sCell.getD 0)) }

def DecodeSeparate.committed (call : DecodeSeparate) (decoded : Pair.Decoded) : DecodeSeparate :=
  { call.stored with rCell := some decoded.rWidth, sCell := some decoded.sWidth }

def DecodeFixed.codec (call : DecodeFixed) : Outcome Octets Pair.Decoded :=
  Pair.decodeFixed (call.der.slice call.size) (call.rs.slice call.rsSize)

def DecodeFixed.stored (call : DecodeFixed) : DecodeFixed :=
  { call with rs := call.rs.map (call.codec.dest ++ ·.drop call.rsSize) }

theorem EncodePair.stored_eq (call : EncodePair) :
    call.stored = { call with dest := call.dest.store call.codec.dest } := by
  rw [stored, codec, Pointer.store_eq _ (Pair.encode_dest_length _ _ _)]

theorem DecodeSeparate.stored_eq (call : DecodeSeparate) :
    call.stored =
      { call with
        r := call.r.store call.codec.dest.1
        s := call.s.store call.codec.dest.2 } := by
  obtain ⟨rSized, sSized⟩ := Pair.decodeSeparate_dest_length (call.der.slice call.size)
    (call.r.slice (call.rCell.getD 0)) (call.s.slice (call.sCell.getD 0))
  rw [stored, codec, Pointer.store_eq _ rSized, Pointer.store_eq _ sSized]

theorem DecodeFixed.stored_eq (call : DecodeFixed) :
    call.stored = { call with rs := call.rs.store call.codec.dest } := by
  rw [stored, codec, Pointer.store_eq _ (Pair.decodeFixed_dest_length _ _)]

theorem EncodePair.run_eq (call : EncodePair) :
    call.run = ended call call.checks call.codec call.stored call.committed := by
  rw [run, windows_eq, guarded, ended]
  cases firstFailure call.checks with
  | some fault => rfl
  | none =>
    simp only [committed, stored_eq, codec]
    cases (Pair.encode _ _ _).answer <;> rfl

theorem DecodeSeparate.run_eq (call : DecodeSeparate) :
    call.run = ended call call.checks call.codec call.stored call.committed := by
  rw [run, windows_eq, guarded, ended]
  cases firstFailure call.checks with
  | some fault => rfl
  | none =>
    simp only [committed, stored_eq, codec]
    cases (Pair.decodeSeparate _ _ _).answer <;> rfl

theorem DecodeFixed.run_eq (call : DecodeFixed) :
    call.run = ended call call.checks call.codec call.stored (fun _ => call.stored) := by
  rw [run, windows_eq, guarded, ended]
  cases firstFailure call.checks with
  | some fault => rfl
  | none =>
    simp only [stored_eq, codec]
    cases (Pair.decodeFixed _ _).answer <;> rfl

-- A call answers as its codec function does once every check has passed. What the
-- checks see first is what the caller hears, and the last fault changes with a failure only.
theorem step_refines_codec (last : LastFault) :
    (∀ call : EncodePair, ∃ next result,
      step last (.encodePair call) = (next, .encodedPair result) ∧
      Refines last call call.checks call.codec call.stored call.committed next result) ∧
    (∀ call : DecodeSeparate, ∃ next result,
      step last (.decodeSeparate call) = (next, .decodedSeparate result) ∧
      Refines last call call.checks call.codec call.stored call.committed next result) ∧
    ∀ call : DecodeFixed, ∃ next result,
      step last (.decodeFixed call) = (next, .decodedFixed result) ∧
      Refines last call call.checks call.codec call.stored (fun _ => call.stored) next result :=
  ⟨fun call => ⟨_, _, rfl, refines_of_ended last call.run_eq⟩,
    fun call => ⟨_, _, rfl, refines_of_ended last call.run_eq⟩,
    fun call => ⟨_, _, rfl, refines_of_ended last call.run_eq⟩⟩

theorem step_refines_codec_r_stored :
    let der : Octets := [0x02, 0x01, 0x01, 0x02, 0x02, 0x00, 0x00]
    let call : DecodeSeparate := ⟨some der, 7, some [9, 9, 7], some 2, some [9], some 1⟩
    let null : DecodeSeparate := ⟨some der, largestBuffer + 1, none, some 2, some [9], some 1⟩
    (∃ next result, step none (.decodeSeparate call) = (next, .decodedSeparate result) ∧
      result.after = { call with r := some [0, 1, 7] } ∧
      next.text = some "s component: non-minimal INTEGER encoding (redundant leading zero byte)") ∧
    ∃ next result, step none (.decodeSeparate null) = (next, .decodedSeparate result) ∧
      result.after = null ∧ next.text = some "invalid size parameter asn1_len" := by
  intro der call null
  constructor
  · obtain ⟨next, result, stepped, refines⟩ := (step_refines_codec none).2.1 call
    have passed : ∀ check ∈ call.checks, check.failure = none := by decide
    have refused : call.codec.answer = .error (.within .s .nonMinimal) := rfl
    obtain ⟨after, text⟩ := refines.refused passed _ refused
    exact ⟨next, result, stepped, after, text⟩
  · obtain ⟨next, result, stepped, refines⟩ := (step_refines_codec none).2.1 null
    have earlier : ∀ check ∈ [Check.cell (some 2), .cell (some 1), .pointer (some der)],
        check.failure = none := by decide
    obtain ⟨_, text, after⟩ := refines.rejected _ (.size .inputSize (largestBuffer + 1)) _ _ rfl
      earlier rfl
    exact ⟨next, result, stepped, after, text⟩

end DerPair.Boundary
