import DerPair.Proofs.Fault.Message
import DerPair.Proofs.Boundary.Refinement
import DerPair.Proofs.Boundary.History

namespace DerPair.Boundary
open Octets Fault

theorem ended_failure {codec : Outcome δ α}
    (failed : (ended call checks codec stored committed).failure = some fault) :
    (∃ check ∈ checks, check.failure = some fault) ∨
    ((∀ check ∈ checks, check.failure = none) ∧
      ∃ cause, codec.answer = .error cause ∧ fault = .codec cause) := by
  unfold ended at failed
  split at failed
  · rename_i found
    cases failed
    exact .inl (List.exists_of_findSome?_eq_some found)
  · rename_i passed
    refine .inr ⟨List.findSome?_eq_none_iff.mp passed, ?_⟩
    split at failed
    · rename_i cause answer
      exact ⟨cause, answer, (Option.some.inj failed).symm⟩
    · cases failed

theorem Pointer.slice_within {checks : List Check} (passed : ∀ check ∈ checks, check.failure = none)
    (listed : Check.size argument size ∈ checks) (pointer : Pointer) :
    (pointer.slice size).length ≤ largestBuffer := by
  have fits : size ≤ largestBuffer := by simpa [Check.failure] using passed _ listed
  exact Nat.le_trans (List.length_take_le _ _) fits

theorem SizeArgument.name_legible (argument : SizeArgument) : Legible 10 argument.name := by
  cases argument with
  | pairSize => exact (Legible.literal "rs_len").mono (by decide)
  | inputSize => exact (Legible.literal "asn1_len").mono (by decide)
  | capacity => exact (Legible.literal "capacity").mono (by decide)
  | rCapacity => exact Legible.literal "r_capacity"
  | sCapacity => exact Legible.literal "s_capacity"

theorem Check.message_legible {check : Check} (failed : check.failure = some fault) :
    Legible 127 fault.message := by
  rw [Check.message_of_failure failed]
  have null : Legible 127 "A null pointer was passed in where it wasn't expected" :=
    (Legible.literal _ (by simp)).mono (by decide)
  cases check with
  | cell held => exact null
  | pointer memory => exact null
  | size argument count =>
    exact ((Legible.literal "invalid size parameter ").append argument.name_legible).mono (by decide)

theorem ended_legible {codec : Outcome δ α}
    (failed : (ended call checks codec stored committed).failure = some fault)
    (refused : (∀ check ∈ checks, check.failure = none) → ∀ cause, codec.answer = .error cause →
      OfPair (largestBuffer + 3) cause) : Legible 127 fault.message := by
  rcases ended_failure failed with ⟨check, _, found⟩ | ⟨passed, cause, answer, same⟩
  · exact Check.message_legible found
  · rw [same]
    exact (refused passed cause answer).message_legible (by decide)

theorem EncodePair.failure_legible {call : EncodePair} (failed : call.run.failure = some fault) :
    Legible 127 fault.message := by
  rw [run_eq] at failed
  refine ended_legible failed fun passed cause refused => ?_
  have size : Check.size .pairSize call.size ∈ call.checks := by simp [checks]
  have capacity : Check.size .capacity (call.cell.getD 0) ∈ call.checks := by simp [checks]
  have r := call.r.slice_within passed size
  have s := call.s.slice_within passed size
  have dest := call.dest.slice_within passed capacity
  exact Pair.encode_fault refused (by omega) (by omega) (by omega)

theorem DecodeSeparate.failure_legible {call : DecodeSeparate}
    (failed : call.run.failure = some fault) : Legible 127 fault.message := by
  rw [run_eq] at failed
  refine ended_legible failed fun passed cause refused => ?_
  have size : Check.size .inputSize call.size ∈ call.checks := by simp [checks]
  have rCapacity : Check.size .rCapacity (call.rCell.getD 0) ∈ call.checks := by simp [checks]
  have sCapacity : Check.size .sCapacity (call.sCell.getD 0) ∈ call.checks := by simp [checks]
  have der := call.der.slice_within passed size
  have r := call.r.slice_within passed rCapacity
  have s := call.s.slice_within passed sCapacity
  exact Pair.decodeSeparate_fault refused (by omega) (by omega) (by omega) (by decide)

theorem DecodeFixed.failure_legible {call : DecodeFixed}
    (failed : call.run.failure = some fault) : Legible 127 fault.message := by
  rw [run_eq] at failed
  refine ended_legible failed fun passed cause refused => ?_
  have size : Check.size .inputSize call.size ∈ call.checks := by simp [checks]
  have rsSize : Check.size .pairSize call.rsSize ∈ call.checks := by simp [checks]
  have der := call.der.slice_within passed size
  have rs := call.rs.slice_within passed rsSize
  exact Pair.decodeFixed_fault refused (by omega) (by omega) (by decide)

-- What is kept can be shown to a reader with 128 octets of room.
def Showable (last : LastFault) : Prop :=
  ∀ fault, last = some fault → Legible 127 fault.message

theorem none_showable : Showable none := by
  intro fault held
  cases held

theorem record_showable {failure : Option CallFault} (showable : Showable last)
    (failed : ∀ fault, failure = some fault → Legible 127 fault.message) :
    Showable (last.record failure) := by
  cases failure with
  | none => exact showable
  | some cause =>
    intro fault held
    cases held
    exact failed _ rfl

theorem step_showable (showable : Showable last) (request : Request) :
    Showable (step last request).1 := by
  cases request with
  | encodePair call => exact record_showable showable fun _ => EncodePair.failure_legible
  | decodeSeparate call => exact record_showable showable fun _ => DecodeSeparate.failure_legible
  | decodeFixed call => exact record_showable showable fun _ => DecodeFixed.failure_legible
  | messageSize => exact showable
  | readMessage buffer =>
    cases buffer with
    | none =>
      intro fault held
      cases held
      have null : (Check.cell none).failure = some .nullPointer := rfl
      exact Check.message_legible null
    | some memory => exact showable
  | clear => exact none_showable

theorem run_showable (showable : Showable last) (requests : List Request) :
    Showable (run last requests).1 := by
  induction requests generalizing last with
  | nil => exact showable
  | cons request rest ih => exact ih (step_showable showable request)

theorem letter_octet {letter : Char} (low : 0x20 ≤ letter.toNat) (high : letter.toNat ≤ 0x7E) :
    ∃ octet, String.utf8EncodeChar letter = [octet] ∧ 0x20 ≤ octet ∧ octet ≤ 0x7E := by
  have narrow : letter.utf8Size = 1 := by
    rw [Char.utf8Size_eq_one_iff, UInt32.le_iff_toNat_le]
    exact Nat.le_succ_of_le high
  have code : letter.val.toUInt8.toNat = letter.toNat := by
    rw [UInt32.toNat_toUInt8]
    exact Nat.mod_eq_of_lt (by show letter.toNat < _; omega)
  refine ⟨_, String.utf8EncodeChar_eq_singleton narrow, ?_, ?_⟩
  · rw [UInt8.le_iff_toNat_le, code]
    exact low
  · rw [UInt8.le_iff_toNat_le, code]
    exact high

theorem letters_octets {letters : List Char}
    (printable : ∀ letter ∈ letters, 0x20 ≤ letter.toNat ∧ letter.toNat ≤ 0x7E) :
    (letters.flatMap String.utf8EncodeChar).length = letters.length ∧
      ∀ octet ∈ letters.flatMap String.utf8EncodeChar, 0x20 ≤ octet ∧ octet ≤ 0x7E := by
  induction letters with
  | nil => simp
  | cons letter rest ih =>
    obtain ⟨low, high⟩ := printable letter List.mem_cons_self
    obtain ⟨octet, encoded, bounds⟩ := letter_octet low high
    obtain ⟨length, others⟩ := ih fun other member => printable other (List.mem_cons_of_mem _ member)
    rw [List.flatMap_cons, encoded, List.singleton_append]
    refine ⟨congrArg (· + 1) length, fun other member => ?_⟩
    rcases List.mem_cons.mp member with same | later
    · rw [same]
      exact bounds
    · exact others other later

-- Requests that look at the last fault, with memory to write to if they write.
inductive Request.Looks : Request → Prop where
  | messageSize : Looks .messageSize
  | readMessage (buffer : Octets) : Looks (.readMessage (some buffer))

theorem step_of_looks (looks : Request.Looks request) (last : LastFault) :
    (step last request).1 = last := by
  cases looks <;> rfl

theorem run_of_looks (looks : ∀ request ∈ requests, Request.Looks request) (last : LastFault) :
    run last requests = (last, requests.map fun request => (last, (step last request).2)) := by
  induction requests with
  | nil => rfl
  | cons request rest ih =>
    have kept := step_of_looks (looks request List.mem_cons_self) last
    have later := ih fun other member => looks other (List.mem_cons_of_mem _ member)
    simp only [run, kept, later, List.map_cons]

theorem read_fits (fault : CallFault) (room : (utf8 fault.message).length + 1 ≤ buffer.length) :
    step (some fault) (.readMessage (some buffer)) =
      (some fault, .message ((utf8 fault.message).length + 1 : Nat)
        (some (utf8 fault.message ++ 0 :: buffer.drop ((utf8 fault.message).length + 1)))) := by
  have size : (LastFault.terminated fault).length = (utf8 fault.message).length + 1 :=
    List.length_append
  have fits : ¬ buffer.length < (utf8 fault.message).length + 1 := Nat.not_lt_of_le room
  simp only [step, LastFault.copyMessage, size, if_neg fits, overwrite]
  simp only [LastFault.terminated, List.append_assoc, List.singleton_append]

theorem read_narrow (fault : CallFault) (narrow : buffer.length < (utf8 fault.message).length + 1) :
    step (some fault) (.readMessage (some buffer)) =
      (some fault, .message (-1) (some buffer)) := by
  have size : (LastFault.terminated fault).length = (utf8 fault.message).length + 1 :=
    List.length_append
  rw [← size] at narrow
  simp only [step, LastFault.copyMessage, if_pos narrow]

-- Whatever calls came before, the last fault is a short printable text. It is read as a
-- whole or not at all, any number of times.
theorem run_last_readable (requests : List Request) (held : (run none requests).1 = some fault) :
    let message := utf8 fault.message
    let size := message.length + 1
    1 ≤ message.length ∧ message.length ≤ 127 ∧
    (∀ octet ∈ message, 0x20 ≤ octet ∧ octet ≤ 0x7E) ∧
    step (some fault) .messageSize = (some fault, .messageSize size) ∧
    (∀ buffer : Octets, size ≤ buffer.length →
      step (some fault) (.readMessage (some buffer)) =
        (some fault, .message size (some (message ++ 0 :: buffer.drop size)))) ∧
    (∀ buffer : Octets, buffer.length < size →
      step (some fault) (.readMessage (some buffer)) =
        (some fault, .message (-1) (some buffer))) ∧
    ∀ again, (∀ request ∈ again, Request.Looks request) →
      run (some fault) again =
        (some fault, again.map fun request => (some fault, (step (some fault) request).2)) := by
  have legible := run_showable none_showable requests fault held
  obtain ⟨length, octets⟩ := letters_octets legible.printable
  rw [String.length_toList] at length
  have filled := legible.filled
  have short := legible.short
  rw [← length] at filled short
  refine ⟨filled, short, octets, ?_, fun buffer => read_fits fault, fun buffer => read_narrow fault,
    fun again looks => run_of_looks looks _⟩
  simp only [step, LastFault.messageSize, LastFault.terminated, List.length_append,
    List.length_singleton]

theorem run_last_readable_exact_room :
    let call : EncodePair := ⟨some [1], some [1], 1, some [9, 9, 9, 9], some 4⟩
    let fault : CallFault := .codec (.within .s (.capacityExceeded 3 1))
    let message := utf8 fault.message
    (run none [.encodePair call]).1 = some fault ∧ message.length = 69 ∧
    step (some fault) (.readMessage (some (List.replicate 70 0xEE))) =
      (some fault, .message 70 (some (message ++ [0]))) ∧
    step (some fault) (.readMessage (some (List.replicate 69 0xEE))) =
      (some fault, .message (-1) (some (List.replicate 69 0xEE))) := by
  intro call fault message
  have held : (run none [.encodePair call]).1 = some fault := rfl
  have length : message.length = 69 := by decide +kernel
  obtain ⟨_, _, _, _, fits, narrow, _⟩ := run_last_readable [.encodePair call] held
  rw [length] at fits narrow
  have room := fits (List.replicate 70 0xEE) (by decide)
  have short := narrow (List.replicate 69 0xEE) (by decide)
  exact ⟨held, length, room, short⟩

end DerPair.Boundary
