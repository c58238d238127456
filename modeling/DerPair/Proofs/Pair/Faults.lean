import DerPair.Proofs.Pair.Encoding
import DerPair.Proofs.Pair.Decoding

namespace DerPair.Fault

-- The faults of one INTEGER, read or written. No size in them is above the limit.
inductive OfInteger (limit : Nat) : Fault → Prop where
  | emptyInteger : OfInteger limit .emptyInteger
  | truncated (asked : needed ≤ limit) (held : available ≤ limit) :
      OfInteger limit (.truncated needed available)
  | unexpectedTag (found : Tag) : OfInteger limit (.unexpectedTag .integer found)
  | emptyContent : OfInteger limit .emptyContent
  | nonMinimal : OfInteger limit .nonMinimal
  | capacityExceeded (asked : required ≤ limit) (held : capacity ≤ limit) :
      OfInteger limit (.capacityExceeded required capacity)
  | longFormLength (sized : length ≤ limit) : OfInteger limit (.longFormLength length)
  | longFormOctet (octet : UInt8) : OfInteger limit (.longFormOctet octet)

-- The faults of a pair: two of its own, and those of a component under its name.
inductive OfPair (limit : Nat) : Fault → Prop where
  | unequalWidths : OfPair limit .unequalWidths
  | oddDestination : OfPair limit .oddDestination
  | within (component : Component) (cause : OfInteger limit fault) :
      OfPair limit (.within component fault)

end DerPair.Fault

namespace DerPair.Integer
open Octets Fault

theorem refusal_fault (refused : refusal data capacity = some cause)
    (sized : data.length + 3 ≤ limit) (room : capacity ≤ limit) : OfInteger limit cause.fault := by
  have stuffed := content_length_le data
  have total := encoding_length data
  unfold refusal at refused
  split at refused
  · cases refused
    exact .emptyInteger
  · split at refused
    · cases refused
      exact .capacityExceeded (by omega) room
    · split at refused
      · cases refused
        exact .longFormLength (by omega)
      · cases refused

theorem firstFault_mem {reasons : List Objection} (found : firstFault reasons = some fault) :
    ∃ objection ∈ reasons, objection.fault = fault := by
  obtain ⟨objection, first, same⟩ := Option.map_eq_some_iff.mp found
  exact ⟨objection, List.mem_of_find?_eq_some first, same⟩

theorem announced_width (octet : UInt8) (bytes : Octets) :
    byteWidth (value (bytes.take octet.toNat)) ≤ 255 := by
  have announced := octet.toNat_lt
  by_cases given : bytes.take octet.toNat = []
  · rw [given, value, byteWidth_eq_one (by decide)]
    decide
  · have width := byteWidth_le_length given
    rw [List.length_take] at width
    omega

theorem objection_fault (member : objection ∈ objections der capacity)
    (sized : der.length ≤ limit) (room : capacity ≤ limit) (large : 257 ≤ limit) :
    OfInteger limit objection.fault := by
  have announced := (der.getD 1 0).toNat_lt
  have width := announced_width (der.getD 1 0) (der.drop 2)
  simp only [objections, List.mem_cons, List.not_mem_nil, or_false] at member
  rcases member with same | same | same | same | same | same | same
  · rw [same]
    refine .truncated ?_ sized
    simp only [smallestInteger]
    omega
  · rw [same]
    exact .unexpectedTag _
  · rw [same]
    exact .longFormOctet _
  · rw [same]
    exact .emptyContent
  · rw [same]
    exact .truncated (by omega) sized
  · rw [same]
    exact .nonMinimal
  · rw [same]
    exact .capacityExceeded (by omega) room

theorem decode_fault (refused : (decode der dest).answer = .error fault)
    (sized : der.length ≤ limit) (room : dest.length ≤ limit) (large : 257 ≤ limit) :
    OfInteger limit fault := by
  obtain ⟨objection, member, same⟩ := firstFault_mem (decode_error_iff.mp refused)
  rw [← same]
  exact objection_fault member sized room large

end DerPair.Integer

namespace DerPair.Pair
open Octets Integer Fault

theorem encode_fault (refused : (encode r s dest).answer = .error fault)
    (rSized : r.length + 3 ≤ limit) (sSized : s.length + 3 ≤ limit) (room : dest.length ≤ limit) :
    OfPair limit fault := by
  rcases encode_cases r s dest with
    ⟨_, shape⟩ | ⟨cause, first, shape⟩ | ⟨cause, _, second, shape⟩ | encodable
  · rw [shape] at refused
    cases refused
    exact .unequalWidths
  · rw [shape] at refused
    cases refused
    exact .within .r (Integer.refusal_fault first rSized room)
  · rw [shape] at refused
    cases refused
    exact .within .s (Integer.refusal_fault second sSized (by omega))
  · rw [encodable.accepted] at refused
    cases refused

theorem decodeSeparate_error_iff : (decodeSeparate der rDest sDest).answer = .error fault ↔
    (∃ cause, (Integer.decode der rDest).answer = .error cause ∧ fault = .within .r cause) ∨
    ∃ r cause, (Integer.decode der rDest).answer = .ok r ∧
      (Integer.decode (der.drop r.consumed) sDest).answer = .error cause ∧
      fault = .within .s cause := by
  cases first : (Integer.decode der rDest).answer with
  | error cause =>
    rw [decodeSeparate_r_refused first]
    simp [eq_comm]
  | ok r =>
    cases second : (Integer.decode (der.drop r.consumed) sDest).answer with
    | error cause =>
      simp [decodeSeparate, Outcome.within_ok first, Outcome.within_error second, Except.map, second,
        eq_comm]
    | ok s =>
      simp [decodeSeparate, Outcome.within_ok first, Outcome.within_ok second, Except.map, second]

theorem decodeSeparate_s_kept (accepted : (Integer.decode der rDest).answer = .ok r)
    (refused : (Integer.decode (der.drop r.consumed) sDest).answer = .error cause) :
    (decodeSeparate der rDest sDest).dest = ((Integer.decode der rDest).dest, sDest) := by
  simp only [decodeSeparate, Outcome.within_ok accepted, Outcome.within_dest,
    decode_unchanged refused]

theorem decodeSeparate_refused (refused : (decodeSeparate der rDest sDest).answer = .error fault) :
    (∃ cause, fault = .within .r cause ∧
      (decodeSeparate der rDest sDest).dest = (rDest, sDest)) ∨
    ∃ cause payload rest, fault = .within .s cause ∧ Acceptable payload ∧
      der = tlv payload ++ rest ∧ (magnitude payload).length ≤ rDest.length ∧
      (decodeSeparate der rDest sDest).dest = (padded rDest.length (magnitude payload), sDest) := by
  rcases decodeSeparate_error_iff.mp refused with ⟨cause, first, same⟩ | ⟨r, cause, first, second, same⟩
  · exact .inl ⟨cause, same, decodeSeparate_r_kept first sDest⟩
  · have kept := decodeSeparate_s_kept first second
    obtain ⟨payload, rest, acceptable, shape, fits, _⟩ := decode_ok_iff.mp first
    have stored : (Integer.decode der rDest).dest = padded rDest.length (magnitude payload) := by
      rw [shape, decode_fits acceptable rest fits, ofValue_magnitude acceptable.given fits]
    rw [stored] at kept
    rw [byteWidth_value acceptable.given] at fits
    exact .inr ⟨cause, payload, rest, same, acceptable, shape, fits, kept⟩

theorem decodeSeparate_fault (refused : (decodeSeparate der rDest sDest).answer = .error fault)
    (sized : der.length ≤ limit) (rRoom : rDest.length ≤ limit) (sRoom : sDest.length ≤ limit)
    (large : 257 ≤ limit) : OfPair limit fault := by
  rcases decodeSeparate_error_iff.mp refused with ⟨cause, first, same⟩ | ⟨r, cause, _, second, same⟩
  · rw [same]
    exact .within .r (Integer.decode_fault first sized rRoom large)
  · have rest : (der.drop r.consumed).length ≤ limit := by
      rw [List.length_drop]
      omega
    rw [same]
    exact .within .s (Integer.decode_fault second rest sRoom large)

theorem decodeFixed_fault (refused : (decodeFixed der dest).answer = .error fault)
    (sized : der.length ≤ limit) (room : dest.length ≤ limit) (large : 257 ≤ limit) :
    OfPair limit fault := by
  unfold decodeFixed at refused
  split at refused
  · cases refused
    exact .oddDestination
  · refine decodeSeparate_fault refused sized ?_ ?_ large
    · rw [List.length_take]
      omega
    · rw [List.length_drop]
      omega

end DerPair.Pair
