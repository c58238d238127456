import DerPair.Proofs.Signature.Encoding
import DerPair.Proofs.Signature.Language
import DerPair.Proofs.Trace.Explanation

namespace DerPair
open Octets Integer Fault

-- Content whose first octet is there for the sign only. A lone zero octet is a digit.
def Integer.stuffed : Octets → Bool
  | first :: _ :: _ => first == 0
  | _ => false

-- One INTEGER that has reached an output buffer, written there in full or decoded into
-- the whole of its room.
inductive Commit where
  | written (payload : Octets)
  | stored (payload : Octets) (room : Nat)

namespace Commit

-- What the buffer holds of it.
def octets : Commit → Octets
  | .written payload => tlv payload
  | .stored payload room => ofValue room (value payload)

def line : Commit → Line
  | .written payload => .encoded (tlv payload).length (stuffed payload)
  | .stored payload room => .decoded (byteWidth (value payload)) room (tlv payload).length

end Commit

-- An encoder commits all of its INTEGERs or none.
def allOrNone (answer : Except Fault α) (commits : List Commit) : List Commit :=
  match answer with
  | .ok _ => commits
  | .error _ => []

-- How many of its INTEGERs a decoder has committed when it comes upon a fault: one of s is
-- found behind r, and octets left over are found behind all.
def Fault.passed (count : Nat) : Fault → Nat
  | .within .s _ => 1
  | .trailing _ => count
  | _ => 0

def reached (count : Nat) : Except Fault α → Nat
  | .ok _ => count
  | .error fault => fault.passed count

-- INTEGERs from the front of an input, each decoded into the next buffer. Buffers that none
-- is left for keep what they held.
inductive Fills : Octets → List Octets → List Commit → List Octets → Prop where
  | ended : Fills der buffers [] buffers
  | stored (acceptable : Acceptable payload) (fits : byteWidth (value payload) ≤ dest.length)
      (behind : Fills der buffers commits after) :
      Fills (tlv payload ++ der) (dest :: buffers) (.stored payload dest.length :: commits)
        ((Commit.stored payload dest.length).octets :: after)

namespace Traced

-- The trace has a line for each commit, in their order, and behind these one rejection
-- exactly if the call is refused.
structure Mirrors (traced : Traced α) (commits : List Commit) : Prop where
  accepted : ∀ result, traced.answer = .ok result → traced.trace = commits.map Commit.line
  refused : ∀ fault, traced.answer = .error fault →
    ∃ cause, cause.Raises fault ∧ traced.trace = commits.map Commit.line ++ [.rejected cause]

theorem mirrors_done (result : α) (commits : List Commit) :
    (done result (commits.map Commit.line)).Mirrors commits := by
  constructor
  · intro other same
    rfl
  · intro fault failed
    cases failed

theorem mirrors_error (commits : List Commit) (raises : Rejection.Raises cause fault) :
    Mirrors (⟨.error fault, commits.map Commit.line ++ [.rejected cause]⟩ : Traced α) commits := by
  constructor
  · intro result accepted
    cases accepted
  · intro other failed
    cases failed
    exact ⟨cause, raises, rfl⟩

theorem Mirrors.map {traced : Traced α} (mirrors : traced.Mirrors commits) (f : α → β) :
    (traced.map f).Mirrors commits := by
  obtain ⟨answer, trace⟩ := traced
  cases answer with
  | ok result =>
    have same : trace = commits.map Commit.line := mirrors.accepted result rfl
    rw [same]
    exact mirrors_done (f result) commits
  | error fault =>
    obtain ⟨cause, raises, same⟩ := mirrors.refused fault rfl
    dsimp only at same
    rw [same]
    exact mirrors_error commits raises

theorem Mirrors.rethrown {traced : Traced α} (mirrors : traced.Mirrors commits)
    (failed : traced.answer = .error fault) :
    Mirrors (⟨.error fault, traced.trace⟩ : Traced β) commits := by
  obtain ⟨cause, raises, same⟩ := mirrors.refused fault failed
  rw [same]
  exact mirrors_error commits raises

end Traced

theorem allOrNone_map (answer : Except Fault α) (f : α → β) (commits : List Commit) :
    allOrNone (answer.map f) commits = allOrNone answer commits := by
  cases answer <;> rfl

theorem Rejection.raises_self (cause : Rejection) : cause.Raises cause.fault := ⟨[], rfl⟩

theorem Rejection.raises_within (cause : Rejection) (component : Component) :
    cause.Raises (.within component cause.fault) := ⟨[component], rfl⟩

open Traced

theorem Fault.OfInput.none_passed (raised : OfInput fault) (count : Nat) :
    fault.passed count = 0 := by
  cases raised with
  | truncated => rfl
  | flawed flaw => cases flaw <;> rfl
  | capacityExceeded => rfl

theorem Integer.stuffed_content (data : Octets) : stuffed (content data) = needsStuffing data := by
  cases sign : needsStuffing data with
  | true =>
    rw [content_of_stuffed sign]
    cases digits : magnitude data with
    | nil =>
      rw [needsStuffing, digits] at sign
      cases sign
    | cons first rest => rfl
  | false =>
    rw [content_of_plain sign]
    rcases digits : magnitude data with _ | ⟨first, _ | ⟨second, rest⟩⟩
    · rfl
    · rfl
    · simp [stuffed, magnitude_head digits]

theorem Commit.line_written (data : Octets) :
    (written (content data)).line = .encoded (encoding data).length (needsStuffing data) := by
  rw [line, stuffed_content, encoding]

theorem Integer.encode_mirrors (data dest : Octets) :
    let outcome := encode data dest
    let commits := allOrNone outcome.answer [.written (content data)]
    outcome.toTraced.Mirrors commits ∧
      outcome.dest = overwrite dest (commits.flatMap Commit.octets) := by
  cases reason : refusal data dest.length with
  | some cause =>
    rw [encode_refused reason]
    exact ⟨mirrors_error [] cause.raises_self, rfl⟩
  | none =>
    rw [encode_accepted reason, ← Commit.line_written]
    refine ⟨mirrors_done _ [.written (content data)], ?_⟩
    simp [allOrNone, done, Commit.octets, encoding]

theorem Pair.encode_mirrors (r s dest : Octets) :
    let outcome := encode r s dest
    let commits := allOrNone outcome.answer [.written (content r), .written (content s)]
    outcome.toTraced.Mirrors commits ∧
      outcome.dest = overwrite dest (commits.flatMap Commit.octets) := by
  rcases encode_cases r s dest with
    ⟨_, shape⟩ | ⟨cause, _, shape⟩ | ⟨cause, _, _, shape⟩ | encodable
  · rw [shape]
    exact ⟨mirrors_error [] (Rejection.raises_self _), rfl⟩
  · rw [shape]
    exact ⟨mirrors_error [] (cause.raises_within .r), rfl⟩
  · rw [shape]
    exact ⟨mirrors_error [] (cause.raises_within .s), rfl⟩
  · rw [encodable.accepted, ← Commit.line_written, ← Commit.line_written]
    refine ⟨mirrors_done _ [.written (content r), .written (content s)], ?_⟩
    simp [allOrNone, done, Commit.octets, encoding]

theorem Integer.decode_ends (der dest : Octets) :
    (∃ cause, OfInput cause.fault ∧ decode der dest = .refused cause dest) ∨
    ∃ payload rest, Acceptable payload ∧ der = tlv payload ++ rest ∧
      byteWidth (value payload) ≤ dest.length ∧
      let commit := Commit.stored payload dest.length
      decode der dest =
        ⟨.done ⟨(tlv payload).length, byteWidth (value payload)⟩ [commit.line],
          commit.octets⟩ := by
  have refused {cause : Rejection} (read : decode der dest = .refused cause dest) :
      OfInput cause.fault := decode_ofInput (by rw [read]; rfl)
  cases reading der with
  | refused cause read =>
    have ended := decode_refused read dest
    exact .inl ⟨cause, refused ended, ended⟩
  | @shaped payload acceptable rest =>
    by_cases fits : byteWidth (value payload) ≤ dest.length
    · refine .inr ⟨payload, rest, acceptable, rfl, fits, ?_⟩
      simp only [decode_fits acceptable rest fits, Commit.line, Commit.octets, tlv_length]
    · have ended := decode_wide acceptable rest (Nat.lt_of_not_le fits)
      exact .inl ⟨_, refused ended, ended⟩

theorem Integer.decode_mirrors (der dest : Octets) :
    ∃ commits, (decode der dest).toTraced.Mirrors commits ∧
      Fills der [dest] commits [(decode der dest).dest] ∧
      commits.length = reached 1 (decode der dest).answer := by
  rcases decode_ends der dest with
    ⟨cause, raised, read⟩ | ⟨payload, rest, acceptable, rfl, fits, read⟩
  · rw [read]
    exact ⟨[], mirrors_error [] cause.raises_self, .ended, (raised.none_passed 1).symm⟩
  · rw [read]
    exact ⟨_, mirrors_done _ [.stored payload dest.length], .stored acceptable fits .ended, rfl⟩

theorem Pair.decodeSeparate_ends (der rDest sDest : Octets) :
    (∃ cause, decodeSeparate der rDest sDest =
      ⟨⟨.error (.within .r cause.fault), [.rejected cause]⟩, (rDest, sDest)⟩) ∨
    ∃ rPayload behind, Acceptable rPayload ∧ der = tlv rPayload ++ behind ∧
      byteWidth (value rPayload) ≤ rDest.length ∧
      let r := Commit.stored rPayload rDest.length
      ((∃ cause, decodeSeparate der rDest sDest =
        ⟨⟨.error (.within .s cause.fault), [r.line, .rejected cause]⟩, (r.octets, sDest)⟩) ∨
      ∃ sPayload rest, Acceptable sPayload ∧ behind = tlv sPayload ++ rest ∧
        byteWidth (value sPayload) ≤ sDest.length ∧
        let s := Commit.stored sPayload sDest.length
        decodeSeparate der rDest sDest =
          ⟨.done ⟨(tlv rPayload).length + (tlv sPayload).length, byteWidth (value rPayload),
              byteWidth (value sPayload)⟩ [r.line, s.line], (r.octets, s.octets)⟩) := by
  rcases Integer.decode_ends der rDest with
    ⟨cause, _, read⟩ | ⟨rPayload, behind, rAcceptable, rfl, rFits, _⟩
  · refine .inl ⟨cause, ?_⟩
    rw [decodeSeparate, read]
    rfl
  · refine .inr ⟨rPayload, behind, rAcceptable, rfl, rFits, ?_⟩
    simp only [Commit.line, Commit.octets, tlv_length]
    rcases Integer.decode_ends behind sDest with
      ⟨cause, _, read⟩ | ⟨sPayload, rest, sAcceptable, rfl, sFits, _⟩
    · refine .inl ⟨cause, ?_⟩
      rw [decodeSeparate_r_fits rAcceptable behind sDest rFits, read]
      rfl
    · exact .inr ⟨sPayload, rest, sAcceptable, rfl, sFits,
        decodeSeparate_fits rAcceptable sAcceptable rest rFits sFits⟩

theorem Pair.decodeSeparate_mirrors (der rDest sDest : Octets) :
    let outcome := decodeSeparate der rDest sDest
    ∃ commits, outcome.toTraced.Mirrors commits ∧
      Fills der [rDest, sDest] commits [outcome.dest.1, outcome.dest.2] ∧
      commits.length = reached 2 outcome.answer := by
  rcases decodeSeparate_ends der rDest sDest with
    ⟨cause, ended⟩ | ⟨rPayload, _, rAcceptable, rfl, rFits, ⟨cause, ended⟩ |
      ⟨sPayload, rest, sAcceptable, rfl, sFits, ended⟩⟩
  · rw [ended]
    exact ⟨_, mirrors_error [] (cause.raises_within .r), .ended, rfl⟩
  · rw [ended]
    exact ⟨_, mirrors_error [.stored rPayload rDest.length] (cause.raises_within .s),
      .stored rAcceptable rFits .ended, rfl⟩
  · rw [ended]
    exact ⟨_, mirrors_done _ [.stored rPayload rDest.length, .stored sPayload sDest.length],
      .stored rAcceptable rFits (.stored sAcceptable sFits .ended), rfl⟩

theorem Pair.decodeFixed_mirrors (der dest : Octets) :
    let outcome := decodeFixed der dest
    let half := dest.length / 2
    ∃ commits rAfter sAfter, outcome.toTraced.Mirrors commits ∧
      Fills der [dest.take half, dest.drop half] commits [rAfter, sAfter] ∧
      outcome.dest = rAfter ++ sAfter ∧ commits.length = reached 2 outcome.answer := by
  by_cases odd : dest.length % 2 = 1
  · rw [decodeFixed_odd odd]
    exact ⟨[], _, _, mirrors_error [] (Rejection.raises_self _), .ended,
      (List.take_append_drop _ dest).symm, rfl⟩
  · obtain ⟨commits, mirrors, fills, count⟩ := decodeSeparate_mirrors der
      (dest.take (dest.length / 2)) (dest.drop (dest.length / 2))
    rw [decodeFixed_even (by omega)]
    exact ⟨commits, _, _, mirrors, fills, rfl, count⟩

theorem Signature.ofDer_mirrors (curve : Curve) (der : Octets) :
    let result := ofDer curve der
    let zeros := List.replicate curve.fieldSize 0
    ∃ commits rAfter sAfter, result.Mirrors commits ∧
      Fills der [zeros, zeros] commits [rAfter, sAfter] ∧
      (∀ signature, result.answer = .ok signature → signature = ⟨rAfter, sAfter⟩) ∧
      commits.length = reached 2 result.answer := by
  dsimp only
  obtain ⟨commits, mirrors, fills, count⟩ := Pair.decodeSeparate_mirrors der
    (List.replicate curve.fieldSize 0) (List.replicate curve.fieldSize 0)
  rw [ofDer_eq]
  dsimp only
  cases answer : (Pair.decodeSeparate der (List.replicate curve.fieldSize 0)
      (List.replicate curve.fieldSize 0)).answer with
  | error fault =>
    rw [answer] at count
    refine ⟨commits, _, _, mirrors.rethrown answer, fills, ?_, count⟩
    intro signature accepted
    cases accepted
  | ok decoded =>
    rw [answer] at count
    dsimp only
    rw [mirrors.accepted decoded answer]
    by_cases whole : decoded.consumed = der.length
    · rw [if_neg (fun partly => partly whole)]
      refine ⟨commits, _, _, mirrors_done _ commits, fills, ?_, count⟩
      intro signature accepted
      exact (Except.ok.inj accepted).symm
    · rw [if_pos whole]
      refine ⟨commits, _, _, mirrors_error commits (Rejection.raises_self _), fills, ?_, count⟩
      intro signature accepted
      cases accepted

theorem Signature.toDer_mirrors (signature : Signature) :
    let result := signature.toDer
    let commits := allOrNone result.answer
      [.written (content signature.r), .written (content signature.s)]
    result.Mirrors commits ∧
      ∀ der, result.answer = .ok der → der = commits.flatMap Commit.octets := by
  dsimp only
  obtain ⟨mirrors, _⟩ := Pair.encode_mirrors signature.r signature.s
    (List.replicate (Pair.largestSize signature.width) 0)
  constructor
  · have mapped := mirrors.map fun written => (Pair.encode signature.r signature.s
      (List.replicate (Pair.largestSize signature.width) 0)).dest.take written
    rwa [← allOrNone_map] at mapped
  · intro der written
    obtain ⟨_, same⟩ := toDer_ok_iff.mp written
    rw [written, same]
    simp [allOrNone, Commit.octets, encoding]

-- Every line of success stands for an INTEGER in an output buffer and tells its true sizes:
-- what an encoder wrote in full, or what a decoder took off the input and stored. A refusal
-- adds one line behind these.
theorem trace_mirrors_exact :
    (∀ data dest,
      let outcome := Integer.encode data dest
      let commits := allOrNone outcome.answer [.written (content data)]
      outcome.toTraced.Mirrors commits ∧
        outcome.dest = overwrite dest (commits.flatMap Commit.octets)) ∧
    (∀ r s dest,
      let outcome := Pair.encode r s dest
      let commits := allOrNone outcome.answer [.written (content r), .written (content s)]
      outcome.toTraced.Mirrors commits ∧
        outcome.dest = overwrite dest (commits.flatMap Commit.octets)) ∧
    (∀ signature : Signature,
      let result := signature.toDer
      let commits := allOrNone result.answer
        [.written (content signature.r), .written (content signature.s)]
      result.Mirrors commits ∧
        ∀ der, result.answer = .ok der → der = commits.flatMap Commit.octets) ∧
    (∀ der dest,
      let outcome := Integer.decode der dest
      ∃ commits, outcome.toTraced.Mirrors commits ∧
        Fills der [dest] commits [outcome.dest] ∧
        commits.length = reached 1 outcome.answer) ∧
    (∀ der rDest sDest,
      let outcome := Pair.decodeSeparate der rDest sDest
      ∃ commits, outcome.toTraced.Mirrors commits ∧
        Fills der [rDest, sDest] commits [outcome.dest.1, outcome.dest.2] ∧
        commits.length = reached 2 outcome.answer) ∧
    (∀ der dest,
      let outcome := Pair.decodeFixed der dest
      let half := dest.length / 2
      ∃ commits rAfter sAfter, outcome.toTraced.Mirrors commits ∧
        Fills der [dest.take half, dest.drop half] commits [rAfter, sAfter] ∧
        outcome.dest = rAfter ++ sAfter ∧
        commits.length = reached 2 outcome.answer) ∧
    ∀ curve der,
      let result := Signature.ofDer curve der
      let zeros := List.replicate curve.fieldSize 0
      ∃ commits rAfter sAfter, result.Mirrors commits ∧
        Fills der [zeros, zeros] commits [rAfter, sAfter] ∧
        (∀ signature, result.answer = .ok signature → signature = ⟨rAfter, sAfter⟩) ∧
        commits.length = reached 2 result.answer :=
  ⟨Integer.encode_mirrors, Pair.encode_mirrors, Signature.toDer_mirrors, Integer.decode_mirrors,
    Pair.decodeSeparate_mirrors, Pair.decodeFixed_mirrors, Signature.ofDer_mirrors⟩

theorem trace_mirrors_exact_s_cut :
    let outcome := Pair.decodeSeparate [0x02, 0x01, 0x05, 0x02, 0x02, 0x00] [7] [8]
    let result := (Signature.mk [0x80] [0x01]).toDer
    outcome.answer = .error (.within .s (.truncated 4 3)) ∧
    outcome.trace = [.decoded 1 1 3, .rejected (.contentPastEnd 4 3)] ∧
    (∃ commits, outcome.toTraced.Mirrors commits ∧
      Fills [0x02, 0x01, 0x05, 0x02, 0x02, 0x00] [[7], [8]] commits [[5], [8]] ∧
      commits.length = 1) ∧
    result.answer = .ok [0x02, 0x02, 0x00, 0x80, 0x02, 0x01, 0x01] ∧
    result.trace = [.encoded 4 true, .encoded 3 false] ∧
    result.Mirrors [.written (content [0x80]), .written (content [0x01])] ∧
    [0x02, 0x02, 0x00, 0x80, 0x02, 0x01, 0x01] =
      [Commit.written (content [0x80]), .written (content [0x01])].flatMap Commit.octets := by
  intro outcome result
  obtain ⟨_, _, written, _, separate, _⟩ := trace_mirrors_exact
  obtain ⟨mirrors, whole⟩ := written ⟨[0x80], [0x01]⟩
  have accepted : result.answer = .ok [0x02, 0x02, 0x00, 0x80, 0x02, 0x01, 0x01] := rfl
  exact ⟨rfl, rfl, separate [0x02, 0x01, 0x05, 0x02, 0x02, 0x00] [7] [8], accepted, rfl, mirrors,
    whole _ accepted⟩

end DerPair
