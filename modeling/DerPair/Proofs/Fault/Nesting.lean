import DerPair.Proofs.Integer.Sizing
import DerPair.Proofs.Signature.Encoding
import DerPair.Proofs.Signature.Language

namespace DerPair

-- What one attribution puts in front of a message.
def Component.label (component : Component) : String := component.name ++ " component: "

def Component.labels (components : List Component) : String :=
  String.join (components.map Component.label)

namespace Fault
open Component

theorem nest_append (outer inner : List Component) (leaf : Fault) :
    nest (outer ++ inner) leaf = nest outer (nest inner leaf) := List.foldr_append

theorem nest_depth (components : List Component) (leaf : Fault) :
    (nest components leaf).depth = components.length + leaf.depth := by
  induction components with
  | nil => exact (Nat.zero_add _).symm
  | cons component rest ih =>
    change (nest rest leaf).depth + 1 = _
    rw [ih, List.length_cons]
    omega

theorem nest_kind (components : List Component) (leaf : Fault) :
    (nest components leaf).kind = leaf.kind := by
  induction components with
  | nil => rfl
  | cons component rest ih => exact ih

theorem nest_message (components : List Component) (leaf : Fault) :
    (nest components leaf).message = labels components ++ leaf.message := by
  induction components with
  | nil => simp [nest, labels]
  | cons component rest ih =>
    change component.label ++ (nest rest leaf).message = _
    simp [ih, labels, String.append_assoc]

theorem nest_component? (components : List Component) (bare : leaf.depth = 0) :
    (nest components leaf).component? = components.head? := by
  cases components with
  | nil =>
    cases leaf with
    | within component cause => cases bare
    | _ => rfl
  | cons component rest => rfl

theorem nest_causes (components : List Component) (bare : leaf.depth = 0) :
    (nest components leaf).causes.length = components.length ∧
      ∀ position, position < components.length →
        (nest components leaf).causes[position]? =
          some (nest (components.drop (position + 1)) leaf) := by
  induction components with
  | nil =>
    cases leaf with
    | within component cause => cases bare
    | _ => exact ⟨rfl, fun _ inside => absurd inside (Nat.not_lt_zero _)⟩
  | cons component rest ih =>
    obtain ⟨count, entries⟩ := ih
    refine ⟨congrArg (· + 1) count, fun position inside => ?_⟩
    cases position with
    | zero => rfl
    | succ position => exact entries position (Nat.lt_of_succ_lt_succ inside)

theorem exists_nest (fault : Fault) :
    ∃ components leaf, leaf.depth = 0 ∧ fault = nest components leaf := by
  induction fault with
  | within component cause ih =>
    obtain ⟨components, leaf, bare, same⟩ := ih
    exact ⟨component :: components, leaf, bare, congrArg (within component) same⟩
  | _ => exact ⟨[], _, rfl, rfl⟩

-- One attribution at most, and none exactly if the call as a whole is to blame.
structure Attributed (whole : Prop) (fault : Fault) : Prop where
  once : fault.depth ≤ 1
  bare : fault.depth = 0 ↔ whole

theorem attributed_whole (bare : fault.depth = 0) (blamed : whole) : Attributed whole fault :=
  ⟨by omega, iff_of_true bare blamed⟩

theorem attributed_part (named : fault.depth = 1) (cleared : ¬ whole) : Attributed whole fault :=
  ⟨by omega, iff_of_false (by omega) cleared⟩

theorem OfInput.bare (raised : OfInput fault) : fault.depth = 0 := by
  cases raised with
  | truncated => rfl
  | flawed flaw => cases flaw <;> rfl
  | capacityExceeded => rfl

end Fault

theorem Rejection.fault_bare (cause : Rejection) : cause.fault.depth = 0 := by
  cases cause with
  | encodingTooLong cause => cases cause <;> rfl
  | longFormInput cause => cases cause <;> rfl
  | _ => rfl

open Fault

theorem Integer.encode_bare (refused : (encode data dest).answer = .error fault) :
    fault.depth = 0 := by
  obtain ⟨cause, _, rfl⟩ := encode_error_iff.mp refused
  exact cause.fault_bare

theorem Integer.encodedSize_bare (refused : (encodedSize data).answer = .error fault) :
    fault.depth = 0 := by
  rcases encodedSize_error_iff.mp refused with ⟨_, rfl⟩ | ⟨_, _, rfl⟩
  · rfl
  · rfl

theorem Pair.encode_named (equal : r.length = s.length)
    (refused : (encode r s dest).answer = .error fault) : fault.depth = 1 := by
  rcases encode_cases r s dest with
    ⟨unequal, _⟩ | ⟨cause, _, shape⟩ | ⟨cause, _, _, shape⟩ | encodable
  · exact absurd equal unequal
  · rw [shape] at refused
    cases refused
    exact congrArg (· + 1) cause.fault_bare
  · rw [shape] at refused
    cases refused
    exact congrArg (· + 1) cause.fault_bare
  · rw [encodable.accepted] at refused
    cases refused

theorem Pair.encode_attributed (refused : (encode r s dest).answer = .error fault) :
    Attributed (r.length ≠ s.length) fault ∧ Attributed (fault = .unequalWidths) fault := by
  by_cases equal : r.length = s.length
  · have named := encode_named equal refused
    refine ⟨attributed_part named (fun unequal => unequal equal), attributed_part named ?_⟩
    rintro rfl
    cases named
  · rw [encode_unequal equal] at refused
    cases refused
    exact ⟨attributed_whole rfl equal, attributed_whole rfl rfl⟩

theorem Pair.decodeSeparate_named
    (refused : (decodeSeparate der rDest sDest).answer = .error fault) : fault.depth = 1 := by
  obtain ⟨component, cause, rfl, raised⟩ := decodeSeparate_ofInput refused
  exact congrArg (· + 1) raised.bare

theorem Pair.decodeFixed_attributed (refused : (decodeFixed der dest).answer = .error fault) :
    Attributed (dest.length % 2 = 1) fault ∧ Attributed (fault = .oddDestination) fault := by
  by_cases odd : dest.length % 2 = 1
  · rw [decodeFixed_odd odd] at refused
    cases refused
    exact ⟨attributed_whole rfl odd, attributed_whole rfl rfl⟩
  · rw [decodeFixed_even (by omega)] at refused
    have named := decodeSeparate_named refused
    refine ⟨attributed_part named odd, attributed_part named ?_⟩
    rintro rfl
    cases named

theorem Signature.ofDer_attributed (refused : (ofDer curve der).answer = .error fault) :
    Attributed (∃ extra, fault = .trailing extra) fault := by
  rcases ofDer_ofInput refused with ⟨extra, rfl⟩ | ⟨component, cause, rfl, raised⟩
  · exact attributed_whole rfl ⟨extra, rfl⟩
  · refine attributed_part (congrArg (· + 1) raised.bare) ?_
    rintro ⟨extra, same⟩
    cases same

theorem Signature.toDer_attributed {signature : Signature}
    (refused : signature.toDer.answer = .error fault) :
    Attributed (signature.r.length ≠ signature.s.length) fault := by
  cases encoded : (Pair.encode signature.r signature.s
      (List.replicate (Pair.largestSize signature.width) 0)).answer with
  | ok size => simp [toDer, Traced.map, encoded, Except.map] at refused
  | error cause =>
    obtain rfl : cause = fault := by simpa [toDer, Traced.map, encoded, Except.map] using refused
    exact (Pair.encode_attributed encoded).1

namespace Fault
open Component

-- A fault is a leaf under the attributions it has gathered. The codec adds one at most, and none
-- for a single INTEGER or where a pair is refused for what neither component did alone.
theorem nesting_exact :
    (∀ components leaf, leaf.depth = 0 →
      let fault := nest components leaf
      fault.depth = components.length ∧
      fault.kind = leaf.kind ∧
      fault.component? = components.head? ∧
      fault.message = labels components ++ leaf.message ∧
      fault.causes.length = components.length ∧
      ∀ position, position < components.length → ∃ cause,
        fault.causes[position]? = some cause ∧
        cause = nest (components.drop (position + 1)) leaf ∧
        fault.message = labels (components.take (position + 1)) ++ cause.message) ∧
    (∀ fault, ∃ components leaf, leaf.depth = 0 ∧ fault = nest components leaf) ∧
    (∀ data dest fault, (Integer.encode data dest).answer = .error fault → fault.depth = 0) ∧
    (∀ data fault, (Integer.encodedSize data).answer = .error fault → fault.depth = 0) ∧
    (∀ der dest fault, (Integer.decode der dest).answer = .error fault → fault.depth = 0) ∧
    (∀ r s dest fault, (Pair.encode r s dest).answer = .error fault →
      Attributed (r.length ≠ s.length) fault ∧ Attributed (fault = .unequalWidths) fault) ∧
    (∀ der rDest sDest fault, (Pair.decodeSeparate der rDest sDest).answer = .error fault →
      fault.depth = 1) ∧
    (∀ der dest fault, (Pair.decodeFixed der dest).answer = .error fault →
      Attributed (dest.length % 2 = 1) fault ∧ Attributed (fault = .oddDestination) fault) ∧
    (∀ curve der fault, (Signature.ofDer curve der).answer = .error fault →
      Attributed (∃ extra, fault = .trailing extra) fault) ∧
    ∀ (signature : Signature) (fault : Fault), signature.toDer.answer = .error fault →
      Attributed (signature.r.length ≠ signature.s.length) fault := by
  refine ⟨fun components leaf bare => ?_, exists_nest, fun _ _ _ => Integer.encode_bare,
    fun _ _ => Integer.encodedSize_bare, fun _ _ _ refused => (Integer.decode_ofInput refused).bare,
    fun _ _ _ _ => Pair.encode_attributed, fun _ _ _ _ => Pair.decodeSeparate_named,
    fun _ _ _ => Pair.decodeFixed_attributed, fun _ _ _ => Signature.ofDer_attributed,
    fun _ _ => Signature.toDer_attributed⟩
  obtain ⟨count, entries⟩ := nest_causes components bare
  refine ⟨by rw [nest_depth, bare, Nat.add_zero], nest_kind _ _, nest_component? _ bare,
    nest_message _ _, count, fun position inside => ⟨_, entries position inside, rfl, ?_⟩⟩
  have split : nest components leaf =
      nest (components.take (position + 1)) (nest (components.drop (position + 1)) leaf) := by
    rw [← nest_append, List.take_append_drop]
  rw [split, nest_message]

theorem nesting_exact_layered :
    let leaf : Fault := .truncated 4 3
    let fault := nest [.s, .r] leaf
    leaf.depth = 0 ∧ fault.kind = .malformed ∧ fault.component? = some .s ∧
    fault.message = "s component: r component: truncated data: 4 bytes needed, 3 available" ∧
    (∃ cause, fault.causes[0]? = some cause ∧ cause = nest [.r] leaf ∧
      fault.message = labels [.s] ++ cause.message) ∧
    (Pair.decodeSeparate [0x02, 0x01, 0x05, 0x02, 0x02, 0x00] [7] [8]).answer =
      .error (nest [.s] leaf) ∧ (nest [.s] leaf).depth = 1 ∧
    (Pair.encode [0x01] [0x00, 0x02] []).answer = .error .unequalWidths ∧
    Attributed (([0x01] : Octets).length ≠ ([0x00, 0x02] : Octets).length) .unequalWidths := by
  intro leaf fault
  obtain ⟨layers, _, _, _, _, pair, separate, _⟩ := nesting_exact
  obtain ⟨_, kind, component, message, _, entries⟩ := layers [.s, .r] leaf rfl
  have refused : (Pair.decodeSeparate [0x02, 0x01, 0x05, 0x02, 0x02, 0x00] [7] [8]).answer =
      .error (nest [.s] leaf) := rfl
  have unequal : (Pair.encode [0x01] [0x00, 0x02] []).answer = .error .unequalWidths := rfl
  have text : labels [.s, .r] ++ leaf.message =
      "s component: r component: truncated data: 4 bytes needed, 3 available" := by decide +kernel
  exact ⟨rfl, kind, component, message.trans text, entries 0 (by decide), refused,
    separate _ _ _ _ refused, unequal, (pair _ _ _ _ unequal).1⟩

end Fault
end DerPair
