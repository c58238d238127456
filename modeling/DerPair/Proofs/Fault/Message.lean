import DerPair.Proofs.Pair.Faults

namespace DerPair

-- Text of printable ASCII: not empty, and no longer than the limit.
structure Legible (limit : Nat) (text : String) : Prop where
  printable : ∀ letter ∈ text.toList, 0x20 ≤ letter.toNat ∧ letter.toNat ≤ 0x7E
  filled : 0 < text.length
  short : text.length ≤ limit

namespace Legible

theorem mono (legible : Legible limit text) (room : limit ≤ larger) : Legible larger text :=
  ⟨legible.printable, legible.filled, Nat.le_trans legible.short room⟩

theorem append (left : Legible limit text) (right : Legible room rest) :
    Legible (limit + room) (text ++ rest) where
  printable letter member := by
    rw [String.toList_append] at member
    rcases List.mem_append.mp member with front | back
    · exact left.printable letter front
    · exact right.printable letter back
  filled := by
    rw [String.length_append]
    exact Nat.add_pos_left left.filled _
  short := by
    rw [String.length_append]
    exact Nat.add_le_add left.short right.short

theorem literal (text : String)
    (printable : ∀ letter ∈ text.toList, 0x20 ≤ letter.toNat ∧ letter.toNat ≤ 0x7E := by simp)
    (filled : 0 < text.length := by decide) : Legible text.length text :=
  ⟨printable, filled, Nat.le_refl _⟩

theorem digit_printable {letter : Char} (digit : letter.isDigit = true) :
    0x20 ≤ letter.toNat ∧ letter.toNat ≤ 0x7E := by
  have bounds : 48 ≤ letter.toNat ∧ letter.toNat ≤ 57 := Char.isDigit_iff_toNat.mp digit
  omega

theorem number (positive : 0 < digits) (small : count < 10 ^ digits) :
    Legible digits (toString count) := by
  have letters : (toString count).toList = Nat.toDigits 10 count := Nat.toList_repr
  have length : (toString count).length = (Nat.toDigits 10 count).length := by
    rw [← String.length_toList, letters]
  refine ⟨fun letter member => ?_, ?_, ?_⟩
  · rw [letters] at member
    exact digit_printable (Nat.isDigit_of_mem_toDigits (by decide) (by decide) member)
  · rw [length]
    exact Nat.length_toDigits_pos
  · rw [length]
    exact (Nat.length_toDigits_le_iff (by decide) positive).mpr small

theorem hexPair (octet : UInt8) : Legible 2 (hexPair octet) := by
  have digits : ∀ digit < 16, 0x20 ≤ (upperHexDigit digit).toNat ∧ (upperHexDigit digit).toNat ≤ 0x7E := by
    decide
  have high : octet.toNat / 16 < 16 := by
    have bound := octet.toNat_lt
    omega
  have low : octet.toNat % 16 < 16 := Nat.mod_lt _ (by decide)
  refine ⟨fun letter member => ?_, ?_, ?_⟩
  · simp only [DerPair.hexPair, String.toList_ofList, List.mem_cons, List.not_mem_nil, or_false] at member
    rcases member with first | second
    · rw [first]
      exact digits _ high
    · rw [second]
      exact digits _ low
  · simp [DerPair.hexPair]
  · simp [DerPair.hexPair]

end Legible

open Legible (literal number)

theorem Tag.universalNames_legible : ∀ entry ∈ universalNames, Legible 17 entry.2 := by
  have printable : ∀ entry ∈ universalNames, ∀ letter ∈ entry.2.toList,
      0x20 ≤ letter.toNat ∧ letter.toNat ≤ 0x7E := by
    simp [universalNames]
  have filled : ∀ entry ∈ universalNames, 0 < entry.2.length := by decide
  have short : ∀ entry ∈ universalNames, entry.2.length ≤ 17 := by decide
  exact fun entry member => ⟨printable entry member, filled entry member, short entry member⟩

theorem Tag.name_legible (tag : Tag) : Legible 17 tag.name := by
  unfold name
  split
  · rename_i name found
    obtain ⟨before, after, shape, _⟩ := List.lookup_eq_some_iff.mp found
    exact universalNames_legible (tag, name) (by simp [shape])
  · split
    · have context : (tag.octet &&& 0x1F).toNat < 10 ^ 3 := by
        have bound := (tag.octet &&& 0x1F).toNat_lt
        omega
      exact ((literal "ContextTag").append (number (by decide) context)).mono (by decide)
    · have known : tag.octet.toNat < 10 ^ 3 := by
        have bound := tag.octet.toNat_lt
        omega
      exact (((literal "UNKNOWN(").append (number (by decide) known)).append (literal ")")).mono
        (by decide)

theorem Component.name_legible (component : Component) : Legible 1 component.name := by
  cases component with
  | r => exact literal "r"
  | s => exact literal "s"

namespace Fault

theorem size_legible (sized : size ≤ limit) (bounded : limit < 10 ^ 19) :
    Legible 19 (toString size) :=
  number (by decide) (Nat.lt_of_le_of_lt sized bounded)

theorem OfInteger.message_legible (raised : OfInteger limit fault) (bounded : limit < 10 ^ 19) :
    Legible 114 fault.message := by
  cases raised with
  | emptyInteger =>
    exact ((literal "invalid argument: ").append (literal "integer to encode is empty")).mono
      (by decide)
  | truncated asked held =>
    have needed := (literal "truncated data: ").append (size_legible asked bounded)
    have available := (needed.append (literal " bytes needed, ")).append (size_legible held bounded)
    exact (available.append (literal " available")).mono (by decide)
  | unexpectedTag found =>
    have expected := (literal "unexpected tag: expected ").append (Tag.name_legible .integer)
    exact ((expected.append (literal ", found ")).append (Tag.name_legible found)).mono (by decide)
  | emptyContent => exact (literal "INTEGER with zero-length content").mono (by decide)
  | nonMinimal =>
    exact (literal "non-minimal INTEGER encoding (redundant leading zero byte)").mono (by decide)
  | capacityExceeded asked held =>
    have required := (literal "output buffer too small: ").append (size_legible asked bounded)
    have worded := required.append (literal " bytes required, capacity is ")
    exact (worded.append (size_legible held bounded)).mono (by decide)
  | longFormLength sized =>
    have length := (literal "content length ").append (size_legible sized bounded)
    exact (length.append (literal " requires a long-form DER length")).mono (by decide)
  | longFormOctet octet =>
    have named := (literal "long-form length octet 0x").append (Legible.hexPair octet)
    exact (named.append (literal " is not supported")).mono (by decide)

theorem OfPair.message_legible (raised : OfPair limit fault) (bounded : limit < 10 ^ 19) :
    Legible 127 fault.message := by
  cases raised with
  | unequalWidths =>
    have context := literal "r and s must have the same width"
    exact ((literal "invalid argument: ").append context).mono (by decide)
  | oddDestination =>
    have context := literal "r || s destination must have an even length"
    exact ((literal "invalid argument: ").append context).mono (by decide)
  | within component cause =>
    have named := component.name_legible.append (literal " component: ")
    exact (named.append (cause.message_legible bounded)).mono (by decide)

end Fault

end DerPair
