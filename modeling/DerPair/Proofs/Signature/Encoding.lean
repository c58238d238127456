import DerPair.Signature
import DerPair.Proofs.Pair.Room

namespace DerPair.Signature
open Octets Integer

variable {signature : Signature}

theorem roomy_of_paired (paired : signature.Paired) :
    Pair.Roomy signature.r signature.s (Pair.largestSize signature.width) :=
  ⟨paired.1, paired.2, Nat.le_refl _⟩

theorem encodable_of_paired (paired : signature.Paired)
    (rShort : (content signature.r).length ≤ ShortLength.largest)
    (sShort : (content signature.s).length ≤ ShortLength.largest) :
    Pair.Encodable signature.r signature.s (Pair.largestSize signature.width) :=
  (roomy_of_paired paired).encodable rShort sShort

theorem toDer_encodable
    (encodable : Pair.Encodable signature.r signature.s (Pair.largestSize signature.width)) :
    signature.toDer.answer = .ok (encoding signature.r ++ encoding signature.s) := by
  have room : (List.replicate (Pair.largestSize signature.width) (0 : UInt8)).length =
      Pair.largestSize signature.width := List.length_replicate
  rw [← room] at encodable
  have encoded := Pair.encode_ok_iff.mpr ⟨encodable, rfl⟩
  simp only [toDer, Traced.map, encoded, Except.map, Pair.encode_written encoded]

theorem toDer_ok_iff : signature.toDer.answer = .ok der ↔
    Pair.Encodable signature.r signature.s (Pair.largestSize signature.width) ∧
      der = encoding signature.r ++ encoding signature.s := by
  constructor
  · intro written
    cases encoded : (Pair.encode signature.r signature.s
        (List.replicate (Pair.largestSize signature.width) 0)).answer with
    | error fault => simp [toDer, Traced.map, encoded, Except.map] at written
    | ok size =>
      obtain ⟨encodable, _⟩ := Pair.encode_ok_iff.mp encoded
      rw [List.length_replicate] at encodable
      exact ⟨encodable, Except.ok.inj (written.symm.trans (toDer_encodable encodable))⟩
  · intro shaped
    obtain ⟨encodable, same⟩ := shaped
    rw [toDer_encodable encodable, same]

theorem toDer_error_iff (paired : signature.Paired) : signature.toDer.answer = .error fault ↔
    (2 ^ 1015 ≤ value signature.r ∧
      fault = .within .r (.longFormLength (bitLength (value signature.r) / 8 + 1))) ∨
    (value signature.r < 2 ^ 1015 ∧ 2 ^ 1015 ≤ value signature.s ∧
      fault = .within .s (.longFormLength (bitLength (value signature.s) / 8 + 1))) := by
  have room : (List.replicate (Pair.largestSize signature.width) (0 : UInt8)).length =
      Pair.largestSize signature.width := List.length_replicate
  have roomy := roomy_of_paired paired
  rw [← room] at roomy
  rw [← roomy.encode_error_iff]
  cases encoded : (Pair.encode signature.r signature.s
      (List.replicate (Pair.largestSize signature.width) 0)).answer with
  | error cause => simp [toDer, Traced.map, encoded, Except.map]
  | ok size => simp [toDer, Traced.map, encoded, Except.map]

end DerPair.Signature
