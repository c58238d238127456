import DerPair.Proofs.Integer.Shortest
import DerPair.Proofs.Integer.Stream

namespace DerPair.Integer
open Octets

theorem content_of_bare (leads : topBit first = true) (rest : Octets) :
    content (first :: rest) = 0 :: first :: rest := by
  have nonzero : first ≠ 0 := by
    intro zero
    rw [zero] at leads
    cases leads
  have stuffed : needsStuffing (first :: rest) = true := by
    rw [needsStuffing, magnitude_of_head rest nonzero]
    exact leads
  rw [content_of_stuffed stuffed, magnitude_of_head rest nonzero]

theorem content_of_overstuffed (acceptable : Acceptable (0 :: second :: rest))
    (clear : topBit second = false) : content (0 :: second :: rest) = second :: rest := by
  have nonzero : second ≠ 0 := by
    intro zero
    have trimmed := acceptable.trimmed
    rw [zero] at trimmed
    exact trimmed ⟨rest, rfl⟩
  have plain : needsStuffing (0 :: second :: rest) = false := by
    rw [needsStuffing, magnitude_stuffed rest nonzero]
    exact clear
  rw [content_of_plain plain, magnitude_stuffed rest nonzero]

theorem content_cases (acceptable : Acceptable payload) :
    (0x80 ≤ payload.getD 0 0 → content payload = 0 :: payload) ∧
    (payload.getD 0 0 = 0 → 2 ≤ payload.length → payload.getD 1 0 < 0x80 →
      content payload = payload.drop 1) ∧
    (¬ 0x80 ≤ payload.getD 0 0 →
      ¬ (payload.getD 0 0 = 0 ∧ 2 ≤ payload.length ∧ payload.getD 1 0 < 0x80) →
      content payload = payload) := by
  obtain ⟨first, rest, rfl⟩ := List.exists_cons_of_ne_nil acceptable.given
  simp only [List.getD_cons_zero, List.getD_cons_succ]
  refine ⟨fun bare => ?_, fun zero long clear => ?_, fun signed usual => ?_⟩
  · exact content_of_bare (decide_eq_true bare) rest
  · obtain ⟨second, tail, rfl⟩ : ∃ second tail, rest = second :: tail :=
      List.exists_cons_of_length_pos (Nat.le_of_succ_le_succ long)
    subst zero
    exact content_of_overstuffed acceptable (by simpa [topBit] using clear)
  · refine content_of_canonical ⟨acceptable, decide_eq_false signed, ?_⟩
    intro second tail shape
    obtain ⟨zero, rfl⟩ := List.cons.inj shape
    simpa [topBit, zero] using usual

-- Exactly these octets are reported, and they stand at the start of the destination.
def Writes (outcome : Outcome Octets Nat) (octets : Octets) : Prop :=
  outcome.answer = .ok octets.length ∧ outcome.dest.take octets.length = octets

theorem encode_writes_iff (given : data ≠ []) (room : largestInteger ≤ dest.length) :
    Writes (encode data dest) octets ↔
      (content data).length ≤ ShortLength.largest ∧ octets = encoding data := by
  constructor
  · intro writes
    have written : Written data octets := ⟨dest, _, writes.1, writes.2.symm⟩
    exact (written_iff.mp written).2
  · intro shaped
    obtain ⟨short, same⟩ := shaped
    have total := encoding_length data
    have fits : (encoding data).length ≤ dest.length := by
      simp only [largestInteger] at room
      omega
    rw [encode_accepted (refusal_eq_none_iff.mpr ⟨given, fits, short⟩), same]
    exact ⟨rfl, List.take_left⟩

theorem encode_writes (given : data ≠ []) (room : largestInteger ≤ dest.length)
    (same : content data = octets) (short : octets.length ≤ ShortLength.largest) :
    Writes (encode data dest) (tlv octets) := by
  refine (encode_writes_iff given room).mpr ⟨?_, ?_⟩
  · rwa [same]
  · rw [encoding, same]

theorem encode_overlong (given : data ≠ []) (room : 130 ≤ dest.length)
    (size : (content data).length = 128) :
    (encode data dest).answer = .error (.longFormLength 128) := by
  rw [encode_long given ?_ ?_, size]
  · rfl
  · rwa [encoding_length, size]
  · rw [size]
    decide

theorem held_ne_nil (fits : byteWidth number ≤ width) : ofValue width number ≠ [] := by
  have wide := byteWidth_pos number
  exact List.ne_nil_of_length_pos (by rw [ofValue_length]; omega)

theorem encode_held (acceptable : Acceptable payload) (fits : byteWidth (value payload) ≤ width)
    (dest : Octets) : encode (ofValue width (value payload)) dest = encode payload dest :=
  encode_congr (held_ne_nil fits) acceptable.given (value_of_fits fits) dest

theorem reread_written (acceptable : Acceptable payload)
    (fits : byteWidth (value payload) ≤ fresh.length) (room : largestInteger ≤ dest.length)
    (writes : Writes (encode payload dest) written) (rest : Octets) :
    let reread := decode (written ++ rest) fresh
    reread.answer = .ok ⟨written.length, byteWidth (value payload)⟩ ∧
      reread.dest = ofValue fresh.length (value payload) ∧
      ∀ other : Octets, 130 ≤ other.length → Writes (encode reread.dest other) written := by
  obtain ⟨short, rfl⟩ := (encode_writes_iff acceptable.given room).mp writes
  obtain ⟨answer, again⟩ := decode_encoding acceptable.given short rest fits
  dsimp only
  rw [again]
  refine ⟨answer, rfl, fun other wide => ?_⟩
  rw [encode_held acceptable fits]
  exact encode_writes acceptable.given (Nat.le_of_succ_le wide) rfl short

theorem tlv_octets (acceptable : Acceptable payload) (rest : Octets) :
    let der := tlv payload ++ rest
    (der.getD 1 0).toNat = payload.length ∧ (der.drop 2).take payload.length = payload ∧
      der.take (2 + payload.length) = tlv payload := by
  have short := acceptable.short
  simp only [ShortLength.largest] at short
  refine ⟨?_, List.take_left, ?_⟩
  · simp only [tlv, List.cons_append, List.getD_cons_succ, List.getD_cons_zero,
      UInt8.toNat_ofNat']
    omega
  · rw [← tlv_length]
    exact List.take_left

theorem tlv_octet (payload rest : Octets) (inside : position < payload.length) :
    (tlv payload ++ rest).getD (position + 2) 0 = payload.getD position 0 := by
  simp only [tlv, List.cons_append, List.getD_eq_getElem?_getD, List.getElem?_cons_succ,
    List.getElem?_append_left inside]

-- An accepted INTEGER, written again from where it was stored, comes out in the encoder's
-- form: one octet longer, one octet shorter, or as it was. Only 127 octets with the sign bit
-- set have no such form. What comes out is read as the same value and written as it is.
theorem reencode_exact (accepted : (decode der dest).answer = .ok decoded) :
    let held := (decode der dest).dest
    let length := (der.getD 1 0).toNat
    let payload := (der.drop 2).take length
    let bare := 0x80 ≤ der.getD 2 0
    let overstuffed := der.getD 2 0 = 0 ∧ 2 ≤ length ∧ der.getD 3 0 < 0x80
    1 ≤ length ∧ length ≤ 127 ∧ decoded.consumed = 2 + length ∧
    ∀ buffer, 130 ≤ buffer.length →
      let again := encode held buffer
      (bare → length ≤ 126 →
        Writes again (0x02 :: UInt8.ofNat (length + 1) :: 0x00 :: payload)) ∧
      (bare → length = 127 → again.answer = .error (.longFormLength 128)) ∧
      (overstuffed → Writes again (0x02 :: UInt8.ofNat (length - 1) :: payload.drop 1)) ∧
      (¬bare → ¬overstuffed → Writes again (der.take decoded.consumed)) ∧
      ∀ written, Writes again written → ∀ rest fresh, fresh.length = dest.length →
        let reread := decode (written ++ rest) fresh
        reread.answer = .ok ⟨written.length, decoded.width⟩ ∧ reread.dest = held ∧
        ∀ other, 130 ≤ other.length → Writes (encode reread.dest other) written := by
  obtain ⟨payload, rest, acceptable, rfl, fits, rfl⟩ := decode_ok_iff.mp accepted
  obtain ⟨announced, taken, whole⟩ := tlv_octets acceptable rest
  have stored : (decode (tlv payload ++ rest) dest).dest = ofValue dest.length (value payload) := by
    rw [decode_fits acceptable rest fits]
  have first : (tlv payload ++ rest).getD 2 0 = payload.getD 0 0 :=
    tlv_octet payload rest (List.length_pos_iff.mpr acceptable.given)
  have second : 2 ≤ payload.length → (tlv payload ++ rest).getD 3 0 = payload.getD 1 0 :=
    tlv_octet payload rest
  obtain ⟨bare, overstuffed, usual⟩ := content_cases acceptable
  dsimp only
  rw [announced, taken, stored, whole, first]
  refine ⟨List.length_pos_iff.mpr acceptable.given, acceptable.short, rfl, fun buffer room => ?_⟩
  have wide : largestInteger ≤ buffer.length := Nat.le_of_succ_le room
  rw [encode_held acceptable fits]
  refine ⟨fun leads short => ?_, fun leads long => ?_, fun needless => ?_, fun signed plain => ?_,
    fun written writes => ?_⟩
  · exact encode_writes acceptable.given wide (bare leads) (Nat.succ_le_succ short)
  · exact encode_overlong acceptable.given room (by rw [bare leads, List.length_cons, long])
  · obtain ⟨zero, long, clear⟩ := needless
    rw [second long] at clear
    rw [← List.length_drop]
    refine encode_writes acceptable.given wide (overstuffed zero long clear) ?_
    rw [List.length_drop]
    exact Nat.le_trans (Nat.sub_le _ _) acceptable.short
  · refine encode_writes acceptable.given wide (usual signed fun needless => plain ?_) acceptable.short
    obtain ⟨zero, long, clear⟩ := needless
    rw [← second long] at clear
    exact ⟨zero, long, clear⟩
  · intro rest fresh sized
    rw [← sized] at fits ⊢
    exact reread_written acceptable fits wide writes rest

theorem reencode_exact_bare :
    (decode [0x02, 0x01, 0x80, 0x63] [1, 2, 3]).answer = .ok ⟨3, 1⟩ ∧
      Writes (encode [0x00, 0x00, 0x80] (List.replicate 130 9)) [0x02, 0x02, 0x00, 0x80] ∧
      (decode [0x02, 0x02, 0x00, 0x80] [4, 5, 6]).answer = .ok ⟨4, 1⟩ ∧
      (decode [0x02, 0x02, 0x00, 0x80] [4, 5, 6]).dest = [0x00, 0x00, 0x80] := by
  have accepted : (decode [0x02, 0x01, 0x80, 0x63] [1, 2, 3]).answer = .ok ⟨3, 1⟩ := rfl
  obtain ⟨_, _, _, again⟩ := reencode_exact accepted
  obtain ⟨bare, _, _, _, stable⟩ := again (List.replicate 130 9) (by simp)
  have writes := bare (by decide) (by decide)
  obtain ⟨answer, stored, _⟩ := stable _ writes [] [4, 5, 6] rfl
  exact ⟨accepted, writes, answer, stored⟩

end DerPair.Integer
