import DerPair.Arena

namespace DerPair

namespace Octets

theorem splice_length (fits : offset + source.length ≤ dest.length) :
    (splice dest offset source).length = dest.length := by
  simp only [splice, overwrite, List.length_append, List.length_take, List.length_drop]
  omega

theorem splice_inside {dest source : Octets} (fits : offset + source.length ≤ dest.length)
    (inside : index < source.length) :
    (splice dest offset source)[offset + index]? = source[index]? := by
  have front : (dest.take offset).length = offset := List.length_take_of_le (by omega)
  rw [splice, List.getElem?_append_right (by omega), front, Nat.add_sub_cancel_left, overwrite,
    List.getElem?_append_left inside]

theorem splice_outside {dest source : Octets} (fits : offset + source.length ≤ dest.length)
    (outside : index < offset ∨ offset + source.length ≤ index) :
    (splice dest offset source)[index]? = dest[index]? := by
  have front : (dest.take offset).length = offset := List.length_take_of_le (by omega)
  rcases outside with before | behind
  · rw [splice, List.getElem?_append_left (by omega), List.getElem?_take_of_lt before]
  · rw [splice, List.getElem?_append_right (by omega), front, overwrite,
      List.getElem?_append_right (by omega), List.getElem?_drop, List.getElem?_drop]
    congr 1
    omega

end Octets

namespace Region

-- The octets at the start of a region.
def first (region : Region) (count : Nat) : Region := { region with length := count }

theorem Disjoint.symm {left right : Region} (apart : left.Disjoint right) : right.Disjoint left :=
  fun buffer position covered inside => apart buffer position inside covered

end Region

namespace Arena
open Octets

def octet (arena : Arena) (buffer : String) (position : Nat) : Option UInt8 :=
  (arena.contents buffer)[position]?

-- The same buffers of the same sizes, and the same octets outside of one region.
structure KeptOutside (region : Region) (before after : Arena) : Prop where
  sizes : ∀ buffer, (after.get? buffer).map List.length = (before.get? buffer).map List.length
  octets : ∀ buffer position, ¬ region.Covers buffer position →
    after.octet buffer position = before.octet buffer position

theorem contents_of_some {arena : Arena} (found : arena.get? buffer = some bytes) :
    arena.contents buffer = bytes := by
  rw [contents, found]
  rfl

theorem octet_of_some {arena : Arena} (found : arena.get? buffer = some bytes) (position : Nat) :
    arena.octet buffer position = bytes[position]? := by
  rw [octet, contents_of_some found]

theorem sizes_cases {left right : Arena}
    (sizes : (left.get? buffer).map List.length = (right.get? buffer).map List.length) :
    left.get? buffer = none ∧ right.get? buffer = none ∨
      ∃ bytes others, left.get? buffer = some bytes ∧ right.get? buffer = some others ∧
        bytes.length = others.length := by
  cases first : left.get? buffer with
  | none =>
    rw [first, Option.map_none] at sizes
    exact .inl ⟨rfl, Option.map_eq_none_iff.mp sizes.symm⟩
  | some bytes =>
    rw [first, Option.map_some] at sizes
    obtain ⟨others, second, same⟩ := Option.map_eq_some_iff.mp sizes.symm
    exact .inr ⟨bytes, others, rfl, second, same.symm⟩

theorem get?_eq {left right : Arena}
    (sizes : (left.get? buffer).map List.length = (right.get? buffer).map List.length)
    (octets : ∀ position, left.octet buffer position = right.octet buffer position) :
    left.get? buffer = right.get? buffer := by
  rcases sizes_cases sizes with ⟨first, second⟩ | ⟨bytes, others, first, second, _⟩
  · rw [first, second]
  · rw [first, second]
    refine congrArg some (List.ext_getElem? fun position => ?_)
    rw [← octet_of_some first, ← octet_of_some second, octets]

theorem KeptOutside.unchanged {before after : Arena} (kept : KeptOutside region before after)
    (empty : region.length = 0) (buffer : String) : after.get? buffer = before.get? buffer := by
  refine get?_eq (kept.sizes buffer) fun position => kept.octets buffer position fun covered => ?_
  obtain ⟨_, low, high⟩ := covered
  omega

section Writing
variable {arena : Arena} {region : Region} {bytes : Octets}

theorem holds_fits (held : arena.Holds region) (sized : bytes.length = region.length) :
    region.offset + bytes.length ≤ (arena.contents region.buffer).length := by
  obtain ⟨contents, found, inside⟩ := held
  rw [contents_of_some found, sized]
  exact inside

theorem contents_write (region : Region) (bytes : Octets) (buffer : String) :
    (arena.write region bytes).contents buffer =
      if buffer = region.buffer then splice (arena.contents region.buffer) region.offset bytes
      else arena.contents buffer := by
  unfold contents write
  rw [Named.get?_put]
  split
  · rfl
  · rfl

theorem write_sizes (held : arena.Holds region) (sized : bytes.length = region.length)
    (buffer : String) : ((arena.write region bytes).get? buffer).map List.length =
      (arena.get? buffer).map List.length := by
  have fits := holds_fits held sized
  obtain ⟨contents, found, _⟩ := held
  rw [write, Named.get?_put]
  split
  · rename_i same
    rw [same, found, Option.map_some, Option.map_some, splice_length fits, contents_of_some found]
  · rfl

theorem write_inside (held : arena.Holds region) (sized : bytes.length = region.length)
    (covered : region.Covers buffer position) :
    (arena.write region bytes).octet buffer position = bytes[position - region.offset]? := by
  have fits := holds_fits held sized
  obtain ⟨same, low, high⟩ := covered
  obtain ⟨index, rfl⟩ := Nat.exists_eq_add_of_le low
  rw [octet, contents_write, if_pos same, splice_inside fits (by omega), Nat.add_sub_cancel_left]

theorem write_outside (held : arena.Holds region) (sized : bytes.length = region.length)
    (beyond : ¬ region.Covers buffer position) :
    (arena.write region bytes).octet buffer position = arena.octet buffer position := by
  have fits := holds_fits held sized
  rw [octet, contents_write]
  split
  · rename_i same
    rw [octet, same]
    refine splice_outside fits ?_
    by_cases before : position < region.offset
    · exact .inl before
    · exact .inr (Nat.le_of_not_lt fun high => beyond ⟨same, Nat.le_of_not_lt before, by omega⟩)
  · rfl

theorem write_framed (held : arena.Holds region) (sized : bytes.length = region.length) :
    KeptOutside region arena (arena.write region bytes) :=
  ⟨write_sizes held sized, fun _ _ beyond => write_outside held sized beyond⟩

theorem read_getElem? (region : Region) (index : Nat) : (arena.read region)[index]? =
    if index < region.length then arena.octet region.buffer (region.offset + index) else none := by
  rw [read, List.getElem?_take, List.getElem?_drop, octet]

theorem read_length (held : arena.Holds region) : (arena.read region).length = region.length := by
  obtain ⟨contents, found, inside⟩ := held
  rw [read, contents_of_some found, List.length_take, List.length_drop]
  omega

theorem read_write (held : arena.Holds region) (sized : bytes.length = region.length) :
    (arena.write region bytes).read region = bytes := by
  refine List.ext_getElem? fun index => ?_
  rw [read_getElem?]
  split
  · rename_i inside
    have covered : region.Covers region.buffer (region.offset + index) :=
      ⟨rfl, Nat.le_add_right _ _, Nat.add_lt_add_left inside _⟩
    rw [write_inside held sized covered, Nat.add_sub_cancel_left]
  · rename_i behind
    exact (List.getElem?_eq_none (by omega)).symm

theorem write_kept (held : arena.Holds region) (sized : bytes.length = region.length)
    (same : bytes.drop count = (arena.read region).drop count) :
    KeptOutside (region.first count) arena (arena.write region bytes) := by
  refine ⟨write_sizes held sized, fun buffer position beyond => ?_⟩
  by_cases covered : region.Covers buffer position
  · rw [write_inside held sized covered]
    obtain ⟨rfl, low, high⟩ := covered
    have late : count ≤ position - region.offset := by
      refine Nat.le_of_not_lt fun early => beyond ⟨rfl, low, ?_⟩
      simp only [Region.first]
      omega
    obtain ⟨index, shift⟩ := Nat.exists_eq_add_of_le late
    rw [shift, ← List.getElem?_drop, same, List.getElem?_drop, ← shift, read_getElem?,
      if_pos (by omega), Nat.add_sub_cancel' low]
  · exact write_outside held sized covered

end Writing
end Arena

end DerPair
