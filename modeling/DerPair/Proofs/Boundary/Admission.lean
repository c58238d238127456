import DerPair.Boundary.Call

namespace DerPair.Boundary

-- A value behind checks. The first check that fails takes its place.
def guarded (checks : List Check) (value : α) : Except CallFault α :=
  match firstFailure checks with
  | some fault => .error fault
  | none => .ok value

-- The octets that a pointer and a size stand for. Behind null there are none.
def Pointer.slice (pointer : Pointer) (size : Nat) : Octets := (pointer.getD []).take size

theorem guarded_refused (failed : firstFailure checks = some fault) (value : α) :
    guarded checks value = .error fault := by
  rw [guarded, failed]

theorem guarded_passed (passed : firstFailure checks = none) (value : α) :
    guarded checks value = .ok value := by
  rw [guarded, passed]

theorem firstFailure_append (left right : List Check) :
    firstFailure (left ++ right) = (firstFailure left).or (firstFailure right) :=
  List.findSome?_append

theorem guarded_bind {next : α → Except CallFault β} (checks : List Check)
    (follows : next value = guarded later result) :
    (guarded checks value >>= next) = guarded (checks ++ later) result := by
  cases failed : firstFailure checks with
  | some fault =>
    have joined : firstFailure (checks ++ later) = some fault := by
      rw [firstFailure_append, failed]
      rfl
    rw [guarded_refused failed, guarded_refused joined]
    rfl
  | none =>
    have joined : firstFailure (checks ++ later) = firstFailure later := by
      rw [firstFailure_append, failed]
      rfl
    rw [guarded_passed failed, guarded, joined]
    exact follows

theorem Cell.read_eq (cell : Cell) : cell.read = guarded [.cell cell] (cell.getD 0) := by
  cases cell with
  | none => rfl
  | some capacity => rfl

theorem Pointer.window_eq (pointer : Pointer) (argument : SizeArgument) (size : Nat) :
    pointer.window argument size =
      guarded [.pointer pointer, .size argument size] (pointer.slice size) := by
  cases pointer with
  | none => rfl
  | some memory =>
    by_cases large : largestBuffer < size
    · have failed : firstFailure [.pointer (some memory), .size argument size] =
          some (.invalidSize argument) := by
        simp [firstFailure, Check.failure, large]
      rw [guarded_refused failed, Pointer.window, if_pos large]
    · have passed : firstFailure [.pointer (some memory), .size argument size] = none := by
        simp [firstFailure, Check.failure, Nat.le_of_not_lt large]
      rw [guarded_passed passed, Pointer.window, if_neg large]
      rfl

theorem EncodePair.windows_eq (call : EncodePair) :
    call.windows = guarded call.checks
      (call.r.slice call.size, call.s.slice call.size, call.dest.slice (call.cell.getD 0)) := by
  simp only [EncodePair.windows, Cell.read_eq, Pointer.window_eq]
  exact guarded_bind _ (guarded_bind _ (guarded_bind _ (guarded_bind _ rfl)))

theorem DecodeSeparate.windows_eq (call : DecodeSeparate) :
    call.windows = guarded call.checks
      (call.der.slice call.size, call.r.slice (call.rCell.getD 0),
        call.s.slice (call.sCell.getD 0)) := by
  simp only [DecodeSeparate.windows, Cell.read_eq, Pointer.window_eq]
  exact guarded_bind _ (guarded_bind _ (guarded_bind _ (guarded_bind _ (guarded_bind _ rfl))))

theorem DecodeFixed.windows_eq (call : DecodeFixed) :
    call.windows = guarded call.checks (call.der.slice call.size, call.rs.slice call.rsSize) := by
  simp only [DecodeFixed.windows, Pointer.window_eq]
  exact guarded_bind _ (guarded_bind _ rfl)

end DerPair.Boundary
