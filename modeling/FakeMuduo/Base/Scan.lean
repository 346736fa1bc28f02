import FakeMuduo.Base.Checked

/-! Algorithms on a range of cells between two pointers. A pointer is an offset from the first
cell; to read through one that points to no cell is an error. -/

namespace FakeMuduo.Base

variable {α : Type}

def readAt (cells : List α) (pointer : Int) : Checked α :=
  if 0 ≤ pointer then
    match cells[pointer.toNat]? with
    | some cell => .ok cell
    | none => .error .danglingReference
  else .error .danglingReference

section Algorithms

variable [DecidableEq α]

def findWithin (cells : List α) (value : α) (first : Int) : Nat → Checked Int
  | 0 => .ok first
  | count + 1 => do
    let cell ← readAt cells first
    if cell = value then return first else findWithin cells value (first + 1) count

/-- `std::find`. -/
def find (cells : List α) (value : α) (first last : Int) : Checked Int :=
  if first ≤ last then findWithin cells value first (last - first).toNat
  else .error .danglingReference

def equalWithin (cells : List α) (first : Int) : Nat → List α → Checked Bool
  | 0, _ => .ok true
  | _ + 1, [] => .error .danglingReference
  | count + 1, expected :: others => do
    let cell ← readAt cells first
    if cell = expected then equalWithin cells (first + 1) count others else return false

/-- `std::equal`, with the cells from which the second range is taken. -/
def equal (cells : List α) (first last : Int) (others : List α) : Checked Bool :=
  if first ≤ last then equalWithin cells first (last - first).toNat others
  else .error .danglingReference

end Algorithms

def copyWithin (cells : List α) (first : Int) : Nat → Checked (List α)
  | 0 => .ok []
  | count + 1 => do
    let cell ← readAt cells first
    let rest ← copyWithin cells (first + 1) count
    return cell :: rest

/-- The cells of a range, copied. -/
def copyRange (cells : List α) (first last : Int) : Checked (List α) :=
  if first ≤ last then copyWithin cells first (last - first).toNat else .error .danglingReference

section Between

variable {before after : List α} {first last : Int}

theorem readAt_cell (cell : α) (start : first = before.length) :
    readAt (before ++ cell :: after) first = .ok cell := by
  subst start
  simp [readAt]

theorem readAt_offset {middle : List α} {offset : Nat} {cell : α}
    (start : first = before.length + offset) (stands : middle[offset]? = some cell) :
    readAt (before ++ middle ++ after) first = .ok cell := by
  obtain ⟨inside, same⟩ := List.getElem?_eq_some_iff.mp stands
  have place : first.toNat = before.length + offset := by omega
  rw [readAt, if_pos (by omega), place, List.append_assoc, List.getElem?_append_right (by omega),
    Nat.add_sub_cancel_left, List.getElem?_append_left inside, stands]

theorem copyWithin_between (middle : List α) (start : first = before.length) :
    copyWithin (before ++ middle ++ after) first middle.length = .ok middle := by
  induction middle generalizing before first with
  | nil => rfl
  | cons cell rest ih =>
    have moved := @ih (before ++ [cell]) (first + 1) (by simp [start])
    simp only [List.append_assoc, List.cons_append, List.nil_append] at moved ⊢
    rw [List.length_cons, copyWithin, readAt_cell cell start, ok_bind, moved]
    rfl

theorem copyRange_between (middle : List α) (start : first = before.length)
    (stop : last = before.length + middle.length) :
    copyRange (before ++ middle ++ after) first last = .ok middle := by
  have count : (last - first).toNat = middle.length := by omega
  rw [copyRange, if_pos (by omega), count, copyWithin_between middle start]

variable [DecidableEq α]

theorem findWithin_between (value : α) (middle : List α) (start : first = before.length) :
    findWithin (before ++ middle ++ after) value first middle.length =
      .ok (first + (middle.takeWhile (· != value)).length) := by
  induction middle generalizing before first with
  | nil => simp [findWithin]
  | cons cell rest ih =>
    have moved := @ih (before ++ [cell]) (first + 1) (by simp [start])
    simp only [List.append_assoc, List.cons_append, List.nil_append] at moved ⊢
    rw [List.length_cons, findWithin, readAt_cell cell start, ok_bind, moved]
    by_cases here : cell = value
    · simp [here, pure, Except.pure]
    · rw [if_neg here, List.takeWhile_cons_of_pos (by simpa using here), List.length_cons]
      congr 1
      omega

theorem find_between (value : α) (middle : List α) (start : first = before.length)
    (stop : last = before.length + middle.length) :
    find (before ++ middle ++ after) value first last =
      .ok (first + (middle.takeWhile (· != value)).length) := by
  have count : (last - first).toNat = middle.length := by omega
  rw [find, if_pos (by omega), count, findWithin_between value middle start]

theorem equalWithin_between (middle others : List α) (same : middle.length ≤ others.length)
    (start : first = before.length) :
    equalWithin (before ++ middle ++ after) first middle.length others =
      .ok (decide (middle = others.take middle.length)) := by
  induction middle generalizing before first others with
  | nil => simp [equalWithin]
  | cons cell rest ih =>
    cases others with
    | nil => simp at same
    | cons expected others =>
      have moved := @ih (before ++ [cell]) (first + 1) others (by simpa using same)
        (by simp [start])
      simp only [List.append_assoc, List.cons_append, List.nil_append] at moved ⊢
      rw [List.length_cons, equalWithin, readAt_cell cell start, ok_bind, moved]
      by_cases here : cell = expected
      · simp [here]
      · simp [here, pure, Except.pure]

theorem equal_between (middle others : List α) (same : middle.length ≤ others.length)
    (start : first = before.length) (stop : last = before.length + middle.length) :
    equal (before ++ middle ++ after) first last others =
      .ok (decide (middle = others.take middle.length)) := by
  have count : (last - first).toNat = middle.length := by omega
  rw [equal, if_pos (by omega), count, equalWithin_between middle others same start]

end Between

end FakeMuduo.Base
