import Mathlib.Data.List.Basic

/-! Windows of a fixed array of cells, and the two ways a program fills one:
consecutive stores, and a forward copy between regions that may overlap. -/

namespace FakeMuduo.Base

universe u

variable {α : Type u}

/-- The `count` cells that start at `position`. -/
def window (cells : List α) (position count : Nat) : List α := (cells.drop position).take count

/-- Store `values` one after another, the first at `position`. -/
def store (cells : List α) (position : Nat) : List α → List α
  | [] => cells
  | value :: values => store (cells.set position value) (position + 1) values

/-- Copy `count` cells one after another, each read when its turn comes, so that
a cell already overwritten is read with its new value. -/
def copyForward (cells : List α) (source dest : Nat) : Nat → List α
  | 0 => cells
  | count + 1 =>
    match cells[source]? with
    | some value => copyForward (cells.set dest value) (source + 1) (dest + 1) count
    | none => cells

theorem window_add (cells : List α) (position first second : Nat) :
    window cells position (first + second) =
      window cells position first ++ window cells (position + first) second := by
  simp only [window, List.take_add, List.drop_drop]

theorem window_length (room : position + count ≤ cells.length) :
    (window cells position count).length = count := by
  simp only [window, List.length_take, List.length_drop]
  omega

@[simp] theorem window_zero (cells : List α) (position : Nat) : window cells position 0 = [] := by
  simp [window]

theorem window_take (cells : List α) (position count fewer : Nat) (bound : fewer ≤ count) :
    (window cells position count).take fewer = window cells position fewer := by
  simp [window, List.take_take, Nat.min_eq_left bound]

theorem window_drop (cells : List α) (position skipped count : Nat) :
    (window cells position (skipped + count)).drop skipped =
      window cells (position + skipped) count := by
  simp [window, List.drop_take, List.drop_drop]

@[simp] theorem store_length (cells : List α) (position : Nat) (values : List α) :
    (store cells position values).length = cells.length := by
  induction values generalizing cells position with
  | nil => rfl
  | cons value values ih => rw [store, ih, List.length_set]

theorem store_frame (cells : List α) (position : Nat) (values : List α)
    (outside : other < position ∨ position + values.length ≤ other) :
    (store cells position values)[other]? = cells[other]? := by
  induction values generalizing cells position with
  | nil => rfl
  | cons value values ih =>
    simp only [List.length_cons] at outside
    rw [store, ih (cells.set position value) (position + 1) (by omega)]
    exact List.getElem?_set_ne (by omega)

theorem store_lane (cells : List α) (position : Nat) (values : List α)
    (room : position + values.length ≤ cells.length) (offset : Nat)
    (bound : offset < values.length) :
    (store cells position values)[position + offset]? = values[offset]? := by
  induction values generalizing cells position offset with
  | nil => simp at bound
  | cons value values ih =>
    simp only [List.length_cons] at room bound
    cases offset with
    | zero =>
      rw [store, store_frame _ _ _ (by omega)]
      simp [show position < cells.length by omega]
    | succ offset =>
      have stored := ih (cells.set position value) (position + 1)
        (by rw [List.length_set]; omega) offset (by omega)
      simpa only [store, List.getElem?_cons_succ, Nat.add_assoc, Nat.add_comm 1] using stored

theorem window_store (room : position + values.length ≤ cells.length) :
    window (store cells position values) position values.length = values := by
  apply List.ext_getElem?
  intro index
  by_cases bound : index < values.length
  · simpa [window, List.getElem?_take_of_lt bound]
      using store_lane cells position values room index bound
  · rw [List.getElem?_eq_none (by simp [window]; omega), List.getElem?_eq_none (by omega)]

theorem window_congr
    (same : ∀ offset < count, first[position + offset]? = second[target + offset]?) :
    window first position count = window second target count := by
  apply List.ext_getElem?
  intro index
  by_cases bound : index < count
  · simpa [window, List.getElem?_take_of_lt bound] using same index bound
  · rw [List.getElem?_eq_none (by simp [window]; omega),
      List.getElem?_eq_none (by simp [window]; omega)]

theorem window_store_of_disjoint (cells : List α) (values : List α)
   (outside : other + count ≤ position ∨ position + values.length ≤ other) :
    window (store cells position values) other count = window cells other count :=
  window_congr fun offset bound => store_frame cells position values (by omega)

theorem copyForward_frame (cells : List α) (source dest count : Nat)
    (outside : other < dest ∨ dest + count ≤ other) :
    (copyForward cells source dest count)[other]? = cells[other]? := by
  induction count generalizing cells source dest with
  | zero => rfl
  | succ count ih =>
    rw [copyForward]
    split
    · rw [ih _ _ _ (by omega)]
      exact List.getElem?_set_ne (by omega)
    · rfl

@[simp] theorem copyForward_length (cells : List α) (source dest count : Nat) :
    (copyForward cells source dest count).length = cells.length := by
  induction count generalizing cells source dest with
  | zero => rfl
  | succ count ih =>
    rw [copyForward]
    split
    · rw [ih, List.length_set]
    · rfl

/-- A forward copy to a lower region moves the window unchanged, even when the
two regions overlap: no cell is overwritten before it is read. -/
theorem copyForward_moves (cells : List α) (source dest count : Nat) (down : dest ≤ source)
    (room : source + count ≤ cells.length) (offset : Nat) (bound : offset < count) :
    (copyForward cells source dest count)[dest + offset]? = cells[source + offset]? := by
  induction count generalizing cells source dest offset with
  | zero => omega
  | succ count ih =>
    have inside : source < cells.length := by omega
    rw [copyForward, List.getElem?_eq_getElem inside]
    cases offset with
    | zero =>
      rw [copyForward_frame _ _ _ _ (by omega)]
      simp [show dest < cells.length by omega, inside]
    | succ offset =>
      have moved := ih (cells.set dest cells[source]) (source + 1) (dest + 1) (by omega)
        (by rw [List.length_set]; omega) offset (by omega)
      rw [List.getElem?_set_ne (by omega)] at moved
      simpa only [Nat.add_assoc, Nat.add_comm 1] using moved

theorem window_copyForward (cells : List α) (source dest count : Nat) (down : dest ≤ source)
    (room : source + count ≤ cells.length) :
    window (copyForward cells source dest count) dest count = window cells source count :=
  window_congr fun offset bound => copyForward_moves cells source dest count down room offset bound

end FakeMuduo.Base
