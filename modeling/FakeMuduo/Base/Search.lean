import Mathlib.Data.List.Basic

/-! First occurrence of a pattern in a sequence, as `std::search` finds it. -/

namespace FakeMuduo.Base

universe u

variable {α : Type u} [DecidableEq α]

/-- The offset of the first occurrence of `pattern`. -/
def search (pattern : List α) : List α → Option Nat
  | [] => if pattern = [] then some 0 else none
  | cell :: rest =>
    if List.isPrefixOf pattern (cell :: rest) then some 0 else (search pattern rest).map (· + 1)

theorem isPrefixOf_append {pattern cells : List α} (found : List.isPrefixOf pattern cells = true)
    (more : List α) : List.isPrefixOf pattern (cells ++ more) = true := by
  rw [List.isPrefixOf_iff_prefix] at found ⊢
  exact found.trans (List.prefix_append cells more)

theorem search_found {pattern : List α} (cells : List α)
    (found : search pattern cells = some offset) :
    pattern <+: cells.drop offset := by
  induction cells generalizing offset with
  | nil =>
    simp only [search] at found
    split at found
    · rename_i empty
      simp [empty]
    · cases found
  | cons cell rest ih =>
    simp only [search] at found
    split at found
    · rename_i here
      cases found
      exact List.isPrefixOf_iff_prefix.mp here
    · obtain ⟨earlier, inRest, same⟩ := Option.map_eq_some_iff.mp found
      subst same
      simpa using ih inRest

theorem search_bound {pattern cells : List α} (found : search pattern cells = some offset) :
    offset + pattern.length ≤ cells.length ∨ pattern = [] := by
  have bound := (search_found cells found).length_le
  rw [List.length_drop] at bound
  by_cases empty : pattern = []
  · exact .inr empty
  · have positive := List.length_pos_iff.mpr empty
    left
    omega

/-- Text that arrives later does not move an occurrence already found. -/
theorem search_append {pattern : List α} (cells more : List α)
    (found : search pattern cells = some offset) :
    search pattern (cells ++ more) = some offset := by
  induction cells generalizing offset with
  | nil =>
    simp only [search] at found
    split at found
    · rename_i empty
      cases found
      subst pattern
      cases more <;> simp [search]
    · cases found
  | cons cell rest ih =>
    simp only [search] at found
    split at found
    · rename_i here
      cases found
      simp only [List.cons_append, search]
      rw [if_pos (by simpa using isPrefixOf_append here more)]
    · rename_i elsewhere
      obtain ⟨earlier, inRest, same⟩ := Option.map_eq_some_iff.mp found
      subst same
      simp only [List.cons_append, search]
      split
      · rename_i here
        have extended := List.isPrefixOf_iff_prefix.mp here
        have short : pattern.length ≤ (cell :: rest).length := by
          have bound := (search_found rest inRest).length_le
          rw [List.length_drop] at bound
          rw [List.length_cons]
          omega
        have whole : cell :: rest <+: cell :: (rest ++ more) :=
          List.prefix_append (cell :: rest) more
        exact False.elim (elsewhere (List.isPrefixOf_iff_prefix.mpr
          (List.prefix_of_prefix_length_le extended whole short)))
      · rw [ih inRest]
        rfl

/-- An occurrence is the first one if its first cell does not occur before. -/
theorem search_first {first : α} {before : List α} (pattern after : List α)
    (absent : first ∉ before) :
    search (first :: pattern) (before ++ first :: pattern ++ after) = some before.length := by
  induction before with
  | nil => simp [search]
  | cons cell before ih =>
    have differs : first ≠ cell := List.ne_of_not_mem_cons absent
    rw [List.cons_append, List.cons_append, search, if_neg (by simp [differs]),
      ih (List.not_mem_of_not_mem_cons absent)]
    rfl

end FakeMuduo.Base
