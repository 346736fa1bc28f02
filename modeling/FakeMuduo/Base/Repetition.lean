import Mathlib.Data.List.Infix
import Mathlib.Data.List.Rotate

/-! Lists that repeat their beginning. -/

namespace FakeMuduo.Base

universe u

variable {α : Type u} {unit sent rest : List α}

/-- What goes on as it began, after a first part, is that part over and over. -/
theorem prefix_repeats (some : unit ≠ []) (again : sent <+: unit ++ sent) :
    ∃ count, sent <+: (List.replicate count unit).flatten := by
  induction length : sent.length using Nat.strongRecOn generalizing sent with
  | ind size ih =>
    by_cases short : sent.length ≤ unit.length
    · refine ⟨1, ?_⟩
      simpa using List.prefix_of_prefix_length_le again (List.prefix_append unit sent) short
    · obtain ⟨rest, rfl⟩ : unit <+: sent :=
        List.prefix_of_prefix_length_le (List.prefix_append unit sent) again (by omega)
      have later : rest <+: unit ++ rest := (List.prefix_append_right_inj unit).mp again
      have shorter : rest.length < size := by
        have positive := List.length_pos_iff.mpr some
        rw [← length, List.length_append]
        omega
      obtain ⟨count, repeats⟩ := ih rest.length shorter later rfl
      refine ⟨count + 1, ?_⟩
      rw [List.replicate_succ, List.flatten_cons]
      exact (List.prefix_append_right_inj unit).mpr repeats

/-- What is behind such a list, when the first part was put before it, is that part turned round. -/
theorem isRotated_of_append_eq (moved : sent ++ rest = unit ++ sent) : unit.IsRotated rest := by
  induction length : sent.length using Nat.strongRecOn generalizing sent with
  | ind size ih =>
    have again : sent <+: unit ++ sent := ⟨rest, moved⟩
    by_cases short : sent.length ≤ unit.length
    · obtain ⟨tail, rfl⟩ : sent <+: unit :=
        List.prefix_of_prefix_length_le again (List.prefix_append unit sent) short
      rw [List.append_assoc, List.append_cancel_left_eq] at moved
      rw [moved]
      exact List.isRotated_append
    · obtain ⟨later, rfl⟩ : unit <+: sent :=
        List.prefix_of_prefix_length_le (List.prefix_append unit sent) again (by omega)
      rw [List.append_assoc, List.append_cancel_left_eq] at moved
      rw [List.length_append] at length short
      rcases unit with _ | ⟨byte, unit⟩
      · have none : rest = [] := by simpa using moved
        rw [none]
      · exact ih later.length (by rw [← length, List.length_cons]; omega) moved rfl

end FakeMuduo.Base
