import Mathlib.Data.List.Basic

/-! A table of numbered slots, such as the file descriptors of a process. -/

namespace FakeMuduo.Base

universe u

abbrev Slots (Holder : Type u) := List (Option Holder)

namespace Slots

variable {Holder : Type u} {slots after : Slots Holder} {holder other : Holder}
  {index position : Nat}

def Holds (slots : Slots Holder) (holder : Holder) (index : Nat) : Prop :=
  slots[index]? = some (some holder)

instance [DecidableEq Holder] (slots : Slots Holder) (holder : Holder) (index : Nat) :
    Decidable (slots.Holds holder index) :=
  inferInstanceAs (Decidable (slots[index]? = some (some holder)))

/-- Take the lowest free slot. -/
def allocate (slots : Slots Holder) (holder : Holder) : Option (Nat × Slots Holder) :=
  (slots.findIdx? Option.isNone).map fun index => (index, slots.set index (some holder))

def release (slots : Slots Holder) (index : Nat) : Slots Holder := slots.set index none

theorem allocate_eq_none : slots.allocate holder = none ↔ none ∉ slots := by
  rw [allocate, Option.map_eq_none_iff, List.findIdx?_eq_none_iff]
  constructor
  · intro full member
    cases full none member
  · intro full slot member
    cases slot with
    | none => exact absurd member full
    | some _ => rfl

theorem allocate_free (allocated : slots.allocate holder = some (index, after)) :
    slots[index]? = some none ∧ after = slots.set index (some holder) := by
  obtain ⟨position, found, same⟩ := Option.map_eq_some_iff.mp allocated
  cases same
  obtain ⟨bound, free, _⟩ := List.findIdx?_eq_some_iff_getElem.mp found
  refine ⟨?_, rfl⟩
  rw [List.getElem?_eq_getElem bound, Option.isNone_iff_eq_none.mp free]

/-- Only the slot that was free has a new holder. -/
theorem holds_allocate (allocated : slots.allocate holder = some (index, after)) :
    after.Holds other position ↔ position = index ∧ other = holder ∨
      slots.Holds other position := by
  obtain ⟨free, rfl⟩ := allocate_free allocated
  obtain ⟨bound, vacant⟩ := List.getElem?_eq_some_iff.mp free
  simp only [Holds, List.getElem?_set]
  by_cases here : index = position
  · subst here
    simp [bound, vacant, eq_comm]
  · simp [here, Ne.symm here]

theorem holds_release :
    (slots.release index).Holds holder position ↔ position ≠ index ∧
      slots.Holds holder position := by
  simp only [Holds, release, List.getElem?_set]
  by_cases here : index = position
  · subst here
    by_cases bound : index < slots.length
    · simp [bound]
    · simp [bound]
  · simp [here, Ne.symm here]

theorem free_release (held : slots.Holds holder index) : none ∈ slots.release index := by
  obtain ⟨bound, _⟩ := List.getElem?_eq_some_iff.mp held
  exact List.mem_set bound none

theorem Free.release (free : none ∈ slots) (index : Nat) : none ∈ slots.release index := by
  obtain ⟨position, bound, found⟩ := List.getElem_of_mem free
  apply List.mem_iff_getElem.mpr
  refine ⟨position, by simpa [Slots.release] using bound, ?_⟩
  simp only [Slots.release, List.getElem_set, found, ite_self]

end Slots

end FakeMuduo.Base
