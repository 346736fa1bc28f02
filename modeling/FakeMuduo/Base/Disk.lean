import Mathlib.Data.List.Nodup
import Mathlib.Logic.Function.Basic

/-! Named files of which one is written at a time: opening a file empties it, and
pieces are then put at its end. -/

namespace FakeMuduo.Base

universe u v

/-- `order` holds the names that the writer opened, each at the place where it was opened first. -/
structure Disk (Name : Type u) (α : Type v) where
  files : Name → List α
  order : List Name
  current : Name

namespace Disk

variable {Name : Type u} {α : Type v} [DecidableEq Name] {disk : Disk Name α}

/-- The first file is opened on a disk that may hold others. -/
def create (files : Name → List α) (name : Name) : Disk Name α where
  files := Function.update files name []
  order := [name]
  current := name

def truncate (disk : Disk Name α) (name : Name) : Disk Name α where
  files := Function.update disk.files name []
  order := if name ∈ disk.order then disk.order else disk.order ++ [name]
  current := name

def append (disk : Disk Name α) (piece : List α) : Disk Name α :=
  { disk with files := Function.update disk.files disk.current (disk.files disk.current ++ piece) }

/-- All the files in order of creation, one behind the other. -/
def content (disk : Disk Name α) : List α := disk.order.flatMap disk.files

/-- The files in order of creation hold the pieces in order, and none holds a part of one. -/
def Holds (disk : Disk Name α) (pieces : List (List α)) : Prop :=
  ∃ groups : List (List (List α)), groups.flatten = pieces ∧
    disk.order.map disk.files = groups.map List.flatten

omit [DecidableEq Name] in
theorem Holds.content_eq {pieces : List (List α)} (holds : disk.Holds pieces) :
    disk.content = pieces.flatten := by
  obtain ⟨groups, rfl, files⟩ := holds
  rw [content, List.flatMap_def, files, List.flatten_flatten]

/-- The file being written is one of those opened, and each of them is opened once. -/
structure Stored (disk : Disk Name α) : Prop where
  distinct : disk.order.Nodup
  current : disk.current ∈ disk.order

theorem create_stored (files : Name → List α) (name : Name) : (create files name).Stored :=
  ⟨List.nodup_singleton name, List.mem_singleton_self name⟩

theorem Stored.append (stored : disk.Stored) (piece : List α) : (disk.append piece).Stored :=
  ⟨stored.distinct, stored.current⟩

theorem Stored.truncate (stored : disk.Stored) (name : Name) : (disk.truncate name).Stored := by
  by_cases used : name ∈ disk.order
  · refine ⟨?_, ?_⟩ <;> simp [Disk.truncate, used, stored.distinct]
  · refine ⟨?_, ?_⟩
    · simp only [Disk.truncate, used, if_false]
      exact List.nodup_append_comm.mp (List.nodup_cons.mpr ⟨used, stored.distinct⟩)
    · simp [Disk.truncate, used]

/-- A change of one file changes the length of all of them by as much. -/
theorem flatMap_update_length {names : List Name} (distinct : names.Nodup) {name : Name}
    (member : name ∈ names) (files : Name → List α) (data : List α) :
    (names.flatMap (Function.update files name data)).length + (files name).length =
      (names.flatMap files).length + data.length := by
  induction names with
  | nil => cases member
  | cons head names ih =>
    obtain ⟨absent, distinct⟩ := List.nodup_cons.mp distinct
    simp only [List.flatMap_cons, List.length_append]
    by_cases same : name = head
    · subst same
      have others : names.flatMap (Function.update files name data) = names.flatMap files := by
        apply List.flatMap_congr
        intro other inside
        exact Function.update_of_ne (ne_of_mem_of_not_mem inside absent) _ _
      rw [others, Function.update_self]
      omega
    · have rest := ih distinct ((List.mem_cons.mp member).resolve_left same)
      rw [Function.update_of_ne (Ne.symm same)]
      omega

theorem Stored.content_append_length (stored : disk.Stored) (piece : List α) :
    (disk.append piece).content.length = disk.content.length + piece.length := by
  have total := flatMap_update_length stored.distinct stored.current disk.files
    (disk.files disk.current ++ piece)
  rw [List.length_append] at total
  simp only [content, Disk.append]
  omega

theorem Stored.content_truncate_length (stored : disk.Stored) {name : Name}
    (used : name ∈ disk.order) :
    (disk.truncate name).content.length + (disk.files name).length = disk.content.length := by
  have total := flatMap_update_length stored.distinct used disk.files []
  simpa [content, Disk.truncate, used] using total

theorem content_truncate_of_unused {name : Name} (unused : name ∉ disk.order) :
    (disk.truncate name).content = disk.content := by
  have others : disk.order.flatMap (Function.update disk.files name []) =
      disk.order.flatMap disk.files := by
    apply List.flatMap_congr
    intro other inside
    exact Function.update_of_ne (ne_of_mem_of_not_mem inside unused) _ _
  simp [content, Disk.truncate, unused, others]

/-- Something that was written is on the disk no more. -/
def Short (disk : Disk Name α) (pieces : List (List α)) : Prop :=
  disk.content.length < pieces.flatten.length

theorem Short.append {pieces : List (List α)} (short : disk.Short pieces) (stored : disk.Stored)
    (piece : List α) : (disk.append piece).Short (pieces ++ [piece]) := by
  unfold Short at *
  rw [stored.content_append_length piece]
  simp only [List.flatten_append, List.length_append, List.flatten_cons, List.flatten_nil,
    List.append_nil]
  omega

theorem Short.truncate {pieces : List (List α)} (short : disk.Short pieces) (stored : disk.Stored)
    (name : Name) : (disk.truncate name).Short pieces := by
  unfold Short at *
  by_cases used : name ∈ disk.order
  · have total := stored.content_truncate_length used
    omega
  · rw [content_truncate_of_unused used]
    exact short

omit [DecidableEq Name] in
theorem Short.not_holds {pieces : List (List α)} (short : disk.Short pieces) :
    ¬ disk.Holds pieces := by
  intro holds
  unfold Short at short
  rw [holds.content_eq] at short
  exact Nat.lt_irrefl _ short

/-- The disk as it grows while no name is used twice: the file being written is the last one, and
those before it got something. -/
structure Grows (disk : Disk Name α) (pieces : List (List α)) : Prop where
  stored : disk.Stored
  layout : ∃ (closed : List Name) (groups : List (List (List α))) (last : List (List α)),
    disk.order = closed ++ [disk.current] ∧ groups.flatten ++ last = pieces ∧
      closed.map disk.files = groups.map List.flatten ∧ disk.files disk.current = last.flatten
  filled : ∀ name ∈ disk.order, name ≠ disk.current → disk.files name ≠ []

theorem create_grows (files : Name → List α) (name : Name) : (create files name).Grows [] := by
  refine ⟨create_stored files name, ⟨[], [], [], rfl, rfl, rfl, Function.update_self _ _ _⟩, ?_⟩
  intro other member different
  exact absurd (List.mem_singleton.mp member) different

omit [DecidableEq Name] in
theorem Grows.holds {pieces : List (List α)} (grows : disk.Grows pieces) : disk.Holds pieces := by
  obtain ⟨closed, groups, last, order, division, files, current⟩ := grows.layout
  refine ⟨groups ++ [last], ?_, ?_⟩
  · simpa using division
  · simp [order, files, current]

theorem Grows.append {pieces : List (List α)} (grows : disk.Grows pieces) (piece : List α) :
    (disk.append piece).Grows (pieces ++ [piece]) := by
  obtain ⟨closed, groups, last, order, division, files, current⟩ := grows.layout
  have distinct := grows.stored.distinct
  have outside : disk.current ∉ closed := by
    rw [order] at distinct
    intro inside
    exact (List.nodup_append.mp distinct).2.2 _ inside _ (List.mem_singleton_self _) rfl
  refine ⟨grows.stored.append piece, ⟨closed, groups, last ++ [piece], order, ?_, ?_, ?_⟩, ?_⟩
  · rw [← division, List.append_assoc]
  · rw [← files]
    apply List.map_congr_left
    intro name inside
    exact Function.update_of_ne (ne_of_mem_of_not_mem inside outside) _ _
  · simp [Disk.append, current]
  · intro name member different
    rw [show (disk.append piece).files name = disk.files name from
      Function.update_of_ne different _ _]
    exact grows.filled name member different

/-- Every file is filled once the one being written has got a piece. -/
theorem Grows.append_filled {pieces : List (List α)} (grows : disk.Grows pieces) {piece : List α}
    (some : piece ≠ []) {name : Name} (member : name ∈ disk.order) :
    (disk.append piece).files name ≠ [] := by
  by_cases same : name = disk.current
  · subst same
    simp [Disk.append, some]
  · exact (grows.append piece).filled name member same

theorem Grows.truncate {pieces : List (List α)} (grows : disk.Grows pieces) {name : Name}
    (filled : disk.files disk.current ≠ []) (unused : name ∉ disk.order) :
    (disk.truncate name).Grows pieces := by
  obtain ⟨closed, groups, last, order, division, files, current⟩ := grows.layout
  have other : ∀ kept ∈ disk.order, (disk.truncate name).files kept = disk.files kept := by
    intro kept inside
    exact Function.update_of_ne (ne_of_mem_of_not_mem inside unused) _ _
  refine ⟨grows.stored.truncate name, ⟨disk.order, groups ++ [last], [], ?_, ?_, ?_, ?_⟩, ?_⟩
  · simp [Disk.truncate, unused]
  · simpa using division
  · rw [List.map_congr_left other, order]
    simp [files, current]
  · exact Function.update_self _ _ _
  · intro kept member different
    have inside : kept ∈ disk.order := by
      simpa [Disk.truncate, unused, show kept ≠ name from different] using member
    rw [other kept inside]
    by_cases same : kept = disk.current
    · exact same ▸ filled
    · exact grows.filled kept inside same

/-- To open a filled file again is to lose something. -/
theorem Grows.truncate_short {pieces : List (List α)} (grows : disk.Grows pieces) {name : Name}
    (used : name ∈ disk.order) (filled : disk.files name ≠ []) :
    (disk.truncate name).Short pieces := by
  have total := grows.stored.content_truncate_length used
  have lost := List.length_pos_iff.mpr filled
  unfold Short
  rw [← grows.holds.content_eq]
  omega

end Disk

end FakeMuduo.Base
