import Mathlib.Data.List.Sort

/-! Sets kept in order, with the operations of a search tree: an insertion that
tells whether the element is new, an erasure that counts, and a cut at a bound. -/

namespace FakeMuduo.Base

universe u

structure OrderedSet (α : Type u) [LinearOrder α] where
  elements : List α
  sorted : elements.Pairwise (· < ·)

namespace OrderedSet

variable {α : Type u} [LinearOrder α]

instance : Membership α (OrderedSet α) := ⟨fun set value => value ∈ set.elements⟩

instance (value : α) (set : OrderedSet α) : Decidable (value ∈ set) :=
  inferInstanceAs (Decidable (value ∈ set.elements))

theorem mem_elements {value : α} {set : OrderedSet α} :
    value ∈ set.elements ↔ value ∈ set := Iff.rfl

def empty : OrderedSet α := ⟨[], .nil⟩

def size (set : OrderedSet α) : Nat := set.elements.length

def first? (set : OrderedSet α) : Option α := set.elements.head?

theorem nodup (set : OrderedSet α) : set.elements.Nodup := set.sorted.imp ne_of_lt

@[simp] theorem not_mem_empty (value : α) : value ∉ (empty : OrderedSet α) := List.not_mem_nil

theorem orderedInsert_sorted {value : α} {elements : List α} (sorted : elements.Pairwise (· < ·))
    (fresh : value ∉ elements) : (elements.orderedInsert (· ≤ ·) value).Pairwise (· < ·) := by
  induction elements with
  | nil => simp
  | cons head rest ih =>
    obtain ⟨above, rest_sorted⟩ := List.pairwise_cons.mp sorted
    obtain ⟨apart, absent⟩ := not_or.mp (mt List.mem_cons.mpr fresh)
    rw [List.orderedInsert_cons]
    split
    · rename_i before
      have below := lt_of_le_of_ne before apart
      refine List.pairwise_cons.mpr ⟨?_, sorted⟩
      intro other member
      rcases List.mem_cons.mp member with rfl | later
      · exact below
      · exact below.trans (above other later)
    · rename_i after
      refine List.pairwise_cons.mpr ⟨?_, ih rest_sorted absent⟩
      intro other member
      rcases (List.mem_orderedInsert (· ≤ ·)).mp member with rfl | later
      · exact not_le.mp after
      · exact above other later

/-- Tells whether the value is new to the set. -/
def insert (set : OrderedSet α) (value : α) : Bool × OrderedSet α :=
  if fresh : value ∈ set.elements then (false, set)
  else (true, ⟨set.elements.orderedInsert (· ≤ ·) value, orderedInsert_sorted set.sorted fresh⟩)

theorem insert_new {set : OrderedSet α} {value : α} (fresh : value ∉ set) :
    (set.insert value).1 = true := by
  rw [insert, dif_neg (show value ∉ set.elements from fresh)]

@[simp] theorem mem_insert {set : OrderedSet α} {value other : α} :
    other ∈ (set.insert value).2 ↔ other = value ∨ other ∈ set := by
  unfold insert
  split
  · rename_i old
    constructor
    · exact .inr
    · rintro (rfl | member)
      · exact old
      · exact member
  · exact List.mem_orderedInsert (· ≤ ·)

theorem size_insert {set : OrderedSet α} {value : α} (fresh : value ∉ set) :
    (set.insert value).2.size = set.size + 1 := by
  rw [insert, dif_neg (show value ∉ set.elements from fresh)]
  exact List.orderedInsert_length (· ≤ ·) set.elements value

/-- Tells how many elements it erases. -/
def erase (set : OrderedSet α) (value : α) : Nat × OrderedSet α :=
  (if value ∈ set then 1 else 0, ⟨set.elements.erase value, set.sorted.sublist List.erase_sublist⟩)

theorem erase_one {set : OrderedSet α} {value : α} (member : value ∈ set) :
    (set.erase value).1 = 1 := by
  rw [erase, if_pos member]

@[simp] theorem mem_erase {set : OrderedSet α} {value other : α} :
    other ∈ (set.erase value).2 ↔ other ≠ value ∧ other ∈ set :=
  set.nodup.mem_erase_iff

theorem size_erase {set : OrderedSet α} {value : α} (member : value ∈ set) :
    (set.erase value).2.size + 1 = set.size := by
  have filled := List.length_pos_of_mem (show value ∈ set.elements from member)
  have shorter := List.length_erase_of_mem (show value ∈ set.elements from member)
  unfold size erase
  dsimp only
  omega

/-- The elements below the bound, in order, and the set of the others. -/
def cut (set : OrderedSet α) (bound : α) : List α × OrderedSet α :=
  (set.elements.takeWhile (· < bound),
    ⟨set.elements.dropWhile (· < bound), set.sorted.sublist (List.dropWhile_sublist _)⟩)

theorem cut_append (set : OrderedSet α) (bound : α) :
    (set.cut bound).1 ++ (set.cut bound).2.elements = set.elements :=
  List.takeWhile_append_dropWhile

theorem mem_cut_below {set : OrderedSet α} {bound value : α} :
    value ∈ (set.cut bound).1 ↔ value ∈ set ∧ value < bound := by
  obtain ⟨elements, sorted⟩ := set
  unfold cut
  rw [← mem_elements]
  dsimp only
  induction elements with
  | nil => simp
  | cons head rest ih =>
    obtain ⟨above, rest_sorted⟩ := List.pairwise_cons.mp sorted
    by_cases below : head < bound
    · simp only [List.takeWhile_cons, decide_eq_true below, if_true, List.mem_cons, ih rest_sorted]
      constructor
      · rintro (rfl | ⟨member, less⟩)
        · exact ⟨.inl rfl, below⟩
        · exact ⟨.inr member, less⟩
      · rintro ⟨rfl | member, less⟩
        · exact .inl rfl
        · exact .inr ⟨member, less⟩
    · simp only [List.takeWhile_cons, decide_eq_false below, Bool.false_eq_true, if_false,
        List.not_mem_nil, List.mem_cons, false_iff, not_and]
      rintro (rfl | member)
      · exact below
      · intro less
        exact below ((above value member).trans less)

theorem cut_subset (set : OrderedSet α) (bound : α) : ∀ value ∈ (set.cut bound).1, value ∈ set :=
  fun _ member => (mem_cut_below.mp member).1

theorem cut_sorted (set : OrderedSet α) (bound : α) : (set.cut bound).1.Pairwise (· < ·) :=
  set.sorted.sublist (List.takeWhile_sublist _)

theorem cut_nodup (set : OrderedSet α) (bound : α) : (set.cut bound).1.Nodup :=
  (set.cut_sorted bound).imp ne_of_lt

theorem mem_cut_rest {set : OrderedSet α} {bound value : α} :
    value ∈ (set.cut bound).2 ↔ value ∈ set ∧ bound ≤ value := by
  have whole : value ∈ set ↔ value ∈ (set.cut bound).1 ∨ value ∈ (set.cut bound).2 := by
    rw [← mem_elements, ← cut_append set bound, List.mem_append]
    rfl
  have apart : value ∈ (set.cut bound).1 → value ∉ (set.cut bound).2 := by
    have distinct := set.nodup
    rw [← cut_append set bound, List.nodup_append] at distinct
    intro before after
    exact distinct.2.2 value before value after rfl
  rw [mem_cut_below] at whole apart
  constructor
  · intro member
    refine ⟨whole.mpr (.inr member), ?_⟩
    by_contra less
    exact apart ⟨whole.mpr (.inr member), not_le.mp less⟩ member
  · rintro ⟨member, above⟩
    rcases whole.mp member with ⟨_, less⟩ | rest
    · exact absurd less (not_lt.mpr above)
    · exact rest

theorem size_cut (set : OrderedSet α) (bound : α) :
    (set.cut bound).1.length + (set.cut bound).2.size = set.size := by
  unfold size
  rw [← cut_append set bound, List.length_append]

theorem first?_mem {set : OrderedSet α} {value : α}
    (first : set.first? = some value) : value ∈ set :=
  List.mem_of_mem_head? first

/-- The first element is the least. -/
theorem first?_le {set : OrderedSet α} {value other : α} (first : set.first? = some value)
    (member : other ∈ set) :
    value ≤ other := by
  obtain ⟨elements, sorted⟩ := set
  obtain ⟨rest, rfl⟩ := List.head?_eq_some_iff.mp first
  rcases List.mem_cons.mp (show other ∈ value :: rest from member) with rfl | later
  · exact le_refl _
  · exact le_of_lt ((List.pairwise_cons.mp sorted).1 other later)

theorem first?_eq_none {set : OrderedSet α} : set.first? = none ↔ ∀ value, value ∉ set := by
  unfold first?
  rw [List.head?_eq_none_iff, List.eq_nil_iff_forall_not_mem]
  rfl

end OrderedSet

end FakeMuduo.Base
