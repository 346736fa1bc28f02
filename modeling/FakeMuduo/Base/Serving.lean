import Mathlib.Data.List.Sort
import Mathlib.Order.Basic

/-! Jobs that are served in order, at most one at each tick. -/

namespace FakeMuduo.Base

universe u

variable {α : Type u} [LinearOrder α]

/-- The jobs not served after the ticks: a tick serves the first job if that is due. -/
def unserved : List α → List α → List α
  | jobs, [] => jobs
  | [], _ => []
  | due :: jobs, tick :: ticks =>
    if due ≤ tick then unserved jobs ticks
    else unserved (due :: jobs) ticks

/-- From when a job is due on, there are as many ticks as there are jobs from it on. -/
def EnoughTicks (jobs ticks : List α) : Prop :=
  ∀ index (bound : index < jobs.length), jobs.length - index ≤ ticks.countP (jobs[index] ≤ ·)

instance (jobs ticks : List α) : Decidable (EnoughTicks jobs ticks) :=
  inferInstanceAs (Decidable (∀ index (_ : index < jobs.length), _))

variable {due tick : α} {jobs ticks : List α}

@[simp] theorem unserved_nil (ticks : List α) : unserved ([] : List α) ticks = [] := by
  cases ticks <;> rfl

theorem enoughTicks_nil (ticks : List α) : EnoughTicks [] ticks := by
  intro index bound
  cases bound

theorem EnoughTicks.length_le (enough : EnoughTicks jobs ticks) : jobs.length ≤ ticks.length := by
  rcases jobs with _ | ⟨first, rest⟩
  · exact Nat.zero_le _
  · exact (enough 0 (Nat.zero_lt_succ _)).trans List.countP_le_length

theorem countP_of_due (ordered : (tick :: ticks).Pairwise (· ≤ ·)) (isDue : due ≤ tick) :
    (tick :: ticks).countP (due ≤ ·) = ticks.length + 1 := by
  rw [← List.length_cons, List.countP_eq_length]
  intro later member
  rcases List.mem_cons.mp member with same | member
  · subst same
    exact decide_eq_true isDue
  · exact decide_eq_true (isDue.trans (List.rel_of_pairwise_cons ordered member))

theorem enoughTicks_due (ordered : (tick :: ticks).Pairwise (· ≤ ·)) (isDue : due ≤ tick) :
    EnoughTicks (due :: jobs) (tick :: ticks) ↔ EnoughTicks jobs ticks := by
  constructor
  · intro enough index bound
    have room : jobs.length ≤ ticks.length := by
      have first := enough 0 (Nat.zero_lt_succ _)
      rw [List.getElem_cons_zero, countP_of_due ordered isDue, List.length_cons] at first
      omega
    by_cases early : jobs[index] ≤ tick
    · have all := countP_of_due ordered early
      rw [List.countP_cons, if_pos (decide_eq_true early)] at all
      omega
    · have later := enough (index + 1) (Nat.succ_lt_succ bound)
      rw [List.getElem_cons_succ, List.countP_cons, if_neg (by simpa using early),
        List.length_cons] at later
      omega
  · intro enough index bound
    rcases index with _ | index
    · rw [List.getElem_cons_zero, countP_of_due ordered isDue, List.length_cons]
      have room := enough.length_le
      omega
    · have later := enough index (Nat.lt_of_succ_lt_succ bound)
      rw [List.getElem_cons_succ, List.countP_cons, List.length_cons]
      omega

theorem enoughTicks_not_due (ordered : (due :: jobs).Pairwise (· ≤ ·)) (notDue : ¬ due ≤ tick) :
    EnoughTicks (due :: jobs) (tick :: ticks) ↔ EnoughTicks (due :: jobs) ticks := by
  have uncounted : ∀ job ∈ due :: jobs, (tick :: ticks).countP (job ≤ ·) =
      ticks.countP (job ≤ ·) := by
    intro job member
    have after : due ≤ job := by
      rcases List.mem_cons.mp member with same | member
      · exact same.ge
      · exact List.rel_of_pairwise_cons ordered member
    rw [List.countP_cons, if_neg (by simpa using (not_le.mp notDue).trans_le after), Nat.add_zero]
  constructor
  · intro enough index bound
    rw [← uncounted _ (List.getElem_mem bound)]
    exact enough index bound
  · intro enough index bound
    rw [uncounted _ (List.getElem_mem bound)]
    exact enough index bound

/-- Every job is served exactly when none is followed by too few ticks. -/
theorem unserved_eq_nil_iff (jobsOrdered : jobs.Pairwise (· ≤ ·))
    (ticksOrdered : ticks.Pairwise (· ≤ ·)) :
    unserved jobs ticks = [] ↔ EnoughTicks jobs ticks := by
  induction ticks generalizing jobs with
  | nil =>
    rcases jobs with _ | ⟨due, jobs⟩
    · simp [enoughTicks_nil]
    · constructor
      · intro served
        cases served
      · intro enough
        cases enough.length_le
  | cons tick ticks ih =>
    rcases jobs with _ | ⟨due, jobs⟩
    · simp [enoughTicks_nil]
    · rw [unserved]
      split
      · rename_i isDue
        rw [enoughTicks_due ticksOrdered isDue]
        exact ih jobsOrdered.of_cons ticksOrdered.of_cons
      · rename_i notDue
        rw [enoughTicks_not_due jobsOrdered notDue]
        exact ih jobsOrdered ticksOrdered.of_cons

end FakeMuduo.Base
