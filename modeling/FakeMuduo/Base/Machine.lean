import Mathlib.Data.List.Basic

/-! Labelled machines and their finite runs. A run grows at its end, so that an
invariant may speak about the labels already performed. -/

namespace FakeMuduo.Base

universe u v w

structure Machine (State : Type u) (Label : Type v) where
  step : State → Label → State → Prop

namespace Machine

variable {State : Type u} {Label : Type v} {machine : Machine State Label}

inductive Run (machine : Machine State Label) (start : State) : List Label → State → Prop where
  | start : Run machine start [] start
  | next {labels : List Label} {current : State} {label : Label} {after : State}
      (run : Run machine start labels current)
      (step : machine.step current label after) : Run machine start (labels ++ [label]) after

/-- What holds at the start and is kept by every step holds after every run. -/
theorem Run.invariant (Holds : List Label → State → Prop) {start finish : State}
    {labels : List Label} (initial : Holds [] start)
    (kept : ∀ {labels current label after}, Holds labels current →
      machine.step current label after → Holds (labels ++ [label]) after)
    (run : machine.Run start labels finish) : Holds labels finish := by
  induction run with
  | start => exact initial
  | next _ step ih => exact kept ih step

/-- A relation to an abstract state that every step keeps, while the abstract
state follows the labels, holds after every run. -/
theorem Run.refines {Abstract : Type w} (Relates : State → Abstract → Prop)
    {follow : Abstract → Label → Abstract} {start finish : State} {first : Abstract}
    {labels : List Label} (initial : Relates start first)
    (kept : ∀ {current label after spec}, Relates current spec →
      machine.step current label after → Relates after (follow spec label))
    (run : machine.Run start labels finish) : Relates finish (labels.foldl follow first) := by
  induction run with
  | start => exact initial
  | next _ step ih =>
    rw [List.foldl_append]
    exact kept ih step

/-- The machine that takes only the steps allowed in the state before them. -/
def restrict (machine : Machine State Label) (allowed : State → Label → Prop) :
    Machine State Label where
  step current label after := allowed current label ∧ machine.step current label after

/-- The runs whose states all satisfy a property. -/
inductive Throughout (machine : Machine State Label) (Holds : State → Prop) (start : State) :
    List Label → State → Prop where
  | start (holds : Holds start) : Throughout machine Holds start [] start
  | next {labels : List Label} {current : State} {label : Label} {after : State}
      (run : Throughout machine Holds start labels current)
        (step : machine.step current label after)
      (holds : Holds after) : Throughout machine Holds start (labels ++ [label]) after

/-- When a step keeps a property exactly if it is allowed, the runs that have the property
throughout are those of allowed steps. -/
theorem throughout_iff_restrict {Holds Invariant : State → Prop} {allowed : State → Label → Prop}
    {start finish : State} {labels : List Label} (initial : Invariant start)
    (implies : ∀ state, Invariant state → Holds state)
    (exactly : ∀ {current label after}, Invariant current → machine.step current label after →
      (Holds after → allowed current label) ∧ (allowed current label → Invariant after)) :
    machine.Throughout Holds start labels finish ↔
      (machine.restrict allowed).Run start labels finish := by
  have kept : ∀ {labels finish}, (machine.restrict allowed).Run start labels finish →
      Invariant finish := by
    intro labels finish run
    refine run.invariant (fun _ state => Invariant state) initial ?_
    intro _ _ _ _ holds step
    exact (exactly holds step.2).2 step.1
  constructor
  · intro throughout
    induction throughout with
    | start => exact .start
    | next _ step holds ih => exact .next ih ⟨(exactly (kept ih) step).1 holds, step⟩
  · intro run
    induction run with
    | start => exact .start (implies _ initial)
    | next run step ih => exact .next ih step.2 (implies _ (kept (.next run step)))

/-- The machine of a step function that may refuse a label. -/
def ofFunction {Error : Type w} (step : State → Label → Except Error State) :
    Machine State Label where
  step current label after := step current label = .ok after

/-- The machine of a step function that goes on until a call does not return. A step that is
refused cannot be taken. -/
def untilFault {Error : Type w} (step : State → Label → Except Error State) (refused : Error) :
    Machine (Except Error State) Label where
  step current label after := ∃ state, current = .ok state ∧ step state label = after ∧
    after ≠ .error refused

/-- The result of a call that returned to a state with a property. -/
def ReturnedTo {Error : Type w} (Holds : State → Prop) (result : Except Error State) : Prop :=
  ∃ state, result = .ok state ∧ Holds state

/-- When a step returns exactly if it is allowed, the runs whose calls all return
are those of allowed steps. -/
theorem untilFault_iff_restrict {Error : Type w} {step : State → Label → Except Error State}
    {refused : Error} {Invariant : State → Prop} {allowed : State → Label → Prop} {start : State}
    {labels : List Label} {result : Except Error State} (initial : Invariant start)
    (exactly : ∀ {state label}, Invariant state → step state label ≠ .error refused →
      ((∃ next, step state label = .ok next) → allowed state label) ∧
        (allowed state label → ∃ next, step state label = .ok next ∧ Invariant next)) :
    (untilFault step refused).Throughout (fun result => ∃ state, result = .ok state)
      (.ok start) labels result ↔
      ((untilFault step refused).restrict (fun current label =>
        ∀ state, current = .ok state → allowed state label)).Run (.ok start) labels result := by
  have returned : ReturnedTo Invariant (.ok start : Except Error State) := ⟨start, rfl, initial⟩
  refine throughout_iff_restrict returned ?_ ?_
  · rintro _ ⟨state, rfl, _⟩
    exact ⟨state, rfl⟩
  · rintro _ label after ⟨state, rfl, holds⟩ ⟨_, same, performed, taken⟩
    cases same
    subst after
    obtain ⟨due, kept⟩ := exactly holds taken
    constructor
    · rintro returned _ same
      cases same
      exact due returned
    · intro permitted
      exact kept (permitted state rfl)

theorem Run.untilFault {Error : Type w} {step : State → Label → Except Error State}
    {start finish : State} {labels : List Label} (refused : Error)
    (run : (ofFunction step).Run start labels finish) :
    (untilFault step refused).Run (.ok start) labels (.ok finish) := by
  induction run with
  | start => exact .start
  | @next _ current _ after _ performed ih =>
    apply Run.next ih
    refine ⟨current, rfl, performed, ?_⟩
    intro failed
    cases failed

theorem Run.cons {start middle finish : State} {label : Label} {labels : List Label}
    (step : machine.step start label middle) (run : machine.Run middle labels finish) :
    machine.Run start (label :: labels) finish := by
  induction run with
  | start => exact .next .start step
  | next _ last ih => exact .next ih last

/-- Perform the labels one after another, as long as each is allowed. -/
def follow {Error : Type w} (step : State → Label → Except Error State)
    (allowed : State → Label → Bool) : State → List Label → Option State
  | state, [] => some state
  | state, label :: labels =>
    if allowed state label then
      match step state label with
      | .ok next => follow step allowed next labels
      | .error _ => none
    else none

theorem Run.ofFollow (machine : Machine State Label) {Error : Type w}
    {step : State → Label → Except Error State} {allowed : State → Label → Bool}
    (takes : ∀ {state label after}, allowed state label = true → step state label = .ok after →
      machine.step state label after)
    (labels : List Label) {start finish : State}
    (followed : follow step allowed start labels = some finish) :
    machine.Run start labels finish := by
  induction labels generalizing start with
  | nil =>
    cases followed
    exact .start
  | cons label labels ih =>
    simp only [follow] at followed
    split at followed
    · rename_i permitted
      cases performed : step start label with
      | error fault => simp [performed] at followed
      | ok next =>
        rw [performed] at followed
        exact .cons (takes permitted performed) (ih followed)
    · cases followed

/-- A run that was followed to its end, and what was found there. -/
theorem Run.ofFollowAny (machine : Machine State Label) {Error : Type w}
    {step : State → Label → Except Error State} {allowed : State → Label → Bool}
    {found : State → Bool}
    (takes : ∀ {state label after}, allowed state label = true → step state label = .ok after →
      machine.step state label after)
    {labels : List Label} {start : State}
    (followed : (follow step allowed start labels).any found = true) :
    ∃ finish, machine.Run start labels finish ∧ found finish = true := by
  obtain ⟨finish, reached, final⟩ := (Option.any_eq_true _ _).mp followed
  exact ⟨finish, ofFollow machine takes labels reached, final⟩

/-- A run that was followed to a last call that does not return. -/
theorem Run.untilFaultOfFollow {Error : Type w} [DecidableEq Error]
    {step : State → Label → Except Error State} {refused fault : Error} {labels : List Label}
    {last : Label} {start : State} (apart : fault ≠ refused)
    (followed : (follow step (fun _ _ => true) start labels).any (fun state =>
      match step state last with
      | .error found => decide (found = fault)
      | .ok _ => false) = true) :
    (Machine.untilFault step refused).Run (.ok start) (labels ++ [last]) (.error fault) := by
  obtain ⟨finish, run, final⟩ :=
    ofFollowAny (ofFunction step) (fun _ performed => performed) followed
  apply Run.next (run.untilFault refused)
  refine ⟨finish, rfl, ?_, ?_⟩
  · split at final
    · rename_i found failed
      rw [failed, of_decide_eq_true final]
    · cases final
  · intro same
    cases same
    exact apart rfl

end Machine

end FakeMuduo.Base
