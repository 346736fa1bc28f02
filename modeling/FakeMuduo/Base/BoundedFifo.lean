import Mathlib.Data.List.Basic

/-! A queue with a limited number of places, as a list, and what it means that a component answers
its calls as another one does. -/

namespace FakeMuduo.Base

universe u v w

section Respond

variable {State : Type u} {Abstract : Type u} {Call : Type v} {Answer : Type w}

/-- The answers to calls that are made one after another, and the state they lead to. -/
def respond (step : State → Call → Answer × State) : State → List Call → List Answer × State
  | state, [] => ([], state)
  | state, call :: calls =>
    ((step state call).1 :: (respond step (step state call).2 calls).1,
      (respond step (step state call).2 calls).2)

/-- A component that answers each call as the abstract one does answers all calls so. -/
theorem respond_refines {step : State → Call → Answer × State}
    {spec : Abstract → Call → Answer × Abstract} (Relates : State → Abstract → Prop)
    (kept : ∀ {state abstract}, Relates state abstract → ∀ call,
      (step state call).1 = (spec abstract call).1 ∧
        Relates (step state call).2 (spec abstract call).2)
    {state : State} {abstract : Abstract} (related : Relates state abstract) (calls : List Call) :
    (respond step state calls).1 = (respond spec abstract calls).1 ∧
      Relates (respond step state calls).2 (respond spec abstract calls).2 := by
  induction calls generalizing state abstract with
  | nil => exact ⟨rfl, related⟩
  | cons call calls ih =>
    obtain ⟨answer, next⟩ := kept related call
    obtain ⟨answers, final⟩ := ih next
    refine ⟨?_, final⟩
    rw [respond, respond, answer, answers]

end Respond

namespace BoundedFifo

variable {α : Type u}

/-- A call with the variable of the caller's that it is given: the value to be pushed, or the one
that a popped value replaces. -/
inductive Call (α : Type u) where
  | push (value : α)
  | pop (place : α)
  deriving DecidableEq, Repr

/-- What a call returns and what it leaves in the caller's variable, `moved` if
the value was taken from it. -/
def perform (capacity : Nat) (moved : α) (held : List α) : Call α → (Bool × α) × List α
  | .push value =>
    if held.length = capacity then ((false, value), held)
    else ((true, moved), held ++ [value])
  | .pop place =>
    match held with
    | [] => ((false, place), [])
    | oldest :: rest => ((true, oldest), rest)

/-- The values that were accepted. -/
def handedIn : List (Call α) → List (Bool × α) → List α
  | .push value :: calls, (true, _) :: answers => value :: handedIn calls answers
  | _ :: calls, _ :: answers => handedIn calls answers
  | _, _ => []

/-- The values that were given back. -/
def cameOut : List (Call α) → List (Bool × α) → List α
  | .pop _ :: calls, (true, value) :: answers => value :: cameOut calls answers
  | _ :: calls, _ :: answers => cameOut calls answers
  | _, _ => []

variable {capacity : Nat} {moved : α}

/-- What came out and what is held is what was held and what was handed in, in that order. -/
theorem respond_conserves (held : List α) (calls : List (Call α)) :
    cameOut calls (respond (perform capacity moved) held calls).1 ++
      (respond (perform capacity moved) held calls).2 =
      held ++ handedIn calls (respond (perform capacity moved) held calls).1 := by
  induction calls generalizing held with
  | nil => exact (List.append_nil held).symm
  | cons call calls ih =>
    cases call with
    | push value =>
      by_cases full : held.length = capacity
      · simp only [respond, perform, if_pos full, cameOut, handedIn]
        exact ih held
      · simp only [respond, perform, if_neg full, cameOut, handedIn]
        rw [ih, List.append_assoc]
        rfl
    | pop place =>
      cases held with
      | nil =>
        simp only [respond, perform, cameOut, handedIn]
        exact ih []
      | cons oldest rest =>
        simp only [respond, perform, cameOut, handedIn, List.cons_append]
        rw [ih]

end BoundedFifo

end FakeMuduo.Base
