import Mathlib.Data.List.Basic

/-! Calls that may end in a failed assertion instead of returning. -/

namespace FakeMuduo.Base

universe u v

/-- How a call ends when it does not return; `disabled` marks a step that cannot
be taken in the present state. -/
inductive Fault where
  | assertion (condition : String)
  | danglingReference
  | disabled
  | outOfFuel
  deriving DecidableEq, Repr

abbrev Checked (α : Type u) := Except Fault α

/-- An `assert` of the source, with its text. -/
def check (condition : String) (holds : Prop) [Decidable holds] : Checked Unit :=
  if holds then .ok () else .error (.assertion condition)

theorem check_pass {holds : Prop} [Decidable holds] (condition : String) (passes : holds) :
    check condition holds = .ok () := by
  simp [check, passes]

@[simp] theorem ok_bind {α : Type u} {β : Type u} (value : α) (next : α → Checked β) :
    ((Except.ok value : Checked α) >>= next) = next value := rfl

@[simp] theorem error_bind {α : Type u} {β : Type u} (fault : Fault) (next : α → Checked β) :
    ((Except.error fault : Checked α) >>= next) = .error fault := rfl

/-- A sequenced call returns exactly when both of its parts return. -/
theorem bind_eq_ok {α β : Type u} {call : Checked α} {next : α → Checked β} {result : β} :
    (call >>= next) = .ok result ↔ ∃ value, call = .ok value ∧ next value = .ok result := by
  cases call with
  | error fault => simp
  | ok value => simp

theorem check_bind_eq_ok {holds : Prop} [Decidable holds] {condition : String}
    {next : Unit → Checked β} {result : β} :
    (check condition holds >>= next) = .ok result ↔ holds ∧ next () = .ok result := by
  by_cases passes : holds
  · simp [check, passes]
  · simp [check, passes]

/-- A step that is taken only under a condition. -/
theorem guarded_eq_ok {condition : Prop} [Decidable condition] {value result : α} {fault : Fault} :
    (if condition then .ok value else .error fault : Checked α) = .ok result ↔
      condition ∧ value = result := by
  by_cases holds : condition
  · simp [holds]
  · simp [holds]

/-- A step that is taken only under a condition cannot be taken, or returns what it should. -/
theorem guarded_returns {condition : Prop} [Decidable condition] {value : α} {Holds : α → Prop}
    (holds : condition → Holds value) :
    (if condition then .ok value else .error .disabled : Checked α) = .error .disabled ∨
      ∃ result, (if condition then .ok value else .error .disabled : Checked α) = .ok result ∧
        Holds result := by
  by_cases permitted : condition
  · rw [if_pos permitted]
    exact .inr ⟨value, rfl, holds permitted⟩
  · rw [if_neg permitted]
    exact .inl rfl

end FakeMuduo.Base
