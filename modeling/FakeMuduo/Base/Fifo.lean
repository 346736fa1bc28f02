import Mathlib.Data.List.Basic

/-! Histories of a queue with one writer end and one reader end, and what it means
for a history to be first in, first out. -/

namespace FakeMuduo.Base.Fifo

universe u

variable {α : Type u}

/-- A completed call: a push, or a pop with the element it returned, if any. -/
inductive Event (α : Type u) where
  | pushed (value : α)
  | popped (result : Option α)

def pushes : List (Event α) → List α
  | [] => []
  | .pushed value :: events => value :: pushes events
  | .popped _ :: events => pushes events

def returned : List (Event α) → List α
  | [] => []
  | .pushed _ :: events => returned events
  | .popped result :: events => result.toList ++ returned events

@[simp] theorem pushes_append (past events : List (Event α)) :
    pushes (past ++ events) = pushes past ++ pushes events := by
  induction past with
  | nil => rfl
  | cons event past ih => cases event <;> simp [pushes, ih]

@[simp] theorem returned_append (past events : List (Event α)) :
    returned (past ++ events) = returned past ++ returned events := by
  induction past with
  | nil => rfl
  | cons event past ih => cases event <;> simp [returned, ih]

/-- What one moment of a history owes to the law: what was returned is a prefix of
what was pushed, and a pop that comes next fails exactly if all was returned. -/
def LawfulAt (past rest : List (Event α)) : Prop :=
  returned past <+: pushes past ∧
    ∀ result, rest.head? = some (.popped result) → (result = none ↔ returned past = pushes past)

/-- At every moment of the history, the law holds. -/
def Lawful (events : List (Event α)) : Prop :=
  ∀ past rest, events = past ++ rest → LawfulAt past rest

/-- The history is one of a list that grows at its end and shrinks at its head. -/
def Accepts : List α → List (Event α) → Prop
  | _, [] => True
  | lines, .pushed value :: events => Accepts (lines ++ [value]) events
  | lines, .popped result :: events => result = lines.head? ∧ Accepts lines.tail events

theorem lawfulAt_push (past events : List (Event α)) (value : α) {lines : List α}
    (balance : returned past ++ lines = pushes past) : LawfulAt past (.pushed value :: events) := by
  refine ⟨⟨lines, balance⟩, ?_⟩
  intro result head
  cases head

theorem lawfulAt_pop_iff (past events : List (Event α)) (result : Option α) {lines : List α}
    (balance : returned past ++ lines = pushes past) :
    LawfulAt past (.popped result :: events) ↔ (result = none ↔ lines = []) := by
  have drained : returned past = pushes past ↔ lines = [] := by
    rw [← balance]
    simp
  unfold LawfulAt
  rw [drained]
  constructor
  · rintro ⟨_, next⟩
    exact next result rfl
  · intro verdict
    refine ⟨⟨lines, balance⟩, ?_⟩
    intro other head
    cases head
    exact verdict

/-- The law splits off the first event of what is left of a history. -/
theorem lawful_cons_iff (past : List (Event α)) (event : Event α) (events : List (Event α)) :
    (∀ soon rest, event :: events = soon ++ rest → LawfulAt (past ++ soon) rest) ↔
      LawfulAt past (event :: events) ∧
        ∀ soon rest, events = soon ++ rest → LawfulAt (past ++ [event] ++ soon) rest := by
  constructor
  · intro all
    refine ⟨?_, ?_⟩
    · simpa using all [] (event :: events) rfl
    · intro soon rest split
      simpa using all (event :: soon) rest (by rw [split]; rfl)
  · rintro ⟨now, later⟩ soon rest split
    cases soon with
    | nil =>
      cases split
      simpa using now
    | cons head soon =>
      obtain ⟨rfl, tail⟩ := List.cons_eq_cons.mp split
      simpa using later soon rest tail

theorem lawful_iff_accepts_of_balance (events past : List (Event α)) (lines : List α)
    (balance : returned past ++ lines = pushes past) :
    (∀ soon rest, events = soon ++ rest → LawfulAt (past ++ soon) rest) ↔ Accepts lines events := by
  induction events generalizing past lines with
  | nil =>
    refine iff_of_true ?_ trivial
    intro soon rest split
    obtain ⟨rfl, rfl⟩ := List.append_eq_nil_iff.mp split.symm
    rw [List.append_nil]
    refine ⟨⟨lines, balance⟩, ?_⟩
    intro result head
    cases head
  | cons event events ih =>
    rw [lawful_cons_iff]
    cases event with
    | pushed value =>
      have grown : returned (past ++ [.pushed value]) ++ (lines ++ [value]) =
          pushes (past ++ [.pushed value]) := by
        simp [returned, pushes, ← balance]
      rw [ih _ _ grown]
      exact and_iff_right (lawfulAt_push past events value balance)
    | popped result =>
      rw [lawfulAt_pop_iff past events result balance]
      simp only [Accepts]
      constructor
      · rintro ⟨verdict, later⟩
        have taken : result = lines.head? := by
          cases result with
          | none => rw [verdict.mp rfl]; rfl
          | some value =>
            obtain ⟨rest, balanced⟩ := (later [] events rfl).1
            simp only [List.append_nil, returned_append, pushes_append, ← balance, returned, pushes,
              Option.toList_some, List.append_assoc, List.cons_append, List.nil_append] at balanced
            rw [← List.append_cancel_left balanced]
            rfl
        refine ⟨taken, (ih _ _ ?_).mp later⟩
        cases lines <;> simp_all [returned, pushes]
      · rintro ⟨taken, later⟩
        refine ⟨?_, (ih _ _ ?_).mpr later⟩
        · rw [taken, List.head?_eq_none_iff]
        · cases lines <;> simp_all [returned, pushes]

/-- A history is lawful exactly if a list makes it. -/
theorem lawful_iff_accepts (events : List (Event α)) : Lawful events ↔ Accepts [] events :=
  lawful_iff_accepts_of_balance events [] [] rfl

end FakeMuduo.Base.Fifo
