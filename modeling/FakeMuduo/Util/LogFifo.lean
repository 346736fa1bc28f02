import FakeMuduo.Util.LogBufferQueueInvariant

/-! When the log queue is first in, first out. -/

namespace FakeMuduo.Util

open FakeMuduo.Base LogBuffer

variable {Line : Type}

namespace Usage

def step (usage : Usage) : LogCall Line → Usage
  | .push _ => usage.push
  | .pop => usage.pop

def after (usage : Usage) (calls : List (LogCall Line)) : Usage :=
  calls.foldl step usage

theorem after_append (usage : Usage) (calls more : List (LogCall Line)) :
    usage.after (calls ++ more) = (usage.after calls).after more :=
  List.foldl_append

theorem safe_append (usage : Usage) (calls more : List (LogCall Line)) :
    usage.Safe (calls ++ more) ↔ usage.Safe calls ∧ (usage.after calls).Safe more := by
  induction calls generalizing usage with
  | nil => simp [Safe, after]
  | cons call calls ih =>
    cases call with
    | push logLine => exact ih usage.push
    | pop =>
      simp only [List.cons_append, Safe, ih usage.pop, and_assoc]
      rfl

/-- Calls that push a line and pop it at once. -/
def rounds (logLine : Line) (count : Nat) : List (LogCall Line) :=
  (List.replicate count [.push logLine, .pop]).flatten

theorem rounds_succ (logLine : Line) (count : Nat) :
    rounds logLine (count + 1) = rounds logLine count ++ [.push logLine, .pop] := by
  simp [rounds, List.replicate_succ']

theorem rounds_add (logLine : Line) (count more : Nat) :
    rounds logLine (count + more) = rounds logLine count ++ rounds logLine more := by
  rw [rounds, List.replicate_add, List.flatten_append]
  rfl

theorem rounds_part (logLine : Line) {usage : Usage} {count spare : Nat} {recycled : Bool}
    (clear : usage = ⟨0, 0, 0, spare, recycled⟩) (part : count < kSize) :
    usage.Safe (rounds logLine count) ∧
      usage.after (rounds logLine count) = ⟨count, 0, count, spare, recycled⟩ := by
  induction count with
  | zero => exact ⟨trivial, clear⟩
  | succ count ih =>
    obtain ⟨safe, reached⟩ := ih (by omega)
    have partly : count + 1 ≠ kSize := by omega
    rw [rounds_succ, safe_append, after_append, reached]
    simp [safe, Safe, after, step, push, pop, partly]

/-- As many rounds as a buffer has slots fill one buffer and empty it again. -/
theorem rounds_buffer (logLine : Line) {usage : Usage} {spare : Nat} {recycled : Bool}
    (clear : usage = ⟨0, 0, 0, spare, recycled⟩) :
    usage.Safe (rounds logLine kSize) ∧
      usage.after (rounds logLine kSize) =
        ⟨0, 0, 0, min (spare - 1 + 1) 4, decide (0 < spare)⟩ := by
  obtain ⟨count, whole⟩ : ∃ count, kSize = count + 1 :=
    Nat.exists_eq_succ_of_ne_zero (Nat.ne_of_gt kSize_pos)
  obtain ⟨safe, reached⟩ := rounds_part logLine clear (show count < kSize by omega)
  rw [whole, rounds_succ, safe_append, after_append, reached]
  simp [safe, Safe, after, step, push, pop, whole]

end Usage

namespace LogBufferQueue

theorem run_append (residue : Line → Line) (queue : LogBufferQueue Line)
    (calls more : List (LogCall Line)) :
    queue.run residue (calls ++ more) = (do
      let (events, queue) ← queue.run residue calls
      let (later, queue) ← queue.run residue more
      return (events ++ later, queue)) := by
  induction calls generalizing queue with
  | nil =>
    simp only [List.nil_append, run, ok_bind]
    cases queue.run residue more <;> rfl
  | cons call calls ih =>
    cases call with
    | push logLine =>
      simp only [List.cons_append, run, ih, bind_assoc, pure_bind]
    | pop =>
      simp only [List.cons_append, run, ih, bind_assoc, pure_bind]

theorem Models.run_safe {queue : LogBufferQueue Line} {lines : List Line} {usage : Usage}
    (models : queue.Models lines usage) (residue : Line → Line) (calls : List (LogCall Line))
    (safe : usage.Safe calls) :
    ∃ events after left, queue.run residue calls = .ok (events, after) ∧ Fifo.Accepts lines events ∧
      after.Models left (usage.after calls) := by
  induction calls generalizing queue lines usage with
  | nil => exact ⟨[], queue, lines, rfl, trivial, models⟩
  | cons call calls ih =>
    cases call with
    | push logLine =>
      obtain ⟨next, call, pushed⟩ := models.push logLine
      obtain ⟨events, after, left, ran, accepted, final⟩ := ih pushed safe
      exact ⟨.pushed logLine :: events, after, left, by simp [run, call, ran], accepted, final⟩
    | pop =>
      obtain ⟨now, later⟩ := safe
      cases lines with
      | nil =>
        have fresh : usage.recycled = false := by
          by_contra reused
          exact now ⟨models.backlog, by simpa using reused⟩
        obtain ⟨next, call, popped⟩ := models.pop_none residue fresh
        obtain ⟨events, after, left, ran, accepted, final⟩ := ih popped later
        exact ⟨.popped none :: events, after, left, by
          simp [run, call, ran], ⟨rfl, accepted⟩, final⟩
      | cons logLine lines =>
        obtain ⟨next, call, popped⟩ := models.pop_some residue
        obtain ⟨events, after, left, ran, accepted, final⟩ := ih popped later
        exact ⟨.popped (some logLine) :: events, after, left, by simp [run, call, ran],
          ⟨rfl, accepted⟩, final⟩

theorem Models.safe_of_accepts {queue : LogBufferQueue Line} {lines : List Line} {usage : Usage}
    (models : queue.Models lines usage) (residue : Line → Line) (calls : List (LogCall Line))
    {events : List (Fifo.Event Line)} {after : LogBufferQueue Line}
    (ran : queue.run residue calls = .ok (events, after)) (accepted : Fifo.Accepts lines events) :
    usage.Safe calls := by
  induction calls generalizing queue lines usage events with
  | nil => trivial
  | cons call calls ih =>
    cases call with
    | push logLine =>
      obtain ⟨next, call, pushed⟩ := models.push logLine
      simp only [run, call, ok_bind, bind_eq_ok] at ran
      obtain ⟨⟨later, final⟩, rest, done⟩ := ran
      cases done
      exact ih pushed rest accepted
    | pop =>
      cases lines with
      | nil =>
        rcases reuse : usage.recycled with _ | _
        · obtain ⟨next, call, popped⟩ := models.pop_none residue reuse
          simp only [run, call, ok_bind, bind_eq_ok] at ran
          obtain ⟨⟨later, final⟩, rest, done⟩ := ran
          cases done
          exact ⟨by simp [reuse], ih popped rest accepted.2⟩
        · obtain ⟨logLine, next, call⟩ := models.pop_stale residue reuse
          simp only [run, call, ok_bind, bind_eq_ok] at ran
          obtain ⟨⟨later, final⟩, _, done⟩ := ran
          cases done
          exact nomatch accepted.1
      | cons logLine lines =>
        obtain ⟨next, call, popped⟩ := models.pop_some residue
        simp only [run, call, ok_bind, bind_eq_ok] at ran
        obtain ⟨⟨later, final⟩, rest, done⟩ := ran
        cases done
        exact ⟨by simp [models.backlog], ih popped rest accepted.2⟩

/-- Calls on a new queue return, and leave a first in, first out history, exactly if
no pop finds every line popped while the write buffer came from the backup ring. -/
theorem run_lawful_iff (residue : Line → Line) (calls : List (LogCall Line)) :
    (∃ events after, new.run residue calls = .ok (events, after) ∧ Fifo.Lawful events) ↔
      Usage.initial.Safe calls := by
  constructor
  · rintro ⟨events, after, ran, lawful⟩
    exact new_models.safe_of_accepts residue calls ran ((Fifo.lawful_iff_accepts events).mp lawful)
  · intro safe
    obtain ⟨events, after, _, ran, accepted, _⟩ := new_models.run_safe residue calls safe
    exact ⟨events, after, ran, (Fifo.lawful_iff_accepts events).mpr accepted⟩

/-- Two buffers' worth of lines, each popped at once, and one more pop: it returns a
line although all were popped, because the third buffer is the first one reused. -/
theorem run_rounds_unlawful :
    ∃ events after, new.run (fun _ => "") (Usage.rounds "line" (kSize + kSize) ++ [.pop]) =
      .ok (events, after) ∧
      ¬ Fifo.Lawful events := by
  obtain ⟨safe, filled⟩ := Usage.rounds_buffer "line" (rfl : Usage.initial = ⟨0, 0, 0, 0, false⟩)
  obtain ⟨again, reused⟩ := Usage.rounds_buffer "line" filled
  have all : Usage.initial.Safe (Usage.rounds "line" (kSize + kSize)) := by
    rw [Usage.rounds_add, Usage.safe_append]
    exact ⟨safe, again⟩
  have final : Usage.initial.after (Usage.rounds "line" (kSize + kSize)) = ⟨0, 0, 0, 1, true⟩ := by
    rw [Usage.rounds_add, Usage.after_append]
    exact reused
  obtain ⟨events, middle, left, ran, _, models⟩ := new_models.run_safe (fun _ => "") _ all
  rw [final] at models
  obtain rfl : left = [] := List.length_eq_zero_iff.mp models.backlog.symm
  obtain ⟨logLine, after, popped⟩ := models.pop_stale (fun _ => "") rfl
  have whole : new.run (fun _ => "") (Usage.rounds "line" (kSize + kSize) ++ [.pop]) =
      .ok (events ++ [.popped (some logLine)], after) := by
    rw [run_append, ran]
    simp [run, popped]
  refine ⟨_, after, whole, ?_⟩
  intro lawful
  have safe_pop := new_models.safe_of_accepts (fun _ => "") _ whole
    ((Fifo.lawful_iff_accepts _).mp lawful)
  rw [Usage.safe_append, final] at safe_pop
  exact safe_pop.2.1 ⟨rfl, rfl⟩

end LogBufferQueue

end FakeMuduo.Util
