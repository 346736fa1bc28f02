import FakeMuduo.Base.Machine
import FakeMuduo.Util.LogLine
import Mathlib.Logic.Function.Basic

/-! The logger that prints to the standard output: any number of threads add lines, and
a spin lock keeps them apart. -/

namespace FakeMuduo.Util

open FakeMuduo.Base

namespace StdLogger

/-- Where a thread is in `add`; `rest` is what `stringify` has still to put to the stream. -/
inductive Stage where
  | idle
  | spinning (line : LogLine.Output)
  | writing (line : LogLine.Output) (rest : Text)
  deriving DecidableEq, Repr

/-- The line of a thread that waits for the lock. -/
def Stage.waiting : Stage → List LogLine.Output
  | .spinning line => [line]
  | .idle | .writing _ _ => []

inductive Step (Thread : Type) where
  | add (thread : Thread) (line : LogLine.Output)
  | testAndSet (thread : Thread)
  | write (thread : Thread) (count : Nat)
  | clear (thread : Thread)

end StdLogger

/-- Of the history, `called` has the lines each thread added and `admitted` the lines in the order
in which their threads got the lock. -/
structure StdLogger (Thread : Type) where
  flag : Bool
  cout : Text
  aborted : Bool
  stages : Thread → StdLogger.Stage
  called : Thread → List LogLine.Output
  admitted : List (Thread × LogLine.Output)

namespace StdLogger

variable {Thread : Type} [DecidableEq Thread]

def initial : StdLogger Thread where
  flag := false
  cout := []
  aborted := false
  stages := fun _ => .idle
  called := fun _ => []
  admitted := []

/-- The process ends behind a fatal line, with the lock held. -/
def perform (logger : StdLogger Thread) (step : Step Thread) : Checked (StdLogger Thread) :=
  if logger.aborted then .error .disabled
  else
    match step with
    | .add thread line =>
      match logger.stages thread with
      | .idle => .ok { logger with
          stages := Function.update logger.stages thread (.spinning line)
          called := Function.update logger.called thread (logger.called thread ++ [line]) }
      | _ => .error .disabled
    | .testAndSet thread =>
      match logger.stages thread with
      | .spinning line =>
        if logger.flag then .ok logger
        else .ok { logger with
          flag := true
          stages := Function.update logger.stages thread (.writing line line.text)
          admitted := logger.admitted ++ [(thread, line)] }
      | _ => .error .disabled
    | .write thread count =>
      match logger.stages thread with
      | .writing line rest => .ok { logger with
          cout := logger.cout ++ rest.take count
          stages := Function.update logger.stages thread (.writing line (rest.drop count)) }
      | _ => .error .disabled
    | .clear thread =>
      match logger.stages thread with
      | .writing line [] =>
        if line.aborts then .ok { logger with aborted := true }
        else .ok { logger with flag := false, stages := Function.update logger.stages thread .idle }
      | _ => .error .disabled

def machine (Thread : Type) [DecidableEq Thread] : Machine (StdLogger Thread) (Step Thread) :=
  .ofFunction perform

/-- The lines one behind the other. -/
def texts (lines : List (Thread × LogLine.Output)) : Text := lines.flatMap fun entry => entry.2.text

/-- The lines that a thread got the lock for. -/
def linesOf (lines : List (Thread × LogLine.Output)) (thread : Thread) : List LogLine.Output :=
  lines.filterMap fun entry => if entry.1 = thread then some entry.2 else none

/-- Nobody holds the lock. -/
structure Free (logger : StdLogger Thread) : Prop where
  flag : logger.flag = false
  alive : logger.aborted = false
  nobody : ∀ thread line rest, logger.stages thread ≠ .writing line rest
  printed : logger.cout = texts logger.admitted
  harmless : ∀ entry ∈ logger.admitted, entry.2.aborts = false

/-- The thread holds the lock, and `written` of its line is on the stream. -/
structure HeldBy (logger : StdLogger Thread) (thread : Thread) (line : LogLine.Output)
    (written rest : Text) (finished : List (Thread × LogLine.Output)) : Prop where
  flag : logger.flag = true
  here : logger.stages thread = .writing line rest
  alone : ∀ other line rest, logger.stages other = .writing line rest → other = thread
  whole : written ++ rest = line.text
  admitted : logger.admitted = finished ++ [(thread, line)]
  printed : logger.cout = texts finished ++ written
  harmless : ∀ entry ∈ finished, entry.2.aborts = false
  fatal : logger.aborted = true → line.aborts = true ∧ rest = []

def Locked (logger : StdLogger Thread) : Prop :=
  Free logger ∨ ∃ thread line written rest finished, HeldBy logger thread line written rest finished

def InTurn (logger : StdLogger Thread) : Prop :=
  ∀ thread, logger.called thread = linesOf logger.admitted thread ++ (logger.stages thread).waiting

variable {logger after : StdLogger Thread} {thread other : Thread}
  {line : LogLine.Output} {rest : Text}

theorem linesOf_concat (lines : List (Thread × LogLine.Output)) (who : Thread) :
    linesOf (lines ++ [(thread, line)]) who = linesOf lines who ++ if thread = who then
      [line] else [] := by
  simp only [linesOf, List.filterMap_append, List.filterMap_cons, List.filterMap_nil]
  split <;> simp_all

omit [DecidableEq Thread] in
theorem texts_concat (lines : List (Thread × LogLine.Output)) :
    texts (lines ++ [(thread, line)]) = texts lines ++ line.text := by
  simp [texts]

/-- What a step can do. -/
theorem perform_cases {step : Step Thread} (performed : logger.perform step = .ok after) :
    logger.aborted = false ∧
      ((∃ thread line, logger.stages thread = .idle ∧ after = { logger with
          stages := Function.update logger.stages thread (.spinning line)
          called := Function.update logger.called thread (logger.called thread ++ [line]) }) ∨
       (∃ thread line, logger.stages thread = .spinning line ∧ logger.flag = false ∧
          after = { logger with
          flag := true
          stages := Function.update logger.stages thread (.writing line line.text)
          admitted := logger.admitted ++ [(thread, line)] }) ∨
       (∃ thread line rest count, logger.stages thread = .writing line rest ∧ after = { logger with
          cout := logger.cout ++ rest.take count
          stages := Function.update logger.stages thread (.writing line (rest.drop count)) }) ∨
       (∃ thread line, logger.stages thread = .writing line [] ∧ line.aborts = true ∧
          after = { logger with aborted := true }) ∨
       (∃ thread line, logger.stages thread = .writing line [] ∧ line.aborts = false ∧
          after = { logger with
          flag := false, stages := Function.update logger.stages thread .idle }) ∨
       after = logger) := by
  unfold perform at performed
  split at performed
  · cases performed
  rename_i alive
  refine ⟨Bool.eq_false_iff.mpr alive, ?_⟩
  cases step with
  | add thread line =>
    simp only at performed
    split at performed
    · rename_i stage
      cases performed
      exact .inl ⟨thread, line, stage, rfl⟩
    · cases performed
  | testAndSet thread =>
    simp only at performed
    split at performed
    · rename_i line stage
      split at performed
      · cases performed
        exact .inr (.inr (.inr (.inr (.inr rfl))))
      · rename_i clear
        cases performed
        exact .inr (.inl ⟨thread, line, stage, Bool.eq_false_iff.mpr clear, rfl⟩)
    · cases performed
  | write thread count =>
    simp only at performed
    split at performed
    · rename_i line rest stage
      cases performed
      exact .inr (.inr (.inl ⟨thread, line, rest, count, stage, rfl⟩))
    · cases performed
  | clear thread =>
    simp only at performed
    split at performed
    · rename_i line stage
      split at performed
      · rename_i fatal
        cases performed
        exact .inr (.inr (.inr (.inl ⟨thread, line, stage, fatal, rfl⟩)))
      · rename_i harmless
        cases performed
        exact .inr (.inr
          (.inr (.inr (.inl ⟨thread, line, stage, Bool.eq_false_iff.mpr harmless, rfl⟩))))
    · cases performed

theorem writing_update {stages : Thread → Stage} {stage : Stage}
    (writes : Function.update stages thread stage other = .writing line rest) :
    other = thread ∧ stage = .writing line rest ∨ other ≠ thread ∧
      stages other = .writing line rest := by
  by_cases same : other = thread
  · subst same
    rw [Function.update_self] at writes
    exact .inl ⟨rfl, writes⟩
  · rw [Function.update_of_ne same] at writes
    exact .inr ⟨same, writes⟩

omit [DecidableEq Thread] in
/-- The lock is held by whoever is writing. -/
theorem Locked.heldBy (locked : Locked logger) (stage : logger.stages thread = .writing line rest) :
    ∃ written finished, HeldBy logger thread line written rest finished := by
  rcases locked with free | ⟨holder, _, written, _, finished, held⟩
  · exact absurd stage (free.nobody thread line rest)
  · cases held.alone thread line rest stage
    cases held.here.symm.trans stage
    exact ⟨written, finished, held⟩

theorem perform_locked {step : Step Thread} (locked : Locked logger)
    (performed : logger.perform step = .ok after) :
    Locked after := by
  obtain ⟨alive, cases⟩ := perform_cases performed
  rcases cases with ⟨thread, line, idle, rfl⟩ | ⟨thread, line, spinning, clear, rfl⟩ |
    ⟨thread, line, rest, count, writing, rfl⟩ | ⟨thread, line, writing, fatal, rfl⟩ |
    ⟨thread, line, writing, harmless, rfl⟩ | rfl
  · rcases locked with free | ⟨holder, current, written, rest, finished, held⟩
    · refine .inl ⟨free.flag, free.alive, ?_, free.printed, free.harmless⟩
      intro other entry rest writes
      rcases writing_update writes with ⟨_, same⟩ | ⟨_, writes⟩
      · cases same
      · exact free.nobody other entry rest writes
    · refine .inr ⟨holder, current, written, rest, finished, held.flag, ?_, ?_,
        held.whole, held.admitted, held.printed, held.harmless, held.fatal⟩
      · have different : holder ≠ thread := by
          rintro rfl
          cases idle.symm.trans held.here
        exact (Function.update_of_ne different _ _).trans held.here
      · intro other entry rest writes
        rcases writing_update writes with ⟨_, same⟩ | ⟨_, writes⟩
        · cases same
        · exact held.alone other entry rest writes
  · rcases locked with free | ⟨_, _, _, _, _, held⟩
    · refine .inr ⟨thread, line, [], line.text, logger.admitted, rfl,
        Function.update_self _ _ _, ?_, rfl, rfl, ?_, free.harmless, ?_⟩
      · intro other entry rest writes
        rcases writing_update writes with ⟨same, _⟩ | ⟨_, writes⟩
        · exact same
        · exact absurd writes (free.nobody other entry rest)
      · simp [free.printed]
      · intro aborted
        cases alive.symm.trans aborted
    · cases clear.symm.trans held.flag
  · obtain ⟨written, finished, held⟩ := locked.heldBy writing
    refine .inr ⟨thread, line, written ++ rest.take count, rest.drop count, finished, held.flag,
      Function.update_self _ _ _, ?_, ?_, held.admitted, ?_, held.harmless, ?_⟩
    · intro other entry rest writes
      rcases writing_update writes with ⟨same, _⟩ | ⟨_, writes⟩
      · exact same
      · exact held.alone other entry rest writes
    · simp [held.whole]
    · simp [held.printed]
    · intro aborted
      cases alive.symm.trans aborted
  · obtain ⟨written, finished, held⟩ := locked.heldBy writing
    exact .inr ⟨thread, line, written, [], finished, held.flag, held.here, held.alone,
      held.whole, held.admitted, held.printed, held.harmless, fun _ => ⟨fatal, rfl⟩⟩
  · obtain ⟨written, finished, held⟩ := locked.heldBy writing
    have whole := held.whole
    rw [List.append_nil] at whole
    refine .inl ⟨rfl, alive, ?_, ?_, ?_⟩
    · intro other entry rest writes
      rcases writing_update writes with ⟨_, same⟩ | ⟨different, writes⟩
      · cases same
      · exact different (held.alone other entry rest writes)
    · rw [held.admitted, texts_concat, held.printed, whole]
    · intro entry member
      rw [held.admitted] at member
      rcases List.mem_append.mp member with earlier | last
      · exact held.harmless entry earlier
      · cases List.mem_singleton.mp last
        exact harmless
  · exact locked

/-- Each thread's lines are admitted in the order in which it added them. -/
theorem perform_inTurn {step : Step Thread} (inTurn : InTurn logger)
    (performed : logger.perform step = .ok after) :
    InTurn after := by
  obtain ⟨_, cases⟩ := perform_cases performed
  intro who
  have turn := inTurn who
  rcases cases with ⟨thread, line, idle, rfl⟩ | ⟨thread, line, spinning, clear, rfl⟩ |
    ⟨thread, line, rest, count, writing, rfl⟩ | ⟨thread, line, writing, fatal, rfl⟩ |
    ⟨thread, line, writing, harmless, rfl⟩ | rfl
  · by_cases same : who = thread
    · subst same
      simp only [Function.update_self, turn, idle, Stage.waiting, List.append_nil]
    · simpa only [Function.update_of_ne same] using turn
  · rw [linesOf_concat]
    by_cases same : who = thread
    · subst same
      simpa only [Function.update_self, spinning, Stage.waiting, if_true, List.append_nil]
        using turn
    · simpa only [Function.update_of_ne same, if_neg (Ne.symm same), List.append_nil] using turn
  · by_cases same : who = thread
    · subst same
      simpa only [Function.update_self, writing, Stage.waiting] using turn
    · simpa only [Function.update_of_ne same] using turn
  · exact turn
  · by_cases same : who = thread
    · subst same
      simpa only [Function.update_self, writing, Stage.waiting] using turn
    · simpa only [Function.update_of_ne same] using turn
  · exact turn

/-- However the threads take turns, the stream holds whole lines, one behind the other, and a part
of at most one more; each thread's lines come in its order and once, nothing comes behind a fatal
line, and who waits for the lock waits for a thread that is writing. -/
theorem lines_whole (steps : List (Step Thread)) (logger : StdLogger Thread)
    (run : (machine Thread).Run initial steps logger) :
    (∃ finished current, logger.admitted = finished ++ current ∧
      (∀ entry ∈ finished, entry.2.aborts = false) ∧
      (current = [] ∧ logger.cout = texts finished ∨
        ∃ thread line written rest, current = [(thread, line)] ∧ written ++ rest = line.text ∧
          logger.stages thread = .writing line rest ∧ logger.cout = texts finished ++ written ∧
          (logger.aborted = true → line.aborts = true ∧ rest = []))) ∧
    (∀ thread, logger.called thread = linesOf logger.admitted thread ++
      (logger.stages thread).waiting) ∧
    (logger.flag = true ↔ ∃ thread line rest, logger.stages thread = .writing line rest) := by
  have start : Locked (initial : StdLogger Thread) ∧ InTurn (initial : StdLogger Thread) := by
    refine ⟨.inl ⟨rfl, rfl, ?_, rfl, ?_⟩, fun _ => rfl⟩
    · intro _ _ _ writes
      cases writes
    · intro _ member
      cases member
  obtain ⟨locked, inTurn⟩ := run.invariant (fun _ logger => Locked logger ∧ InTurn logger) start
    (fun holds performed => ⟨perform_locked holds.1 performed, perform_inTurn holds.2 performed⟩)
  refine ⟨?_, inTurn, ?_⟩
  · rcases locked with free | ⟨thread, line, written, rest, finished, held⟩
    · exact ⟨logger.admitted, [], (List.append_nil _).symm, free.harmless, .inl ⟨rfl, free.printed⟩⟩
    · exact ⟨finished, [(thread, line)], held.admitted, held.harmless,
        .inr ⟨thread, line, written, rest, rfl, held.whole, held.here, held.printed, held.fatal⟩⟩
  · rcases locked with free | ⟨thread, line, written, rest, finished, held⟩
    · simp [free.flag, free.nobody]
    · exact iff_of_true held.flag ⟨thread, line, rest, held.here⟩

/-- Two threads, of which one spins while the other prints. -/
theorem lines_whole_twoThreads :
    ∃ logger : StdLogger Bool, (machine Bool).Run initial
        [.add false ⟨[97, 10], 0, false⟩, .add true ⟨[98, 10], 0, false⟩,
          .testAndSet true, .write true 1, .testAndSet false, .write true 1, .clear true,
          .testAndSet false, .write false 2, .clear false] logger ∧
      logger.cout = [98, 10, 97, 10] ∧
      logger.called false = linesOf logger.admitted false ++ (logger.stages false).waiting := by
  have followed : (Machine.follow perform (fun _ _ => true) (initial : StdLogger Bool)
      [.add false ⟨[97, 10], 0, false⟩, .add true ⟨[98, 10], 0, false⟩,
        .testAndSet true, .write true 1, .testAndSet false, .write true 1, .clear true,
        .testAndSet false, .write false 2, .clear false]).any
      (fun logger => logger.cout = [98, 10, 97, 10]) = true := by
    decide
  obtain ⟨logger, run, printed⟩ :=
    Machine.Run.ofFollowAny (machine Bool) (fun _ performed => performed) followed
  exact ⟨logger, run, of_decide_eq_true printed, (lines_whole _ logger run).2.1 false⟩

end StdLogger

end FakeMuduo.Util
