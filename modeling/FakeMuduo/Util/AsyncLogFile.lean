import FakeMuduo.Util.AsyncLoggerDelivery
import FakeMuduo.Util.LogFile

/-! The asynchronous logger with the files its background thread writes. -/

namespace FakeMuduo.Util.AsyncLogger

open FakeMuduo.Base LogProducers

variable {Line : Type}

/-- The line that a step of the background thread writes. -/
def writes (logger : AsyncLogger Line) : Step Line → List (Entry Line)
  | .popThread =>
    match logger.phase with
    | .popping _ (.writing entry) => [entry]
    | _ => []
  | .ready | .add _ _ | .push _ | .shutdown => []

/-- A logger and its `log_file_`. -/
structure Recorder (Line : Type) where
  logger : AsyncLogger Line
  file : LogFile

namespace Recorder

variable (setting : LogFile.Setting) (stringify : Line → LogFile.Line) (files : Text → Text)

def create : Recorder Line := ⟨initial, .create setting files⟩

/-- The lines as they are to be found in the files. -/
def lines (entries : List (Entry Line)) : List LogFile.Line :=
  entries.map fun entry => stringify entry.line

/-- `stringify` prints a line; no line here is fatal. -/
def perform (kSize : Nat) (residue : Line → Line) (recorder : Recorder Line) (step : Step Line) :
    Checked (Recorder Line) := do
  let logger ← recorder.logger.perform kSize residue step
  let file := (lines stringify (recorder.logger.writes step)).foldl (.write setting) recorder.file
  return ⟨logger, file⟩

def machine (kSize : Nat) (residue : Line → Line) : Machine (Recorder Line) (Step Line) :=
  .ofFunction (perform setting stringify kSize residue)

end Recorder

variable {kSize : Nat} {residue : Line → Line} {logger next : AsyncLogger Line}

theorem push_written {thread : Nat} (pushed : logger.push kSize thread = .ok next) :
    next.written = logger.written := by
  simp only [push] at pushed
  split at pushed
  · cases pushed
  · split at pushed
    · simp only [setupNextWriteLogBuffer] at pushed
      split at pushed
      · cases pushed
        rfl
      · cases pushed
      · cases pushed
        rfl
    · obtain ⟨queue, _, returned⟩ := bind_eq_ok.mp pushed
      cases returned
      rfl

theorem settle_written (logger : AsyncLogger Line) (thread : Nat) :
    (logger.settle thread).written = logger.written := by
  unfold settle
  split <;> rfl

theorem pop_written {draining : Bool} {place : Popping Line}
    (was : logger.phase = .popping draining place)
    (popped : logger.pop kSize residue draining place = .ok next) :
    next.written = logger.written ++ logger.writes .popThread := by
  simp only [writes, was]
  cases place with
  | called =>
    simp only [pop] at popped
    split at popped
    · cases popped
      exact (List.append_nil _).symm
    · split at popped
      · cases popped
      · cases popped
        exact (List.append_nil _).symm
  | reading =>
    simp only [pop] at popped
    split at popped
    · cases popped
      exact (List.append_nil _).symm
    · split at popped
      · cases popped
      · split at popped
        · cases popped
          exact (List.append_nil _).symm
        · cases popped
          exact (List.append_nil _).symm
  | moving =>
    simp only [pop] at popped
    split at popped
    · cases popped
    · split at popped
      · cases popped
      · split at popped
        · cases popped
        · split at popped
          · cases popped
            exact (List.append_nil _).symm
          · cases popped
            exact (List.append_nil _).symm
  | recycling entry =>
    simp only [pop] at popped
    split at popped
    · cases popped
    · split at popped
      · cases popped
      · cases popped
        exact (List.append_nil _).symm
  | backing entry buffer =>
    cases popped
    exact (List.append_nil _).symm
  | writing entry =>
    cases popped
    rfl

theorem perform_written {step : Step Line}
    (performed : logger.perform kSize residue step = .ok next) :
    next.written = logger.written ++ logger.writes step := by
  cases step with
  | ready | shutdown =>
    simp only [perform] at performed
    split at performed
    · cases performed
      exact (List.append_nil _).symm
    · cases performed
  | add thread logLine =>
    obtain ⟨queue, _, returned⟩ := bind_eq_ok.mp performed
    cases returned
    exact (List.append_nil _).symm
  | push thread =>
    obtain ⟨after, pushed, returned⟩ := bind_eq_ok.mp performed
    cases returned
    rw [settle_written, push_written pushed]
    exact (List.append_nil _).symm
  | popThread =>
    simp only [perform] at performed
    cases was : logger.phase with
    | waiting =>
      rw [was] at performed
      cases performed
      simp only [writes, was, List.append_nil]
      split <;> rfl
    | testing =>
      rw [was] at performed
      cases performed
      simp only [writes, was, List.append_nil]
    | popping draining place =>
      rw [was] at performed
      exact pop_written was performed
    | ended =>
      rw [was] at performed
      cases performed

namespace Recorder

variable {setting : LogFile.Setting} {stringify : Line → LogFile.Line} {files : Text → Text}
  {recorder after : Recorder Line}

/-- The files have been written as the lines say that the background thread wrote. -/
structure Records (setting : LogFile.Setting) (stringify : Line → LogFile.Line)
    (files : Text → Text) (kSize : Nat) (recorder : Recorder Line) : Prop where
  sound : Sound kSize recorder.logger
  file : recorder.file = LogFile.writeAll setting files (lines stringify recorder.logger.written)

theorem Records.perform (records : Records setting stringify files kSize recorder)
    (some : 0 < kSize) {step : Step Line} (permitted : recorder.logger.Permitted step)
    (fresh : recorder.logger.NoStaleFlag step)
    (performed : perform setting stringify kSize residue recorder step = .ok after) :
    Records setting stringify files kSize after := by
  obtain ⟨logger, advanced, returned⟩ := bind_eq_ok.mp performed
  cases returned
  refine ⟨records.sound.step some permitted fresh advanced, ?_⟩
  dsimp only
  rw [records.file, perform_written advanced, lines, lines, lines, List.map_append,
    LogFile.writeAll, LogFile.writeAll, List.foldl_append]

/-- The calls of `add` whose lines are in the files, as far as they can be known: each once, and
none before a call that had returned when it began. -/
structure Recorded (recorder : Recorder Line) (calls : List Nat) : Prop where
  added : ∀ call ∈ calls, call < recorder.logger.queue.pushed.length
  once : calls.Nodup
  order : ∀ {number call : Nat}, calls[number]? = some call →
    ∀ before ∈ recorder.logger.preceding.getD call [], ∃ earlier < number,
      calls[earlier]? = some before
  ended : recorder.logger.phase = .ended →
    calls.Perm (List.range recorder.logger.queue.pushed.length)

/-- The lines of calls of `add`. -/
def linesOf (stringify : Line → LogFile.Line) (recorder : Recorder Line) (calls : List Nat) :
    List LogFile.Line :=
  calls.filterMap fun call => recorder.logger.queue.pushed[call]?.map stringify

theorem Records.recorded (records : Records setting stringify files kSize recorder) :
    Recorded recorder (recorder.logger.written.map Entry.call) := by
  have inOrder := records.sound.inOrder
  refine ⟨?_, inOrder.once, ?_, records.sound.complete⟩
  · intro call member
    obtain ⟨entry, written, rfl⟩ := List.mem_map.mp member
    exact (List.getElem?_eq_some_iff.mp (inOrder.lines entry written)).1
  · intro number call known before member
    rw [List.getElem?_map] at known
    obtain ⟨entry, found, rfl⟩ := Option.map_eq_some_iff.mp known
    obtain ⟨earlier, early, other, there, rfl⟩ := inOrder.order found before member
    exact ⟨earlier, early, by rw [List.getElem?_map, there]; rfl⟩

theorem Records.lines_eq (records : Records setting stringify files kSize recorder) :
    lines stringify recorder.logger.written = linesOf stringify recorder
      (recorder.logger.written.map Entry.call) := by
  have known := records.sound.inOrder.lines
  rw [linesOf, List.filterMap_map, lines, ← List.filterMap_eq_map]
  refine List.filterMap_congr ?_
  intro entry member
  simp only [Function.comp_apply, known entry member, Option.map_some]

/-- At every moment the files are what writing the lines of some calls of `add`, the first in an
order that real time allows, leaves; they hold these lines, whole, exactly if no roll opened a file
again. In the end the calls are all that were made. -/
theorem files_hold_added {steps : List (Step Line)} (some : 0 < kSize)
    (run : ((machine setting stringify kSize residue).restrict fun recorder step =>
      recorder.logger.Permitted step ∧ recorder.logger.NoStaleFlag step).Run
        (create setting files) steps recorder) :
    ∃ calls, Recorded recorder calls ∧
      recorder.file = LogFile.writeAll setting files (linesOf stringify recorder calls) ∧
      (recorder.file.disk.Holds (LogFile.texts (linesOf stringify recorder calls)) ↔
        LogFile.AlwaysRollsToNew setting files (linesOf stringify recorder calls)) := by
  have records : Records setting stringify files kSize recorder := by
    refine run.invariant (fun _ recorder => Records setting stringify files kSize recorder)
      ⟨initial_sound some, rfl⟩ ?_
    rintro _ current step after records ⟨⟨permitted, fresh⟩, performed⟩
    exact records.perform some permitted fresh performed
  have written : recorder.file = LogFile.writeAll setting files
      (linesOf stringify recorder (recorder.logger.written.map Entry.call)) := by
    rw [← records.lines_eq]
    exact records.file
  refine ⟨_, records.recorded, written, ?_⟩
  rw [written]
  obtain ⟨grows, short⟩ := LogFile.writeAll_outcome setting files
    (linesOf stringify recorder (recorder.logger.written.map Entry.call))
  constructor
  · intro holds
    by_contra reopens
    exact (short reopens).2.not_holds holds
  · intro always
    exact (grows always).holds

def printLine : Unit → LogFile.Line := fun _ => ⟨[97, 10], List.cons_ne_nil _ _⟩

theorem files_hold_added_three :
    ∃ recorder calls, Recorded recorder calls ∧ recorder.logger.phase = .ended ∧
    recorder.file.disk.order.map recorder.file.disk.files = [[97, 10, 97, 10], [97, 10]] ∧
      recorder.file = LogFile.writeAll LogFile.fourByteFiles (fun _ => [])
        (linesOf printLine recorder calls) ∧
      (recorder.file.disk.Holds (LogFile.texts (linesOf printLine recorder calls)) ↔
        LogFile.AlwaysRollsToNew LogFile.fourByteFiles (fun _ => [])
          (linesOf printLine recorder calls)) := by
  have followed : (Machine.follow (perform LogFile.fourByteFiles printLine 1 id)
      (fun recorder => admits recorder.logger)
      (create LogFile.fourByteFiles fun _ => []) threeLines).any
        (fun recorder => recorder.logger.phase == .ended &&
        recorder.file.disk.order.map recorder.file.disk.files == [[97, 10, 97, 10], [97, 10]]) =
          true := by
    decide +kernel
  obtain ⟨recorder, run, final⟩ := Machine.Run.ofFollowAny
    ((machine LogFile.fourByteFiles printLine 1 id).restrict fun recorder step =>
      recorder.logger.Permitted step ∧ recorder.logger.NoStaleFlag step)
    (fun admitted performed => ⟨admits_sound admitted, performed⟩) followed
  simp only [Bool.and_eq_true, beq_iff_eq] at final
  obtain ⟨calls, recorded, written, holds⟩ := files_hold_added Nat.one_pos run
  exact ⟨recorder, calls, recorded, final.1, final.2, written, holds⟩

end Recorder

end FakeMuduo.Util.AsyncLogger
