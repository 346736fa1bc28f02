import FakeMuduo.Util.AsyncLoggerDelivery

/-! When the logger frees a buffer that is still in use: the last line of a buffer may be popped
before the thread that put it there has left the buffer. -/

namespace FakeMuduo.Util.AsyncLogger

open FakeMuduo.Base LogProducers

variable {Line : Type} {kSize : Nat} {residue : Line → Line} {logger next : AsyncLogger Line}
  {queue after spec : LogProducers Line} {thread : Nat} {uses : Nat → Nat} {dropped : Nat}
  {ring : List Nat}

/-- No thread inside `add` is about to dereference a buffer that was freed. -/
def Alive (logger : AsyncLogger Line) : Prop := ∀ thread, logger.Holds thread

theorem initial_alive : Alive (initial : AsyncLogger Line) := fun _ _ touches => by cases touches

theorem advance_elsewhere
    (performed : queue.advance kSize thread (queue.threads thread) = .ok after) {other : Nat}
    (different : other ≠ thread) : after.threads other = queue.threads other := by
  cases phase : queue.threads thread with
  | idle =>
    rw [phase] at performed
    cases performed
  | called | unlocking =>
    rw [phase] at performed
    cases performed
    exact Function.update_of_ne different _ _
  | spinning entry =>
    rw [phase] at performed
    cases performed
    split
    · rfl
    · exact Function.update_of_ne different _ _
  | holding entry index progress =>
    rw [phase] at performed
    cases performed
    cases progress <;> exact Function.update_of_ne different _ _
  | switching switch =>
    rw [phase] at performed
    cases switch with
    | filled | cleared | locked | enqueued =>
      cases performed
      exact Function.update_of_ne different _ _
    | published buffer =>
      simp only [LogProducers.advance, LogProducers.setupNext] at performed
      split at performed
      · cases performed
      · cases performed
        exact Function.update_of_ne different _ _

/-- A thread gets hold of a buffer only by loading the pointer to the write buffer. -/
theorem touched_advance
    (performed : queue.advance kSize thread (queue.threads thread) = .ok after) {buffer : Nat}
    (touches : touched (after.threads thread) = some buffer) :
    touched (queue.threads thread) = some buffer ∨
      buffer = queue.currentWriteBuffer ∧ ∃ entry index, queue.threads thread =
        .holding entry index .indexed := by
  cases phase : queue.threads thread with
  | idle =>
    rw [phase] at performed
    cases performed
  | called entry =>
    rw [phase] at performed
    cases performed
    rw [threads_move, Function.update_self] at touches
    split at touches <;> cases touches
  | unlocking =>
    rw [phase] at performed
    cases performed
    rw [threads_move, Function.update_self] at touches
    cases touches
  | spinning entry =>
    rw [phase] at performed
    cases performed
    split at touches
    · rw [phase] at touches
      cases touches
    · rw [threads_move, Function.update_self] at touches
      cases touches
  | holding entry index progress =>
    rw [phase] at performed
    cases performed
    cases progress with
    | indexed =>
      rw [LogProducers.fill, threads_move, Function.update_self] at touches
      cases touches
      exact .inr ⟨rfl, entry, index, rfl⟩
    | loaded held | constructed held =>
      rw [LogProducers.fill, threads_move, Function.update_self] at touches
      exact .inl touches
    | flagged held =>
      rw [LogProducers.fill, threads_move, Function.update_self] at touches
      split at touches
      · exact .inl touches
      · cases touches
  | switching switch =>
    rw [phase] at performed
    cases switch with
    | filled | cleared | locked | enqueued =>
      cases performed
      rw [threads_move, Function.update_self] at touches
      cases touches
    | published buffer =>
      simp only [LogProducers.advance, LogProducers.setupNext] at performed
      split at performed
      · cases performed
      · cases performed
        rw [threads_move, Function.update_self] at touches
        cases touches

/-- A thread that has an index and no buffer yet finds one that is alive: not all of
its slots were read. -/
theorem Follows.write_buffer_alive (follows : Follows kSize logger spec uses dropped ring)
    {entry : Entry Line} {index : Nat}
    (holding : logger.queue.threads thread = .holding entry index .indexed) :
    logger.queue.currentWriteBuffer ∉ logger.freed := by
  have indexed : spec.threads thread = .holding entry index .indexed := by
    have renamed := follows.renders.threads thread
    rw [holding] at renamed
    cases phase : spec.threads thread with
    | idle | called | spinning | switching | unlocking =>
      rw [phase] at renamed
      cases renamed
    | holding entry' index' progress =>
      rw [phase] at renamed
      cases progress with
      | indexed =>
        cases renamed
        rfl
      | loaded | constructed | flagged => cases renamed
  obtain ⟨finished, allocated, stored⟩ := follows.orderly
  have known : dropped ≤ spec.currentWriteBuffer := by
    by_contra gone
    exact follows.reads.filled (Nat.lt_of_not_le gone) (allocated.held indexed).1
      (stored.progress indexed)
  rw [follows.renders.current]
  exact fun dead => follows.owned.apart known (Nat.le_refl _) (List.mem_append_right _ dead)

theorem setupNext_alive (alive : Alive logger)
    (set : logger.setupNextWriteLogBuffer thread = .ok next) : Alive next := by
  have kept : ∀ {buffer : Nat} {queue : LogProducers Line},
      queue.threads = (logger.queue.move thread (.switching (.published buffer))).threads →
      ∀ other held, touched (queue.threads other) = some held → held ∉ logger.freed := by
    intro buffer queue moved other held touches
    by_cases same : other = thread
    · subst same
      rw [moved, threads_move, Function.update_self] at touches
      cases touches
    · rw [moved, threads_move, Function.update_of_ne same] at touches
      exact alive other held touches
  simp only [setupNextWriteLogBuffer] at set
  split at set
  · cases set
    exact kept rfl
  · cases set
  · cases set
    exact kept rfl

theorem Follows.push_alive (follows : Follows kSize logger spec uses dropped ring)
    (alive : Alive logger) (pushed : logger.push kSize thread = .ok next) : Alive next := by
  simp only [AsyncLogger.push, holds_iff.mp (alive thread), Bool.false_eq_true, if_false] at pushed
  split at pushed
  · exact setupNext_alive alive pushed
  · obtain ⟨queue, performed, returned⟩ := bind_eq_ok.mp pushed
    cases returned
    intro other held touches
    by_cases same : other = thread
    · subst same
      rcases touched_advance performed touches with before | ⟨rfl, entry, index, holding⟩
      · exact alive other held before
      · exact follows.write_buffer_alive holding
    · refine alive other held ?_
      rw [← advance_elsewhere performed same]
      exact touches

theorem pop_freed {draining : Bool} {place : Popping Line}
    (was : logger.phase = .popping draining place)
    (popped : logger.pop kSize residue draining place = .ok next) :
    next.queue.threads = logger.queue.threads ∧ next.freed = logger.freed ++ logger.frees := by
  simp only [frees, was]
  cases place with
  | called =>
    simp only [pop] at popped
    split at popped
    · cases popped
      exact ⟨rfl, (List.append_nil _).symm⟩
    · split at popped <;> cases popped
      exact ⟨rfl, (List.append_nil _).symm⟩
  | reading =>
    simp only [pop] at popped
    split at popped
    · cases popped
      exact ⟨rfl, (List.append_nil _).symm⟩
    · split at popped
      · cases popped
      · split at popped <;> cases popped <;> exact ⟨rfl, (List.append_nil _).symm⟩
  | moving =>
    simp only [pop] at popped
    split at popped
    · cases popped
    · split at popped
      · cases popped
      · split at popped
        · cases popped
        · split at popped <;> cases popped <;> exact ⟨rfl, (List.append_nil _).symm⟩
  | recycling entry =>
    simp only [pop] at popped
    split at popped
    · cases popped
    · split at popped <;> cases popped
      exact ⟨rfl, (List.append_nil _).symm⟩
  | backing entry buffer =>
    cases popped
    exact ⟨rfl, rfl⟩
  | writing entry =>
    cases popped
    exact ⟨rfl, (List.append_nil _).symm⟩

theorem popThread_freed (performed : logger.perform kSize residue .popThread = .ok next) :
    next.queue.threads = logger.queue.threads ∧ next.freed = logger.freed ++ logger.frees := by
  cases was : logger.phase with
  | waiting =>
    rw [AsyncLogger.perform, was] at performed
    cases performed
    simp only [frees, was, List.append_nil]
    split <;> exact ⟨rfl, rfl⟩
  | testing =>
    rw [AsyncLogger.perform, was] at performed
    cases performed
    simp only [frees, was, List.append_nil, and_self]
  | popping draining place =>
    rw [AsyncLogger.perform, was] at performed
    exact pop_freed was performed
  | ended =>
    rw [AsyncLogger.perform, was] at performed
    cases performed

/-- A thread that holds a freed buffer dereferences it at its next step. -/
theorem dangles_of_touched {buffer : Nat}
    (touches : touched (logger.queue.threads thread) = some buffer)
    (dead : buffer ∈ logger.freed) : Dangles logger kSize residue := by
  refine ⟨.push thread, ?_⟩
  have found : (touched (logger.queue.threads thread)).any (logger.freed.contains ·) = true := by
    rw [touches]
    simpa using dead
  rw [AsyncLogger.perform, AsyncLogger.push, if_pos found]
  rfl

theorem Alive.popThread (alive : Alive logger)
    (performed : logger.perform kSize residue .popThread = .ok next) :
    (¬ Dangles next kSize residue → logger.Spares .popThread) ∧
      (logger.Spares .popThread → Alive next) := by
  obtain ⟨threads, freed⟩ := popThread_freed performed
  constructor
  · intro safe buffer frees thread touches
    rw [← threads] at touches
    refine safe (dangles_of_touched touches ?_)
    rw [freed]
    exact List.mem_append_right _ frees
  · intro spares thread buffer touches
    rw [threads] at touches
    rw [freed, List.mem_append, not_or]
    exact ⟨alive thread buffer touches, fun frees => spares buffer frees thread touches⟩

/-- A permitted step keeps the buffers in use alive exactly if it frees none of them. -/
theorem Sound.spares (sound : Sound kSize logger) (alive : Alive logger) {step : Step Line}
    (performed : logger.perform kSize residue step = .ok next) :
    (¬ Dangles next kSize residue → logger.Spares step) ∧ (logger.Spares step → Alive next) := by
  cases step with
  | ready | shutdown =>
    refine ⟨fun _ => trivial, fun _ => ?_⟩
    simp only [AsyncLogger.perform] at performed
    split at performed
    · cases performed
      exact alive
    · cases performed
  | add thread logLine =>
    refine ⟨fun _ => trivial, fun _ => ?_⟩
    obtain ⟨queue, pushed, returned⟩ := bind_eq_ok.mp performed
    cases returned
    simp only [LogProducers.perform] at pushed
    split at pushed
    · cases pushed
      intro other held touches
      have moved : touched (Function.update logger.queue.threads thread
        (.called ⟨logger.queue.pushed.length, logLine⟩) other) = some held := touches
      by_cases same : other = thread
      · subst same
        rw [Function.update_self] at moved
        cases moved
      · rw [Function.update_of_ne same] at moved
        exact alive other held moved
    · cases pushed
  | push thread =>
    refine ⟨fun _ => trivial, fun _ => ?_⟩
    obtain ⟨spec, uses, dropped, ring, follows⟩ := sound
    obtain ⟨pushed, taken, returned⟩ := bind_eq_ok.mp performed
    cases returned
    have kept := follows.push_alive alive taken
    unfold settle
    split
    · exact kept
    · exact kept
  | popThread => exact alive.popThread performed

/-- While the buffers in use are alive, no step dereferences anything else. -/
theorem Sound.not_dangles (sound : Sound kSize logger) (some : 0 < kSize) (alive : Alive logger) :
    ¬ Dangles logger kSize residue := by
  rintro ⟨step, failed⟩
  cases step with
  | ready | shutdown =>
    simp only [AsyncLogger.perform] at failed
    split at failed <;> cases failed
  | add thread logLine =>
    simp only [AsyncLogger.perform, LogProducers.perform] at failed
    split at failed <;> cases failed
  | push thread =>
    obtain ⟨spec, uses, dropped, ring, follows⟩ := sound
    rcases follows.push some (alive thread) with waiting | ⟨next, pushed, _⟩
    · rw [AsyncLogger.perform, waiting] at failed
      cases failed
    · rw [AsyncLogger.perform, pushed] at failed
      cases failed
  | popThread =>
    obtain ⟨spec, uses, dropped, ring, follows⟩ := sound
    by_cases reading : ∃ draining, logger.phase = .popping draining .reading
    · obtain ⟨draining, was⟩ := reading
      simp only [AsyncLogger.perform, AsyncLogger.popThread, was, pop] at failed
      split at failed
      · cases failed
      · rename_i buffer found
        rw [follows.reading_alive found, if_neg Bool.false_ne_true] at failed
        split at failed <;> cases failed
    · have fresh : logger.NoStaleFlag .popThread := fun draining _ was =>
        absurd ⟨draining, was⟩ reading
      rcases @Follows.popThread _ _ residue _ _ _ _ _ follows some fresh with
        waiting | ⟨next, popped, _⟩
      · cases waiting.symm.trans failed
      · cases popped.symm.trans failed

/-- As long as no stale flag is taken for a new one, no step ever dereferences a freed buffer
exactly if no buffer is freed while a thread is about to dereference it: one whose last line was
popped before its thread counted it, with the backup ring full. -/
theorem never_dangles_iff_spares (some : 0 < kSize) {steps : List (Step Line)} :
    ((machine kSize residue).restrict fun logger step =>
      logger.Permitted step ∧ logger.NoStaleFlag step).Throughout
        (fun logger => ¬ Dangles logger kSize residue) initial steps logger ↔
      (((machine kSize residue).restrict fun logger step =>
        logger.Permitted step ∧ logger.NoStaleFlag step).restrict
        Spares).Run initial steps logger := by
  refine @Machine.throughout_iff_restrict _ _ _ _ (fun logger =>
    Sound kSize logger ∧ Alive logger) _ _ _ _
    ⟨initial_sound some, initial_alive⟩ (fun logger holds => holds.1.not_dangles some holds.2) ?_
  rintro current step after ⟨sound, alive⟩ ⟨⟨permitted, fresh⟩, performed⟩
  obtain ⟨needed, enough⟩ := sound.spares alive performed
  exact ⟨needed, fun spares => ⟨sound.step some permitted fresh performed, enough spares⟩⟩

/-- A line put into a buffer of one line is popped before its thread has counted it. -/
def poppedEarly : List (Step Unit) :=
  .add 0 () :: List.replicate 4 (.push 0) ++ List.replicate 6 .popThread

theorem never_dangles_iff_spares_early : ∃ logger : AsyncLogger Unit,
    ((machine 1 id).restrict fun logger step => logger.Permitted step ∧
      logger.NoStaleFlag step).Throughout
      (fun logger => ¬ Dangles logger 1 id) initial (.ready :: .popThread :: poppedEarly) logger ∧
    logger.queue.logBuffers = [] ∧ touched (logger.queue.threads 0) =
      some logger.queue.currentWriteBuffer := by
  have followed : (Machine.follow (fun logger => logger.perform 1 id)
      (fun logger step => admits logger step && logger.frees.isEmpty) (initial : AsyncLogger Unit)
      (.ready :: .popThread :: poppedEarly)).any (fun logger => logger.queue.logBuffers.isEmpty &&
        touched (logger.queue.threads 0) == some logger.queue.currentWriteBuffer) = true := by
    decide +kernel
  obtain ⟨logger, run, final⟩ := Machine.Run.ofFollowAny
    (((machine 1 id).restrict fun logger step => logger.Permitted step ∧
      logger.NoStaleFlag step).restrict Spares)
    (by
      intro logger step after admitted performed
      obtain ⟨admitted, spared⟩ := (Bool.and_eq_true_iff ..).mp admitted
      have none : logger.frees = [] := List.isEmpty_iff.mp spared
      refine ⟨?_, admits_sound admitted, performed⟩
      cases step with
      | ready | add | push | shutdown => trivial
      | popThread =>
        intro buffer frees
        rw [none] at frees
        exact absurd frees List.not_mem_nil) followed
  simp only [Bool.and_eq_true, List.isEmpty_iff, beq_iff_eq] at final
  exact ⟨logger, (never_dangles_iff_spares Nat.one_pos).mpr run, final⟩

/-- With the backup ring full, the buffer is freed before its thread counts the line in it. -/
theorem frees_buffer_in_use : ∃ (logger : AsyncLogger Unit) (steps : List (Step Unit)),
    ((machine 1 id).restrict fun logger step => logger.Permitted step ∧
      logger.NoStaleFlag step).Run initial steps
      logger ∧ Dangles logger 1 id := by
  let four : List (Step Unit) :=
    (List.replicate 4 (.add 0 () :: List.replicate 11 (.push 0))).flatten
  let steps : List (Step Unit) :=
    .ready :: .popThread :: four ++ List.replicate 28 .popThread ++ poppedEarly
  have followed : (Machine.follow (fun logger => logger.perform 1 id) admits
      (initial : AsyncLogger Unit) steps).any
        (fun logger => touched (logger.queue.threads 0) == some 4 && logger.freed.contains 4) =
          true := by
    decide +kernel
  obtain ⟨logger, run, final⟩ := Machine.Run.ofFollowAny
    ((machine 1 id).restrict fun logger step => logger.Permitted step ∧ logger.NoStaleFlag step)
    (fun admitted performed => ⟨admits_sound admitted, performed⟩) followed
  simp only [Bool.and_eq_true, beq_iff_eq, List.contains_eq_mem, decide_eq_true_iff] at final
  exact ⟨logger, steps, run, dangles_of_touched final.1 final.2⟩

end FakeMuduo.Util.AsyncLogger
