import FakeMuduo.Util.ThreadPool

/-! When the threads of a pool wait and when they proceed. -/

namespace FakeMuduo.Util.ThreadPool

open FakeMuduo.Base

variable {Callable : Type} {config : Config} {pool after : Pool Callable} {step : Step Callable}

/-- The task that a worker has taken and not run yet. -/
def Worker.hand : Worker Callable → List Callable
  | notifying task | running task => task.toList
  | _ => []

def Happening.submitted? : Happening Callable → Option (Task Callable)
  | submitted task => some task
  | _ => none

def Happening.taken? : Happening Callable → Option (Task Callable)
  | took _ front _ => front
  | _ => none

def Happening.takenBy? (thread : Nat) : Happening Callable → Option Callable
  | took worker front _ => if worker = thread then front.join else none
  | _ => none

def Happening.ranBy? (thread : Nat) : Happening Callable → Option Callable
  | ran worker callable => if worker = thread then some callable else none
  | _ => none

def Pool.submitted (pool : Pool Callable) : List (Task Callable) :=
  pool.history.filterMap Happening.submitted?

def Pool.taken (pool : Pool Callable) : List (Task Callable) :=
  pool.history.filterMap Happening.taken?

def Pool.takenBy (pool : Pool Callable) (worker : Nat) : List Callable :=
  pool.history.filterMap (Happening.takenBy? worker)

def Pool.ranBy (pool : Pool Callable) (worker : Nat) : List Callable :=
  pool.history.filterMap (Happening.ranBy? worker)

/-- A thread that waits with its predicate unsatisfied has to wait. -/
structure WaitsOnlyWhenMust (config : Config) (pool : Pool Callable) : Prop where
  submitters : ∀ thread, (pool.submitters thread).isWaiting = true →
    submitPredicate config pool = false →
    config.maxSize ≤ pool.queue.length
  workers : ∀ worker, (pool.workers worker).isWaiting = true → takePredicate pool = false →
    pool.queue = [] ∧ pool.running = true

/-- The queue is bounded, an empty task comes only from a stopped pool, tasks are taken in the
order of their submission, and a worker runs what it takes, each task once. -/
structure ProceedsOnlyWhenMay (config : Config) (pool : Pool Callable) : Prop where
  capacity : pool.queue.length ≤ config.maxSize
  emptyHanded : ∀ worker front running, .took worker front running ∈ pool.history →
    front.join = none →
    running = false
  order : pool.taken <+: pool.submitted
  once : ∀ worker, pool.takenBy worker = pool.ranBy worker ++ (pool.workers worker).hand

/-- Threads look at a predicate only when they should wait. -/
def DueToWait (config : Config) (pool : Pool Callable) : Step Callable → Prop
  | .submitLocked _ => config.maxSize ≤ pool.queue.length
  | .takeLocked _ => pool.queue = [] ∧ pool.running = true
  | _ => True

/-- Threads look at a predicate only when they should proceed. -/
def DueToProceed (config : Config) (pool : Pool Callable) : Step Callable → Prop
  | .submitLocked _ => pool.queue.length < config.maxSize
  | .takeLocked _ => pool.queue = [] → pool.running = false
  | _ => True

instance (config : Config) (pool : Pool Callable) :
    (step : Step Callable) → Decidable (DueToWait config pool step)
  | .submitLocked _ => inferInstanceAs (Decidable (_ ≤ _))
  | .takeLocked _ => decidable_of_iff (pool.queue.isEmpty = true ∧ pool.running = true)
      (by simp [DueToWait])
  | .start | .spawn | .stop | .join | .submit _ _ | .notifyNotEmpty _ _ | .wakeSubmitter _
  | .testRunning _
  | .isEmptyQueue _ | .notifyNotFull _ _ | .wakeWorker _ | .run _ =>
    inferInstanceAs (Decidable True)

instance (config : Config) (pool : Pool Callable) :
    (step : Step Callable) → Decidable (DueToProceed config pool step)
  | .submitLocked _ => inferInstanceAs (Decidable (_ < _))
  | .takeLocked _ => decidable_of_iff (pool.queue.isEmpty = true → pool.running = false)
      (by simp [DueToProceed])
  | .start | .spawn | .stop | .join | .submit _ _ | .notifyNotEmpty _ _ | .wakeSubmitter _
  | .testRunning _
  | .isEmptyQueue _ | .notifyNotFull _ _ | .wakeWorker _ | .run _ =>
    inferInstanceAs (Decidable True)

section Effect

/-- The steps that look at a predicate. -/
def Step.isLocked : Step Callable → Bool
  | submitLocked _ | takeLocked _ => true
  | _ => false

theorem dueToWait_unlocked (unlocked : step.isLocked = false) : DueToWait config pool step := by
  cases step with
  | submitLocked | takeLocked => cases unlocked
  | _ => trivial

theorem dueToProceed_unlocked (unlocked : step.isLocked = false) :
    DueToProceed config pool step := by
  cases step with
  | submitLocked | takeLocked => cases unlocked
  | _ => trivial

/-- No task is moved. -/
structure Quiet (pool after : Pool Callable) : Prop where
  queue : after.queue = pool.queue
  recorded : after.history = pool.history ∨ ∃ callable, after.history =
    pool.history ++ [.ranDirectly callable]
  hands : ∀ worker, (after.workers worker).hand = (pool.workers worker).hand

/-- No thread begins to wait. -/
structure Awake (pool after : Pool Callable) : Prop where
  submitters : ∀ thread, (after.submitters thread).isWaiting = true →
    (pool.submitters thread).isWaiting = true
  workers : ∀ worker, (after.workers worker).isWaiting = true →
    (pool.workers worker).isWaiting = true

/-- What a step does to the tasks and to the waiting threads. -/
inductive Effect (config : Config) (pool : Pool Callable) :
    Step Callable → Pool Callable → Prop where
  | submitLocked {thread : Nat} {task : Task Callable}
      (locking : pool.submitters thread = .locking task) :
      Effect config pool (.submitLocked thread) (submitLocked config pool thread task)
  | takeLocked {worker : Nat} (locking : pool.workers worker = .locking) :
      Effect config pool (.takeLocked worker) (takeLocked pool worker)
  | run {worker : Nat} {task : Task Callable} (running : pool.workers worker = .running task) :
      Effect config pool (.run worker) (run pool worker task)
  | other {step : Step Callable} {after : Pool Callable} (unlocked : step.isLocked = false)
      (quiet : Quiet pool after) (awake : Awake pool after) : Effect config pool step after

theorem Submitter.wake_isWaiting (submitter : Submitter Callable) :
    submitter.wake.isWaiting = false := by
  cases submitter <;> rfl

theorem Worker.wake_isWaiting (worker : Worker Callable) : worker.wake.isWaiting = false := by
  cases worker <;> rfl

theorem Worker.wake_hand (worker : Worker Callable) : worker.wake.hand = worker.hand := by
  cases worker <;> rfl

theorem awake_same (submitters : after.submitters = pool.submitters)
    (workers : after.workers = pool.workers) :
    Awake pool after := by
  refine ⟨?_, ?_⟩
  · rw [submitters]
    exact fun _ waiting => waiting
  · rw [workers]
    exact fun _ waiting => waiting

theorem quiet_setSubmitter (pool : Pool Callable) (thread : Nat) (submitter : Submitter Callable) :
    Quiet pool (pool.setSubmitter thread submitter) :=
  ⟨rfl, .inl rfl, fun _ => rfl⟩

theorem awake_setSubmitter (pool : Pool Callable) (thread : Nat) {submitter : Submitter Callable}
    (awake : submitter.isWaiting = false) :
    Awake pool (pool.setSubmitter thread submitter) where
  submitters := by
    intro other waiting
    by_cases same : other = thread
    · simp [Pool.setSubmitter, same, awake] at waiting
    · simpa [Pool.setSubmitter, same] using waiting
  workers := fun _ waiting => waiting

theorem quiet_setWorker (pool : Pool Callable) (thread : Nat) {worker : Worker Callable}
    (hand : worker.hand = (pool.workers thread).hand) :
    Quiet pool (pool.setWorker thread worker) := by
  refine ⟨rfl, .inl rfl, ?_⟩
  intro other
  by_cases same : other = thread
  · simp [Pool.setWorker, same, hand]
  · simp [Pool.setWorker, same]

theorem awake_setWorker (pool : Pool Callable) (thread : Nat) {worker : Worker Callable}
    (awake : worker.isWaiting = false) :
    Awake pool (pool.setWorker thread worker) where
  submitters := fun _ waiting => waiting
  workers := by
    intro other waiting
    by_cases same : other = thread
    · simp [Pool.setWorker, same, awake] at waiting
    · simpa [Pool.setWorker, same] using waiting

theorem Quiet.trans {middle : Pool Callable} (first : Quiet pool middle)
    (queue : after.queue = middle.queue) (history : after.history = middle.history)
    (hands : ∀ worker, (after.workers worker).hand = (middle.workers worker).hand) :
    Quiet pool after where
  queue := queue.trans first.queue
  recorded := by
    rw [history]
    exact first.recorded
  hands := fun worker => (hands worker).trans (first.hands worker)

theorem Awake.trans {middle : Pool Callable} (first : Awake pool middle)
    (second : Awake middle after) :
    Awake pool after where
  submitters := fun thread waiting => first.submitters thread (second.submitters thread waiting)
  workers := fun worker waiting => first.workers worker (second.workers worker waiting)

theorem submit_effect (config : Config) (pool : Pool Callable) (thread : Nat)
    (task : Task Callable) :
    Quiet pool (submit config pool thread task) ∧ Awake pool (submit config pool thread task) := by
  unfold submit
  split
  · cases task with
    | none => exact ⟨⟨rfl, .inl rfl, fun _ => rfl⟩, awake_same rfl rfl⟩
    | some callable => exact ⟨⟨rfl, .inr ⟨callable, rfl⟩, fun _ => rfl⟩, awake_same rfl rfl⟩
  · exact ⟨quiet_setSubmitter _ _ _, awake_setSubmitter _ _ rfl⟩

theorem notifyNotEmpty_effect {woken : Nat}
    (notified : notifyNotEmpty config pool woken = .ok after) :
    after.queue = pool.queue ∧ after.history = pool.history ∧
      (∀ worker, (after.workers worker).hand = (pool.workers worker).hand) ∧ Awake pool after := by
  unfold notifyNotEmpty at notified
  split at notified
  · cases notified
    have quiet := quiet_setWorker pool woken (Worker.wake_hand (pool.workers woken))
    exact ⟨rfl, rfl, quiet.hands, awake_setWorker _ woken (Worker.wake_isWaiting _)⟩
  · split at notified
    · cases notified
      exact ⟨rfl, rfl, fun _ => rfl, awake_same rfl rfl⟩
    · cases notified

theorem notifyNotFull_effect {woken : Nat}
    (notified : notifyNotFull config pool woken = .ok after) :
    after.queue = pool.queue ∧ after.history = pool.history ∧ after.workers = pool.workers ∧
      Awake pool after := by
  unfold notifyNotFull at notified
  split at notified
  · cases notified
    exact ⟨rfl, rfl, rfl, awake_setSubmitter _ woken (Submitter.wake_isWaiting _)⟩
  · split at notified
    · cases notified
      exact ⟨rfl, rfl, rfl, awake_same rfl rfl⟩
    · cases notified

theorem perform_effect (performed : perform config pool step = .ok after) :
    Effect config pool step after := by
  cases step with
  | start =>
    obtain ⟨_, rfl⟩ := guarded_eq_ok.mp performed
    exact .other rfl ⟨rfl, .inl rfl, fun _ => rfl⟩ (awake_same rfl rfl)
  | spawn =>
    simp only [perform] at performed
    split at performed
    · rename_i created _
      split at performed
      · rename_i absent
        obtain ⟨_, rfl⟩ := guarded_eq_ok.mp performed
        have quiet : Quiet pool (pool.setWorker created .looping) := by
          refine quiet_setWorker pool created ?_
          rw [absent]
          rfl
        have awake : Awake pool (pool.setWorker created .looping) :=
          awake_setWorker pool created rfl
        exact .other rfl ⟨rfl, .inl rfl, quiet.hands⟩ ⟨awake.submitters, awake.workers⟩
      · cases performed
    · cases performed
  | stop =>
    obtain ⟨_, rfl⟩ := guarded_eq_ok.mp performed
    refine .other rfl ⟨rfl, .inl rfl, fun worker => Worker.wake_hand _⟩
      ⟨fun _ waiting => waiting, ?_⟩
    intro worker waiting
    cases (Worker.wake_isWaiting _).symm.trans waiting
  | join =>
    simp only [perform] at performed
    split at performed
    · split at performed
      · cases performed
        exact .other rfl ⟨rfl, .inl rfl, fun _ => rfl⟩ (awake_same rfl rfl)
      · cases performed
    · cases performed
  | submit thread task =>
    simp only [perform] at performed
    split at performed
    · obtain ⟨_, rfl⟩ := guarded_eq_ok.mp performed
      obtain ⟨quiet, awake⟩ := submit_effect config pool thread task
      exact .other rfl quiet awake
    · cases performed
  | submitLocked thread =>
    simp only [perform] at performed
    split at performed
    · rename_i locking
      cases performed
      exact .submitLocked locking
    · cases performed
  | notifyNotEmpty thread woken =>
    simp only [perform] at performed
    split at performed
    · obtain ⟨queue, history, hands, awake⟩ := notifyNotEmpty_effect performed
      exact .other rfl ((quiet_setSubmitter pool _ _).trans queue history hands)
        ((awake_setSubmitter _ _ rfl).trans awake)
    · cases performed
  | wakeSubmitter thread =>
    cases performed
    exact .other rfl (quiet_setSubmitter _ _ _)
      (awake_setSubmitter _ _ (Submitter.wake_isWaiting _))
  | testRunning worker =>
    simp only [perform] at performed
    split at performed
    · rename_i looping
      cases performed
      refine .other rfl (quiet_setWorker _ _ ?_) (awake_setWorker _ _ ?_)
      · rw [looping]
        split <;> rfl
      · split <;> rfl
    · cases performed
  | isEmptyQueue worker =>
    simp only [perform] at performed
    split at performed
    · rename_i testing
      cases performed
      refine .other rfl (quiet_setWorker _ _ ?_) (awake_setWorker _ _ ?_)
      · rw [testing]
        split <;> rfl
      · split <;> rfl
    · cases performed
  | takeLocked worker =>
    simp only [perform] at performed
    split at performed
    · rename_i locking
      cases performed
      exact .takeLocked locking
    · cases performed
  | notifyNotFull worker woken =>
    simp only [perform] at performed
    split at performed
    · rename_i task notifying
      obtain ⟨queue, history, workers, awake⟩ := notifyNotFull_effect performed
      refine .other rfl (Quiet.trans (quiet_setWorker _ _ ?_) queue history ?_)
        ((awake_setWorker _ _ rfl).trans awake)
      · rw [notifying]
        rfl
      · intro worker
        rw [workers]
    · cases performed
  | wakeWorker worker =>
    cases performed
    exact .other rfl (quiet_setWorker _ _ (Worker.wake_hand _))
      (awake_setWorker _ _ (Worker.wake_isWaiting _))
  | run worker =>
    simp only [perform] at performed
    split at performed
    · rename_i running
      cases performed
      exact .run running
    · cases performed

end Effect

section Waiting

def NobodyWaits (pool : Pool Callable) : Prop :=
  (∀ thread, (pool.submitters thread).isWaiting = false) ∧
    ∀ worker, (pool.workers worker).isWaiting = false

theorem NobodyWaits.awake (nobody : NobodyWaits pool) (awake : Awake pool after) :
    NobodyWaits after := by
  refine ⟨?_, ?_⟩
  · intro thread
    by_contra waiting
    cases (nobody.1 thread).symm.trans (awake.submitters thread (Bool.of_not_eq_false waiting))
  · intro worker
    by_contra waiting
    cases (nobody.2 worker).symm.trans (awake.workers worker (Bool.of_not_eq_false waiting))

theorem NobodyWaits.waitsOnlyWhenMust (nobody : NobodyWaits pool) :
    WaitsOnlyWhenMust config pool where
  submitters := fun thread waiting => by cases (nobody.1 thread).symm.trans waiting
  workers := fun worker waiting => by cases (nobody.2 worker).symm.trans waiting

theorem submitPredicate_iff : submitPredicate config pool = true ↔
    config.maxSize ≤ pool.queue.length :=
  decide_eq_true_iff

theorem takePredicate_iff : takePredicate pool = true ↔ pool.queue = [] ∧ pool.running = true := by
  rw [takePredicate, Bool.and_eq_true, List.isEmpty_iff]

theorem takeLocked_empty {worker : Nat} (empty : pool.queue = []) (running : pool.running = true) :
    takeLocked pool worker = (pool.setWorker worker (.notifying none)).record
      (.took worker none true) := by
  rw [takeLocked, if_pos (takePredicate_iff.mpr ⟨empty, running⟩)]
  simp only [empty, running]

theorem waits_step (nobody : NobodyWaits pool) (performed : perform config pool step = .ok after) :
    (WaitsOnlyWhenMust config after → DueToWait config pool step) ∧
      (DueToWait config pool step → NobodyWaits after) := by
  cases perform_effect performed with
  | @submitLocked thread task locking =>
    by_cases full : config.maxSize ≤ pool.queue.length
    · refine ⟨fun _ => full, fun _ => ?_⟩
      rw [submitLocked, if_pos (submitPredicate_iff.mpr full)]
      have awake : Awake pool (pool.setSubmitter thread .notifying) :=
        awake_setSubmitter pool thread rfl
      exact nobody.awake ⟨awake.submitters, awake.workers⟩
    · refine ⟨fun must => ?_, fun due => (full due).elim⟩
      have unsatisfied : submitPredicate config pool = false :=
        Bool.eq_false_iff.mpr (full ∘ submitPredicate_iff.mp)
      rw [submitLocked, unsatisfied] at must
      exact must.submitters thread (by simp [Pool.setSubmitter, Submitter.isWaiting]) unsatisfied
  | @takeLocked worker locking =>
    by_cases idle : pool.queue = [] ∧ pool.running = true
    · refine ⟨fun _ => idle, fun _ => ?_⟩
      rw [takeLocked_empty idle.1 idle.2]
      have awake : Awake pool (pool.setWorker worker (.notifying none)) :=
        awake_setWorker pool worker rfl
      exact nobody.awake ⟨awake.submitters, awake.workers⟩
    · refine ⟨fun must => ?_, fun due => (idle due).elim⟩
      have unsatisfied : takePredicate pool = false :=
        Bool.eq_false_iff.mpr (idle ∘ takePredicate_iff.mp)
      rw [takeLocked, unsatisfied] at must
      exact must.workers worker (by simp [Pool.setWorker, Worker.isWaiting]) unsatisfied
  | @run worker task running =>
    refine ⟨fun _ => trivial, fun _ => ?_⟩
    have awake : Awake pool (pool.setWorker worker .looping) := awake_setWorker pool worker rfl
    cases task with
    | none | some => exact nobody.awake ⟨awake.submitters, awake.workers⟩
  | other unlocked quiet awake =>
    exact ⟨fun _ => dueToWait_unlocked unlocked, fun _ => nobody.awake awake⟩

/-- The runs in which threads wait only when they must are those in which no submitter comes to
its wait while there is room, and no worker while there is a task or after `stop()`. -/
theorem waits_only_when_must_iff (config : Config) (steps : List (Step Callable))
    (pool : Pool Callable) :
    (machine config).Throughout (WaitsOnlyWhenMust config) .initial steps pool ↔
      ((machine config).restrict (DueToWait config)).Run .initial steps pool :=
  Machine.throughout_iff_restrict (⟨fun _ => rfl, fun _ => rfl⟩ : NobodyWaits .initial)
    (fun _ nobody => nobody.waitsOnlyWhenMust) waits_step

/-- A pool with one worker that finds nothing to do. -/
theorem waits_only_when_must_idle :
    ∃ pool : Pool Unit, (machine ⟨1, 1, 1⟩).Throughout (WaitsOnlyWhenMust ⟨1, 1, 1⟩) .initial
      [.start, .spawn, .testRunning 0, .takeLocked 0, .notifyNotFull 0 0, .run 0] pool := by
  have followed :
      (Machine.follow (perform ⟨1, 1, 1⟩) (fun pool step => decide (DueToWait ⟨1, 1, 1⟩ pool step))
      (.initial : Pool Unit)
      [.start, .spawn, .testRunning 0, .takeLocked 0, .notifyNotFull 0 0, .run 0]).isSome =
        true := by
    decide +kernel
  obtain ⟨pool, reached⟩ := Option.isSome_iff_exists.mp followed
  have run := Machine.Run.ofFollow ((machine ⟨1, 1, 1⟩).restrict (DueToWait ⟨1, 1, 1⟩))
    (fun allowed performed => ⟨of_decide_eq_true allowed, performed⟩) _ reached
  exact ⟨pool, (waits_only_when_must_iff _ _ _).mpr run⟩

/-- A submitter waits although the queue is empty, and a worker although the pool was stopped. -/
theorem waits_needlessly :
    (∃ pool, (machine ⟨1, 1, 1⟩).Run .initial
      [.start, .spawn, .submit 0 (some ()), .submitLocked 0] pool ∧
      ¬ WaitsOnlyWhenMust ⟨1, 1, 1⟩ pool) ∧
    ∃ pool : Pool Unit, (machine ⟨1, 1, 1⟩).Run .initial
      [.start, .spawn, .testRunning 0, .stop, .takeLocked 0] pool ∧
        ¬ WaitsOnlyWhenMust ⟨1, 1, 1⟩ pool := by
  refine ⟨?_, ?_⟩
  · have followed : (Machine.follow (perform ⟨1, 1, 1⟩) (fun _ _ => true) .initial
        [.start, .spawn, .submit 0 (some ()), .submitLocked 0]).any
        (fun pool => (pool.submitters 0).isWaiting && pool.queue.isEmpty) = true := by
      decide +kernel
    obtain ⟨pool, run, final⟩ :=
      Machine.Run.ofFollowAny (machine ⟨1, 1, 1⟩) (fun _ performed => performed) followed
    rw [Bool.and_eq_true, List.isEmpty_iff] at final
    refine ⟨pool, run, ?_⟩
    intro must
    have unsatisfied : submitPredicate ⟨1, 1, 1⟩ pool = false := by
      simp [submitPredicate, final.2]
    have full := must.submitters 0 final.1 unsatisfied
    simp [final.2] at full
  · have followed : (Machine.follow (perform ⟨1, 1, 1⟩) (fun _ _ => true) (.initial : Pool Unit)
        [.start, .spawn, .testRunning 0, .stop, .takeLocked 0]).any
        (fun pool => (pool.workers 0).isWaiting && !pool.running) = true := by
      decide +kernel
    obtain ⟨pool, run, final⟩ :=
      Machine.Run.ofFollowAny (machine ⟨1, 1, 1⟩) (fun _ performed => performed) followed
    rw [Bool.and_eq_true, Bool.not_eq_true'] at final
    refine ⟨pool, run, ?_⟩
    intro must
    have unsatisfied : takePredicate pool = false := by
      simp [takePredicate, final.2]
    have due := must.workers 0 final.1 unsatisfied
    cases final.2.symm.trans due.2

end Waiting

section Proceeding

/-- The queue holds what was submitted and not taken, and each worker accounts for what it took. -/
structure Bookkept (pool : Pool Callable) : Prop where
  queued : pool.taken ++ pool.queue = pool.submitted
  once : ∀ worker, pool.takenBy worker = pool.ranBy worker ++ (pool.workers worker).hand

theorem filterMap_record {Item Result : Type} (view : Item → Option Result)
    (items : List Item) (last : Item) :
    (items ++ [last]).filterMap view = items.filterMap view ++ (view last).toList := by
  rw [List.filterMap_append]
  cases found : view last with
  | none => simp [found]
  | some result => simp [found]

/-- Something happens that moves a task from the queue to a hand, from a hand, or into the queue. -/
theorem Bookkept.record (bookkept : Bookkept pool) {happening : Happening Callable}
    (history : after.history = pool.history ++ [happening])
    (queue : happening.taken?.toList ++ after.queue = pool.queue ++ happening.submitted?.toList)
    (hands : ∀ worker, (pool.workers worker).hand ++ (happening.takenBy? worker).toList =
      (happening.ranBy? worker).toList ++ (after.workers worker).hand) : Bookkept after where
  queued := by
    rw [Pool.taken, Pool.submitted, history, filterMap_record, filterMap_record,
      List.append_assoc, queue, ← List.append_assoc]
    exact congrArg (· ++ happening.submitted?.toList) bookkept.queued
  once := by
    intro worker
    rw [Pool.takenBy, Pool.ranBy, history, filterMap_record, filterMap_record,
      List.append_assoc, ← hands worker, ← List.append_assoc]
    exact congrArg (· ++ (happening.takenBy? worker).toList) (bookkept.once worker)

theorem Bookkept.quiet (bookkept : Bookkept pool) (quiet : Quiet pool after) : Bookkept after := by
  rcases quiet.recorded with history | ⟨callable, history⟩
  · refine ⟨?_, ?_⟩
    · rw [Pool.taken, Pool.submitted, history, quiet.queue]
      exact bookkept.queued
    · intro worker
      rw [Pool.takenBy, Pool.ranBy, history, quiet.hands]
      exact bookkept.once worker
  · refine bookkept.record history ?_ ?_
    · rw [quiet.queue]
      exact (List.append_nil _).symm
    · intro worker
      rw [quiet.hands]
      exact List.append_nil _

theorem submitLocked_bookkept (bookkept : Bookkept pool) (thread : Nat) (task : Task Callable) :
    Bookkept (submitLocked config pool thread task) := by
  unfold submitLocked
  split
  · exact bookkept.record rfl rfl fun worker => List.append_nil _
  · exact bookkept.quiet (quiet_setSubmitter _ _ _)

/-- A worker takes a task into its empty hand. -/
theorem hands_took {worker : Nat} (free : (pool.workers worker).hand = [])
    (front : Option (Task Callable)) (running : Bool) (other : Nat) :
    (pool.workers other).hand ++ ((Happening.took worker front running).takenBy? other).toList =
      ((Happening.took worker front running).ranBy? other).toList ++
        ((pool.setWorker worker (.notifying front.join)).workers other).hand := by
  by_cases same : other = worker
  · subst same
    rw [free]
    simp [Happening.takenBy?, Happening.ranBy?, Pool.setWorker, Worker.hand]
  · simp [Happening.takenBy?, Happening.ranBy?, Pool.setWorker, same, Ne.symm same]

theorem takeLocked_bookkept (bookkept : Bookkept pool) {worker : Nat}
    (locking : pool.workers worker = .locking) :
    Bookkept (takeLocked pool worker) := by
  have free : (pool.workers worker).hand = [] := by
    rw [locking]
    rfl
  unfold takeLocked
  split
  · split
    · rename_i empty
      refine bookkept.record rfl ?_ (hands_took free none pool.running)
      exact (List.append_nil _).symm
    · rename_i front queue filled
      refine bookkept.record rfl ?_ (hands_took free (some front) pool.running)
      rw [filled]
      exact (List.append_nil _).symm
  · refine bookkept.quiet (quiet_setWorker _ _ ?_)
    rw [locking]
    rfl

theorem run_bookkept (bookkept : Bookkept pool) {worker : Nat} {task : Task Callable}
    (running : pool.workers worker = .running task) : Bookkept (run pool worker task) := by
  cases task with
  | none =>
    refine bookkept.quiet (quiet_setWorker _ _ ?_)
    rw [running]
    rfl
  | some callable =>
    refine bookkept.record rfl (List.append_nil _).symm ?_
    intro other
    by_cases same : other = worker
    · subst same
      simp [Happening.takenBy?, Happening.ranBy?, Pool.setWorker, Pool.record, run,
        Worker.hand, running]
    · simp [Happening.takenBy?, Happening.ranBy?, Pool.setWorker, Pool.record, run,
        same, Ne.symm same]

theorem perform_bookkept (bookkept : Bookkept pool)
    (performed : perform config pool step = .ok after) :
    Bookkept after := by
  cases perform_effect performed with
  | submitLocked => exact submitLocked_bookkept bookkept _ _
  | takeLocked locking => exact takeLocked_bookkept bookkept locking
  | run running => exact run_bookkept bookkept running
  | other _ quiet => exact bookkept.quiet quiet

/-- What a pool keeps whose threads proceed only when they may. -/
structure Proper (config : Config) (pool : Pool Callable) : Prop where
  bookkept : Bookkept pool
  capacity : pool.queue.length ≤ config.maxSize
  emptyHanded : ∀ worker front running, .took worker front running ∈ pool.history →
    front.join = none →
    running = false

theorem Proper.proceedsOnlyWhenMay (proper : Proper config pool) :
    ProceedsOnlyWhenMay config pool where
  capacity := proper.capacity
  emptyHanded := proper.emptyHanded
  order := ⟨pool.queue, proper.bookkept.queued⟩
  once := proper.bookkept.once

/-- A step that neither pushes nor takes. -/
theorem Proper.keep (proper : Proper config pool) (performed : perform config pool step = .ok after)
    (queue : after.queue = pool.queue)
    (history : ∀ worker front running, .took worker front running ∈ after.history →
      .took worker front running ∈ pool.history) : Proper config after where
  bookkept := perform_bookkept proper.bookkept performed
  capacity := by
    rw [queue]
    exact proper.capacity
  emptyHanded := fun worker front running took =>
    proper.emptyHanded worker front running (history _ _ _ took)

theorem proceeds_step (proper : Proper config pool)
    (performed : perform config pool step = .ok after) :
    (ProceedsOnlyWhenMay config after → DueToProceed config pool step) ∧
      (DueToProceed config pool step → Proper config after) := by
  have keep := fun queue history => proper.keep performed queue history
  cases perform_effect performed with
  | @submitLocked thread task locking =>
    by_cases room : pool.queue.length < config.maxSize
    · refine ⟨fun _ => room, fun _ => ?_⟩
      have unsatisfied : submitPredicate config pool = false :=
        decide_eq_false (Nat.not_le.mpr room)
      rw [submitLocked, unsatisfied] at keep ⊢
      exact keep rfl fun _ _ _ took => took
    · refine ⟨fun may => ?_, fun due => (room due).elim⟩
      have bounded := may.capacity
      rw [submitLocked, if_pos (submitPredicate_iff.mpr (Nat.not_lt.mp room))] at bounded
      simp only [Pool.record, Pool.setSubmitter, List.length_append, List.length_singleton]
        at bounded
      exact Nat.lt_of_succ_le bounded
  | @takeLocked worker locking =>
    by_cases idle : pool.queue = [] ∧ pool.running = true
    · refine ⟨fun may => ?_, fun due => ?_⟩
      · rw [takeLocked_empty idle.1 idle.2] at may
        cases may.emptyHanded worker none true
          (List.mem_append_right _ (List.mem_singleton_self _)) rfl
      · cases (due idle.1).symm.trans idle.2
    · have unsatisfied : takePredicate pool = false :=
        Bool.eq_false_iff.mpr (idle ∘ takePredicate_iff.mp)
      refine ⟨fun _ empty => ?_, fun _ => ?_⟩
      · exact Bool.eq_false_iff.mpr fun running => idle ⟨empty, running⟩
      · rw [takeLocked, unsatisfied] at keep ⊢
        exact keep rfl fun _ _ _ took => took
  | @run worker task running =>
    refine ⟨fun _ => trivial, fun _ => ?_⟩
    cases task with
    | none => exact keep rfl fun _ _ _ took => took
    | some callable =>
      refine keep rfl ?_
      intro worker front running took
      simpa [ThreadPool.run, Pool.record, Pool.setWorker] using took
  | other unlocked quiet =>
    refine ⟨fun _ => dueToProceed_unlocked unlocked, fun _ => keep quiet.queue ?_⟩
    intro worker front running took
    rcases quiet.recorded with history | ⟨callable, history⟩
    · rwa [history] at took
    · simpa [history] using took

/-- The runs in which threads proceed only when they may are those in which no submitter comes to
its wait while the queue is full, and no worker while it is empty and the pool runs. -/
theorem proceeds_only_when_may_iff (config : Config) (steps : List (Step Callable))
    (pool : Pool Callable) :
    (machine config).Throughout (ProceedsOnlyWhenMay config) .initial steps pool ↔
      ((machine config).restrict (DueToProceed config)).Run .initial steps pool := by
  have initial : Proper config (.initial : Pool Callable) :=
    ⟨⟨rfl, fun _ => rfl⟩, Nat.zero_le _, fun _ _ _ took => (List.not_mem_nil took).elim⟩
  exact Machine.throughout_iff_restrict initial (fun _ proper =>
    proper.proceedsOnlyWhenMay) proceeds_step

/-- A pool that is stopped before its worker looks for a task. -/
theorem proceeds_only_when_may_stopped :
    ∃ pool : Pool Unit, (machine ⟨1, 1, 1⟩).Throughout (ProceedsOnlyWhenMay ⟨1, 1, 1⟩) .initial
      [.start, .spawn, .stop, .testRunning 0, .isEmptyQueue 0, .join] pool := by
  have followed :
      (Machine.follow (perform ⟨1, 1, 1⟩) (fun pool step =>
      decide (DueToProceed ⟨1, 1, 1⟩ pool step))
      (.initial : Pool Unit) [.start, .spawn, .stop, .testRunning 0, .isEmptyQueue 0,
        .join]).isSome = true := by
    decide +kernel
  obtain ⟨pool, reached⟩ := Option.isSome_iff_exists.mp followed
  have run := Machine.Run.ofFollow ((machine ⟨1, 1, 1⟩).restrict (DueToProceed ⟨1, 1, 1⟩))
    (fun allowed performed => ⟨of_decide_eq_true allowed, performed⟩) _ reached
  exact ⟨pool, (proceeds_only_when_may_iff _ _ _).mpr run⟩

/-- A worker gets an empty task from a running pool, and a task is queued beyond the capacity. -/
theorem proceeds_too_early :
    (∃ pool : Pool Unit, (machine ⟨1, 1, 1⟩).Run .initial
      [.start, .spawn, .testRunning 0, .takeLocked 0] pool ∧ ¬ ProceedsOnlyWhenMay ⟨1, 1, 1⟩ pool) ∧
    ∃ pool, (machine ⟨0, 1, 1⟩).Run .initial
      [.start, .spawn, .submit 0 (some ()), .submitLocked 0] pool ∧
      ¬ ProceedsOnlyWhenMay ⟨0, 1, 1⟩ pool := by
  refine ⟨?_, ?_⟩
  · have followed : (Machine.follow (perform ⟨1, 1, 1⟩) (fun _ _ => true) (.initial : Pool Unit)
        [.start, .spawn, .testRunning 0, .takeLocked 0]).any
        (fun pool => pool.history == [.took 0 none true]) = true := by
      decide +kernel
    obtain ⟨pool, run, final⟩ :=
      Machine.Run.ofFollowAny (machine ⟨1, 1, 1⟩) (fun _ performed => performed) followed
    refine ⟨pool, run, ?_⟩
    intro may
    have took : .took 0 none true ∈ pool.history := by
      rw [beq_iff_eq.mp final]
      exact List.mem_singleton_self _
    cases may.emptyHanded 0 none true took rfl
  · have followed : (Machine.follow (perform ⟨0, 1, 1⟩) (fun _ _ => true) .initial
        [.start, .spawn, .submit 0 (some ()), .submitLocked 0]).any
          (fun pool => pool.queue.length == 1) = true := by
      decide +kernel
    obtain ⟨pool, run, final⟩ :=
      Machine.Run.ofFollowAny (machine ⟨0, 1, 1⟩) (fun _ performed => performed) followed
    refine ⟨pool, run, ?_⟩
    intro may
    have bounded := may.capacity
    rw [beq_iff_eq.mp final] at bounded
    cases bounded

/-- A worker passes its wait only with the queue empty. -/
theorem perform_taken (performed : perform config pool step = .ok after) :
    after.taken = pool.taken := by
  cases perform_effect performed with
  | submitLocked =>
    rw [submitLocked]
    split
    · exact (filterMap_record _ _ _).trans (List.append_nil _)
    · rfl
  | takeLocked =>
    by_cases idle : pool.queue = [] ∧ pool.running = true
    · rw [takeLocked_empty idle.1 idle.2]
      exact (filterMap_record _ _ _).trans (List.append_nil _)
    · rw [takeLocked, if_neg (idle ∘ takePredicate_iff.mp)]
      rfl
  | @run _ task =>
    cases task with
    | none => rfl
    | some callable => exact (filterMap_record _ _ _).trans (List.append_nil _)
  | other _ quiet =>
    rcases quiet.recorded with history | ⟨callable, history⟩
    · rw [Pool.taken, history, Pool.taken]
    · rw [Pool.taken, history, filterMap_record]
      exact List.append_nil _

/-- No task is ever taken, so that the queue holds all that was submitted. -/
theorem run_never_takes {steps : List (Step Callable)}
    (run : (machine config).Run .initial steps pool) :
    pool.taken = [] ∧ pool.queue = pool.submitted := by
  have taken : pool.taken = [] := by
    refine run.invariant (fun _ pool => pool.taken = []) rfl ?_
    intro _ _ _ _ none performed
    exact (perform_taken performed).trans none
  have bookkept : Bookkept pool := by
    refine run.invariant (fun _ pool => Bookkept pool) ⟨rfl, fun _ => rfl⟩ ?_
    intro _ _ _ _ bookkept performed
    exact perform_bookkept bookkept performed
  refine ⟨taken, ?_⟩
  have queued := bookkept.queued
  rwa [taken, List.nil_append] at queued

end Proceeding

end FakeMuduo.Util.ThreadPool
