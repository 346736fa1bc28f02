import FakeMuduo.Base.Checked
import FakeMuduo.Base.Machine

/-! The pool of worker threads. A step is a critical section of `mutex_`, up to where the lock is
released, a notification, or what a thread does outside of both. -/

namespace FakeMuduo.Util.ThreadPool

open FakeMuduo.Base

variable {Callable : Type}

/-- A `std::function`, empty when `none`. -/
abbrev Task (Callable : Type) := Option Callable

/-- `numThreads` is the size of `threads_`, `submitters` the number of
threads that call `submit`. -/
structure Config where
  maxSize : Nat
  numThreads : Nat
  submitters : Nat

/-- A thread that calls `submit`: it is `locking` when it is about to look at the predicate, the
lock taken for the first time or after a wake-up, and `waiting` while it
is blocked on `not_full_`. -/
inductive Submitter (Callable : Type) where
  | idle
  | locking (task : Task Callable)
  | waiting (task : Task Callable)
  | notifying
  deriving DecidableEq, Repr

/-- A thread of the pool: it reads `running_`, calls `isEmptyQueue`, is in `take` before the
predicate, on `not_empty_` or after the lock, or runs what `take` returned. -/
inductive Worker (Callable : Type) where
  | absent
  | looping
  | testing
  | locking
  | waiting
  | notifying (task : Task Callable)
  | running (task : Task Callable)
  | finished
  deriving DecidableEq, Repr

/-- The thread that starts the pool and stops it, with how many workers it created or joined. -/
inductive Owner where
  | constructed
  | starting (created : Nat)
  | stopping (joined : Nat)
  deriving DecidableEq, Repr

/-- `took` is a call of `take` that passed its wait, with the front of the queue, if any, and
`running_` at that time. -/
inductive Happening (Callable : Type) where
  | submitted (task : Task Callable)
  | took (worker : Nat) (front : Option (Task Callable)) (running : Bool)
  | ran (worker : Nat) (callable : Callable)
  | ranDirectly (callable : Callable)
  deriving DecidableEq, Repr

structure Pool (Callable : Type) where
  queue : List (Task Callable)
  running : Bool
  owner : Owner
  submitters : Nat → Submitter Callable
  workers : Nat → Worker Callable
  history : List (Happening Callable)

def Pool.initial : Pool Callable where
  queue := []
  running := false
  owner := .constructed
  submitters := fun _ => .idle
  workers := fun _ => .absent
  history := []

def Submitter.isWaiting : Submitter Callable → Bool
  | waiting _ => true
  | _ => false

def Submitter.wake : Submitter Callable → Submitter Callable
  | waiting task => .locking task
  | submitter => submitter

def Worker.isWaiting : Worker Callable → Bool
  | waiting => true
  | _ => false

def Worker.wake : Worker Callable → Worker Callable
  | waiting => .locking
  | worker => worker

namespace Pool

def setSubmitter (pool : Pool Callable) (thread : Nat) (submitter : Submitter Callable) :
    Pool Callable :=
  { pool with submitters := Function.update pool.submitters thread submitter }

def setWorker (pool : Pool Callable) (thread : Nat) (worker : Worker Callable) : Pool Callable :=
  { pool with workers := Function.update pool.workers thread worker }

def record (pool : Pool Callable) (happening : Happening Callable) : Pool Callable :=
  { pool with history := pool.history ++ [happening] }

end Pool

/-- `start` writes `running_` and creates the workers, each by a `spawn`; `stop` is the critical
section of `stop()`, and each `join` waits for a worker. The next four are those of the threads
that call `submit`, the others those of the workers. `woken` is the thread that a notification
wakes, if one waits; a wake-up without a notification is spurious. -/
inductive Step (Callable : Type) where
  | start
  | spawn
  | stop
  | join
  | submit (thread : Nat) (task : Task Callable)
  | submitLocked (thread : Nat)
  | notifyNotEmpty (thread woken : Nat)
  | wakeSubmitter (thread : Nat)
  | testRunning (worker : Nat)
  | isEmptyQueue (worker : Nat)
  | takeLocked (worker : Nat)
  | notifyNotFull (worker woken : Nat)
  | wakeWorker (worker : Nat)
  | run (worker : Nat)
  deriving DecidableEq, Repr

variable (config : Config)

/-- What `submit` waits for. -/
def submitPredicate (pool : Pool Callable) : Bool := decide (config.maxSize ≤ pool.queue.length)

/-- What `take` waits for. -/
def takePredicate (pool : Pool Callable) : Bool := pool.queue.isEmpty && pool.running

/-- Without workers the task runs at once; an empty one throws. -/
def submit (pool : Pool Callable) (thread : Nat) (task : Task Callable) : Pool Callable :=
  if config.numThreads = 0 then
    match task with
    | some callable => pool.record (.ranDirectly callable)
    | none => pool
  else pool.setSubmitter thread (.locking task)

def submitLocked (pool : Pool Callable) (thread : Nat) (task : Task Callable) : Pool Callable :=
  if submitPredicate config pool then
    ({ pool with queue := pool.queue ++ [task] }.setSubmitter thread .notifying).record
      (.submitted task)
  else pool.setSubmitter thread (.waiting task)

def takeLocked (pool : Pool Callable) (worker : Nat) : Pool Callable :=
  if takePredicate pool then
    match pool.queue with
    | [] => (pool.setWorker worker (.notifying none)).record (.took worker none pool.running)
    | front :: queue =>
      ({ pool with queue }.setWorker worker (.notifying front)).record
        (.took worker (some front) pool.running)
  else pool.setWorker worker .waiting

/-- `not_empty_.notify_one()`. -/
def notifyNotEmpty (pool : Pool Callable) (woken : Nat) : Checked (Pool Callable) :=
  if (pool.workers woken).isWaiting then .ok (pool.setWorker woken (pool.workers woken).wake)
  else if ∀ worker < config.numThreads, (pool.workers worker).isWaiting = false then .ok pool
  else .error .disabled

/-- `not_full_.notify_one()`. -/
def notifyNotFull (pool : Pool Callable) (woken : Nat) : Checked (Pool Callable) :=
  if (pool.submitters woken).isWaiting then
    .ok (pool.setSubmitter woken (pool.submitters woken).wake)
  else if ∀ thread < config.submitters, (pool.submitters thread).isWaiting = false then .ok pool
  else .error .disabled

/-- The rest of the body of `runInThread`. -/
def run (pool : Pool Callable) (worker : Nat) : Task Callable → Pool Callable
  | some callable => (pool.setWorker worker .looping).record (.ran worker callable)
  | none => pool.setWorker worker .looping

def perform (pool : Pool Callable) : Step Callable → Checked (Pool Callable)
  | .start =>
    if pool.owner = .constructed then .ok { pool with running := true, owner := .starting 0 }
    else .error .disabled
  | .spawn =>
    match pool.owner with
    | .starting created =>
      match pool.workers created with
      | .absent =>
        if created < config.numThreads then
          .ok ({ pool with owner := .starting (created + 1) }.setWorker created .looping)
        else .error .disabled
      | _ => .error .disabled
    | _ => .error .disabled
  | .stop =>
    if pool.owner = .starting config.numThreads then
      .ok { pool with running := false, owner := .stopping 0, workers := fun worker =>
        (pool.workers worker).wake }
    else .error .disabled
  | .join =>
    match pool.owner with
    | .stopping joined =>
      match pool.workers joined with
      | .finished => .ok { pool with owner := .stopping (joined + 1) }
      | _ => .error .disabled
    | _ => .error .disabled
  | .submit thread task =>
    match pool.submitters thread with
    | .idle =>
      if thread < config.submitters then .ok (submit config pool thread task)
      else .error .disabled
    | _ => .error .disabled
  | .submitLocked thread =>
    match pool.submitters thread with
    | .locking task => .ok (submitLocked config pool thread task)
    | _ => .error .disabled
  | .notifyNotEmpty thread woken =>
    match pool.submitters thread with
    | .notifying => notifyNotEmpty config (pool.setSubmitter thread .idle) woken
    | _ => .error .disabled
  | .wakeSubmitter thread => .ok (pool.setSubmitter thread (pool.submitters thread).wake)
  | .testRunning worker =>
    match pool.workers worker with
    | .looping => .ok (pool.setWorker worker (if pool.running then .locking else .testing))
    | _ => .error .disabled
  | .isEmptyQueue worker =>
    match pool.workers worker with
    | .testing => .ok (pool.setWorker worker (if pool.queue.isEmpty then .finished else .locking))
    | _ => .error .disabled
  | .takeLocked worker =>
    match pool.workers worker with
    | .locking => .ok (takeLocked pool worker)
    | _ => .error .disabled
  | .notifyNotFull worker woken =>
    match pool.workers worker with
    | .notifying task => notifyNotFull config (pool.setWorker worker (.running task)) woken
    | _ => .error .disabled
  | .wakeWorker worker => .ok (pool.setWorker worker (pool.workers worker).wake)
  | .run worker =>
    match pool.workers worker with
    | .running task => .ok (run pool worker task)
    | _ => .error .disabled

def machine : Machine (Pool Callable) (Step Callable) := .ofFunction (perform config)

end FakeMuduo.Util.ThreadPool
