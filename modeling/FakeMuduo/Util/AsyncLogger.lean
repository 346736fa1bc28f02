import FakeMuduo.Util.LogProducersIndices
import FakeMuduo.Util.LogBufferQueue

/-! The asynchronous logger: any number of threads add lines, and a background thread pops and
writes them, all of them one atomic step after another. -/

namespace FakeMuduo.Util

open FakeMuduo.Base LogProducers

variable {Line : Type}

namespace AsyncLogger

inductive STATE where
  | kINIT | kREADY | kSHUTDOWN
  deriving DecidableEq, Repr

/-- Where the background thread is inside a call of `pop`, or before it writes what that returned:
`reading` has a read buffer or none, `moving` has found the flag of the slot set, `recycling` is
before the full read buffer leaves `log_buffers_` and `backing` before it goes
to the backup ring. -/
inductive Popping (Line : Type) where
  | called
  | reading
  | moving
  | recycling (entry : Entry Line)
  | backing (entry : Entry Line) (buffer : Nat)
  | writing (entry : Entry Line)
  deriving DecidableEq, Repr

/-- Where the background thread is: it waits for the constructor, tests `state_`, or is busy with a
line, `draining` in its last loop. -/
inductive Phase (Line : Type) where
  | waiting
  | testing
  | popping (draining : Bool) (place : Popping Line)
  | ended
  deriving DecidableEq, Repr

/-- The line that was popped and is not written yet. -/
def Popping.inHand : Popping Line → List (Entry Line)
  | .recycling entry | .backing entry _ | .writing entry => [entry]
  | .called | .reading | .moving => []

def Phase.inHand : Phase Line → List (Entry Line)
  | .popping _ place => place.inHand
  | .waiting | .testing | .ended => []

end AsyncLogger

/-- `queue` has the part of the queue that the producers share with the background thread, the
buffers included. Of the history, `busy` has the threads inside `add` with their calls, `returned`
the calls that returned, and `preceding` for each call those that had returned when it began. -/
structure AsyncLogger (Line : Type) where
  state : AsyncLogger.STATE
  queue : LogProducers Line
  allocated : Nat
  backupLogBuffers : RingQueue 4
  freed : List Nat
  currentReadBuffer : Option Nat
  readIndex : Nat
  phase : AsyncLogger.Phase Line
  written : List (Entry Line)
  busy : List (Nat × Nat)
  returned : List Nat
  preceding : List (List Nat)

namespace AsyncLogger

/-- The logger before its constructor stores `kREADY`. -/
def initial : AsyncLogger Line where
  state := .kINIT
  queue := .initial
  allocated := 1
  backupLogBuffers := .new
  freed := []
  currentReadBuffer := none
  readIndex := 0
  phase := .waiting
  written := []
  busy := []
  returned := []
  preceding := []

variable (logger : AsyncLogger Line)

/-- The buffer that the next step of a thread dereferences. -/
def touched : LogProducers.Phase Line → Option Nat
  | .holding _ _ (.loaded buffer) | .holding _ _ (.constructed buffer)
  | .holding _ _ (.flagged buffer)
  | .switching (.filled buffer) => some buffer
  | _ => none

/-- The next buffer comes from the backup ring, with the flags of its former use, or
is a new one. -/
def setupNextWriteLogBuffer (thread : Nat) : Checked (AsyncLogger Line) :=
  match logger.backupLogBuffers.pop none with
  | (true, backup, some buffer) =>
    .ok { logger with
      backupLogBuffers := backup
      queue := { logger.queue.move thread (.switching (.published buffer)) with
        currentWriteBuffer := buffer
        switches := logger.queue.switches ++ [(thread, buffer)] } }
  | (true, _, none) => .error .danglingReference
  | (false, backup, _) =>
    .ok { logger with
      backupLogBuffers := backup
      allocated := logger.allocated + 1
      queue := { logger.queue.move thread (.switching (.published logger.allocated)) with
        currentWriteBuffer := logger.allocated
        buffers := Function.update logger.queue.buffers logger.allocated .new
        switches := logger.queue.switches ++ [(thread, logger.allocated)] } }

/-- The next step of a thread inside `push`; a buffer that died may still be in its hands. -/
def push (kSize thread : Nat) : Checked (AsyncLogger Line) :=
  if (touched (logger.queue.threads thread)).any (logger.freed.contains ·) then
    .error .danglingReference
  else
    match logger.queue.threads thread with
    | .switching .cleared => logger.setupNextWriteLogBuffer thread
    | _ => do
      let queue ← logger.queue.perform kSize (.advance thread)
      return { logger with queue }

/-- A thread whose call has returned leaves `busy`. -/
def settle (thread : Nat) : AsyncLogger Line :=
  match logger.queue.threads thread with
  | .idle =>
    { logger with
      busy := logger.busy.filter (·.1 ≠ thread)
      returned := logger.returned ++ (logger.busy.filter (·.1 = thread)).map Prod.snd }
  | _ => logger

/-- `pop` returns false. -/
def popFails (draining : Bool) : AsyncLogger Line :=
  { logger with phase := if draining then .ended else .testing }

/-- The next step of the background thread inside `pop`, or its write. A critical section of
`log_buffers_` is one step. `residue` is what a move leaves of a line. -/
def pop (kSize : Nat) (residue : Line → Line) (draining : Bool) :
    Popping Line → Checked (AsyncLogger Line)
  | .called =>
    match logger.currentReadBuffer with
    | some _ => .ok { logger with phase := .popping draining .reading }
    | none =>
      if logger.queue.flag then .error .disabled
      else .ok { logger with
        currentReadBuffer := logger.queue.logBuffers.head?
        phase := .popping draining .reading }
  | .reading =>
    match logger.currentReadBuffer with
    | none => .ok (logger.popFails draining)
    | some buffer =>
      if logger.freed.contains buffer then .error .danglingReference
      else if (logger.queue.buffers buffer).writeStates logger.readIndex ≠ 0 then
        .ok { logger with phase := .popping draining .moving }
      else .ok (logger.popFails draining)
  | .moving =>
    match logger.currentReadBuffer with
    | none => .error .danglingReference
    | some buffer =>
      if logger.freed.contains buffer then .error .danglingReference
      else
        match (logger.queue.buffers buffer).items logger.readIndex with
        | none => .error .danglingReference
        | some entry =>
          let queue := logger.queue.setItem buffer logger.readIndex
            { entry with line := residue entry.line }
          if logger.readIndex + 1 = kSize then
            .ok { logger with
              queue
              readIndex := 0
              currentReadBuffer := none
              phase := .popping draining (.recycling entry) }
          else
            .ok { logger with
              queue
              readIndex := logger.readIndex + 1
              phase := .popping draining (.writing entry) }
  | .recycling entry =>
    if logger.queue.flag then .error .disabled
    else
      match logger.queue.logBuffers with
      | [] => .error .danglingReference
      | buffer :: rest =>
        .ok { logger with
          queue := { logger.queue with logBuffers := rest }
          phase := .popping draining (.backing entry buffer) }
  | .backing entry buffer =>
    let (_, backup, left) := logger.backupLogBuffers.push (some buffer)
    .ok { logger with
      backupLogBuffers := backup
      freed := logger.freed ++ left.toList
      phase := .popping draining (.writing entry) }
  | .writing entry =>
    .ok { logger with
      written := logger.written ++ [entry]
      phase := if draining then .popping true .called else .testing }

def popThread (kSize : Nat) (residue : Line → Line) : Phase Line → Checked (AsyncLogger Line)
  | .waiting => .ok (if logger.state = .kINIT then logger else { logger with phase := .testing })
  | .testing =>
    .ok { logger with phase := .popping (decide (logger.state ≠ .kREADY)) .called }
  | .popping draining place => logger.pop kSize residue draining place
  | .ended => .error .disabled

/-- `ready` and `shutdown` are the stores of the constructor and the destructor to `state_`. -/
inductive Step (Line : Type) where
  | ready
  | add (thread : Nat) (logLine : Line)
  | push (thread : Nat)
  | popThread
  | shutdown
  deriving DecidableEq, Repr

def perform (kSize : Nat) (residue : Line → Line) : Step Line → Checked (AsyncLogger Line)
  | .ready =>
    if logger.state = .kINIT then .ok { logger with state := .kREADY }
    else .error .disabled
  | .add thread logLine => do
    let queue ← logger.queue.perform kSize (.push thread logLine)
    return { logger with
      queue
      busy := logger.busy ++ [(thread, logger.queue.pushed.length)]
      preceding := logger.preceding ++ [logger.returned] }
  | .push thread => do
    let after ← logger.push kSize thread
    return after.settle thread
  | .popThread => logger.popThread kSize residue logger.phase
  | .shutdown =>
    if logger.state = .kREADY then .ok { logger with state := .kSHUTDOWN }
    else .error .disabled

def machine (kSize : Nat) (residue : Line → Line) : Machine (AsyncLogger Line) (Step Line) :=
  .ofFunction fun logger => logger.perform kSize residue

/-- Threads add lines only while the logger lives, and it is destroyed only when none
of them is inside `add`. -/
def Permitted : Step Line → Prop
  | .add _ _ => logger.state = .kREADY
  | .shutdown => logger.busy = []
  | .ready | .push _ | .popThread => True

/-- How often the buffer was made the write buffer. -/
def setups (buffer : Nat) : Nat := (0 :: logger.queue.switches.map Prod.snd).count buffer

/-- How often a line was put into the slot. -/
def fills (buffer slot : Nat) : Nat :=
  logger.queue.writes.countP fun write => decide (write.buffer = buffer ∧ write.slot = slot)

/-- A flag that the background thread finds set in the write buffer is of now: the slot was filled
since the buffer became that. -/
def NoStaleFlag : Step Line → Prop
  | .popThread => ∀ draining buffer, logger.phase = .popping draining .reading →
      logger.currentReadBuffer = some buffer → buffer = logger.queue.currentWriteBuffer →
      logger.queue.state buffer logger.readIndex ≠ 0 →
      logger.fills buffer logger.readIndex = logger.setups buffer
  | .ready | .add _ _ | .push _ | .shutdown => True

/-- What the next step of the background thread frees: a buffer that the full backup
ring leaves to it. -/
def frees : List Nat :=
  match logger.phase with
  | .popping _ (.backing _ buffer) => (logger.backupLogBuffers.push (some buffer)).2.2.toList
  | _ => []

/-- No thread is about to dereference a buffer that the step frees. -/
def Spares : Step Line → Prop
  | .popThread => ∀ buffer ∈ logger.frees, ∀ thread,
      touched (logger.queue.threads thread) ≠ some buffer
  | .ready | .add _ _ | .push _ | .shutdown => True

/-- Some step dereferences a buffer that was freed, a null pointer or a slot without a line. -/
def Dangles (kSize : Nat) (residue : Line → Line) : Prop :=
  ∃ step, logger.perform kSize residue step = .error .danglingReference

end AsyncLogger

end FakeMuduo.Util
