import FakeMuduo.Base.Checked
import FakeMuduo.Base.Fifo

namespace FakeMuduo.Util

open FakeMuduo.Base

/-- The address of a `LogBuffer`. -/
abbrev Pointer := Nat

/-- `writeStates` holds one flag for each slot and, at index `kSize`, the count of
lines; `items` is raw storage, so a slot may hold no line yet. -/
structure LogBuffer (Line : Type) where
  writeStates : Nat → Nat
  items : Nat → Option Line

namespace LogBuffer

variable {Line : Type}

def kSize : Nat := 4096 * 8

def new : LogBuffer Line where
  writeStates := fun _ => 0
  items := fun _ => none

def push (buffer : LogBuffer Line) (logLine : Line) (writeIndex : Nat) : Bool × LogBuffer Line :=
  let items := Function.update buffer.items writeIndex (some logLine)
  let written := Function.update buffer.writeStates writeIndex 1
  let counted := Function.update written kSize (written kSize + 1)
  if written kSize + 1 = kSize then (true, ⟨Function.update counted kSize 0, items⟩)
  else (false, ⟨counted, items⟩)

/-- `residue` is what a move assignment leaves of the line it moves from. -/
def pop (residue : Line → Line) (buffer : LogBuffer Line) (readIndex : Nat) :
    Checked (Option Line × LogBuffer Line) :=
  if buffer.writeStates readIndex ≠ 0 then
    match buffer.items readIndex with
    | some logLine =>
      .ok (some logLine,
        { buffer with items := Function.update buffer.items readIndex (some (residue logLine)) })
    | none => .error .danglingReference
  else .ok (none, buffer)

end LogBuffer

/-- Slots hold `unique_ptr`s, null when `none`. -/
structure RingQueue (SIZE : Nat) where
  logBuffers : Nat → Option Pointer
  writeIndex : Nat
  readIndex : Nat

namespace RingQueue

variable {SIZE : Nat}

def new : RingQueue SIZE where
  logBuffers := fun _ => none
  writeIndex := 0
  readIndex := 0

/-- Returns with the queue what is left in the caller's pointer. -/
def push (ring : RingQueue SIZE) (logBuffer : Option Pointer) :
    Bool × RingQueue SIZE × Option Pointer :=
  let nextWriteIndex := (ring.writeIndex + 1) % (SIZE + 1)
  if nextWriteIndex = ring.readIndex then (false, ring, logBuffer)
  else
    (true, { ring with
      logBuffers := Function.update ring.logBuffers ring.writeIndex logBuffer
      writeIndex := nextWriteIndex }, none)

def pop (ring : RingQueue SIZE) (logBuffer : Option Pointer) :
    Bool × RingQueue SIZE × Option Pointer :=
  if ring.writeIndex = ring.readIndex then (false, ring, logBuffer)
  else
    (true, { ring with
      logBuffers := Function.update ring.logBuffers ring.readIndex none
      readIndex := (ring.readIndex + 1) % (SIZE + 1) }, ring.logBuffers ring.readIndex)

end RingQueue

/-- `heap` holds the buffers alive, `allocated` the next unused address. -/
structure LogBufferQueue (Line : Type) where
  heap : Pointer → Option (LogBuffer Line)
  allocated : Pointer
  logBuffers : List (Option Pointer)
  currentWriteBuffer : Option Pointer
  currentReadBuffer : Option Pointer
  writeIndex : Nat
  readIndex : Nat
  backupLogBuffers : RingQueue 4

namespace LogBufferQueue

variable {Line : Type}

def store (queue : LogBufferQueue Line) (pointer : Pointer) (buffer : LogBuffer Line) :
    LogBufferQueue Line :=
  { queue with heap := Function.update queue.heap pointer (some buffer) }

/-- What `~unique_ptr` does to the buffer it owns. -/
def release (queue : LogBufferQueue Line) : Option Pointer → LogBufferQueue Line
  | some pointer => { queue with heap := Function.update queue.heap pointer none }
  | none => queue

def makeUnique (queue : LogBufferQueue Line) : LogBufferQueue Line × Option Pointer :=
  ({ queue.store queue.allocated .new with allocated := queue.allocated + 1 }, some queue.allocated)

def setupNextWriteLogBuffer (queue : LogBufferQueue Line) : LogBufferQueue Line :=
  let (reused, backup, popped) := queue.backupLogBuffers.pop none
  let (queue, next) := if reused then (queue, popped) else queue.makeUnique
  { queue with
    backupLogBuffers := backup
    currentWriteBuffer := next
    logBuffers := queue.logBuffers ++ [next]
    writeIndex := 0 }

def new : LogBufferQueue Line :=
  setupNextWriteLogBuffer
    { heap := fun _ => none
      allocated := 0
      logBuffers := []
      currentWriteBuffer := none
      currentReadBuffer := none
      writeIndex := 0
      readIndex := 0
      backupLogBuffers := .new }

def getNextReadLogBuffer (queue : LogBufferQueue Line) : Option Pointer :=
  queue.logBuffers.head?.join

/-- With one thread, the wait in the last branch does not end. -/
def push (queue : LogBufferQueue Line) (logLine : Line) : Checked (LogBufferQueue Line) := do
  check "this->current_write_buffer_.load(std::memory_order_relaxed)"
    (queue.currentWriteBuffer ≠ none)
  let writeIndex := queue.writeIndex
  let queue := { queue with writeIndex := writeIndex + 1 }
  if writeIndex < LogBuffer.kSize then
    match queue.currentWriteBuffer with
    | none => .error .danglingReference
    | some pointer =>
      match queue.heap pointer with
      | none => .error .danglingReference
      | some buffer =>
        let (full, buffer) := buffer.push logLine writeIndex
        let queue := queue.store pointer buffer
        return if full then queue.setupNextWriteLogBuffer else queue
  else .error .outOfFuel

/-- The read buffer leaves the queue for the backup ring, or dies if that is full. -/
def recycleReadBuffer (queue : LogBufferQueue Line) : LogBufferQueue Line :=
  let up := queue.logBuffers.head?.join
  let (_, backup, left) := queue.backupLogBuffers.push up
  { queue with
    readIndex := 0
    currentReadBuffer := none
    logBuffers := queue.logBuffers.tail
    backupLogBuffers := backup }.release left

def pop (residue : Line → Line) (queue : LogBufferQueue Line) :
    Checked (Option Line × LogBufferQueue Line) := do
  let queue :=
    if queue.currentReadBuffer = none then
      { queue with currentReadBuffer := queue.getNextReadLogBuffer }
    else queue
  match queue.currentReadBuffer with
  | none => return (none, queue)
  | some readBuffer =>
    match queue.heap readBuffer with
    | none => .error .danglingReference
    | some buffer =>
      match ← buffer.pop residue queue.readIndex with
      | (none, _) => return (none, queue)
      | (some logLine, buffer) =>
        let queue := { queue.store readBuffer buffer with readIndex := queue.readIndex + 1 }
        return (some logLine, if queue.readIndex = LogBuffer.kSize then
          queue.recycleReadBuffer else queue)

end LogBufferQueue

inductive LogCall (Line : Type) where
  | push (logLine : Line)
  | pop

/-- Calls made one after another, with the history they leave. -/
def LogBufferQueue.run (residue : Line → Line) (queue : LogBufferQueue Line) :
    List (LogCall Line) → Checked (List (Fifo.Event Line) × LogBufferQueue Line)
  | [] => .ok ([], queue)
  | .push logLine :: calls => do
    let queue ← queue.push logLine
    let (events, queue) ← queue.run residue calls
    return (.pushed logLine :: events, queue)
  | .pop :: calls => do
    let (result, queue) ← queue.pop residue
    let (events, queue) ← queue.run residue calls
    return (.popped result :: events, queue)

end FakeMuduo.Util
