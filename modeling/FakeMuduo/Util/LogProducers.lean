import FakeMuduo.Base.Checked
import FakeMuduo.Base.Machine
import Mathlib.Data.List.Range
import Mathlib.Logic.Function.Basic

/-! Threads that push lines into a `LogBufferQueue` at the same time, one atomic step after
another, while nobody pops. The size of a buffer is a parameter. -/

namespace FakeMuduo.Util

open FakeMuduo.Base

variable {Line : Type}

namespace LogProducers

/-- A line and the number of the call that pushes it. -/
structure Entry (Line : Type) where
  call : Nat
  line : Line
  deriving DecidableEq, Repr

/-- `writeStates` holds one flag for each slot and, at index `kSize`, the count of lines. -/
structure Buffer (Line : Type) where
  items : Nat → Option (Entry Line)
  writeStates : Nat → Nat

def Buffer.new : Buffer Line where
  items := fun _ => none
  writeStates := fun _ => 0

/-- Where a thread is between its `fetch_add` of `write_index_` and that of the count: `loaded` has
loaded `current_write_buffer_`, `constructed` has put the line into its slot and `flagged` has
set the slot's flag. -/
inductive Progress where
  | indexed
  | loaded (buffer : Nat)
  | constructed (buffer : Nat)
  | flagged (buffer : Nat)
  deriving DecidableEq, Repr

/-- Where the thread that has filled a buffer is: `filled` has found the count to be `kSize`,
`cleared` has reset it, `published` has stored the new buffer in `current_write_buffer_`, `locked`
has the spin lock and `enqueued` has pushed the buffer to `log_buffers_`. -/
inductive Switch where
  | filled (buffer : Nat)
  | cleared
  | published (buffer : Nat)
  | locked (buffer : Nat)
  | enqueued
  deriving DecidableEq, Repr

/-- Where a thread is in `push`: `called` is before the `fetch_add` of `write_index_`, `spinning` in
the wait for the next buffer, and `unlocking` before the spin lock is released. -/
inductive Phase (Line : Type) where
  | idle
  | called (entry : Entry Line)
  | spinning (entry : Entry Line)
  | holding (entry : Entry Line) (index : Nat) (progress : Progress)
  | switching (switch : Switch)
  | unlocking
  deriving DecidableEq, Repr

/-- A line put into a slot. -/
structure Write where
  call : Nat
  buffer : Nat
  slot : Nat
  deriving DecidableEq, Repr

end LogProducers

/-- The buffers are numbered as they are allocated, `current_write_buffer_` is not null once the
constructor has run, and the backup ring stays empty without a consumer. `pushed` holds the lines of
all calls, `writes` the slots written and `switches` the threads that stored a new
buffer, with that buffer. -/
structure LogProducers (Line : Type) where
  writeIndex : Nat
  currentWriteBuffer : Nat
  buffers : Nat → LogProducers.Buffer Line
  logBuffers : List Nat
  flag : Bool
  threads : Nat → LogProducers.Phase Line
  pushed : List Line
  writes : List LogProducers.Write
  switches : List (Nat × Nat)

namespace LogProducers

/-- The queue that the constructor leaves. -/
def initial : LogProducers Line where
  writeIndex := 0
  currentWriteBuffer := 0
  buffers := fun _ => .new
  logBuffers := [0]
  flag := false
  threads := fun _ => .idle
  pushed := []
  writes := []
  switches := []

variable (queue : LogProducers Line)

def move (thread : Nat) (phase : Phase Line) : LogProducers Line :=
  { queue with threads := Function.update queue.threads thread phase }

def setItem (buffer slot : Nat) (entry : Entry Line) : LogProducers Line :=
  { queue with
    buffers := Function.update queue.buffers buffer
      { queue.buffers buffer with
        items := Function.update (queue.buffers buffer).items slot (some entry) } }

def setState (buffer slot value : Nat) : LogProducers Line :=
  { queue with
    buffers := Function.update queue.buffers buffer
      { queue.buffers buffer with
        writeStates := Function.update (queue.buffers buffer).writeStates slot value } }

/-- The steps of a push that has an index: the load of the buffer, the two stores into the slot and
the `fetch_add` of the count. -/
def fill (kSize thread : Nat) (entry : Entry Line) (index : Nat) : Progress → LogProducers Line
  | .indexed => queue.move thread (.holding entry index (.loaded queue.currentWriteBuffer))
  | .loaded buffer =>
    { (queue.setItem buffer index entry).move thread
        (.holding entry index (.constructed buffer)) with
      writes := queue.writes ++ [⟨entry.call, buffer, index⟩] }
  | .constructed buffer =>
    (queue.setState buffer index 1).move thread (.holding entry index (.flagged buffer))
  | .flagged buffer =>
    let count := (queue.buffers buffer).writeStates kSize
    (queue.setState buffer kSize (count + 1)).move thread
      (if count + 1 = kSize then .switching (.filled buffer) else .idle)

/-- The steps that reset the count and set up the next buffer. -/
def setupNext (kSize thread : Nat) : Switch → Checked (LogProducers Line)
  | .filled buffer => .ok ((queue.setState buffer kSize 0).move thread (.switching .cleared))
  | .cleared =>
    let next := queue.currentWriteBuffer + 1
    .ok { queue.move thread (.switching (.published next)) with
      currentWriteBuffer := next
      buffers := Function.update queue.buffers next .new
      switches := queue.switches ++ [(thread, next)] }
  | .published buffer =>
    if queue.flag then .error .disabled
    else .ok { queue.move thread (.switching (.locked buffer)) with flag := true }
  | .locked buffer =>
    .ok { queue.move thread (.switching .enqueued) with logBuffers := queue.logBuffers ++ [buffer] }
  | .enqueued => .ok { queue.move thread .unlocking with writeIndex := 0 }

/-- The next step of a thread that is in `push`. -/
def advance (kSize thread : Nat) : Phase Line → Checked (LogProducers Line)
  | .idle => .error .disabled
  | .called entry =>
    .ok { queue.move thread
        (if queue.writeIndex < kSize then .holding entry queue.writeIndex .indexed
          else .spinning entry) with
      writeIndex := queue.writeIndex + 1 }
  | .spinning entry =>
    .ok (if kSize ≤ queue.writeIndex then queue else queue.move thread (.called entry))
  | .holding entry index progress => .ok (queue.fill kSize thread entry index progress)
  | .switching switch => queue.setupNext kSize thread switch
  | .unlocking => .ok { queue.move thread .idle with flag := false }

inductive Step (Line : Type) where
  | push (thread : Nat) (line : Line)
  | advance (thread : Nat)

def perform (kSize : Nat) : Step Line → Checked (LogProducers Line)
  | .push thread line =>
    match queue.threads thread with
    | .idle =>
      .ok { queue.move thread (.called ⟨queue.pushed.length, line⟩) with
        pushed := queue.pushed ++ [line] }
    | _ => .error .disabled
  | .advance thread => queue.advance kSize thread (queue.threads thread)

def machine (kSize : Nat) : Machine (LogProducers Line) (Step Line) :=
  .ofFunction fun queue => queue.perform kSize

/-- The slot holds a completed line. -/
def Complete (buffer slot : Nat) : Prop :=
  (∃ entry, (queue.buffers buffer).items slot = some entry) ∧
    (queue.buffers buffer).writeStates slot = 1

/-- What producers owe each other. -/
structure Collisionless (kSize : Nat) : Prop where
  distinct : (queue.writes.map fun write => (write.buffer, write.slot)).Nodup
  bounded : ∀ write ∈ queue.writes, write.slot < kSize
  retired : ∀ buffer < queue.currentWriteBuffer, ∀ slot < kSize, queue.Complete buffer slot
  switched : queue.switches.map Prod.snd = List.range' 1 queue.currentWriteBuffer
  alone : ∀ {thread other switch switch'}, queue.threads thread = .switching switch →
    queue.threads other = .switching switch' → other = thread
  delivered : (∀ thread, queue.threads thread = .idle) →
    ∀ call line, queue.pushed[call]? = some line →
    ∃! place : Nat × Nat, place.1 ∈ queue.logBuffers ∧ place.2 < kSize ∧
      (queue.buffers place.1).items place.2 = some ⟨call, line⟩

end LogProducers

end FakeMuduo.Util
