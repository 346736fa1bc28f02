import FakeMuduo.Util.RingQueue

namespace FakeMuduo.Util

open FakeMuduo.Base

namespace RingQueue

variable {SIZE : Nat}

/-- The buffers in the ring, oldest first. -/
structure Holds (ring : RingQueue SIZE) (buffers : List Pointer) : Prop where
  bounded : buffers.length ≤ SIZE
  reading : ring.readIndex < SIZE + 1
  writing : ring.writeIndex = (ring.readIndex + buffers.length) % (SIZE + 1)
  slots : ∀ index < buffers.length,
    ring.logBuffers ((ring.readIndex + index) % (SIZE + 1)) = buffers[index]?

theorem Holds.contains {ring : RingQueue SIZE} {buffers : List Pointer}
    (holds : ring.Holds buffers) :
    ring.Contains (buffers.map some) := by
  obtain ⟨bounded, reading, writing, slots⟩ := holds
  constructor
  · rw [List.length_map]
    exact bounded
  · exact reading
  · rw [List.length_map]
    exact writing
  · intro index inside
    rw [List.length_map] at inside
    rw [slots index inside, List.getElem?_map, List.getElem?_eq_getElem inside]
    rfl

theorem Contains.holds {ring : RingQueue SIZE} {buffers : List Pointer}
    (contains : ring.Contains (buffers.map some)) : ring.Holds buffers := by
  obtain ⟨bounded, reading, writing, slots⟩ := contains
  rw [List.length_map] at bounded writing
  refine ⟨bounded, reading, writing, ?_⟩
  intro index inside
  have held := slots index (by rw [List.length_map]; exact inside)
  rw [List.getElem?_map, List.getElem?_eq_getElem inside, Option.map_some, Option.some.injEq]
    at held
  rw [List.getElem?_eq_getElem inside, held]

theorem new_holds : (new : RingQueue SIZE).Holds [] :=
  Contains.holds new_contains

theorem Holds.push_full {ring : RingQueue SIZE} {buffers : List Pointer}
    (holds : ring.Holds buffers) (full : buffers.length = SIZE) (logBuffer : Option Pointer) :
    ring.push logBuffer = (false, ring, logBuffer) := by
  apply holds.contains.push_full
  rw [List.length_map]
  exact full

theorem Holds.push_room {ring : RingQueue SIZE} {buffers : List Pointer}
    (holds : ring.Holds buffers) (room : buffers.length < SIZE) (pointer : Pointer) :
    ∃ after, ring.push (some pointer) = (true, after, none) ∧
      after.Holds (buffers ++ [pointer]) := by
  have vacant : (buffers.map some).length ≠ SIZE := by
    rw [List.length_map]
    exact Nat.ne_of_lt room
  obtain ⟨after, pushed, kept⟩ := holds.contains.push_room vacant (some pointer)
  refine ⟨after, pushed, Contains.holds ?_⟩
  rw [List.map_append]
  exact kept

theorem Holds.pop_empty {ring : RingQueue SIZE} (holds : ring.Holds [])
    (logBuffer : Option Pointer) :
    ring.pop logBuffer = (false, ring, logBuffer) :=
  holds.contains.pop_empty logBuffer

theorem Holds.pop_oldest {ring : RingQueue SIZE} {oldest : Pointer} {buffers : List Pointer}
    (holds : ring.Holds (oldest :: buffers)) (logBuffer : Option Pointer) :
    ∃ after, ring.pop logBuffer = (true, after, some oldest) ∧ after.Holds buffers := by
  obtain ⟨after, popped, kept⟩ := holds.contains.pop_oldest logBuffer
  exact ⟨after, popped, kept.holds⟩

end RingQueue

namespace LogBuffer

variable {Line : Type}

theorem kSize_pos : 0 < kSize := by
  unfold kSize
  omega

/-- The first slots are flagged and hold these lines. -/
def Stores (buffer : LogBuffer Line) (content : List Line) : Prop :=
  ∀ index < content.length, buffer.writeStates index ≠ 0 ∧ buffer.items index = content[index]?

/-- All slots were written, and the count was reset. -/
structure Complete (buffer : LogBuffer Line) (content : List Line) : Prop where
  length : content.length = kSize
  stores : buffer.Stores content
  count : buffer.writeStates kSize = 0

/-- The state of the buffer being written. A recycled one still has the flags and
lines of its former use, `stale`, behind the lines written since. -/
structure Writing (buffer : LogBuffer Line) (tail stale : List Line) (recycled : Bool) : Prop where
  room : tail.length < kSize
  stores : buffer.Stores (tail ++ stale)
  count : buffer.writeStates kSize = tail.length
  used : recycled = true → (tail ++ stale).length = kSize
  unused : recycled = false →
    stale = [] ∧ ∀ index, tail.length ≤ index → index < kSize → buffer.writeStates index = 0

theorem new_writing : (new : LogBuffer Line).Writing [] [] false := by
  refine ⟨kSize_pos, ?_, rfl, by simp, fun _ => ⟨rfl, fun _ _ _ => rfl⟩⟩
  intro index inside
  cases inside

theorem Complete.writing {buffer : LogBuffer Line} {content : List Line}
    (complete : buffer.Complete content) :
    buffer.Writing [] content true :=
  ⟨kSize_pos, complete.stores, complete.count, fun _ => complete.length, by simp⟩

theorem Writing.push_stores {buffer : LogBuffer Line} {tail stale : List Line} {recycled : Bool}
    (writing : buffer.Writing tail stale recycled) (logLine : Line) (written : Nat → Nat)
    (flags : ∀ index < kSize, written index =
      Function.update buffer.writeStates tail.length 1 index) :
    LogBuffer.Stores ⟨written, Function.update buffer.items tail.length (some logLine)⟩
      (tail ++ [logLine] ++ stale.tail) := by
  have bound : (tail ++ stale).length ≤ kSize := by
    cases recycled with
    | true => exact Nat.le_of_eq (writing.used rfl)
    | false =>
      rw [(writing.unused rfl).1, List.append_nil]
      exact Nat.le_of_lt writing.room
  have room := writing.room
  intro index inside
  simp only [List.length_append, List.length_singleton, List.length_tail] at inside bound
  simp only [flags index (by omega)]
  by_cases here : index = tail.length
  · subst here
    simp
  · obtain ⟨flagged, held⟩ := writing.stores index (by simp; omega)
    simp only [Function.update_of_ne here]
    refine ⟨flagged, held.trans ?_⟩
    rcases Nat.lt_or_gt_of_ne here with before | after
    · simp [List.getElem?_append, before]
    · rw [List.getElem?_append_right (by omega), List.getElem?_append_right (by simp; omega)]
      simp only [List.getElem?_tail, List.length_append, List.length_singleton]
      congr 1
      omega

theorem Writing.push_last {buffer : LogBuffer Line} {tail stale : List Line} {recycled : Bool}
    (writing : buffer.Writing tail stale recycled) (logLine : Line)
    (last : tail.length + 1 = kSize) :
    ∃ after, buffer.push logLine tail.length = (true, after) ∧
      after.Complete (tail ++ [logLine]) := by
  have elsewhere : kSize ≠ tail.length := by omega
  have count : Function.update buffer.writeStates tail.length 1 kSize + 1 = kSize := by
    rw [Function.update_of_ne elsewhere, writing.count, last]
  refine ⟨⟨Function.update (Function.update (Function.update buffer.writeStates tail.length 1) kSize
    (Function.update buffer.writeStates tail.length 1 kSize + 1)) kSize 0,
    Function.update buffer.items tail.length (some logLine)⟩, by simp only [push, if_pos count],
    by simpa using last, ?_, by simp⟩
  intro index inside
  have stored := writing.push_stores logLine (Function.update (Function.update (Function.update
    buffer.writeStates tail.length 1) kSize
      (Function.update buffer.writeStates tail.length 1 kSize + 1)) kSize 0)
    (fun index inside => by simp [Function.update_of_ne (Nat.ne_of_lt inside)]) index
    (by simp only [List.length_append] at inside ⊢; omega)
  rw [List.getElem?_append_left inside] at stored
  exact stored

theorem Writing.push_more {buffer : LogBuffer Line} {tail stale : List Line} {recycled : Bool}
    (writing : buffer.Writing tail stale recycled) (logLine : Line)
    (more : tail.length + 1 ≠ kSize) :
    ∃ after, buffer.push logLine tail.length = (false, after) ∧
      after.Writing (tail ++ [logLine]) stale.tail recycled := by
  have room := writing.room
  have elsewhere : kSize ≠ tail.length := by omega
  have count : Function.update buffer.writeStates tail.length 1 kSize = tail.length := by
    rw [Function.update_of_ne elsewhere, writing.count]
  refine ⟨⟨Function.update (Function.update buffer.writeStates tail.length 1) kSize
    (tail.length + 1), Function.update buffer.items tail.length (some logLine)⟩, by
    simp only [push, count, if_neg more], by simp; omega, ?_, by simp, ?_, ?_⟩
  · apply writing.push_stores logLine
    intro index inside
    simp [Function.update_of_ne (Nat.ne_of_lt inside)]
  · intro reused
    have whole := writing.used reused
    simp only [List.length_append, List.length_tail, List.length_singleton] at whole ⊢
    omega
  · intro fresh
    obtain ⟨rfl, blank⟩ := writing.unused fresh
    refine ⟨rfl, ?_⟩
    intro index beyond inside
    simp only [List.length_append, List.length_singleton] at beyond
    simp only [Function.update_of_ne (Nat.ne_of_lt inside)]
    rw [Function.update_of_ne (by omega)]
    exact blank index (by omega) inside

/-- A flagged slot gives its line and keeps what the move leaves. -/
theorem Stores.pop {buffer : LogBuffer Line} {content : List Line} (stores : buffer.Stores content)
    (residue : Line → Line) {index : Nat} {line : Line} (found : content[index]? = some line) :
    ∃ after, buffer.pop residue index = .ok (some line, after) ∧
      after.Stores (content.set index (residue line)) ∧ after.writeStates = buffer.writeStates := by
  obtain ⟨inside, _⟩ := List.getElem?_eq_some_iff.mp found
  obtain ⟨flagged, held⟩ := stores index inside
  refine ⟨⟨buffer.writeStates, Function.update buffer.items index (some (residue line))⟩,
    by simp only [LogBuffer.pop, if_pos flagged, held, found], ?_, rfl⟩
  intro other within
  rw [List.length_set] at within
  obtain ⟨marked, kept⟩ := stores other within
  refine ⟨marked, ?_⟩
  by_cases same : other = index
  · subst same
    simp [within]
  · simp [Function.update_of_ne same, kept, List.getElem?_set_ne (Ne.symm same)]

theorem pop_blank (residue : Line → Line) {buffer : LogBuffer Line} {index : Nat}
    (blank : buffer.writeStates index = 0) : buffer.pop residue index = .ok (none, buffer) := by
  simp [LogBuffer.pop, blank]

end LogBuffer

/-- What a sequence of calls does to the buffers, in numbers: lines in the write
buffer, lines unread, lines read from the read buffer, buffers in the backup ring,
and whether the write buffer came from there. -/
structure Usage where
  written : Nat
  backlog : Nat
  read : Nat
  spare : Nat
  recycled : Bool
  deriving DecidableEq, Repr

namespace Usage

open LogBuffer (kSize)

def initial : Usage := ⟨0, 0, 0, 0, false⟩

def push (usage : Usage) : Usage :=
  if usage.written + 1 = kSize then
    ⟨0, usage.backlog + 1, usage.read, usage.spare - 1, decide (0 < usage.spare)⟩
  else { usage with written := usage.written + 1, backlog := usage.backlog + 1 }

def pop (usage : Usage) : Usage :=
  if usage.backlog = 0 then usage
  else if usage.read + 1 = kSize then
    { usage with backlog := usage.backlog - 1, read := 0, spare := min (usage.spare + 1) 4 }
  else { usage with backlog := usage.backlog - 1, read := usage.read + 1 }

/-- No pop finds every line popped while the write buffer is a recycled one. -/
def Safe : Usage → List (LogCall Line) → Prop
  | _, [] => True
  | usage, .push _ :: calls => Safe usage.push calls
  | usage, .pop :: calls => ¬ (usage.backlog = 0 ∧ usage.recycled = true) ∧ Safe usage.pop calls

end Usage

/-- Where the lines are: full buffers in queue order, the write buffer with the lines
written since it was set up and the stale ones behind them, and the backup ring. -/
structure Layout (Line : Type) where
  full : List (Pointer × List Line)
  writer : Pointer
  tail : List Line
  stale : List Line
  spare : List Pointer

namespace Layout

variable {Line : Type}

def owned (layout : Layout Line) : List Pointer :=
  layout.full.map Prod.fst ++ layout.writer :: layout.spare

def content (layout : Layout Line) : List Line :=
  (layout.full.map Prod.snd).flatten ++ layout.tail

/-- The buffer the next pop reads. -/
def front (layout : Layout Line) : Pointer :=
  match layout.full with
  | [] => layout.writer
  | (pointer, _) :: _ => pointer

end Layout

namespace LogBufferQueue

open LogBuffer (kSize)

variable {Line : Type}

/-- The memory of a queue that no pop has read past its last line. -/
structure Laid (queue : LogBufferQueue Line) (layout : Layout Line) (recycled : Bool) : Prop where
  buffers : queue.logBuffers = layout.full.map (some ∘ Prod.fst) ++ [some layout.writer]
  write : queue.currentWriteBuffer = some layout.writer
  filled : ∀ entry ∈ layout.full, ∃ buffer, queue.heap entry.1 = some buffer ∧
    buffer.Complete entry.2
  writing : ∃ buffer, queue.heap layout.writer = some buffer ∧
    buffer.Writing layout.tail layout.stale recycled
  position : queue.writeIndex = layout.tail.length
  backup : queue.backupLogBuffers.Holds layout.spare
  spared : ∀ pointer ∈ layout.spare, ∃ buffer content,
    queue.heap pointer = some buffer ∧ buffer.Complete content
  distinct : layout.owned.Nodup
  below : ∀ pointer ∈ layout.owned, pointer < queue.allocated
  reading : queue.currentReadBuffer = some layout.front ∨
    queue.currentReadBuffer = none ∧ queue.readIndex = 0
  bound : queue.readIndex ≤ kSize
  behind : queue.readIndex ≤ layout.content.length

def usage (queue : LogBufferQueue Line) (layout : Layout Line) (recycled : Bool) : Usage where
  written := layout.tail.length
  backlog := layout.content.length - queue.readIndex
  read := queue.readIndex
  spare := layout.spare.length
  recycled := recycled

/-- The queue holds these lines, and its buffers are used so. -/
def Models (queue : LogBufferQueue Line) (lines : List Line) (usage : Usage) : Prop :=
  ∃ layout recycled, queue.Laid layout recycled ∧ queue.readIndex < kSize ∧
    lines = layout.content.drop queue.readIndex ∧ usage = queue.usage layout recycled

/-- The memory of a queue between two write buffers. -/
structure Filled (queue : LogBufferQueue Line) (full : List (Pointer × List Line))
    (spare : List Pointer) :
    Prop where
  buffers : queue.logBuffers = full.map (some ∘ Prod.fst)
  filled : ∀ entry ∈ full, ∃ buffer, queue.heap entry.1 = some buffer ∧ buffer.Complete entry.2
  backup : queue.backupLogBuffers.Holds spare
  spared : ∀ pointer ∈ spare, ∃ buffer content, queue.heap pointer = some buffer ∧
    buffer.Complete content
  distinct : (full.map Prod.fst ++ spare).Nodup
  below : ∀ pointer ∈ full.map Prod.fst ++ spare, pointer < queue.allocated
  reading : queue.currentReadBuffer = full.head?.map Prod.fst ∨
    queue.currentReadBuffer = none ∧ queue.readIndex = 0
  bound : queue.readIndex ≤ kSize
  behind : queue.readIndex ≤ (full.map Prod.snd).flatten.length

theorem Filled.front_reading {queue : LogBufferQueue Line} {full : List (Pointer × List Line)}
    {spare : List Pointer} (filled : queue.Filled full spare) (layout : Layout Line)
    (same : layout.full = full) :
    queue.currentReadBuffer = some layout.front ∨ queue.currentReadBuffer = none ∧
      queue.readIndex = 0 := by
  have behind := filled.behind
  unfold Layout.front
  rw [same]
  cases full with
  | nil =>
    rcases filled.reading with current | unread
    · exact .inr ⟨current, by simpa using behind⟩
    · exact .inr unread
  | cons entry full => exact filled.reading

theorem Filled.setup_reuse {queue : LogBufferQueue Line} {full : List (Pointer × List Line)}
    {next : Pointer} {spare : List Pointer} (filled : queue.Filled full (next :: spare)) :
    ∃ stale, queue.setupNextWriteLogBuffer.Laid ⟨full, next, [], stale, spare⟩ true ∧
      queue.setupNextWriteLogBuffer.readIndex = queue.readIndex := by
  obtain ⟨ring, popped, holds⟩ := filled.backup.pop_oldest none
  obtain ⟨buffer, stale, found, complete⟩ := filled.spared next (by simp)
  have setup : queue.setupNextWriteLogBuffer =
      { queue with
        backupLogBuffers := ring
        currentWriteBuffer := some next
        logBuffers := queue.logBuffers ++ [some next]
        writeIndex := 0 } := by
    simp only [setupNextWriteLogBuffer, popped, if_true]
  rw [setup]
  refine ⟨stale, ?_, rfl⟩
  constructor
  · simp [filled.buffers]
  · rfl
  · exact filled.filled
  · exact ⟨buffer, found, complete.writing⟩
  · rfl
  · exact holds
  · intro pointer member
    exact filled.spared pointer (by simp [member])
  · exact filled.distinct
  · exact filled.below
  · exact filled.front_reading _ rfl
  · exact filled.bound
  · simpa [Layout.content] using filled.behind

theorem Filled.setup_new {queue : LogBufferQueue Line} {full : List (Pointer × List Line)}
    (filled : queue.Filled full []) :
    queue.setupNextWriteLogBuffer.Laid ⟨full, queue.allocated, [], [], []⟩ false ∧
      queue.setupNextWriteLogBuffer.readIndex = queue.readIndex := by
  have popped := filled.backup.pop_empty none
  have setup : queue.setupNextWriteLogBuffer =
      { queue with
        heap := Function.update queue.heap queue.allocated (some .new)
        allocated := queue.allocated + 1
        currentWriteBuffer := some queue.allocated
        logBuffers := queue.logBuffers ++ [some queue.allocated]
        writeIndex := 0 } := by
    simp [setupNextWriteLogBuffer, popped, makeUnique, store]
  have below := filled.below
  simp only [List.append_nil, List.mem_map, forall_exists_index, and_imp,
    forall_apply_eq_imp_iff₂] at below
  rw [setup]
  refine ⟨?_, rfl⟩
  constructor
  · simp [filled.buffers]
  · rfl
  · intro entry member
    obtain ⟨buffer, found, complete⟩ := filled.filled entry member
    refine ⟨buffer, ?_, complete⟩
    simp [Function.update_of_ne (Nat.ne_of_lt (below entry member)), found]
  · exact ⟨.new, by simp, LogBuffer.new_writing⟩
  · rfl
  · exact filled.backup
  · intro pointer member
    cases member
  · have distinct := filled.distinct
    simp only [Layout.owned, List.append_nil] at distinct ⊢
    rw [List.nodup_append]
    refine ⟨distinct, by simp, ?_⟩
    simp only [List.mem_map, List.mem_singleton, forall_exists_index, and_imp,
      forall_apply_eq_imp_iff₂, forall_eq]
    intro entry member
    exact Nat.ne_of_lt (below entry member)
  · simp only [Layout.owned, List.mem_append, List.mem_map, List.mem_singleton]
    rintro pointer (⟨entry, member, rfl⟩ | rfl)
    · exact Nat.lt_succ_of_lt (below entry member)
    · exact Nat.lt_succ_self _
  · exact filled.front_reading _ rfl
  · exact filled.bound
  · simpa [Layout.content] using filled.behind

theorem new_laid : (new : LogBufferQueue Line).Laid ⟨[], 0, [], [], []⟩ false ∧
    (new : LogBufferQueue Line).readIndex = 0 := by
  apply Filled.setup_new
  constructor
  · rfl
  · intro entry member
    cases member
  · exact RingQueue.new_holds
  · intro pointer member
    cases member
  · simp
  · intro pointer member
    cases member
  · exact .inl rfl
  · exact Nat.zero_le _
  · exact Nat.zero_le _

theorem new_models : (new : LogBufferQueue Line).Models [] .initial := by
  obtain ⟨laid, unread⟩ := @new_laid Line
  exact ⟨_, _, laid, by simp [unread, LogBuffer.kSize_pos], by simp [Layout.content], by
    simp [usage, unread, Layout.content, Usage.initial]⟩

section Laid

variable {queue : LogBufferQueue Line} {layout : Layout Line} {recycled : Bool}

theorem Laid.full_ne_writer (laid : queue.Laid layout recycled) :
    ∀ entry ∈ layout.full, entry.1 ≠ layout.writer := by
  intro entry member
  have apart := (List.nodup_append.mp laid.distinct).2.2
  exact apart entry.1 (List.mem_map_of_mem member) layout.writer (by simp)

theorem Laid.spare_ne_writer (laid : queue.Laid layout recycled) :
    ∀ pointer ∈ layout.spare, pointer ≠ layout.writer := by
  rintro pointer member rfl
  have fresh := (List.nodup_cons.mp (List.nodup_append.mp laid.distinct).2.1).1
  exact fresh member

/-- `push` writes to the write buffer and sets up the next one when it is full. -/
theorem Laid.push_eq (laid : queue.Laid layout recycled) {buffer : LogBuffer Line}
    (found : queue.heap layout.writer = some buffer) (room : layout.tail.length < kSize)
    (logLine : Line) :
    queue.push logLine = .ok
      (let pushed := buffer.push logLine layout.tail.length
       let after := { queue with writeIndex := queue.writeIndex + 1 }.store layout.writer pushed.2
       if pushed.1 then after.setupNextWriteLogBuffer else after) := by
  have present : queue.currentWriteBuffer ≠ none := by simp [laid.write]
  unfold push
  rw [check_pass _ present]
  simp only [ok_bind, laid.position, if_pos room, laid.write, found]
  rfl

theorem Laid.push_more (laid : queue.Laid layout recycled) (logLine : Line)
    (more : layout.tail.length + 1 ≠ kSize) :
    ∃ after, queue.push logLine = .ok after ∧ after.readIndex = queue.readIndex ∧
      after.Laid { layout with
        tail := layout.tail ++ [logLine], stale := layout.stale.tail } recycled := by
  obtain ⟨buffer, found, writing⟩ := laid.writing
  obtain ⟨pushed, call, kept⟩ := writing.push_more logLine more
  refine ⟨_, laid.push_eq found writing.room logLine, ?_⟩
  simp only [call, Bool.false_eq_true, if_false]
  refine ⟨rfl, ?_⟩
  constructor
  · exact laid.buffers
  · exact laid.write
  · intro entry member
    obtain ⟨other, held, complete⟩ := laid.filled entry member
    exact ⟨other, by
      simp [store, Function.update_of_ne (laid.full_ne_writer entry member), held], complete⟩
  · exact ⟨pushed, by simp [store], kept⟩
  · simp [store, laid.position]
  · exact laid.backup
  · intro pointer member
    obtain ⟨other, content, held, complete⟩ := laid.spared pointer member
    exact ⟨other, content, by
      simp [store, Function.update_of_ne (laid.spare_ne_writer pointer member), held], complete⟩
  · exact laid.distinct
  · exact laid.below
  · exact laid.reading
  · exact laid.bound
  · have behind := laid.behind
    simp only [Layout.content, List.length_append] at behind ⊢
    exact Nat.le_trans behind (by omega)

theorem Laid.push_last (laid : queue.Laid layout recycled) (logLine : Line)
    (last : layout.tail.length + 1 = kSize) :
    ∃ middle : LogBufferQueue Line, queue.push logLine = .ok middle.setupNextWriteLogBuffer ∧
      middle.readIndex = queue.readIndex ∧
      middle.Filled (layout.full ++ [(layout.writer, layout.tail ++ [logLine])]) layout.spare := by
  obtain ⟨buffer, found, writing⟩ := laid.writing
  obtain ⟨pushed, call, kept⟩ := writing.push_last logLine last
  refine ⟨{ queue with writeIndex := queue.writeIndex + 1 }.store layout.writer pushed,
    by rw [laid.push_eq found writing.room logLine]; simp only [call, if_true], rfl, ?_⟩
  constructor
  · simp [store, laid.buffers]
  · intro entry member
    rw [List.mem_append, List.mem_singleton] at member
    rcases member with member | rfl
    · obtain ⟨other, held, complete⟩ := laid.filled entry member
      exact ⟨other, by
        simp [store, Function.update_of_ne (laid.full_ne_writer entry member), held], complete⟩
    · exact ⟨pushed, by simp [store], kept⟩
  · exact laid.backup
  · intro pointer member
    obtain ⟨other, content, held, complete⟩ := laid.spared pointer member
    exact ⟨other, content, by
      simp [store, Function.update_of_ne (laid.spare_ne_writer pointer member), held], complete⟩
  · simpa [Layout.owned] using laid.distinct
  · simpa [Layout.owned, store] using laid.below
  · rcases laid.reading with current | unread
    · left
      unfold Layout.front at current
      rcases empty : layout.full with _ | ⟨entry, rest⟩
      · simpa [empty, store] using current
      · simpa [empty, store] using current
    · exact .inr unread
  · exact laid.bound
  · have behind := laid.behind
    simp only [Layout.content, List.length_append, List.map_append, List.flatten_append,
      List.map_singleton, List.flatten_singleton] at behind ⊢
    exact Nat.le_trans behind (by omega)

/-- The buffer the next pop reads is the first of the queue. -/
theorem Laid.pop_eq (laid : queue.Laid layout recycled) (residue : Line → Line)
    {buffer : LogBuffer Line} (found : queue.heap layout.front = some buffer) :
    queue.pop residue = (buffer.pop residue queue.readIndex >>= fun
      | (none, _) => .ok (none, { queue with currentReadBuffer := some layout.front })
      | (some logLine, buffer) =>
        let after := { queue.store layout.front buffer with
          currentReadBuffer := some layout.front, readIndex := queue.readIndex + 1 }
        .ok (some logLine,
          if after.readIndex = kSize then after.recycleReadBuffer else after)) := by
  have first : queue.logBuffers.head?.join = some layout.front := by
    rw [laid.buffers]
    unfold Layout.front
    cases layout.full <;> rfl
  have focus : (if queue.currentReadBuffer = none then
      { queue with currentReadBuffer := queue.getNextReadLogBuffer } else queue) =
      { queue with currentReadBuffer := some layout.front } := by
    rcases laid.reading with current | ⟨absent, _⟩
    · rw [if_neg (by simp [current]), ← current]
    · rw [if_pos absent, getNextReadLogBuffer, first]
  unfold pop
  simp only [focus, found]
  congr 1

theorem Laid.pop_front (laid : queue.Laid layout recycled) (residue : Line → Line)
    {pointer : Pointer} {content : List Line} {rest : List (Pointer × List Line)}
    (full : layout.full = (pointer, content) :: rest) {logLine : Line}
    (found : content[queue.readIndex]? = some logLine) :
    ∃ after : LogBufferQueue Line, queue.pop residue = .ok (some logLine,
        if queue.readIndex + 1 = kSize then after.recycleReadBuffer else after) ∧
      after.readIndex = queue.readIndex + 1 ∧
      after.Laid { layout with
        full := (pointer, content.set queue.readIndex (residue logLine)) :: rest }
        recycled := by
  have front : layout.front = pointer := by simp [Layout.front, full]
  obtain ⟨buffer, held, complete⟩ := laid.filled (pointer, content) (by simp [full])
  obtain ⟨popped, call, stores, states⟩ := complete.stores.pop residue found
  have inside := (List.getElem?_eq_some_iff.mp found).1
  have first_ne : ∀ other ∈ rest.map Prod.fst ++ layout.writer :: layout.spare,
      other ≠ pointer := by
    have distinct := laid.distinct
    rw [Layout.owned, full, List.map_cons, List.cons_append, List.nodup_cons] at distinct
    rintro other member rfl
    exact distinct.1 member
  refine ⟨{ queue.store pointer popped with
    currentReadBuffer := some pointer, readIndex := queue.readIndex + 1 }, ?_, rfl, ?_⟩
  · rw [laid.pop_eq residue (by rw [front]; exact held), call, front]
    rfl
  constructor
  · simp [store, laid.buffers, full]
  · exact laid.write
  · intro entry member
    rw [List.mem_cons] at member
    rcases member with rfl | member
    · refine ⟨popped, by simp [store], by simpa using complete.length, stores, ?_⟩
      rw [states]
      exact complete.count
    · obtain ⟨other, kept, whole⟩ := laid.filled entry (by simp [full, member])
      have apart := first_ne entry.1 (List.mem_append_left _ (List.mem_map_of_mem member))
      exact ⟨other, by simp [store, Function.update_of_ne apart, kept], whole⟩
  · obtain ⟨other, kept, writing⟩ := laid.writing
    have apart := first_ne layout.writer (by simp)
    exact ⟨other, by simp [store, Function.update_of_ne apart, kept], writing⟩
  · exact laid.position
  · exact laid.backup
  · intro other member
    obtain ⟨spared, lines, kept, whole⟩ := laid.spared other member
    have apart := first_ne other (by simp [member])
    exact ⟨spared, lines, by simp [store, Function.update_of_ne apart, kept], whole⟩
  · simpa [Layout.owned, full] using laid.distinct
  · simpa [Layout.owned, full, store] using laid.below
  · exact .inl rfl
  · have whole : content.length = kSize := complete.length
    simp only
    omega
  · simp only [Layout.content, List.map_cons, List.flatten_cons, List.length_append,
      List.length_set]
    omega

/-- A read buffer that is read to its end goes to the backup ring if there is room. -/
theorem Laid.first_owned (laid : queue.Laid layout recycled) {pointer : Pointer}
    {content : List Line} {rest : List (Pointer × List Line)}
    (full : layout.full = (pointer, content) :: rest) :
    queue.logBuffers.head?.join = some pointer ∧
      (pointer :: (rest.map Prod.fst ++ layout.writer :: layout.spare)).Nodup ∧
      ∀ other ∈ pointer :: (rest.map Prod.fst ++ layout.writer :: layout.spare),
        other < queue.allocated := by
  have owned : layout.owned = pointer :: (rest.map Prod.fst ++ layout.writer :: layout.spare) := by
    rw [Layout.owned, full, List.map_cons, List.cons_append]
  refine ⟨?_, owned ▸ laid.distinct, owned ▸ laid.below⟩
  simp [laid.buffers, full]

/-- With room in the ring, the buffer that was read is the last of the spare ones. -/
theorem Laid.recycle_room (laid : queue.Laid layout recycled) {pointer : Pointer}
    {content : List Line} {rest : List (Pointer × List Line)}
    (full : layout.full = (pointer, content) :: rest) (room : layout.spare.length < 4) :
    queue.recycleReadBuffer.Laid
        { layout with full := rest, spare := layout.spare ++ [pointer] } recycled ∧
      queue.recycleReadBuffer.readIndex = 0 := by
  obtain ⟨buffer, held, complete⟩ := laid.filled (pointer, content) (by simp [full])
  obtain ⟨first, distinct, below⟩ := laid.first_owned full
  obtain ⟨ring, pushed, holds⟩ := laid.backup.push_room room pointer
  have recycled_eq : queue.recycleReadBuffer =
      { queue with
        readIndex := 0
        currentReadBuffer := none
        logBuffers := queue.logBuffers.tail
        backupLogBuffers := ring } := by
    simp [recycleReadBuffer, first, pushed, release]
  rw [recycled_eq]
  refine ⟨?_, rfl⟩
  constructor
  · simp [laid.buffers, full]
  · exact laid.write
  · intro entry member
    exact laid.filled entry (by simp [full, member])
  · exact laid.writing
  · exact laid.position
  · exact holds
  · intro other member
    rw [List.mem_append, List.mem_singleton] at member
    rcases member with member | rfl
    · exact laid.spared other member
    · exact ⟨buffer, content, held, complete⟩
  · have turned : (rest.map Prod.fst ++ layout.writer :: (layout.spare ++ [pointer])).Perm
        (pointer :: (rest.map Prod.fst ++ layout.writer :: layout.spare)) := by
      rw [← List.cons_append, ← List.append_assoc]
      exact List.perm_append_singleton _ _
    exact turned.nodup_iff.mpr distinct
  · intro other member
    apply below other
    simp only [Layout.owned, List.mem_append, List.mem_cons, List.not_mem_nil, or_false] at member ⊢
    tauto
  · exact .inr ⟨rfl, rfl⟩
  · exact Nat.zero_le _
  · exact Nat.zero_le _

/-- With the ring full, the buffer that was read dies, and no other one. -/
theorem Laid.recycle_full (laid : queue.Laid layout recycled) {pointer : Pointer}
    {content : List Line} {rest : List (Pointer × List Line)}
    (full : layout.full = (pointer, content) :: rest) (crowded : layout.spare.length = 4) :
    queue.recycleReadBuffer.Laid { layout with full := rest } recycled ∧
      queue.recycleReadBuffer.readIndex = 0 := by
  obtain ⟨first, distinct, below⟩ := laid.first_owned full
  rw [List.nodup_cons] at distinct
  have pushed := laid.backup.push_full crowded (some pointer)
  have recycled_eq : queue.recycleReadBuffer =
      { queue with
        heap := Function.update queue.heap pointer none
        readIndex := 0
        currentReadBuffer := none
        logBuffers := queue.logBuffers.tail } := by
    simp [recycleReadBuffer, first, pushed, release]
  have survives : ∀ other ∈ rest.map Prod.fst ++ layout.writer :: layout.spare,
      Function.update queue.heap pointer none other = queue.heap other := by
    intro other member
    apply Function.update_of_ne
    rintro rfl
    exact distinct.1 member
  rw [recycled_eq]
  refine ⟨?_, rfl⟩
  constructor
  · simp [laid.buffers, full]
  · exact laid.write
  · intro entry member
    obtain ⟨other, kept, whole⟩ := laid.filled entry (by simp [full, member])
    exact ⟨other,
      (survives entry.1 (List.mem_append_left _ (List.mem_map_of_mem member))).trans kept, whole⟩
  · obtain ⟨other, kept, writing⟩ := laid.writing
    exact ⟨other, (survives layout.writer (by simp)).trans kept, writing⟩
  · exact laid.position
  · exact laid.backup
  · intro other member
    obtain ⟨spared, lines, kept, whole⟩ := laid.spared other member
    exact ⟨spared, lines, (survives other (by simp [member])).trans kept, whole⟩
  · exact distinct.2
  · intro other member
    exact below other (List.mem_cons_of_mem _ member)
  · exact .inr ⟨rfl, rfl⟩
  · exact Nat.zero_le _
  · exact Nat.zero_le _

theorem Laid.recycle (laid : queue.Laid layout recycled) {pointer : Pointer} {content : List Line}
    {rest : List (Pointer × List Line)} (full : layout.full = (pointer, content) :: rest) :
    ∃ spare, queue.recycleReadBuffer.Laid { layout with full := rest, spare := spare } recycled ∧
      spare.length = min (layout.spare.length + 1) 4 ∧ queue.recycleReadBuffer.readIndex = 0 := by
  have bounded := laid.backup.bounded
  by_cases room : layout.spare.length < 4
  · obtain ⟨kept, start⟩ := laid.recycle_room full room
    refine ⟨_, kept, ?_, start⟩
    rw [List.length_append, List.length_singleton]
    omega
  · obtain ⟨kept, start⟩ := laid.recycle_full full (by omega)
    exact ⟨_, kept, by omega, start⟩

theorem Laid.pop_tail (laid : queue.Laid layout recycled) (residue : Line → Line)
    (none_full : layout.full = []) {logLine : Line}
    (found : layout.tail[queue.readIndex]? = some logLine) :
    ∃ after : LogBufferQueue Line, queue.pop residue = .ok (some logLine, after) ∧
      after.readIndex = queue.readIndex + 1 ∧
      after.Laid { layout with tail := layout.tail.set queue.readIndex (residue logLine) }
        recycled := by
  have front : layout.front = layout.writer := by simp [Layout.front, none_full]
  obtain ⟨buffer, held, writing⟩ := laid.writing
  have inside := (List.getElem?_eq_some_iff.mp found).1
  have room := writing.room
  obtain ⟨popped, call, stores, states⟩ := writing.stores.pop residue
    (by rw [List.getElem?_append_left inside]; exact found)
  rw [List.set_append_left _ _ inside] at stores
  refine ⟨{ queue.store layout.writer popped with
    currentReadBuffer := some layout.writer, readIndex := queue.readIndex + 1 }, ?_, rfl, ?_⟩
  · rw [laid.pop_eq residue (by rw [front]; exact held), call]
    simp only [ok_bind, front]
    rw [if_neg (by omega)]
  constructor
  · exact laid.buffers
  · exact laid.write
  · intro entry member
    simp [none_full] at member
  · refine ⟨popped, by simp [store], by simpa using room, stores, ?_, ?_, ?_⟩
    · rw [states, List.length_set]
      exact writing.count
    · intro reused
      simpa using writing.used reused
    · intro fresh
      rw [states, List.length_set]
      exact writing.unused fresh
  · rw [List.length_set]
    exact laid.position
  · exact laid.backup
  · intro other member
    obtain ⟨spared, lines, kept, whole⟩ := laid.spared other member
    exact ⟨spared, lines, by
      simp [store, Function.update_of_ne (laid.spare_ne_writer other member), kept], whole⟩
  · exact laid.distinct
  · exact laid.below
  · left
    simp [Layout.front, none_full]
  · simp only
    omega
  · simp only [Layout.content, none_full, List.map_nil, List.flatten_nil, List.nil_append,
      List.length_set]
    omega

/-- Behind its last line, a recycled write buffer still has a line of its former use. -/
theorem Laid.pop_stale (laid : queue.Laid layout true) (residue : Line → Line)
    (none_full : layout.full = []) (drained : queue.readIndex = layout.tail.length) :
    ∃ logLine after, queue.pop residue = .ok (some logLine, after) := by
  have front : layout.front = layout.writer := by simp [Layout.front, none_full]
  obtain ⟨buffer, held, writing⟩ := laid.writing
  have room := writing.room
  have whole := writing.used rfl
  rw [List.length_append] at whole
  obtain ⟨logLine, rest, stale⟩ :=
    List.exists_cons_of_length_pos (show 0 < layout.stale.length by omega)
  have found : (layout.tail ++ layout.stale)[queue.readIndex]? = some logLine := by
    simp [drained, stale]
  obtain ⟨popped, call, _, _⟩ := writing.stores.pop residue found
  rw [laid.pop_eq residue (by rw [front]; exact held), call]
  exact ⟨logLine, _, rfl⟩

theorem Laid.pop_drained (laid : queue.Laid layout false) (residue : Line → Line)
    (none_full : layout.full = []) (drained : queue.readIndex = layout.tail.length) :
    ∃ after : LogBufferQueue Line, queue.pop residue = .ok (none, after) ∧
      after.readIndex = queue.readIndex ∧
      after.Laid layout false := by
  have front : layout.front = layout.writer := by simp [Layout.front, none_full]
  obtain ⟨buffer, held, writing⟩ := laid.writing
  have blank := (writing.unused rfl).2 queue.readIndex (by omega) (by have := writing.room; omega)
  refine ⟨{ queue with currentReadBuffer := some layout.front }, ?_, rfl, ?_⟩
  · rw [laid.pop_eq residue (by rw [front]; exact held), LogBuffer.pop_blank residue blank]
    rfl
  · exact { laid with reading := .inl rfl }

end Laid

theorem Models.push {queue : LogBufferQueue Line} {lines : List Line} {usage : Usage}
    (models : queue.Models lines usage) (logLine : Line) :
    ∃ after, queue.push logLine = .ok after ∧ after.Models (lines ++ [logLine]) usage.push := by
  obtain ⟨layout, recycled, laid, bound, rfl, rfl⟩ := models
  have behind := laid.behind
  by_cases last : layout.tail.length + 1 = kSize
  · obtain ⟨middle, call, read, filled⟩ := laid.push_last logLine last
    refine ⟨_, call, ?_⟩
    rcases spare : layout.spare with _ | ⟨next, rest⟩
    · rw [spare] at filled
      obtain ⟨settled, same⟩ := filled.setup_new
      refine ⟨_, _, settled, by omega, ?_, ?_⟩
      · simp only [Layout.content] at behind ⊢
        simp [same, read, ← List.append_assoc, List.drop_append_of_le_length behind]
      · simp only [Usage.push, LogBufferQueue.usage, same, read, spare, if_pos last,
          Layout.content] at behind ⊢
        simp at behind ⊢
        omega
    · rw [spare] at filled
      obtain ⟨stale, settled, same⟩ := filled.setup_reuse
      refine ⟨_, _, settled, by omega, ?_, ?_⟩
      · simp only [Layout.content] at behind ⊢
        simp [same, read, ← List.append_assoc, List.drop_append_of_le_length behind]
      · simp only [Usage.push, LogBufferQueue.usage, same, read, spare, if_pos last,
          Layout.content] at behind ⊢
        simp at behind ⊢
        omega
  · obtain ⟨after, call, read, kept⟩ := laid.push_more logLine last
    refine ⟨after, call, _, _, kept, by omega, ?_, ?_⟩
    · simp only [Layout.content] at behind ⊢
      simp [read, ← List.append_assoc, List.drop_append_of_le_length behind]
    · rw [Usage.push, if_neg (show ¬ (queue.usage layout recycled).written + 1 = kSize from last)]
      simp only [LogBufferQueue.usage, read, Layout.content] at behind ⊢
      simp at behind ⊢
      omega

theorem Models.drained {queue : LogBufferQueue Line} {layout : Layout Line} {recycled : Bool}
    (laid : queue.Laid layout recycled) (bound : queue.readIndex < kSize)
    (drained : layout.content.drop queue.readIndex = []) :
    layout.full = [] ∧ queue.readIndex = layout.tail.length := by
  rw [List.drop_eq_nil_iff] at drained
  have behind := laid.behind
  rcases full : layout.full with _ | ⟨⟨pointer, content⟩, rest⟩
  · simp only [Layout.content, full, List.map_nil, List.flatten_nil, List.nil_append]
      at behind drained
    exact ⟨rfl, by omega⟩
  · obtain ⟨_, _, complete⟩ := laid.filled (pointer, content) (by simp [full])
    have whole : content.length = kSize := complete.length
    simp only [Layout.content, full, List.map_cons, List.flatten_cons, List.length_append]
      at drained
    omega

/-- Unless all lines are popped, a pop returns the oldest one. -/
theorem Models.pop_some {queue : LogBufferQueue Line} {logLine : Line}
    {lines : List Line} {usage : Usage} (models : queue.Models (logLine :: lines) usage)
    (residue : Line → Line) :
    ∃ after, queue.pop residue = .ok (some logLine, after) ∧ after.Models lines usage.pop := by
  obtain ⟨layout, recycled, laid, bound, next, rfl⟩ := models
  have found : layout.content[queue.readIndex]? = some logLine := by
    rw [← List.head?_drop, ← next]
    rfl
  have rest : layout.content.drop (queue.readIndex + 1) = lines := by
    rw [← List.tail_drop, ← next]
    rfl
  have inside := (List.getElem?_eq_some_iff.mp found).1
  have backlog : (queue.usage layout recycled).backlog ≠ 0 := by
    simp only [LogBufferQueue.usage]
    omega
  rcases full : layout.full with _ | ⟨⟨pointer, content⟩, others⟩
  · have here : layout.tail[queue.readIndex]? = some logLine := by
      simpa [Layout.content, full] using found
    obtain ⟨writer, _, writing⟩ := laid.writing
    have room := writing.room
    have within := (List.getElem?_eq_some_iff.mp here).1
    obtain ⟨after, call, read, kept⟩ := laid.pop_tail residue full here
    refine ⟨after, call, _, _, kept, by omega, ?_, ?_⟩
    · rw [read, ← rest]
      simp [Layout.content, full, List.drop_set]
    · rw [Usage.pop, if_neg backlog, if_neg (by simp only [LogBufferQueue.usage]; omega)]
      simp [LogBufferQueue.usage, read, Layout.content, full]
      omega
  · obtain ⟨_, _, complete⟩ := laid.filled (pointer, content) (by simp [full])
    have whole : content.length = kSize := complete.length
    have here : content[queue.readIndex]? = some logLine := by
      simpa [Layout.content, full, List.getElem?_append, whole, bound] using found
    obtain ⟨middle, call, read, kept⟩ := laid.pop_front residue full here
    by_cases ended : queue.readIndex + 1 = kSize
    · obtain ⟨spare, recycled_laid, count, reset⟩ := kept.recycle rfl
      refine ⟨_, by rw [call, if_pos ended], _, _, recycled_laid, by
        have := LogBuffer.kSize_pos; omega, ?_, ?_⟩
      · rw [reset, ← rest, ended, ← whole]
        simp [Layout.content, full]
      · rw [Usage.pop, if_neg backlog,
          if_pos (show (queue.usage layout recycled).read + 1 = kSize from ended)]
        simp [LogBufferQueue.usage, reset, count, Layout.content, full]
        omega
    · refine ⟨middle, by rw [call, if_neg ended], _, _, kept, by omega, ?_, ?_⟩
      · have within : queue.readIndex + 1 ≤ content.length := by omega
        rw [read, ← rest]
        simp only [Layout.content, full, List.map_cons, List.flatten_cons, List.append_assoc]
        rw [List.drop_append_of_le_length within,
          List.drop_append_of_le_length (by simpa using within)]
        simp [List.drop_set]
      · rw [Usage.pop, if_neg backlog,
          if_neg (show ¬ (queue.usage layout recycled).read + 1 = kSize from ended)]
        simp [LogBufferQueue.usage, read, Layout.content, full]
        omega

theorem Models.pop_none {queue : LogBufferQueue Line} {usage : Usage}
    (models : queue.Models [] usage) (residue : Line → Line) (fresh : usage.recycled = false) :
    ∃ after, queue.pop residue = .ok (none, after) ∧ after.Models [] usage.pop := by
  obtain ⟨layout, recycled, laid, bound, next, rfl⟩ := models
  obtain rfl : recycled = false := fresh
  obtain ⟨none_full, read⟩ := Models.drained laid bound next.symm
  obtain ⟨after, call, same, kept⟩ := laid.pop_drained residue none_full read
  have behind := List.drop_eq_nil_iff.mp next.symm
  refine ⟨after, call, layout, false, kept, by omega, by rw [same]; exact next, ?_⟩
  rw [Usage.pop, if_pos (by simp only [LogBufferQueue.usage]; omega)]
  simp [LogBufferQueue.usage, same]

/-- The defect: all lines are popped, and yet the recycled buffer gives one more. -/
theorem Models.pop_stale {queue : LogBufferQueue Line} {usage : Usage}
    (models : queue.Models [] usage) (residue : Line → Line) (recycled : usage.recycled = true) :
    ∃ logLine after, queue.pop residue = .ok (some logLine, after) := by
  obtain ⟨layout, reused, laid, bound, next, rfl⟩ := models
  obtain rfl : reused = true := recycled
  obtain ⟨none_full, read⟩ := Models.drained laid bound next.symm
  exact laid.pop_stale residue none_full read

theorem Models.backlog {queue : LogBufferQueue Line} {lines : List Line} {usage : Usage}
    (models : queue.Models lines usage) : usage.backlog = lines.length := by
  obtain ⟨layout, recycled, _, _, rfl, rfl⟩ := models
  simp [LogBufferQueue.usage]

end LogBufferQueue

end FakeMuduo.Util
