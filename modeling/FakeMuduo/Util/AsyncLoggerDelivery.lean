import FakeMuduo.Util.AsyncLoggerInvariant

/-! The background thread reads the slots in order, and what it writes. -/

namespace FakeMuduo.Util.AsyncLogger

open FakeMuduo.Base LogProducers

variable {Line : Type} {kSize : Nat} {residue : Line → Line} {logger next : AsyncLogger Line}
  {spec after : LogProducers Line} {thread : Nat} {uses : Nat → Nat} {dropped : Nat}
  {ring : List Nat}

/-- The lines popped so far. -/
def taken (logger : AsyncLogger Line) : List (Entry Line) := logger.written ++ logger.phase.inHand

/-- The buffer that is on its way from `log_buffers_` to the backup ring. -/
def Phase.retiring : Phase Line → List Nat
  | .popping _ (.backing _ buffer) => [buffer]
  | _ => []

/-- The lines popped of a buffer that is still queued although all of it was read. -/
def Phase.ahead (kSize : Nat) : Phase Line → Nat
  | .popping _ (.recycling _) => kSize
  | _ => 0

/-- What the background thread may rely on, by where it is. -/
def Phase.Relies (logger : AsyncLogger Line) (spec : LogProducers Line) (dropped : Nat) :
    Phase Line → Prop
  | .popping _ .moving =>
    logger.currentReadBuffer ≠ none ∧ spec.item dropped logger.readIndex ≠ none
  | .popping _ (.recycling _) => logger.currentReadBuffer = none ∧ dropped < spec.logBuffers.length
  | _ => True

/-- Where the background thread is in the buffers. -/
structure Reads (kSize : Nat) (logger : AsyncLogger Line) (spec : LogProducers Line)
    (uses : Nat → Nat) (dropped : Nat) :
    Prop where
  inside : logger.readIndex < kSize
  position : logger.taken.length = place kSize dropped logger.readIndex + logger.phase.ahead kSize
  unread : logger.currentReadBuffer = none → logger.readIndex = 0
  buffer : ∀ {buffer}, logger.currentReadBuffer = some buffer →
    buffer = uses dropped ∧ dropped < spec.logBuffers.length
  lines : ∀ {number entry}, logger.taken[number]? = some entry →
    spec.item (number / kSize) (number % kSize) = some entry
  relies : logger.phase.Relies logger spec dropped

/-- How far the logger is in its life. -/
structure Lives (kSize : Nat) (logger : AsyncLogger Line) (spec : LogProducers Line) : Prop where
  shut : logger.state = .kSHUTDOWN → logger.busy = []
  ready : logger.phase ≠ .waiting → logger.state ≠ .kINIT
  draining : ∀ {place}, logger.phase = .popping true place → logger.state = .kSHUTDOWN
  drains : logger.phase = .popping true .reading → logger.currentReadBuffer ≠ none
  ended : logger.phase = .ended → logger.state = .kSHUTDOWN ∧
    ∀ {buffer slot entry}, spec.item buffer slot = some entry →
      place kSize buffer slot < logger.taken.length

/-- The logger does what one with ever new buffers does. -/
structure Follows (kSize : Nat) (logger : AsyncLogger Line) (spec : LogProducers Line)
    (uses : Nat → Nat) (dropped : Nat) (ring : List Nat) : Prop where
  orderly : Orderly kSize spec
  delivers : Delivers kSize spec
  switched : Switched spec
  settled : Settled kSize spec
  ranked : Ranked kSize logger.preceding spec
  renders : Renders kSize uses dropped logger.taken.length spec logger.queue
  contains : logger.backupLogBuffers.Contains (ring.map some)
  owned : Owned uses dropped spec.currentWriteBuffer logger.allocated
    (ring ++ logger.phase.retiring ++ logger.freed)
  booked : Booked logger.busy logger.returned logger.preceding spec
  reads : Reads kSize logger spec uses dropped
  lives : Lives kSize logger spec

theorem initial_follows (some : 0 < kSize) :
    Follows kSize (initial : AsyncLogger Line) LogProducers.initial id 0 [] where
  orderly := initial_orderly some
  delivers := initial_delivers
  switched := rfl
  settled := initial_settled
  ranked := initial_ranked
  renders := initial_renders
  contains := RingQueue.new_contains
  owned := initial_owned
  booked := initial_booked
  reads := {
    inside := some
    position := (Nat.zero_mul _).symm
    unread := fun _ => rfl
    buffer := fun impossible => by cases impossible
    lines := fun impossible => by cases impossible
    relies := trivial }
  lives := {
    shut := fun impossible => by cases impossible
    ready := fun moved => absurd rfl moved
    draining := fun impossible => by cases impossible
    drains := fun impossible => by cases impossible
    ended := fun impossible => by cases impossible }

theorem Phase.Relies.step {phase : Phase Line} (relies : phase.Relies logger spec dropped)
    (orderly : Orderly kSize spec) (effect : Effect kSize spec thread after)
    (buffer : next.currentReadBuffer = logger.currentReadBuffer)
    (index : next.readIndex = logger.readIndex) :
    phase.Relies next after dropped := by
  cases phase with
  | waiting | testing | ended => trivial
  | popping draining place =>
    cases place with
    | called | reading | backing | writing => trivial
    | moving =>
      obtain ⟨found, filled⟩ := relies
      obtain ⟨entry, here⟩ := Option.ne_none_iff_exists'.mp filled
      refine ⟨buffer ▸ found, ?_⟩
      rw [index, effect.item_kept orderly here]
      nofun
    | recycling entry =>
      exact ⟨buffer.trans relies.1, Nat.lt_of_lt_of_le relies.2 effect.queued_le⟩

/-- Whatever the threads in `add` do, the background thread stays where it is. -/
theorem Reads.step (reads : Reads kSize logger spec uses dropped) (orderly : Orderly kSize spec)
    (effect : Effect kSize spec thread after) {uses' : Nat → Nat}
    (agree : dropped ≤ spec.currentWriteBuffer → uses' dropped = uses dropped)
    (phase : next.phase = logger.phase) (written : next.written = logger.written)
    (buffer : next.currentReadBuffer = logger.currentReadBuffer)
    (index : next.readIndex = logger.readIndex) :
    Reads kSize next after uses' dropped := by
  have same : next.taken = logger.taken := by rw [taken, taken, phase, written]
  refine ⟨index ▸ reads.inside, ?_, ?_, ?_, ?_, ?_⟩
  · rw [same, index, phase]
    exact reads.position
  · rw [buffer, index]
    exact reads.unread
  · rw [buffer]
    intro found known
    obtain ⟨used, queued⟩ := reads.buffer known
    exact ⟨used.trans (agree (orderly.known_of_queued queued)).symm,
      Nat.lt_of_lt_of_le queued effect.queued_le⟩
  · rw [same]
    intro number entry known
    exact effect.item_kept orderly (reads.lines known)
  · rw [phase]
    exact reads.relies.step orderly effect buffer index

/-- After the destructor began, no thread is inside `add`. -/
theorem Follows.idle (follows : Follows kSize logger spec uses dropped ring)
    (shut : logger.state = .kSHUTDOWN) (thread : Nat) : spec.threads thread = .idle := by
  by_contra active
  obtain ⟨call, member⟩ := follows.booked.inside active
  rw [follows.lives.shut shut] at member
  cases member

theorem Follows.lives_step (follows : Follows kSize logger spec uses dropped ring)
    (effect : Effect kSize spec thread after) (state : next.state = logger.state)
    (shut : next.state = .kSHUTDOWN → next.busy = []) (phase : next.phase = logger.phase)
    (written : next.written = logger.written)
    (buffer : next.currentReadBuffer = logger.currentReadBuffer) :
    Lives kSize next after := by
  have same : next.taken = logger.taken := by rw [taken, taken, phase, written]
  refine ⟨shut, ?_, ?_, ?_, ?_⟩
  · rw [phase, state]
    exact follows.lives.ready
  · rw [phase, state]
    exact follows.lives.draining
  · rw [phase, buffer]
    exact follows.lives.drains
  · rw [phase, state]
    intro past
    obtain ⟨down, all⟩ := follows.lives.ended past
    refine ⟨down, ?_⟩
    intro buffer slot entry found
    rw [same]
    rcases effect.item_cases follows.orderly buffer slot with kept | ⟨_, _, _, _, holding, _⟩
    · exact all (kept.symm.trans found)
    · rw [follows.idle down] at holding
      cases holding

/-- A thread inside `add` goes on. -/
theorem Follows.advance (follows : Follows kSize logger spec uses dropped ring) (some : 0 < kSize)
    (effect : Effect kSize spec thread after) {uses' : Nat → Nat} {queue : LogProducers Line}
    {allocated : Nat} {backup : RingQueue 4} {ring' : List Nat}
    (renders : Renders kSize uses' dropped logger.taken.length after queue)
    (pushed : after.pushed = spec.pushed)
    (agree : dropped ≤ spec.currentWriteBuffer → uses' dropped = uses dropped)
    (contains : backup.Contains (ring'.map Option.some))
    (owned : Owned uses' dropped after.currentWriteBuffer allocated
      (ring' ++ logger.phase.retiring ++ logger.freed)) :
    Follows kSize { logger with queue, allocated, backupLogBuffers := backup } after uses'
      dropped ring' :=
  { orderly := follows.orderly.step some effect
    delivers := follows.delivers.step follows.orderly effect
    switched := follows.switched.step effect
    settled := follows.settled.step follows.orderly effect
    ranked := follows.ranked.step follows.orderly follows.delivers effect
      fun _ _ member => follows.booked.unpending (follows.booked.preceding member)
    renders := renders
    contains := contains
    owned := owned
    booked := follows.booked.step effect pushed
    reads := follows.reads.step follows.orderly effect agree rfl rfl rfl rfl
    lives := follows.lives_step effect rfl follows.lives.shut rfl rfl rfl }

theorem Follows.settle (follows : Follows kSize logger spec uses dropped ring) (thread : Nat) :
    Follows kSize (logger.settle thread) spec uses dropped ring := by
  unfold AsyncLogger.settle
  split
  · rename_i idle
    exact { follows with
      booked := follows.booked.settle (follows.renders.idle idle)
      reads := { follows.reads with }
      lives := { follows.lives with
        shut := fun down => by rw [follows.lives.shut down]; rfl } }
  · exact follows

/-- The next write buffer comes from the backup ring if there is one. -/
theorem Follows.setupNext (follows : Follows kSize logger spec uses dropped ring) (some : 0 < kSize)
    (phase : logger.queue.threads thread = .switching .cleared) :
    ∃ next, logger.setupNextWriteLogBuffer thread = .ok next ∧
      ∃ spec uses ring, Follows kSize next spec uses dropped ring := by
  have switching := follows.renders.cleared phase
  have agree : ∀ buffer, dropped ≤ spec.currentWriteBuffer →
      Function.update uses (spec.currentWriteBuffer + 1) buffer dropped = uses dropped := by
    intro buffer known
    exact Function.update_of_ne (Nat.ne_of_lt (Nat.lt_succ_of_le known)) _ _
  cases ring with
  | nil =>
    have popped := RingQueue.Contains.pop_empty follows.contains none
    refine ⟨_, by rw [setupNextWriteLogBuffer, popped], _, _, [],
      follows.advance some (.publish switching)
        (follows.renders.publish follows.orderly follows.delivers follows.switched follows.settled
          switching ?_ ?_ ?_)
        rfl (agree _) follows.contains follows.owned.renew⟩
    · intro buffer live known
      exact Nat.ne_of_lt (follows.owned.bounded live known)
    · intro buffer other
      exact Function.update_of_ne other _ _
    · rw [Function.update_self]
      rfl
  | cons oldest ring =>
    obtain ⟨backup, popped, contains⟩ := RingQueue.Contains.pop_oldest follows.contains none
    have reset : (logger.queue.buffers oldest).writeStates kSize = 0 := by
      by_cases same : oldest = uses spec.currentWriteBuffer
      · subst same
        exact follows.renders.count.trans (follows.settled.cleared switching)
      · exact follows.renders.counts same
    refine ⟨_, by rw [setupNextWriteLogBuffer, popped], _, _, ring,
      follows.advance some (.publish switching)
        (follows.renders.publish follows.orderly follows.delivers follows.switched follows.settled
          switching ?_ ?_ ?_)
        rfl (agree _) contains follows.owned.reuse⟩
    · intro buffer live known same
      exact follows.owned.apart live known (same ▸ List.mem_cons_self)
    · intro buffer _
      rfl
    · exact reset

theorem advance_disabled {queue : LogProducers Line} {fault : Fault}
    (failed : queue.advance kSize thread (queue.threads thread) = .error fault) :
    fault = .disabled := by
  cases phase : queue.threads thread with
  | idle =>
    rw [phase] at failed
    cases failed
    rfl
  | called | spinning | holding | unlocking =>
    rw [phase] at failed
    cases failed
  | switching switch =>
    rw [phase] at failed
    cases switch with
    | filled | cleared | locked | enqueued => cases failed
    | published buffer =>
      simp only [LogProducers.advance, LogProducers.setupNext] at failed
      split at failed
      · cases failed
        rfl
      · cases failed

/-- The thread is not about to dereference a buffer that was freed. -/
def Holds (logger : AsyncLogger Line) (thread : Nat) : Prop :=
  ∀ buffer, touched (logger.queue.threads thread) = some buffer → buffer ∉ logger.freed

theorem holds_iff {logger : AsyncLogger Line} :
    logger.Holds thread ↔ (touched (logger.queue.threads thread)).any
      (logger.freed.contains ·) = false := by
  unfold Holds
  cases touched (logger.queue.threads thread) <;> simp

/-- A step inside `push` that finds its buffer alive keeps the two queues together. -/
theorem Follows.push (follows : Follows kSize logger spec uses dropped ring) (some : 0 < kSize)
    (holds : logger.Holds thread) :
    logger.push kSize thread = .error .disabled ∨
      ∃ next, logger.push kSize thread = .ok next ∧ ∃ spec uses ring,
        Follows kSize next spec uses dropped ring := by
  unfold AsyncLogger.push
  rw [holds_iff.mp holds, if_neg Bool.false_ne_true]
  split
  · rename_i cleared
    exact .inr (follows.setupNext some cleared)
  · rename_i uncleared
    cases performed : logger.queue.perform kSize (.advance thread) with
    | error fault => exact .inl (congrArg Except.error (advance_disabled performed))
    | ok queue =>
      have elsewhere : spec.threads thread ≠ .switching .cleared := by
        intro cleared
        exact uncleared ((follows.renders.threads thread).trans
          (congrArg (LogProducers.Phase.rename uses) cleared))
      obtain ⟨spec', effect, renders, current, pushed⟩ :=
        follows.renders.advance follows.orderly follows.settled elsewhere performed
      exact .inr ⟨_, rfl, spec', uses, ring,
        follows.advance some effect renders pushed (fun _ => rfl) follows.contains
          (current ▸ follows.owned)⟩

/-- The background thread goes on and pops nothing. -/
theorem Follows.turn (follows : Follows kSize logger spec uses dropped ring)
    (taken : next.taken = logger.taken) (phase : next.phase.ahead kSize = logger.phase.ahead kSize)
    (retiring : next.phase.retiring = logger.phase.retiring)
    (same : next = { logger with
      written := next.written, phase := next.phase, currentReadBuffer := next.currentReadBuffer })
    (unread : next.currentReadBuffer = none → logger.readIndex = 0)
    (found : ∀ {buffer}, next.currentReadBuffer = some buffer →
      buffer = uses dropped ∧ dropped < spec.logBuffers.length)
    (relies : next.phase.Relies next spec dropped) (lives : Lives kSize next spec) :
    Follows kSize next spec uses dropped ring := by
  have index : next.readIndex = logger.readIndex := by rw [same]
  have queue : next.queue = logger.queue := by rw [same]
  refine { follows with
    ranked := ?_, renders := ?_, contains := ?_, owned := ?_, booked := ?_, reads := ?_, lives }
  · rw [same]
    exact follows.ranked
  · rw [taken, queue]
    exact follows.renders
  · rw [same]
    exact follows.contains
  · rw [retiring, same]
    exact follows.owned
  · rw [same]
    exact follows.booked
  · refine ⟨index ▸ follows.reads.inside, ?_, ?_, found, ?_, relies⟩
    · rw [taken, index, phase]
      exact follows.reads.position
    · rw [index]
      exact unread
    · rw [taken]
      exact follows.reads.lines

/-- The background thread stays in the loop it is in. -/
theorem Lives.turn {draining : Bool} {place place' : Popping Line} (lives : Lives kSize logger spec)
    (was : logger.phase = .popping draining place) (phase : next.phase = .popping draining place')
    (same : next.state = logger.state ∧ next.busy = logger.busy)
    (drains : draining = true → place' = .reading → next.currentReadBuffer ≠ none) :
    Lives kSize next spec := by
  refine ⟨?_, ?_, ?_, ?_, ?_⟩
  · rw [same.1, same.2]
    exact lives.shut
  · intro _
    rw [same.1]
    exact lives.ready (by rw [was]; nofun)
  · intro now is
    rw [phase] at is
    cases is
    rw [same.1]
    exact lives.draining was
  · intro is
    rw [phase] at is
    cases is
    exact drains rfl rfl
  · intro is
    rw [phase] at is
    cases is

/-- The background thread is back at its test, or in the last loop. -/
theorem Lives.again {draining : Bool} {place : Popping Line} (lives : Lives kSize logger spec)
    (was : logger.phase = .popping draining place)
    (phase : next.phase = if draining then .popping true .called else .testing)
    (same : next.state = logger.state ∧ next.busy = logger.busy) : Lives kSize next spec := by
  cases draining with
  | true => exact lives.turn was phase same (fun _ impossible => by cases impossible)
  | false =>
    refine ⟨?_, ?_, ?_, ?_, ?_⟩
    · rw [same.1, same.2]
      exact lives.shut
    · intro _
      rw [same.1]
      exact lives.ready (by rw [was]; nofun)
    · intro now is
      rw [phase] at is
      cases is
    · intro is
      rw [phase] at is
      cases is
    · intro is
      rw [phase] at is
      cases is

/-- `pop` returned false: in the last loop every line has been popped. -/
theorem Lives.popFails {draining : Bool} {place : Popping Line} (lives : Lives kSize logger spec)
    (was : logger.phase = .popping draining place)
    (all : draining = true → ∀ {buffer slot entry}, spec.item buffer slot = some entry →
      LogProducers.place kSize buffer slot < logger.taken.length)
    (taken : (logger.popFails draining).taken = logger.taken) :
    Lives kSize (logger.popFails draining) spec := by
  cases draining with
  | false => exact lives.again was rfl ⟨rfl, rfl⟩
  | true =>
    refine ⟨lives.shut, fun _ => lives.ready (by rw [was]; nofun), ?_, ?_, ?_⟩
    · intro now is
      cases is
    · intro is
      cases is
    · intro _
      refine ⟨lives.draining was, ?_⟩
      rw [taken]
      exact all rfl

section Pop

variable {draining : Bool}

/-- What `pop` may lead to: it waits for the spin lock, or it goes on. -/
def Kept (kSize : Nat) (spec : LogProducers Line) (uses : Nat → Nat)
    (result : Checked (AsyncLogger Line)) : Prop :=
  result = .error .disabled ∨ ∃ next, result = .ok next ∧ ∃ dropped ring,
    Follows kSize next spec uses dropped ring

/-- The front of `log_buffers_`. -/
theorem Follows.head (follows : Follows kSize logger spec uses dropped ring) {buffer : Nat}
    (front : logger.queue.logBuffers.head? = some buffer) :
    buffer = uses dropped ∧ dropped < spec.logBuffers.length := by
  obtain ⟨count, queued, _⟩ := follows.orderly.queued
  rw [follows.renders.logBuffers, List.head?_map, List.head?_drop, Option.map_eq_some_iff] at front
  obtain ⟨first, found, rfl⟩ := front
  have inside := (List.getElem?_eq_some_iff.mp found).1
  rw [queued, List.getElem?_range (by rwa [queued, List.length_range] at inside)] at found
  cases found
  exact ⟨rfl, inside⟩

/-- The slots of a buffer that left the queue were all filled. -/
theorem Reads.filled (reads : Reads kSize logger spec uses dropped) {buffer slot : Nat}
    (gone : buffer < dropped) (inside : slot < kSize) : spec.item buffer slot ≠ none := by
  have early : place kSize buffer slot < logger.taken.length := by
    refine Nat.lt_of_lt_of_le (place_lt_of_buffer inside gone 0) ?_
    rw [reads.position, place, place]
    omega
  have there := reads.lines (List.getElem?_eq_getElem early)
  rw [place_div inside, place_mod inside] at there
  rw [there]
  exact Option.some_ne_none _

/-- When all threads are idle, the write buffer is still queued. -/
theorem Follows.known_of_idle (follows : Follows kSize logger spec uses dropped ring)
    (idle : ∀ thread, spec.threads thread = .idle) : dropped ≤ spec.currentWriteBuffer := by
  by_contra gone
  obtain ⟨slot, inside, empty⟩ := follows.orderly.room_of_idle idle
  exact follows.reads.filled (Nat.lt_of_not_le gone) inside empty

theorem Follows.pop_called (follows : Follows kSize logger spec uses dropped ring)
    (was : logger.phase = .popping draining .called) :
    Kept kSize spec uses (logger.pop kSize residue draining .called) := by
  have empty : logger.phase.inHand = [] := by rw [was]; rfl
  have level : logger.phase.ahead kSize = 0 := by rw [was]; rfl
  have home : logger.phase.retiring = [] := by rw [was]; rfl
  simp only [pop]
  split
  · rename_i buffer known
    right
    refine ⟨_, rfl, dropped, ring, follows.turn ?_ level.symm home.symm rfl follows.reads.unread
      follows.reads.buffer trivial
      (follows.lives.turn was rfl ⟨rfl, rfl⟩ ?_)⟩
    · rw [taken, taken, empty]
      rfl
    · intro _ _
      rw [known]
      nofun
  · rename_i unknown
    split
    · exact .inl rfl
    · right
      refine ⟨_, rfl, dropped, ring, follows.turn ?_ level.symm home.symm rfl
        (fun _ => follows.reads.unread unknown)
        follows.head trivial (follows.lives.turn was rfl ⟨rfl, rfl⟩ ?_)⟩
      · rw [taken, taken, empty]
        rfl
      · rintro rfl _
        have idle := follows.idle (follows.lives.draining was)
        have old := follows.known_of_idle idle
        change logger.queue.logBuffers.head? ≠ none
        rw [follows.renders.logBuffers, follows.orderly.queued_of_idle idle, List.head?_map,
          List.head?_drop, List.getElem?_range (by omega)]
        nofun

/-- The line that the background thread is about to take. -/
theorem Follows.about_to_read (follows : Follows kSize logger spec uses dropped ring)
    (was : logger.phase = .popping draining .reading) {buffer : Nat}
    (reading : logger.currentReadBuffer = some buffer) (fresh : NoStaleFlag logger .popThread)
    (set : logger.queue.state buffer logger.readIndex ≠ 0) :
    spec.item dropped logger.readIndex ≠ none := by
  obtain ⟨rfl, queued⟩ := follows.reads.buffer reading
  rcases Nat.lt_or_eq_of_le (follows.orderly.known_of_queued queued) with earlier | rfl
  · obtain ⟨_, _, stored⟩ := follows.orderly
    obtain ⟨⟨entry, found⟩, _⟩ :=
      stored.retired dropped earlier logger.readIndex follows.reads.inside
    rw [item, found]
    exact Option.some_ne_none _
  · have often := fresh draining _ was reading follows.renders.current.symm set
    exact follows.renders.filled follows.orderly follows.delivers follows.switched
      (Nat.le_of_eq often.symm)

/-- The buffer that is read was not freed. -/
theorem Follows.reading_alive (follows : Follows kSize logger spec uses dropped ring) {buffer : Nat}
    (reading : logger.currentReadBuffer = some buffer) : logger.freed.contains buffer = false := by
  obtain ⟨rfl, queued⟩ := follows.reads.buffer reading
  have apart := follows.owned.apart (Nat.le_refl _) (follows.orderly.known_of_queued queued)
  rw [List.contains_eq_mem, decide_eq_false_iff_not]
  exact fun dead => apart (List.mem_append_right _ dead)

theorem Follows.popFails (follows : Follows kSize logger spec uses dropped ring)
    (was : logger.phase = .popping draining .reading)
    (all : draining = true → ∀ {buffer slot entry}, spec.item buffer slot = some entry →
      place kSize buffer slot < logger.taken.length) :
    Follows kSize (logger.popFails draining) spec uses dropped ring := by
  have empty : (logger.popFails draining).phase.inHand = logger.phase.inHand := by
    rw [was]
    cases draining <;> rfl
  have taken : (logger.popFails draining).taken = logger.taken := by
    rw [AsyncLogger.taken, AsyncLogger.taken, empty]
    rfl
  refine follows.turn taken ?_ ?_ rfl follows.reads.unread follows.reads.buffer ?_
    (follows.lives.popFails was all taken)
  · rw [was]
    cases draining <;> rfl
  · rw [was]
    cases draining <;> rfl
  · cases draining <;> trivial

theorem Follows.pop_reading (follows : Follows kSize logger spec uses dropped ring)
    (was : logger.phase = .popping draining .reading) (fresh : NoStaleFlag logger .popThread) :
    Kept kSize spec uses (logger.pop kSize residue draining .reading) := by
  simp only [pop]
  split
  · rename_i unknown
    refine .inr ⟨_, rfl, dropped, ring, follows.popFails was ?_⟩
    rintro rfl
    exact absurd unknown (follows.lives.drains was)
  · rename_i buffer reading
    rw [follows.reading_alive reading, if_neg Bool.false_ne_true]
    split
    · rename_i set
      right
      have filled := follows.about_to_read was reading fresh set
      refine ⟨_, rfl, dropped, ring, follows.turn ?_ (by rw [was]; rfl)
        (by rw [was]; rfl) rfl follows.reads.unread
        follows.reads.buffer ⟨by rw [reading]; nofun, filled⟩
        (follows.lives.turn was rfl ⟨rfl, rfl⟩ (fun _ impossible => by cases impossible))⟩
      rw [taken, taken, was]
      rfl
    · rename_i unset
      refine .inr ⟨_, rfl, dropped, ring, follows.popFails was ?_⟩
      rintro rfl buffer' slot entry found
      have idle := follows.idle (follows.lives.draining was)
      have known := follows.known_of_idle idle
      have position := follows.reads.position
      rw [was] at position
      rw [position]
      refine follows.orderly.end_of_lines idle known follows.reads.inside ?_ found
      by_contra set
      obtain ⟨rfl, _⟩ := follows.reads.buffer reading
      exact unset (follows.renders.states (Nat.le_refl _) known follows.reads.inside set)

/-- What holds once the next line is taken, whether or not it was the last of its buffer. -/
theorem Follows.taken_next (follows : Follows kSize logger spec uses dropped ring)
    (was : logger.phase = .popping draining .moving) {entry : Entry Line}
    (found : spec.item dropped logger.readIndex = some entry) {number : Nat} {entry' : Entry Line}
    (known : (logger.written ++ [entry])[number]? = some entry') :
    spec.item (number / kSize) (number % kSize) = some entry' := by
  have position := follows.reads.position
  have lines := @follows.reads.lines
  rw [was] at position
  rw [taken, was] at lines position
  change (logger.written ++ []).length = _ at position
  rw [List.append_nil] at position
  change ∀ {number : Nat} {entry : Entry Line}, (logger.written ++ [])[number]? =
    some entry → _ at lines
  rw [List.append_nil] at lines
  by_cases old : number < logger.written.length
  · rw [List.getElem?_append_left old] at known
    exact lines known
  · have bound := (List.getElem?_eq_some_iff.mp known).1
    rw [List.length_append, List.length_singleton] at bound
    have last : number = logger.written.length := by omega
    subst last
    rw [List.getElem?_concat_length] at known
    cases known
    rw [position]
    change spec.item (place kSize dropped logger.readIndex / kSize)
      (place kSize dropped logger.readIndex % kSize) = _
    rw [place_div follows.reads.inside, place_mod follows.reads.inside, found]

theorem Follows.pop_moving (follows : Follows kSize logger spec uses dropped ring)
    (some : 0 < kSize) (was : logger.phase = .popping draining .moving) :
    Kept kSize spec uses (logger.pop kSize residue draining .moving) := by
  have relies := follows.reads.relies
  have position := follows.reads.position
  have renders := follows.renders
  have owned := follows.owned
  have inside := follows.reads.inside
  rw [was] at relies owned
  rw [position, was] at renders
  rw [taken, was] at position
  obtain ⟨reading, filled⟩ := relies
  obtain ⟨buffer, reading⟩ := Option.ne_none_iff_exists'.mp reading
  obtain ⟨entry, found⟩ := Option.ne_none_iff_exists'.mp filled
  obtain ⟨rfl, queued⟩ := follows.reads.buffer reading
  have here : (logger.queue.buffers (uses dropped)).items logger.readIndex = Option.some entry :=
    renders.items (Nat.le_refl _) (Nat.le_refl _) found
  have moved := renders.moveOut follows.orderly { entry with line := residue entry.line }
  have longer : (logger.written ++ [entry]).length = place kSize dropped logger.readIndex + 1 := by
    change (logger.written ++ []).length = place kSize dropped logger.readIndex at position
    rw [List.append_nil] at position
    rw [List.length_append, position]
    rfl
  right
  simp only [pop, reading, follows.reading_alive reading, Bool.false_eq_true, if_false, here]
  split
  · rename_i full
    refine ⟨_, rfl, dropped, ring, { follows with
      renders := ?_
      owned := owned
      reads := ⟨some, ?_, fun _ => rfl, fun impossible =>
        ?_, follows.taken_next was found, ⟨rfl, queued⟩⟩
      lives := follows.lives.turn was rfl ⟨rfl, rfl⟩ (fun _ impossible => by cases impossible) }⟩
    · change Renders kSize uses dropped (logger.written ++ [entry]).length spec _
      rw [longer]
      exact moved
    · change (logger.written ++ [entry]).length = place kSize dropped 0 + kSize
      rw [longer, place, place]
      omega
    · cases impossible
  · rename_i room
    refine ⟨_, rfl, dropped, ring, { follows with
      renders := ?_
      owned := owned
      reads := ⟨?_, ?_, fun impossible => ?_, fun known =>
        ?_, follows.taken_next was found, trivial⟩
      lives := follows.lives.turn was rfl ⟨rfl, rfl⟩ (fun _ impossible => by cases impossible) }⟩
    · change Renders kSize uses dropped (logger.written ++ [entry]).length spec _
      rw [longer]
      exact moved
    · change logger.readIndex + 1 < kSize
      omega
    · change (logger.written ++ [entry]).length = place kSize dropped (logger.readIndex + 1) + 0
      rw [longer, place, place]
      omega
    · cases impossible
    · exact follows.reads.buffer (reading.trans known)

theorem Follows.pop_recycling {entry : Entry Line}
    (follows : Follows kSize logger spec uses dropped ring)
    (was : logger.phase = .popping draining (.recycling entry)) :
    Kept kSize spec uses (logger.pop kSize residue draining (.recycling entry)) := by
  have relies := follows.reads.relies
  have position := follows.reads.position
  have owned := follows.owned
  rw [was] at relies owned
  obtain ⟨unknown, some⟩ := relies
  have first := follows.reads.unread unknown
  rw [was, first] at position
  simp only [pop]
  split
  · exact .inl rfl
  · right
    have taken : ∀ (queue : LogProducers Line) (buffer : Nat), ({ logger with
        queue, phase := .popping draining (.backing entry buffer) } : AsyncLogger Line).taken =
          logger.taken := by
      intro queue buffer
      rw [AsyncLogger.taken, AsyncLogger.taken, was]
      rfl
    split
    · rename_i empty
      have short := follows.renders.logBuffers.symm.trans empty
      rw [List.map_eq_nil_iff, List.drop_eq_nil_iff] at short
      omega
    · rename_i buffer rest queued
      have same : buffer = uses dropped := (follows.head (by rw [queued]; rfl)).1
      subst same
      refine ⟨_, rfl, dropped + 1, ring, { follows with
        renders := ?_
        owned := ?_
        reads := ⟨follows.reads.inside, ?_, follows.reads.unread, fun known => ?_, ?_, trivial⟩
        lives := follows.lives.turn was rfl ⟨rfl, rfl⟩ (fun _ impossible => by cases impossible) }⟩
      · rw [taken]
        exact follows.renders.drop queued some
      · refine (owned.retire (follows.orderly.known_of_queued some) fun later latest =>
          follows.renders.distinct (Nat.le_refl _) later latest).perm ?_
        change (ring ++ [uses dropped] ++ logger.freed).Perm
          (uses dropped :: (ring ++ [] ++ logger.freed))
        rw [List.append_nil, List.append_assoc]
        exact List.perm_middle
      · rw [taken, position, place, place, first]
        change _ + kSize = _ + 0
        rw [Nat.succ_mul]
        omega
      · cases unknown.symm.trans known
      · rw [taken]
        exact follows.reads.lines

theorem Follows.pop_backing {entry : Entry Line} {buffer : Nat}
    (follows : Follows kSize logger spec uses dropped ring)
    (was : logger.phase = .popping draining (.backing entry buffer)) :
    Kept kSize spec uses (logger.pop kSize residue draining (.backing entry buffer)) := by
  have position := follows.reads.position
  have owned := follows.owned
  rw [was] at owned position
  right
  have taken : ∀ (backup : RingQueue 4) (freed : List Nat), ({ logger with
      backupLogBuffers := backup, freed, phase := .popping draining (.writing entry) } :
        AsyncLogger Line).taken =
        logger.taken := by
    intro backup freed
    rw [AsyncLogger.taken, AsyncLogger.taken, was]
    rfl
  have goesOn : ∀ {backup freed ring'}, backup.Contains (ring'.map Option.some) →
      (ring' ++ [] ++ freed).Perm (ring ++ [buffer] ++ logger.freed) →
      Follows kSize { logger with
        backupLogBuffers := backup, freed,
        phase := .popping draining (.writing entry) } spec uses dropped ring' := by
    intro backup freed ring' contains same
    refine { follows with
      renders := ?_
      contains := contains
      owned := owned.perm same
      reads := ⟨follows.reads.inside, ?_, follows.reads.unread, follows.reads.buffer, ?_, trivial⟩
      lives := follows.lives.turn was rfl ⟨rfl, rfl⟩ (fun _ impossible => by cases impossible) }
    · rw [taken]
      exact follows.renders
    · rw [taken]
      exact position
    · rw [taken]
      exact follows.reads.lines
  by_cases full : (ring.map Option.some).length = 4
  · have pushed := follows.contains.push_full full (some buffer)
    refine ⟨_, by rw [pop, pushed], dropped, ring, goesOn follows.contains ?_⟩
    rw [List.append_nil, List.append_assoc]
    exact List.Perm.append_left _ List.perm_append_comm
  · obtain ⟨backup, pushed, contains⟩ := follows.contains.push_room full (some buffer)
    refine ⟨_, by rw [pop, pushed], dropped, ring ++ [buffer], goesOn (by rwa [List.map_append]) ?_⟩
    rw [List.append_nil]
    exact List.Perm.of_eq (congrArg _ (List.append_nil _))

theorem Follows.pop_writing {entry : Entry Line}
    (follows : Follows kSize logger spec uses dropped ring)
    (was : logger.phase = .popping draining (.writing entry)) :
    Kept kSize spec uses (logger.pop kSize residue draining (.writing entry)) := by
  right
  refine ⟨_, rfl, dropped, ring, follows.turn ?_ ?_ ?_ rfl follows.reads.unread
    follows.reads.buffer ?_
    (follows.lives.again was rfl ⟨rfl, rfl⟩)⟩
  · rw [taken, taken, was]
    cases draining <;> exact List.append_nil _
  · rw [was]
    cases draining <;> rfl
  · rw [was]
    cases draining <;> rfl
  · cases draining <;> trivial

theorem Follows.pop (follows : Follows kSize logger spec uses dropped ring) (some : 0 < kSize)
    {place : Popping Line} (was : logger.phase = .popping draining place)
    (fresh : NoStaleFlag logger .popThread) :
    Kept kSize spec uses (logger.pop kSize residue draining place) := by
  cases place with
  | called => exact follows.pop_called was
  | reading => exact follows.pop_reading was fresh
  | moving => exact follows.pop_moving some was
  | recycling entry => exact follows.pop_recycling was
  | backing entry buffer => exact follows.pop_backing was
  | writing entry => exact follows.pop_writing was

theorem Follows.popThread (follows : Follows kSize logger spec uses dropped ring) (some : 0 < kSize)
    (fresh : NoStaleFlag logger .popThread) :
    Kept kSize spec uses (logger.popThread kSize residue logger.phase) := by
  cases was : logger.phase with
  | waiting =>
    right
    simp only [AsyncLogger.popThread]
    split
    · exact ⟨_, rfl, dropped, ring, follows⟩
    · rename_i started
      refine ⟨_, rfl, dropped, ring, follows.turn ?_ (by rw [was]; rfl)
        (by rw [was]; rfl) rfl follows.reads.unread
        follows.reads.buffer trivial ⟨follows.lives.shut, fun _ => started, ?_, ?_, ?_⟩⟩
      · rw [taken, taken, was]
        rfl
      · intro place is
        cases is
      · intro is
        cases is
      · intro is
        cases is
  | testing =>
    have started : logger.state ≠ .kINIT := follows.lives.ready (by rw [was]; nofun)
    right
    refine ⟨_, rfl, dropped, ring, follows.turn ?_ (by rw [was]; rfl)
      (by rw [was]; rfl) rfl follows.reads.unread
      follows.reads.buffer trivial ⟨follows.lives.shut, fun _ => started, ?_, ?_, ?_⟩⟩
    · rw [taken, taken, was]
      rfl
    · intro place is
      injection is with unready _
      cases state : logger.state with
      | kINIT => exact absurd state started
      | kREADY =>
        rw [state] at unready
        cases unready
      | kSHUTDOWN => rfl
    · intro is
      injection is with _ impossible
      cases impossible
    · intro is
      cases is
  | popping draining place => exact follows.pop some was fresh
  | ended => exact .inl rfl

end Pop

/-- A call of `add` begins. -/
theorem Follows.add (follows : Follows kSize logger spec uses dropped ring) (some : 0 < kSize)
    (alive : logger.state = .kREADY) (idle : logger.queue.threads thread = .idle) (line : Line) :
    Follows kSize { logger with
      queue := { logger.queue.move thread (.called ⟨logger.queue.pushed.length, line⟩) with
        pushed := logger.queue.pushed ++ [line] }
      busy := logger.busy ++ [(thread, logger.queue.pushed.length)]
      preceding := logger.preceding ++ [logger.returned] }
      { spec.move thread (.called ⟨spec.pushed.length, line⟩) with
        pushed := spec.pushed ++ [line] } uses dropped ring := by
  have still := follows.renders.idle idle
  have effect : Effect kSize spec thread
      { spec.move thread (.called ⟨spec.pushed.length, line⟩) with
        pushed := spec.pushed ++ [line] } := .push still
  have ranked :=
    follows.ranked.append follows.orderly follows.delivers follows.booked.all logger.returned
  have known : logger.queue.pushed.length = spec.pushed.length := by rw [follows.renders.pushed]
  refine {
    orderly := follows.orderly.step some effect
    delivers := follows.delivers.step follows.orderly effect
    switched := follows.switched.step effect
    settled := follows.settled.step follows.orderly effect
    ranked := ranked.step follows.orderly follows.delivers effect
      fun _ _ member => follows.booked.unpending (follows.booked.preceding_append member)
    renders := follows.renders.push line
    contains := follows.contains
    owned := follows.owned
    booked := ?_
    reads := follows.reads.step follows.orderly effect (fun _ => rfl) rfl rfl rfl rfl
    lives := follows.lives_step effect rfl (fun shut => ?_) rfl rfl rfl }
  · rw [known]
    exact follows.booked.add still line
  · exact absurd (alive.symm.trans shut) nofun

/-- The constructor or the destructor stores the state. -/
theorem Follows.store (follows : Follows kSize logger spec uses dropped ring) {state : STATE}
    (started : state ≠ .kINIT) (before : logger.state ≠ .kSHUTDOWN)
    (shut : state = .kSHUTDOWN → logger.busy = []) :
    Follows kSize { logger with state } spec uses dropped ring :=
  { follows with
    reads := { follows.reads with }
    lives := {
      shut := shut
      ready := fun _ => started
      draining := fun is => absurd (follows.lives.draining is) before
      drains := follows.lives.drains
      ended := fun is => absurd (follows.lives.ended is).1 before } }

/-- The logger follows one whose buffers are all new. -/
def Sound (kSize : Nat) (logger : AsyncLogger Line) : Prop :=
  ∃ spec uses dropped ring, Follows kSize logger spec uses dropped ring

/-- Every permitted step can be taken, or has to wait, unless it dereferences a
buffer that was freed. -/
theorem Sound.perform (sound : Sound kSize logger) (some : 0 < kSize) {step : Step Line}
    (permitted : logger.Permitted step) (fresh : logger.NoStaleFlag step)
    (holds : ∀ thread, step = .push thread → logger.Holds thread) :
    logger.perform kSize residue step = .error .disabled ∨
      ∃ next, logger.perform kSize residue step = .ok next ∧ Sound kSize next := by
  obtain ⟨spec, uses, dropped, ring, follows⟩ := sound
  cases step with
  | ready =>
    simp only [AsyncLogger.perform]
    split
    · rename_i state
      refine .inr ⟨_, rfl, spec, uses, dropped, ring, follows.store (by decide) ?_ fun shut => by
        cases shut⟩
      rw [state]
      decide
    · exact .inl rfl
  | add thread logLine =>
    simp only [AsyncLogger.perform, LogProducers.perform]
    split
    · rename_i idle
      exact .inr ⟨_, rfl, _, uses, dropped, ring, follows.add some permitted idle logLine⟩
    · exact .inl rfl
  | push thread =>
    rcases follows.push some (holds thread rfl) with
      waits | ⟨next, pushed, spec, uses, ring, followed⟩
    · exact .inl (by rw [AsyncLogger.perform, waits]; rfl)
    · refine .inr ⟨_, ?_, spec, uses, dropped, ring, followed.settle thread⟩
      rw [AsyncLogger.perform, pushed]
      rfl
  | popThread =>
    rcases follows.popThread some fresh with waits | ⟨next, popped, dropped, ring, followed⟩
    · exact .inl waits
    · exact .inr ⟨next, popped, spec, uses, dropped, ring, followed⟩
  | shutdown =>
    simp only [AsyncLogger.perform]
    split
    · rename_i state
      refine .inr ⟨_, rfl, spec, uses, dropped, ring,
        follows.store (by decide) ?_ (fun _ => permitted)⟩
      rw [state]
      decide
    · exact .inl rfl

/-- A step inside `push` that was taken found its buffer alive. -/
theorem holds_of_push (performed : logger.perform kSize residue (.push thread) = .ok next) :
    logger.Holds thread := by
  obtain ⟨pushed, taken, _⟩ := bind_eq_ok.mp performed
  unfold AsyncLogger.push at taken
  split at taken
  · cases taken
  · rename_i alive
    exact holds_iff.mpr (Bool.not_eq_true _ ▸ alive)

theorem Sound.step (sound : Sound kSize logger) (some : 0 < kSize) {step : Step Line}
    (permitted : logger.Permitted step) (fresh : logger.NoStaleFlag step)
    (performed : logger.perform kSize residue step = .ok next) : Sound kSize next := by
  have holds : ∀ thread, step = .push thread → logger.Holds thread := by
    rintro thread rfl
    exact holds_of_push performed
  rcases sound.perform some permitted fresh holds with waits | ⟨reached, taken, followed⟩
  · exact absurd (waits.symm.trans performed) nofun
  · cases taken.symm.trans performed
    exact followed

theorem initial_sound (some : 0 < kSize) : Sound kSize (initial : AsyncLogger Line) :=
  ⟨_, _, _, _, initial_follows some⟩

theorem sound_of_run {steps : List (Step Line)} (some : 0 < kSize)
    (run : ((machine kSize residue).restrict fun logger step =>
      logger.Permitted step ∧ logger.NoStaleFlag step).Run
      initial steps logger) : Sound kSize logger := by
  refine run.invariant (fun _ logger => Sound kSize logger) (initial_sound some) ?_
  rintro _ current step next sound ⟨⟨permitted, fresh⟩, performed⟩
  exact sound.step some permitted fresh performed

/-- A line in a slot that was read was popped with the number of the slot. -/
theorem Follows.taken_at (follows : Follows kSize logger spec uses dropped ring)
    {buffer slot : Nat} {entry : Entry Line} (found : spec.item buffer slot = some entry)
    (early : place kSize buffer slot < logger.taken.length) :
    logger.taken[place kSize buffer slot]? = some entry := by
  obtain ⟨_, _, stored⟩ := follows.orderly
  have inside := (stored.places found).2
  have known := List.getElem?_eq_getElem early
  have there := follows.reads.lines known
  rw [place_div inside, place_mod inside, found] at there
  rw [known, there]

theorem Follows.taken_calls (follows : Follows kSize logger spec uses dropped ring) :
    (logger.taken.map Entry.call).Nodup := by
  rw [List.Nodup, List.pairwise_map, List.pairwise_iff_getElem]
  intro first second bound bound' earlier same
  have here := follows.reads.lines (List.getElem?_eq_getElem bound)
  have there := follows.reads.lines (List.getElem?_eq_getElem bound')
  obtain ⟨buffers, slots⟩ := follows.delivers.once here there same
  have equal : first = second := by
    rw [← @place_div_mod kSize first, ← @place_div_mod kSize second, buffers, slots]
  exact Nat.ne_of_lt earlier equal

/-- The background thread writes lines that were added, each once, and when it writes one it has
written all whose `add` had returned before that of this one began. -/
structure InOrder (logger : AsyncLogger Line) : Prop where
  lines : ∀ entry ∈ logger.written, logger.queue.pushed[entry.call]? = some entry.line
  once : (logger.written.map Entry.call).Nodup
  order : ∀ {number : Nat} {entry : Entry Line}, logger.written[number]? = some entry →
    ∀ call ∈ logger.preceding.getD entry.call [],
      ∃ earlier < number, ∃ other : Entry Line, logger.written[earlier]? = some other ∧
        other.call = call

theorem Sound.inOrder (sound : Sound kSize logger) : InOrder logger := by
  obtain ⟨spec, uses, dropped, ring, follows⟩ := sound
  have popped : ∀ {number entry}, logger.written[number]? = some entry →
      spec.item (number / kSize) (number % kSize) = some entry := by
    intro number entry known
    have bound := (List.getElem?_eq_some_iff.mp known).1
    exact follows.reads.lines ((List.getElem?_append_left bound).trans known)
  refine ⟨?_, ?_, ?_⟩
  · intro entry member
    obtain ⟨number, known⟩ := List.mem_iff_getElem?.mp member
    rw [follows.renders.pushed]
    exact follows.delivers.stored (popped known)
  · have all := follows.taken_calls
    rw [taken, List.map_append] at all
    exact (List.nodup_append.mp all).1
  · intro number entry known call member
    obtain ⟨buffer, slot, other, found, same, early⟩ :=
      follows.ranked.stored (popped known) call member
    rw [place_div_mod] at early
    have bound := (List.getElem?_eq_some_iff.mp known).1
    have within : place kSize buffer slot < logger.taken.length := by
      rw [taken, List.length_append]
      omega
    have there := follows.taken_at found within
    rw [taken, List.getElem?_append_left (Nat.lt_trans early bound)] at there
    exact ⟨_, early, other, there, same⟩

/-- When the background thread has ended, every line that was ever added is written. -/
theorem Sound.complete (sound : Sound kSize logger) (past : logger.phase = .ended) :
    (logger.written.map Entry.call).Perm (List.range logger.queue.pushed.length) := by
  have inOrder := sound.inOrder
  obtain ⟨spec, uses, dropped, ring, follows⟩ := sound
  obtain ⟨down, all⟩ := follows.lives.ended past
  have whole : logger.taken = logger.written := by
    rw [taken, past]
    exact List.append_nil _
  refine (List.perm_ext_iff_of_nodup inOrder.once List.nodup_range).mpr ?_
  intro call
  rw [List.mem_range]
  constructor
  · intro member
    obtain ⟨entry, written, rfl⟩ := List.mem_map.mp member
    exact (List.getElem?_eq_some_iff.mp (inOrder.lines entry written)).1
  · intro known
    rw [follows.renders.pushed] at known
    rcases follows.delivers.found (List.getElem?_eq_getElem known) with
      ⟨thread, waiting⟩ | ⟨buffer, slot, found⟩
    · rw [follows.idle down] at waiting
      cases waiting
    · have there := follows.taken_at found (all found)
      rw [whole] at there
      exact List.mem_map.mpr ⟨_, List.mem_of_getElem? there, rfl⟩

/-- The steps that are permitted and rely on no stale flag. -/
def admits (logger : AsyncLogger Line) : Step Line → Bool
  | .add _ _ => logger.state == .kREADY
  | .shutdown => logger.busy.isEmpty
  | .popThread =>
    match logger.currentReadBuffer with
    | none => true
    | some buffer =>
      buffer != logger.queue.currentWriteBuffer ||
        logger.queue.state buffer logger.readIndex == 0 ||
        logger.fills buffer logger.readIndex == logger.setups buffer
  | .ready | .push _ => true

theorem admits_sound {step : Step Line} (admitted : admits logger step = true) :
    logger.Permitted step ∧ logger.NoStaleFlag step := by
  cases step with
  | ready | push => exact ⟨trivial, trivial⟩
  | add thread logLine => exact ⟨beq_iff_eq.mp admitted, trivial⟩
  | shutdown => exact ⟨List.isEmpty_iff.mp admitted, trivial⟩
  | popThread =>
    refine ⟨trivial, ?_⟩
    intro draining buffer _ reading current set
    simp only [admits, reading, current] at admitted
    simpa [current ▸ set, current] using admitted

/-- Three lines through buffers of one line: the first buffer is used again, for the third line. -/
def threeLines : List (Step Unit) :=
  let line : List (Step Unit) := .add 0 () :: List.replicate 11 (.push 0)
  let popped : List (Step Unit) := List.replicate 7 .popThread
  .ready :: .popThread :: line ++ popped ++ line ++ line ++ popped ++ popped ++
    .shutdown :: List.replicate 3 .popThread

theorem threeLines_run : ∃ logger : AsyncLogger Unit,
    ((machine 1 id).restrict fun logger step => logger.Permitted step ∧
      logger.NoStaleFlag step).Run initial threeLines
      logger ∧ logger.phase = .ended ∧ logger.written.length = 3 ∧ logger.setups 0 = 2 := by
  have followed :
      (Machine.follow (fun logger => logger.perform 1 id) admits (initial : AsyncLogger Unit)
      threeLines).any (fun logger => logger.phase == .ended && logger.written.length ==
        3 && logger.setups 0 == 2) =
        true := by
    decide +kernel
  obtain ⟨logger, run, final⟩ := Machine.Run.ofFollowAny
    ((machine 1 id).restrict fun logger step => logger.Permitted step ∧ logger.NoStaleFlag step)
    (fun admitted performed => ⟨admits_sound admitted, performed⟩) followed
  simp only [Bool.and_eq_true, beq_iff_eq] at final
  exact ⟨logger, run, final.1.1, final.1.2, final.2⟩

/-- However the threads interleave and buffers are reused, as long as no stale flag is
taken for a new one. -/
theorem writes_inOrder {steps : List (Step Line)} (some : 0 < kSize)
    (run : ((machine kSize residue).restrict fun logger step =>
      logger.Permitted step ∧ logger.NoStaleFlag step).Run
      initial steps logger) : InOrder logger :=
  (sound_of_run some run).inOrder

theorem writes_inOrder_three :
    ∃ logger : AsyncLogger Unit, InOrder logger ∧ logger.written.length = 3 := by
  obtain ⟨logger, run, _, three, _⟩ := threeLines_run
  exact ⟨logger, writes_inOrder Nat.one_pos run, three⟩

/-- The destructor loses no line. -/
theorem writes_all {steps : List (Step Line)} (some : 0 < kSize)
    (run : ((machine kSize residue).restrict fun logger step =>
      logger.Permitted step ∧ logger.NoStaleFlag step).Run
      initial steps logger) (past : logger.phase = .ended) :
    (logger.written.map Entry.call).Perm (List.range logger.queue.pushed.length) :=
  (sound_of_run some run).complete past

theorem writes_all_three : ∃ logger : AsyncLogger Unit, logger.phase = .ended ∧
    (logger.written.map Entry.call).Perm (List.range logger.queue.pushed.length) ∧
      logger.written.length = 3 := by
  obtain ⟨logger, run, past, three, _⟩ := threeLines_run
  exact ⟨logger, past, writes_all Nat.one_pos run past, three⟩

end FakeMuduo.Util.AsyncLogger
