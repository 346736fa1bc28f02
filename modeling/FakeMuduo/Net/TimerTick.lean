import FakeMuduo.Net.TimerCancel

/-! A whole call of `handleRead`: what it calls, and what it leaves in the tree. -/

namespace FakeMuduo.Net

open FakeMuduo.Base

namespace TimerQueue

/-- The timer is in the tree, with that expiration. -/
def Scheduled (queue : TimerQueue) (timerId : TimerId) (expiration : Int) : Prop :=
  ⟨expiration, timerId.timer⟩ ∈ queue.timerTree ∧ Alive queue.heap timerId

section Scheduled

variable {queue : TimerQueue} {batch waiting : List TimerId} {timerId other : TimerId}
  {expiration : Int}

theorem Sound.scheduled_found (sound : queue.Sound batch waiting)
    (scheduled : queue.Scheduled timerId expiration) :
    timerId ∈ queue.activeTimers ∧ ∃ timer, queue.heap timerId.timer = some timer ∧
      timer.sequence = timerId.sequence ∧ timer.expiration = expiration := by
  obtain ⟨held, same, present, sequence⟩ := scheduled
  obtain ⟨timer, found, key, listed⟩ := sound.matched.entries _ held
  obtain rfl : timer = same := Option.some.inj (found.symm.trans present)
  rw [sequence] at listed
  exact ⟨listed, timer, found, sequence, key⟩

theorem scheduled_create {address : Address} {when interval : Int}
    (sound : queue.Sound batch waiting) (unused : queue.heap address = none) :
    (queue.createTimer address when interval).Scheduled timerId expiration ↔
      queue.Scheduled timerId expiration := by
  have alive : Alive (queue.createTimer address when interval).heap timerId ↔
      Alive queue.heap timerId ∨ timerId = ⟨address, queue.numsTimerCreated⟩ :=
        alive_create unused _
  constructor
  · rintro ⟨held, living⟩
    refine ⟨held, (alive.mp living).resolve_right ?_⟩
    rintro rfl
    obtain ⟨timer, found, _⟩ := sound.matched.entries _ held
    exact nomatch unused.symm.trans found
  · rintro ⟨held, living⟩
    exact ⟨held, alive.mpr (.inl living)⟩

theorem added_heap (queue : TimerQueue) (now : Int) (timerId : TimerId) (expiration : Int) :
    (queue.added now timerId expiration).heap = queue.heap := by
  unfold added
  dsimp only
  split <;> rfl

theorem scheduled_added {timer : Timer} {now : Int} (found : queue.heap other.timer = some timer)
    (sequence : timer.sequence = other.sequence) :
    (queue.added now other timer.expiration).Scheduled timerId expiration ↔
      queue.Scheduled timerId expiration ∨ timerId = other ∧ expiration = timer.expiration := by
  have tree : (queue.added now other timer.expiration).timerTree =
      (queue.timerTree.insert ⟨timer.expiration, other.timer⟩).2 := by
    unfold added
    dsimp only
    split <;> rfl
  rw [Scheduled, tree, added_heap, OrderedSet.mem_insert, TimerEntry.mk.injEq]
  constructor
  · rintro ⟨⟨rfl, same⟩ | held, alive⟩
    · exact .inr ⟨alive.eq_of_timer ⟨timer, found, sequence⟩ same, rfl⟩
    · exact .inl ⟨held, alive⟩
  · rintro (⟨held, alive⟩ | ⟨rfl, rfl⟩)
    · exact ⟨.inr held, alive⟩
    · exact ⟨.inl ⟨rfl, rfl⟩, timer, found, sequence⟩

theorem scheduled_removed {timer : Timer} (found : queue.heap other.timer = some timer)
    (sequence : timer.sequence = other.sequence) :
    (queue.removed other timer.expiration).Scheduled timerId expiration ↔
      queue.Scheduled timerId expiration ∧ timerId ≠ other := by
  have alive : Alive (queue.removed other timer.expiration).heap timerId ↔
      Alive queue.heap timerId ∧ timerId ≠ other := alive_delete ⟨timer, found, sequence⟩
  rw [Scheduled, alive, removed, OrderedSet.mem_erase]
  constructor
  · rintro ⟨⟨_, held⟩, living, apart⟩
    exact ⟨⟨held, living⟩, apart⟩
  · rintro ⟨⟨held, living⟩, apart⟩
    refine ⟨⟨?_, held⟩, living, apart⟩
    intro same
    exact apart (living.eq_of_timer ⟨timer, found, sequence⟩ (TimerEntry.mk.inj same).2)

theorem scheduled_marked :
    (queue.marked other).Scheduled timerId expiration ↔ queue.Scheduled timerId expiration := by
  unfold marked
  split
  · exact Iff.rfl
  · exact Iff.rfl

theorem scheduled_armFirst {later : Int} :
    (queue.armFirst later).Scheduled timerId expiration ↔ queue.Scheduled timerId expiration := by
  unfold armFirst
  split
  · exact Iff.rfl
  · exact Iff.rfl

/-- The guard of the cut lies above all timers due, whatever their addresses. -/
theorem guard_le_iff {now : Int} {address : Address} (bound : address < UINTPTR_MAX) :
    (⟨now, UINTPTR_MAX⟩ : TimerEntry) ≤ ⟨expiration, address⟩ ↔ now < expiration := by
  rw [← not_lt, TimerEntry.lt_iff]
  simp only [not_or, not_and, not_lt]
  constructor
  · rintro ⟨early, tie⟩
    exact lt_of_le_of_ne early (fun same => absurd bound (not_lt.mpr (tie same.symm)))
  · intro early
    exact ⟨early.le, fun same => absurd same early.ne'⟩

theorem scheduled_called {now : Int} (sound : queue.Sound batch waiting) :
    (queue.called now).Scheduled timerId expiration ↔
      queue.Scheduled timerId expiration ∧ now < expiration := by
  have bound : Alive queue.heap timerId → timerId.timer < UINTPTR_MAX := by
    rintro ⟨timer, found, _⟩
    exact sound.ledger.range timerId.timer timer found
  rw [Scheduled, Scheduled, called, OrderedSet.mem_cut_rest]
  constructor
  · rintro ⟨⟨held, above⟩, alive⟩
    exact ⟨⟨held, alive⟩, (guard_le_iff (bound alive)).mp above⟩
  · rintro ⟨⟨held, alive⟩, later⟩
    exact ⟨⟨held, (guard_le_iff (bound alive)).mpr later⟩, alive⟩

theorem mem_due {now : Int} (sound : queue.Sound batch waiting) :
    timerId ∈ (queue.due now).map Pending.id ↔ ∃ expiration, queue.Scheduled timerId expiration ∧
      expiration ≤ now := by
  have held := queue.timerTree.cut_subset ⟨now, UINTPTR_MAX⟩
  rw [due, pendingOf_ids, sound.matched.mem_idsOf held]
  constructor
  · rintro ⟨listed, ⟨expiration, address⟩, member, rfl⟩
    obtain ⟨present, below⟩ := OrderedSet.mem_cut_below.mp member
    obtain ⟨timer, found, sequence, _⟩ := sound.matched.ids timerId listed
    refine ⟨expiration, ⟨present, timer, found, sequence⟩, ?_⟩
    rw [← not_lt, ← guard_le_iff (sound.ledger.range _ _ found), not_le]
    exact below
  · rintro ⟨expiration, scheduled, early⟩
    obtain ⟨listed, timer, found, _⟩ := sound.scheduled_found scheduled
    refine ⟨listed, ⟨expiration, timerId.timer⟩,
      OrderedSet.mem_cut_below.mpr ⟨scheduled.1, ?_⟩, rfl⟩
    rw [← not_le, guard_le_iff (sound.ledger.range _ _ found), not_lt]
    exact early

/-- The batch is in the order of the tree. -/
theorem due_ordered (sound : queue.Sound batch waiting) (now : Int) :
    ((queue.due now).map Pending.id).Pairwise (fun first second => ∀ early late,
      queue.Scheduled first early → queue.Scheduled second late → early ≤ late) := by
  have sorted := queue.timerTree.cut_sorted ⟨now, UINTPTR_MAX⟩
  have held := queue.timerTree.cut_subset ⟨now, UINTPTR_MAX⟩
  rw [due, pendingOf, List.pairwise_map, List.pairwise_filterMap]
  refine sorted.imp_of_mem ?_
  intro first second member later order _ taken _ called early late scheduled listed
  obtain ⟨timer, _, rfl⟩ := Option.map_eq_some_iff.mp taken
  obtain ⟨other, _, rfl⟩ := Option.map_eq_some_iff.mp called
  have front : early = first.expiration :=
    congrArg TimerEntry.expiration (sound.matched.eq_of_timer scheduled.1 (held first member) rfl)
  have back : late = second.expiration :=
    congrArg TimerEntry.expiration (sound.matched.eq_of_timer listed.1 (held second later) rfl)
  rw [front, back]
  rcases TimerEntry.lt_iff.mp order with less | ⟨same, _⟩
  · exact less.le
  · exact same.le

/-- The timer goes back to the tree when its batch is finished. -/
def Resumes (queue : TimerQueue) (now : Int) (timerId : TimerId) (expiration : Int) : Prop :=
  timerId ∉ queue.deletedTimers ∧ ∃ timer, queue.heap timerId.timer = some timer ∧
    timer.repeats = true ∧
    expiration = now + timer.interval

theorem resetExpired_scheduled {pending : Pending} {now : Int} {after : TimerQueue}
    (sound : queue.Sound (pending.id :: batch) waiting)
    (reset : queue.resetExpired now pending = .ok after) :
    after.Sound batch waiting ∧ after.deletedTimers = queue.deletedTimers ∧
      (∀ timerId ∈ batch, after.heap timerId.timer = queue.heap timerId.timer) ∧
      ∀ timerId expiration, after.Scheduled timerId expiration ↔
        queue.Scheduled timerId expiration ∨
        timerId = pending.id ∧ queue.Resumes now timerId expiration := by
  obtain ⟨timer, same, found, sequence, call, kept, shape⟩ := sound.resetExpired now
  cases call.symm.trans reset
  have alive : Alive queue.heap pending.id := ⟨timer, found, sequence⟩
  obtain ⟨inactive, outside, _⟩ := sound.owned.unbatch
  have elsewhere : ∀ timerId ∈ batch, timerId.timer ≠ pending.entry.timer := by
    intro timerId member equal
    have living : Alive queue.heap timerId :=
      (sound.owned.alive timerId).mpr (.inr (.inl (List.mem_cons_of_mem _ member)))
    apply outside
    rw [← living.eq_of_timer alive equal]
    exact List.mem_append_left _ member
  rcases shape with ⟨repeats, unmarked, rfl⟩ | ⟨stops, rfl⟩
  · refine ⟨kept, rfl, fun timerId member =>
      Function.update_of_ne (elsewhere timerId member) _ _, ?_⟩
    intro timerId expiration
    have living :
      Alive (Function.update queue.heap pending.entry.timer (some (timer.restart now))) timerId ↔
      Alive queue.heap timerId := alive_restart found (timer.restart_sequence now)
    rw [Scheduled, living, OrderedSet.mem_insert, TimerEntry.mk.injEq]
    constructor
    · rintro ⟨⟨rfl, here⟩ | held, lives⟩
      · obtain rfl := lives.eq_of_timer alive here
        exact .inr ⟨rfl, unmarked, timer, found, repeats, rfl⟩
      · exact .inl ⟨held, lives⟩
    · rintro (⟨held, lives⟩ | ⟨rfl, _, again, present, _, rfl⟩)
      · exact ⟨.inr held, lives⟩
      · obtain rfl : timer = again := Option.some.inj (found.symm.trans present)
        exact ⟨.inl ⟨rfl, rfl⟩, alive⟩
  · refine ⟨kept, rfl, fun timerId member =>
      Function.update_of_ne (elsewhere timerId member) _ _, ?_⟩
    intro timerId expiration
    have living : Alive (Function.update queue.heap pending.id.timer none) timerId ↔
      Alive queue.heap timerId ∧ timerId ≠ pending.id := alive_delete alive
    constructor
    · rintro ⟨held, lives⟩
      exact .inl ⟨held, (living.mp lives).1⟩
    · rintro (scheduled | ⟨rfl, unmarked, again, present, repeats, _⟩)
      · refine ⟨scheduled.1, living.mpr ⟨scheduled.2, ?_⟩⟩
        rintro rfl
        exact inactive (sound.scheduled_found scheduled).1
      · obtain rfl : timer = again := Option.some.inj (found.symm.trans present)
        exact absurd ⟨repeats, unmarked⟩ stops

theorem resetAll_scheduled (now : Int) (expired : List Pending) {queue middle : TimerQueue}
    (sound : queue.Sound (expired.map Pending.id) waiting)
    (reset : expired.foldlM (resetExpired now) queue = .ok middle) :
    middle.Scheduled timerId expiration ↔ queue.Scheduled timerId expiration ∨
      timerId ∈ expired.map Pending.id ∧ queue.Resumes now timerId expiration := by
  induction expired generalizing queue with
  | nil =>
    cases reset
    simp
  | cons pending expired ih =>
    rw [List.foldlM_cons] at reset
    obtain ⟨next, first, reset⟩ := bind_eq_ok.mp reset
    obtain ⟨kept, deleted, heap, scheduled⟩ := resetExpired_scheduled sound first
    have resumes : timerId ∈ expired.map Pending.id →
        (next.Resumes now timerId expiration ↔ queue.Resumes now timerId expiration) := by
      intro member
      rw [Resumes, Resumes, deleted, heap timerId member]
    rw [ih kept reset, scheduled, List.map_cons, List.mem_cons]
    constructor
    · rintro ((before | ⟨rfl, again⟩) | ⟨member, again⟩)
      · exact .inl before
      · exact .inr ⟨.inl rfl, again⟩
      · exact .inr ⟨.inr member, (resumes member).mp again⟩
    · rintro (before | ⟨rfl | member, again⟩)
      · exact .inl (.inl before)
      · exact .inl (.inr ⟨rfl, again⟩)
      · exact .inr ⟨member, (resumes member).mpr again⟩

end Scheduled

end TimerQueue

namespace TimerRun

open TimerQueue

/-- A call of `handleRead`: the timers whose callbacks it started, those that callbacks added and
have not cancelled since, with their expirations, and those that callbacks cancelled. -/
structure Tick where
  world : World
  started : List TimerId
  added : List (TimerId × Int)
  cancelled : List TimerId

def Tick.begin (world : World) : Tick := ⟨world, [], [], []⟩

/-- What a step does, as far as a call of `handleRead` is asked for it. -/
def Tick.note (tick : Tick) : Step → Tick
  | .call => { tick with started := tick.started ++
      (tick.world.phase.rest.head?.map Pending.id).toList }
  | .addTimerInLoop _ timerId =>
    let timer := tick.world.queue.heap timerId.timer
    { tick with added := tick.added ++ (timer.map fun timer => (timerId, timer.expiration)).toList }
  | .delTimerInLoop timerId =>
    { tick with
      added := tick.added.filter (fun entry => entry.1 ≠ timerId)
      cancelled := tick.cancelled ++ [timerId] }
  | _ => tick

def Tick.perform (tick : Tick) (step : Step) : Checked Tick := do
  let after ← step.perform tick.world
  return { tick.note step with world := after }

/-- The steps of a call of `handleRead`, the last of which leaves it. -/
def ticking : Machine Tick Step :=
  (Machine.ofFunction Tick.perform).restrict (fun tick _ => tick.world.phase ≠ .idle)

/-- A call of `handleRead` at `now` has done the work that was due in the world before it. -/
structure DueWork (world : World) (now : Int) (tick : Tick) : Prop where
  once : tick.started.Nodup
  due : ∀ timerId, timerId ∈ tick.started ↔ ∃ expiration,
    world.queue.Scheduled timerId expiration ∧ expiration ≤ now
  ordered : tick.started.Pairwise (fun first second => ∀ early late,
    world.queue.Scheduled first early → world.queue.Scheduled second late → early ≤ late)
  entries : ∀ entry ∈ tick.world.queue.timerTree,
    ∃ sequence, tick.world.queue.Scheduled ⟨entry.timer, sequence⟩ entry.expiration
  left : ∀ timerId expiration, tick.world.queue.Scheduled timerId expiration ↔
    (world.queue.Scheduled timerId expiration ∧ now < expiration ∧ timerId ∉ tick.cancelled) ∨
    (timerId, expiration) ∈ tick.added ∨
    ∃ timer, world.queue.heap timerId.timer = some timer ∧
      world.queue.Scheduled timerId timer.expiration ∧
      timer.expiration ≤ now ∧ timer.repeats = true ∧ timerId ∉ tick.cancelled ∧
        expiration = now + timer.interval

/-- The world when `handleRead` begins to call the timers due. -/
def World.begun (world : World) (now : Int) : World :=
  { world with
    queue := world.queue.called now
    phase := .calling now (world.queue.due now) (world.queue.due now) }

/-- What holds while the callbacks of the batch are called. -/
structure InBatch (world : World) (now : Int) (tick : Tick) : Prop where
  sound : tick.world.Sound
  progress : ∃ rest, tick.world.phase = .calling now (world.queue.due now) rest ∧
    tick.started ++ rest.map Pending.id = (world.queue.due now).map Pending.id
  marked : ∀ timerId ∈ (world.queue.due now).map Pending.id,
    timerId ∈ tick.world.queue.deletedTimers ↔ timerId ∈ tick.cancelled
  kept : ∀ timerId ∈ (world.queue.due now).map Pending.id,
    tick.world.queue.heap timerId.timer = world.queue.heap timerId.timer
  scheduled : ∀ timerId expiration, tick.world.queue.Scheduled timerId expiration ↔
    (world.queue.Scheduled timerId expiration ∧ now < expiration ∧ timerId ∉ tick.cancelled) ∨
    (timerId, expiration) ∈ tick.added

section Batch

variable {world after : World} {now : Int} {tick : Tick} {timerId : TimerId}

theorem InBatch.begin (sound : world.Sound) (idle : world.phase = .idle) (now : Int) :
    InBatch world now (.begin (world.begun now)) := by
  refine ⟨(Effect.handleRead idle).sound sound, ⟨_, rfl, rfl⟩, ?_, fun _ _ => rfl, ?_⟩
  · intro timerId _
    exact iff_of_false (Finset.notMem_empty timerId) List.not_mem_nil
  · intro timerId expiration
    simp [Tick.begin, World.begun, scheduled_called sound.queue]

theorem InBatch.owned (batch : InBatch world now tick) :
    tick.world.queue.Sound ((world.queue.due now).map Pending.id) tick.world.waiting := by
  obtain ⟨rest, phase, _⟩ := batch.progress
  exact batch.sound.batched phase

/-- A timer of the batch lives, outside the tree. -/
theorem InBatch.alive (batch : InBatch world now tick)
    (member : timerId ∈ (world.queue.due now).map Pending.id) :
    Alive tick.world.queue.heap timerId ∧ timerId ∉ tick.world.queue.activeTimers :=
  ⟨(batch.owned.owned.alive timerId).mpr (.inr (.inl member)),
    batch.owned.owned.apart timerId (List.mem_append_left _ member)⟩

theorem InBatch.calling (batch : InBatch world now tick) :
    tick.world.queue.callingExpiredTimers = true := by
  obtain ⟨rest, phase, _⟩ := batch.progress
  rw [batch.sound.calling, phase]
  rfl

theorem InBatch.create {address : Address} {when interval : Int} (batch : InBatch world now tick)
    (unused : tick.world.queue.heap address = none) (bound : address < UINTPTR_MAX) :
    InBatch world now { tick with world := { tick.world with
      queue := tick.world.queue.createTimer address when interval
      waiting := tick.world.waiting ++ [⟨address, tick.world.queue.numsTimerCreated⟩] } } := by
  refine ⟨(Effect.create unused bound).sound batch.sound, batch.progress, batch.marked, ?_, ?_⟩
  · intro timerId member
    obtain ⟨timer, found, _⟩ := (batch.alive member).1
    have elsewhere : timerId.timer ≠ address := by
      rintro rfl
      exact nomatch unused.symm.trans found
    exact (Function.update_of_ne elsewhere _ _).trans (batch.kept timerId member)
  · intro timerId expiration
    rw [← batch.scheduled]
    exact scheduled_create batch.sound.queue unused

theorem InBatch.add {clock : Int} {timer : Timer} (batch : InBatch world now tick)
    (member : timerId ∈ tick.world.waiting)
    (found : tick.world.queue.heap timerId.timer = some timer)
    (sequence : timer.sequence = timerId.sequence) :
    InBatch world now { tick with
      added := tick.added ++ [(timerId, timer.expiration)]
      world := { tick.world with
        queue := tick.world.queue.added clock timerId timer.expiration
        waiting := tick.world.waiting.erase timerId
        trace := tick.world.trace ++ [.added timerId] } } := by
  obtain ⟨_, deleted, _⟩ := added_frame tick.world.queue clock timerId timer.expiration
  refine ⟨(Effect.add member found sequence).sound batch.sound, batch.progress, ?_, ?_, ?_⟩
  · dsimp only
    rw [deleted]
    exact batch.marked
  · dsimp only
    rw [added_heap]
    exact batch.kept
  · intro other expiration
    rw [scheduled_added found sequence, batch.scheduled, List.mem_append, List.mem_singleton,
      Prod.mk.injEq, or_assoc]

/-- A cancellation, in the tree or of a timer that is not there. -/
theorem InBatch.cancel {queue : TimerQueue} (batch : InBatch world now tick)
    (sound : World.Sound { tick.world with
      queue := queue, trace := tick.world.trace ++ [.cancelled timerId] })
    (marked : ∀ other ∈ (world.queue.due now).map Pending.id,
      other ∈ queue.deletedTimers ↔ other ∈ tick.world.queue.deletedTimers ∨ other = timerId)
    (kept : ∀ other ∈ (world.queue.due now).map Pending.id,
      queue.heap other.timer = tick.world.queue.heap other.timer)
    (scheduled : ∀ other expiration, queue.Scheduled other expiration ↔
      tick.world.queue.Scheduled other expiration ∧ other ≠ timerId) :
    InBatch world now { tick with
      added := tick.added.filter (fun entry => entry.1 ≠ timerId)
      cancelled := tick.cancelled ++ [timerId]
      world := { tick.world with queue := queue, trace := tick.world.trace ++
        [.cancelled timerId] } } := by
  refine ⟨sound, batch.progress, ?_, fun other member =>
    (kept other member).trans (batch.kept other member), ?_⟩
  · intro other member
    rw [marked other member, batch.marked other member, List.mem_append, List.mem_singleton]
  · intro other expiration
    rw [scheduled, batch.scheduled, List.mem_append, List.mem_singleton, List.mem_filter,
      decide_eq_true_iff, not_or, or_and_right, and_assoc, and_assoc]

theorem InBatch.remove {timer : Timer} (batch : InBatch world now tick)
    (member : timerId ∈ tick.world.queue.activeTimers)
    (found : tick.world.queue.heap timerId.timer = some timer)
    (sequence : timer.sequence = timerId.sequence) :
    InBatch world now { tick with
      added := tick.added.filter (fun entry => entry.1 ≠ timerId)
      cancelled := tick.cancelled ++ [timerId]
      world := { tick.world with
        queue := tick.world.queue.removed timerId timer.expiration
        trace := tick.world.trace ++ [.cancelled timerId] } } := by
  refine batch.cancel ((Effect.remove member found sequence).sound batch.sound) ?_ ?_
    (fun _ _ => scheduled_removed found sequence)
  · intro other called
    rw [or_iff_left]
    · rfl
    · rintro rfl
      exact (batch.alive called).2 member
  · intro other called
    apply Function.update_of_ne
    intro same
    obtain ⟨living, inactive⟩ := batch.alive called
    rw [living.eq_of_timer ⟨timer, found, sequence⟩ same] at inactive
    exact inactive member

theorem InBatch.mark (batch : InBatch world now tick)
    (absent : timerId ∉ tick.world.queue.activeTimers) :
    InBatch world now { tick with
      added := tick.added.filter (fun entry => entry.1 ≠ timerId)
      cancelled := tick.cancelled ++ [timerId]
      world := { tick.world with
        queue := tick.world.queue.marked timerId
        trace := tick.world.trace ++ [.cancelled timerId] } } := by
  have noted : tick.world.queue.marked timerId =
      { tick.world.queue with deletedTimers := insert timerId tick.world.queue.deletedTimers } :=
    if_pos batch.calling
  refine batch.cancel ((Effect.mark absent).sound batch.sound) ?_ ?_ ?_
  · intro other _
    rw [noted, Finset.mem_insert, or_comm]
  · intro other _
    rw [noted]
  · intro other expiration
    rw [scheduled_marked, iff_self_and]
    rintro scheduled rfl
    exact absent (batch.sound.queue.scheduled_found scheduled).1

theorem InBatch.call {expired rest : List Pending} {next : Pending} (batch : InBatch world now tick)
    (calling : tick.world.phase = .calling now expired (next :: rest)) :
    InBatch world now { tick with
      started := tick.started ++ [next.id]
      world := { tick.world with
        phase := .calling now expired rest
        trace := tick.world.trace ++ [.started next.id] } } := by
  obtain ⟨left, phase, progress⟩ := batch.progress
  cases calling.symm.trans phase
  refine ⟨(Effect.call calling).sound batch.sound, ⟨rest, rfl, ?_⟩, batch.marked, batch.kept,
    batch.scheduled⟩
  rw [List.append_assoc]
  exact progress

/-- The timers that go back to the tree are the repeating ones of the batch
that were not cancelled. -/
theorem InBatch.resumes (batch : InBatch world now tick) (sound : world.Sound) {expiration : Int} :
    timerId ∈ (world.queue.due now).map Pending.id ∧
      tick.world.queue.Resumes now timerId expiration ↔
      ∃ timer, world.queue.heap timerId.timer = some timer ∧
        world.queue.Scheduled timerId timer.expiration ∧
        timer.expiration ≤ now ∧ timer.repeats = true ∧ timerId ∉ tick.cancelled ∧
          expiration = now + timer.interval := by
  constructor
  · rintro ⟨member, unmarked, timer, found, repeats, rfl⟩
    rw [batch.marked timerId member] at unmarked
    rw [batch.kept timerId member] at found
    obtain ⟨due, scheduled, early⟩ := (mem_due sound.queue).mp member
    obtain ⟨_, same, present, _, rfl⟩ := sound.queue.scheduled_found scheduled
    obtain rfl : timer = same := Option.some.inj (found.symm.trans present)
    exact ⟨timer, found, scheduled, early, repeats, unmarked, rfl⟩
  · rintro ⟨timer, found, scheduled, early, repeats, uncancelled, rfl⟩
    have member := (mem_due sound.queue).mpr ⟨timer.expiration, scheduled, early⟩
    refine ⟨member, mt (batch.marked timerId member).mp uncancelled, timer, ?_, repeats, rfl⟩
    rw [batch.kept timerId member]
    exact found

theorem InBatch.finish {expired : List Pending} {later : Int} {middle : TimerQueue}
    (batch : InBatch world now tick) (sound : world.Sound)
    (calling : tick.world.phase = .calling now expired [])
    (reset : expired.foldlM (resetExpired now) { tick.world.queue with
      callingExpiredTimers := false } = .ok middle) :
    DueWork world now
      { tick with
        world := { tick.world with queue := middle.armFirst later, phase := .idle } } := by
  have returned : World.Sound { tick.world with queue := middle.armFirst later, phase := .idle } :=
    (Effect.finish calling reset).sound batch.sound
  obtain ⟨left, phase, progress⟩ := batch.progress
  cases calling.symm.trans phase
  rw [List.map_nil, List.append_nil] at progress
  refine ⟨?_, ?_, ?_, ?_, ?_⟩
  · dsimp only
    rw [progress]
    exact (List.nodup_append.mp batch.owned.owned.distinct).1
  · intro timerId
    dsimp only
    rw [progress]
    exact mem_due sound.queue
  · dsimp only
    rw [progress]
    exact due_ordered sound.queue now
  · intro entry member
    obtain ⟨timer, found, _, _⟩ := returned.queue.matched.entries entry member
    exact ⟨timer.sequence, member, timer, found, rfl⟩
  · intro timerId expiration
    rw [scheduled_armFirst, resetAll_scheduled now _ batch.owned.stopped
      reset, ← or_assoc, ← batch.scheduled, ← batch.resumes sound]
    exact Iff.rfl

/-- A call of `handleRead` is in its batch, or it has returned and its work is done. -/
def Ticks (world : World) (now : Int) (tick : Tick) : Prop :=
  InBatch world now tick ∨ tick.world.phase = .idle ∧ tick.world.Sound ∧ DueWork world now tick

theorem InBatch.step {step : Step} {next : Tick} (batch : InBatch world now tick)
    (sound : world.Sound) (recorded : tick.perform step = .ok next) : Ticks world now next := by
  obtain ⟨after, performed, same⟩ := bind_eq_ok.mp recorded
  cases same
  have effect := batch.sound.effect performed
  cases effect with
  | create unused bound => exact .inl (batch.create unused bound)
  | add member found sequence =>
    refine .inl ?_
    simp only [Tick.note, found]
    exact batch.add member found sequence
  | remove member found sequence => exact .inl (batch.remove member found sequence)
  | mark absent => exact .inl (batch.mark absent)
  | handleRead idle =>
    obtain ⟨rest, phase, _⟩ := batch.progress
    cases idle.symm.trans phase
  | call calling =>
    obtain ⟨rest, phase, _⟩ := batch.progress
    cases calling.symm.trans phase
    refine .inl ?_
    simp only [Tick.note, calling]
    exact batch.call calling
  | finish calling reset =>
    obtain ⟨rest, phase, _⟩ := batch.progress
    cases calling.symm.trans phase
    refine .inr ⟨rfl, ?_, batch.finish sound calling reset⟩
    exact (Effect.finish calling reset).sound batch.sound
  | expire armed reached =>
    exact .inl ⟨(Effect.expire armed reached).sound batch.sound, batch.progress,
      batch.marked, batch.kept, batch.scheduled⟩

theorem InBatch.call_returns {rest : List Pending} {pending : Pending}
    (batch : InBatch world now tick)
    (calling : tick.world.phase = .calling now (world.queue.due now) (pending :: rest)) :
    ∃ next, tick.perform .call = .ok next ∧ next.world.phase =
      .calling now (world.queue.due now) rest := by
  refine ⟨{ tick.note .call with world := { tick.world with
    phase := .calling now (world.queue.due now) rest
    trace := tick.world.trace ++ [.started pending.id] } }, ?_, rfl⟩
  rw [Tick.perform, batch.sound.call calling]
  rfl

theorem InBatch.finish_returns (batch : InBatch world now tick)
    (calling : tick.world.phase = .calling now (world.queue.due now) []) (later : Int) :
    ∃ next, tick.perform (.finish later) = .ok next ∧ next.world.phase = .idle := by
  obtain ⟨middle, _, performed⟩ := batch.sound.finish calling later
  refine ⟨{ tick with
    world := { tick.world with queue := middle.armFirst later, phase := .idle } }, ?_, rfl⟩
  rw [Tick.perform, performed]
  rfl

/-- From any point of the batch `handleRead` returns, once its callbacks do nothing more. -/
theorem InBatch.returns (batch : InBatch world now tick) (sound : world.Sound) (later : Int) :
    ∃ finished, ticking.Run tick
      (List.replicate tick.world.phase.rest.length .call ++ [.finish later]) finished ∧
      finished.world.phase = .idle := by
  obtain ⟨rest, calling, progress⟩ := batch.progress
  clear progress
  have busy : tick.world.phase ≠ .idle := by
    rw [calling]
    exact Phase.noConfusion
  induction rest generalizing tick with
  | nil =>
    obtain ⟨finished, performed, idle⟩ := batch.finish_returns calling later
    refine ⟨finished, ?_, idle⟩
    rw [calling]
    exact .cons ⟨busy, performed⟩ .start
  | cons pending rest ih =>
    obtain ⟨next, performed, left⟩ := batch.call_returns calling
    rcases batch.step sound performed with further | ⟨idle, _⟩
    · have running : next.world.phase ≠ .idle := by
        rw [left]
        exact Phase.noConfusion
      obtain ⟨finished, run, idle⟩ := ih further left running
      refine ⟨finished, ?_, idle⟩
      rw [left] at run
      rw [calling]
      exact .cons ⟨busy, performed⟩ run
    · cases idle.symm.trans left

theorem ticking_ticks {calls : List Step} (sound : world.Sound) (idle : world.phase = .idle)
    (run : ticking.Run (.begin (world.begun now)) calls tick) : Ticks world now tick := by
  refine run.invariant (fun _ tick => Ticks world now tick) (.inl (.begin sound idle now)) ?_
  rintro _ current step next (batch | ⟨returned, _⟩) ⟨busy, performed⟩
  · exact batch.step sound performed
  · exact absurd returned busy

end Batch

/-- In every world that is reached outside `handleRead`, and whatever callbacks do, a call of
`handleRead` does not fail, returns once its callbacks have, and has then done the
work that was due. -/
theorem tick_does_due_work {steps : List Step} {world : World}
    (run : machine.Run .initial steps world) (idle : world.phase = .idle) (now : Int) :
    ∃ begun, (Step.handleRead now).perform world = .ok begun ∧
      ∀ calls tick, ticking.Run (.begin begun) calls tick →
        (∀ step fault, Step.perform tick.world step = .error fault → fault = .disabled) ∧
        (tick.world.phase ≠ .idle → ∀ later, ∃ finished,
          ticking.Run tick (List.replicate tick.world.phase.rest.length .call ++
            [.finish later]) finished ∧
          finished.world.phase = .idle) ∧
        (tick.world.phase = .idle → DueWork world now tick) := by
  have sound := run_sound run
  refine ⟨world.begun now, ?_, ?_⟩
  · simp only [Step.perform, if_pos idle, startCalling_eq sound.queue now, ok_bind]
    rfl
  · intro calls tick run
    have ticks : Ticks world now tick := ticking_ticks sound idle run
    have sane : tick.world.Sound := by
      rcases ticks with batch | ⟨_, sane, _⟩
      · exact batch.sound
      · exact sane
    refine ⟨?_, ?_, ?_⟩
    · intro step fault failed
      rcases sane.perform step with ⟨after, performed, _⟩ | disabled
      · cases performed.symm.trans failed
      · cases disabled.symm.trans failed
        rfl
    · intro busy later
      rcases ticks with batch | ⟨returned, _⟩
      · exact batch.returns sound later
      · exact absurd returned busy
    · intro returned
      rcases ticks with batch | ⟨_, _, work⟩
      · obtain ⟨rest, calling, _⟩ := batch.progress
        cases returned.symm.trans calling
      · exact work

/-- Three timers are due at 20, two of them at the same time, and a fourth is not. -/
def fourTimerSteps : List Step :=
  [.create 1 10 5, .addTimerInLoop 0 ⟨1, 0⟩, .create 2 10 0,
    .addTimerInLoop 0 ⟨2, 1⟩, .create 3 15 7, .addTimerInLoop 0 ⟨3, 2⟩, .create 4 50 0,
    .addTimerInLoop 0 ⟨4, 3⟩, .expire 10]

/-- The first callback adds a timer, and the second cancels the first and the fourth one. -/
def threeCallbackSteps : List Step :=
  [.call, .create 5 20 0, .addTimerInLoop 21 ⟨5, 4⟩, .call, .delTimerInLoop ⟨1, 0⟩,
    .delTimerInLoop ⟨4, 3⟩, .call, .finish 30]

theorem tick_does_due_work_threeCallbacks :
    ∃ world begun tick, machine.Run .initial fourTimerSteps world ∧
      (Step.handleRead 20).perform world = .ok begun ∧
        ticking.Run (.begin begun) threeCallbackSteps tick ∧
      tick.started = [⟨1, 0⟩, ⟨2, 1⟩, ⟨3, 2⟩] ∧ tick.world.queue.timerTree.elements =
        [⟨20, 5⟩, ⟨27, 3⟩] ∧
      DueWork world 20 tick := by
  have followed :
      (Machine.follow Step.perform (fun _ _ => true) .initial fourTimerSteps).any (fun world =>
      decide (world.phase = .idle) &&
        match (Step.handleRead 20).perform world with
        | .error _ => false
        | .ok begun =>
          (Machine.follow Tick.perform (fun tick _ =>
            decide (tick.world.phase ≠ .idle)) (.begin begun)
            threeCallbackSteps).any (fun tick => decide (tick.world.phase = .idle ∧
              tick.started = [⟨1, 0⟩, ⟨2, 1⟩, ⟨3, 2⟩] ∧
              tick.world.queue.timerTree.elements = [⟨20, 5⟩, ⟨27, 3⟩]))) = true := by
    decide +kernel
  obtain ⟨world, run, found⟩ :=
    Machine.Run.ofFollowAny machine (fun _ performed => performed) followed
  obtain ⟨idle, called⟩ := Bool.and_eq_true_iff.mp found
  obtain ⟨begun, performed, works⟩ := tick_does_due_work run (of_decide_eq_true idle) 20
  simp only [performed] at called
  obtain ⟨tick, ticks, final⟩ := Machine.Run.ofFollowAny ticking
    (fun busy performed => ⟨of_decide_eq_true busy, performed⟩) called
  obtain ⟨returned, started, left⟩ := of_decide_eq_true final
  exact ⟨world, begun, tick, run, performed, ticks, started, left,
    (works _ tick ticks).2.2 returned⟩

end TimerRun

end FakeMuduo.Net
