import FakeMuduo.Net.TimerOwnership

/-! When a cancelled timer does not run any more. -/

namespace FakeMuduo.Net.TimerRun

open FakeMuduo.Base TimerQueue

/-- The steps that do not reach the defect: no cancellation names a timer that expired in
the batch in progress and whose callback has not started. -/
def Careful (world : World) : Step → Prop
  | .delTimerInLoop timerId => ∀ pending ∈ world.phase.rest, pending.id ≠ timerId
  | _ => True

/-- Nothing can start this timer any more. -/
structure Retired (world : World) (timerId : TimerId) : Prop where
  inactive : timerId ∉ world.queue.activeTimers
  unawaited : timerId ∉ world.waiting
  uncalled : ∀ pending ∈ world.phase.rest, pending.id ≠ timerId
  marked : timerId ∈ world.phase.batch.map Pending.id → timerId ∈ world.queue.deletedTimers

/-- Nothing can put this timer into the tree any more. -/
structure Gone (world : World) (timerId : TimerId) : Prop where
  inactive : timerId ∉ world.queue.activeTimers
  unawaited : timerId ∉ world.waiting
  marked : timerId ∈ world.phase.batch.map Pending.id → timerId ∈ world.queue.deletedTimers

theorem Retired.gone {world : World} {timerId : TimerId} (retired : Retired world timerId) :
    Gone world timerId :=
  ⟨retired.inactive, retired.unawaited, retired.marked⟩

theorem Gone.retired {world : World} {timerId : TimerId} (gone : Gone world timerId)
    (uncalled : ∀ pending ∈ world.phase.rest, pending.id ≠ timerId) : Retired world timerId :=
  ⟨gone.inactive, gone.unawaited, uncalled, gone.marked⟩

/-- The timer was added and then cancelled. -/
def Dismissed (trace : List Event) (timerId : TimerId) : Prop :=
  [.added timerId, .cancelled timerId].Sublist trace

structure Quiet (world : World) : Prop where
  sound : world.Sound
  added : ∀ timerId, Event.added timerId ∈ world.trace →
    timerId ∉ world.waiting ∧ timerId.sequence < world.queue.numsTimerCreated
  retired : ∀ timerId, Dismissed world.trace timerId → Retired world timerId
  silent : ∀ timerId, ¬ [.added timerId, .cancelled timerId, .started timerId].Sublist world.trace

theorem sublist_snoc {α : Type} (front : List α) {trace : List α} {last event : α} :
    (front ++ [last]).Sublist (trace ++ [event]) ↔
      (front ++ [last]).Sublist trace ∨ last = event ∧ front.Sublist trace := by
  constructor
  · intro sublist
    rw [← List.reverse_sublist] at sublist
    simp only [List.reverse_append, List.reverse_singleton, List.singleton_append] at sublist
    rcases List.sublist_cons_iff.mp sublist with before | ⟨rest, same, before⟩
    · left
      rw [← List.reverse_sublist]
      simpa using before
    · right
      obtain ⟨rfl, rfl⟩ := List.cons_eq_cons.mp same
      exact ⟨rfl, List.reverse_sublist.mp before⟩
  · rintro (before | ⟨rfl, before⟩)
    · exact before.trans (List.sublist_append_left _ _)
    · exact before.append (List.Sublist.refl _)

theorem initial_quiet : Quiet .initial := by
  refine ⟨initial_sound, ?_, ?_, ?_⟩
  · intro timerId member
    cases member
  · intro timerId dismissed
    exact absurd (List.sublist_nil.mp dismissed) (by simp)
  · intro timerId sublist
    exact absurd (List.sublist_nil.mp sublist) (by simp)

section Steps

variable {world after : World}

theorem Quiet.created (quiet : Quiet world) {timerId : TimerId}
    (dismissed : Dismissed world.trace timerId) :
    timerId.sequence < world.queue.numsTimerCreated :=
  (quiet.added timerId (dismissed.subset (by simp))).2

/-- A step that adds nothing to the trace. -/
theorem Quiet.unnoted (quiet : Quiet world) (sound : after.Sound)
    (trace : after.trace = world.trace) (added : ∀ timerId, Event.added timerId ∈ world.trace →
      timerId ∉ after.waiting ∧ timerId.sequence < after.queue.numsTimerCreated)
    (retired : ∀ timerId, Dismissed world.trace timerId → Retired after timerId) : Quiet after := by
  refine ⟨sound, ?_, ?_, ?_⟩
  · rw [trace]
    exact added
  · rw [trace]
    exact retired
  · rw [trace]
    exact quiet.silent

/-- A step that adds an event to the trace. -/
theorem Quiet.noted (quiet : Quiet world) (sound : after.Sound) {event : Event}
    (trace : after.trace = world.trace ++ [event])
    (added : ∀ timerId, Event.added timerId ∈ world.trace ∨ event = .added timerId →
      timerId ∉ after.waiting ∧ timerId.sequence < after.queue.numsTimerCreated)
    (retired : ∀ timerId, Dismissed world.trace timerId → Retired after timerId)
    (cancelled : ∀ timerId, event = .cancelled timerId → Event.added timerId ∈ world.trace →
      Retired after timerId)
    (started : ∀ timerId, event = .started timerId → ¬ Dismissed world.trace timerId) :
    Quiet after := by
  refine ⟨sound, ?_, ?_, ?_⟩
  · intro timerId member
    rw [trace, List.mem_append, List.mem_singleton] at member
    exact added timerId (member.imp id Eq.symm)
  · intro timerId dismissed
    rw [trace] at dismissed
    rcases (sublist_snoc [Event.added timerId]).mp dismissed with before | ⟨same, before⟩
    · exact retired timerId before
    · exact cancelled timerId same.symm (List.singleton_sublist.mp before)
  · intro timerId sublist
    rw [trace] at sublist
    rcases (sublist_snoc [Event.added timerId, .cancelled timerId]).mp sublist with
      before | ⟨same, before⟩
    · exact quiet.silent timerId before
    · exact started timerId same.symm before

theorem resetAll_active (now : Int) {waiting : List TimerId} (expired : List Pending)
    {queue middle : TimerQueue} (sound : queue.Sound (expired.map Pending.id) waiting)
    (reset : expired.foldlM (resetExpired now) queue = .ok middle) :
    middle.numsTimerCreated = queue.numsTimerCreated ∧
      ∀ timerId ∈ middle.activeTimers, timerId ∈ queue.activeTimers ∨
        timerId ∈ expired.map Pending.id ∧ timerId ∉ queue.deletedTimers := by
  induction expired generalizing queue with
  | nil =>
    cases reset
    exact ⟨rfl, fun _ member => .inl member⟩
  | cons pending expired ih =>
    obtain ⟨timer, next, _, _, call, kept, shape⟩ := sound.resetExpired now
    rw [List.foldlM_cons, call, ok_bind] at reset
    obtain ⟨created, origin⟩ := ih kept reset
    rcases shape with ⟨_, unmarked, rfl⟩ | ⟨_, rfl⟩
    · refine ⟨created, ?_⟩
      intro timerId member
      rcases origin timerId member with listed | ⟨later, open_⟩
      · rcases Finset.mem_insert.mp listed with rfl | old
        · exact .inr ⟨by simp, unmarked⟩
        · exact .inl old
      · exact .inr ⟨List.mem_cons_of_mem _ later, open_⟩
    · refine ⟨created, ?_⟩
      intro timerId member
      rcases origin timerId member with old | ⟨later, open_⟩
      · exact .inl old
      · exact .inr ⟨List.mem_cons_of_mem _ later, open_⟩

theorem added_frame (queue : TimerQueue) (now : Int) (timerId : TimerId) (expiration : Int) :
    (queue.added now timerId expiration).numsTimerCreated = queue.numsTimerCreated ∧
      (queue.added now timerId expiration).deletedTimers = queue.deletedTimers ∧
      (queue.added now timerId expiration).activeTimers = insert timerId queue.activeTimers := by
  unfold added
  dsimp only
  split <;> exact ⟨rfl, rfl, rfl⟩

theorem marked_frame (queue : TimerQueue) (timerId : TimerId) :
    (queue.marked timerId).numsTimerCreated = queue.numsTimerCreated ∧
      (queue.marked timerId).activeTimers = queue.activeTimers ∧
      queue.deletedTimers ⊆ (queue.marked timerId).deletedTimers := by
  unfold marked
  split
  · exact ⟨rfl, rfl, Finset.subset_insert _ _⟩
  · exact ⟨rfl, rfl, Finset.Subset.refl _⟩

theorem armFirst_frame (queue : TimerQueue) (later : Int) :
    (queue.armFirst later).numsTimerCreated = queue.numsTimerCreated ∧
      (queue.armFirst later).activeTimers = queue.activeTimers := by
  unfold armFirst
  split
  · exact ⟨rfl, rfl⟩
  · exact ⟨rfl, rfl⟩

/-- A batch is taken from the active timers. -/
theorem due_active (sound : world.Sound) (now : Int) :
    ∀ timerId ∈ (world.queue.due now).map Pending.id, timerId ∈ world.queue.activeTimers := by
  have held := world.queue.timerTree.cut_subset ⟨now, UINTPTR_MAX⟩
  intro timerId member
  rw [due, pendingOf_ids] at member
  exact ((sound.queue.matched.mem_idsOf held).mp member).1

/-- A timer that is gone stays so. -/
theorem Gone.step {step : Step} {timerId : TimerId} (gone : Gone world timerId)
    (sound : world.Sound) (created : timerId.sequence < world.queue.numsTimerCreated)
    (effect : Effect world step after) :
    Gone after timerId := by
  obtain ⟨inactive, unawaited, marks⟩ := gone
  cases effect with
  | @create address when interval unused bound =>
    refine ⟨inactive, ?_, marks⟩
    rw [List.mem_append, List.mem_singleton, not_or]
    refine ⟨unawaited, ?_⟩
    rintro rfl
    exact Nat.lt_irrefl _ created
  | @add now other timer member found sequence =>
    obtain ⟨_, deleted, active⟩ := added_frame world.queue now other timer.expiration
    refine ⟨?_, fun waits => unawaited (List.mem_of_mem_erase waits), ?_⟩
    · rw [active, Finset.mem_insert, not_or]
      refine ⟨?_, inactive⟩
      rintro rfl
      exact unawaited member
    · rw [deleted]
      exact marks
  | remove member found sequence =>
    exact ⟨fun listed => inactive (Finset.mem_of_mem_erase listed), unawaited, marks⟩
  | @mark other absent =>
    obtain ⟨_, active, grown⟩ := marked_frame world.queue other
    exact ⟨active ▸ inactive, unawaited, fun batched => grown (marks batched)⟩
  | @handleRead now idle =>
    refine ⟨fun listed => inactive (Finset.mem_sdiff.mp listed).1, unawaited, ?_⟩
    intro batched
    exact absurd (due_active sound now timerId batched) inactive
  | @call now expired rest next calling =>
    rw [calling] at marks
    exact ⟨inactive, unawaited, marks⟩
  | @finish now later expired middle calling reset =>
    rw [calling] at marks
    obtain ⟨_, origin⟩ := resetAll_active now expired (sound.batched calling).stopped reset
    obtain ⟨_, active⟩ := armFirst_frame middle later
    refine ⟨?_, unawaited, ?_⟩
    · rw [active]
      intro listed
      rcases origin timerId listed with old | ⟨batched, unmarked⟩
      · exact inactive old
      · exact unmarked (marks batched)
    · intro batched
      cases batched
  | expire armed reached => exact ⟨inactive, unawaited, marks⟩

/-- A timer that was added is gone once it is cancelled. -/
theorem gone_of_cancelled {timerId : TimerId} (sound : world.Sound)
    (unawaited : timerId ∉ world.waiting) (effect : Effect world (.delTimerInLoop timerId) after) :
    Gone after timerId := by
  cases effect with
  | remove member found sequence =>
    refine ⟨Finset.notMem_erase _ _, unawaited, ?_⟩
    intro batched
    exact absurd member (sound.queue.owned.apart timerId (List.mem_append_left _ batched))
  | mark absent =>
    obtain ⟨_, active, _⟩ := marked_frame world.queue timerId
    refine ⟨active ▸ absent, unawaited, ?_⟩
    intro batched
    have calling : world.queue.callingExpiredTimers = true := by
      rw [sound.calling]
      rcases phase : world.phase with _ | ⟨now, expired, rest⟩
      · rw [phase] at batched
        cases batched
      · simp
    simp [marked, calling]

/-- One step, with the batch in progress respected by cancellations. -/
theorem Quiet.step {step : Step} (quiet : Quiet world) (careful : Careful world step)
    (effect : Effect world step after) : Quiet after := by
  have sound := effect.sound quiet.sound
  have kept : ∀ timerId, Dismissed world.trace timerId → Gone after timerId :=
    fun timerId dismissed =>
    (quiet.retired timerId dismissed).gone.step quiet.sound (quiet.created dismissed) effect
  cases effect with
  | create unused bound =>
    refine quiet.unnoted sound rfl ?_ ?_
    · intro timerId member
      obtain ⟨absent, created⟩ := quiet.added timerId member
      refine ⟨?_, Nat.lt_succ_of_lt created⟩
      rw [List.mem_append, List.mem_singleton, not_or]
      refine ⟨absent, ?_⟩
      rintro rfl
      exact Nat.lt_irrefl _ created
    · intro timerId dismissed
      exact (kept timerId dismissed).retired (quiet.retired timerId dismissed).uncalled
  | @add now timerId timer member found sequence =>
    obtain ⟨created, _, _⟩ := added_frame world.queue now timerId timer.expiration
    have distinct := (List.nodup_append.mp quiet.sound.queue.owned.distinct).2.1
    refine quiet.noted sound rfl ?_ ?_ ?_ ?_
    · rintro other (before | same)
      · obtain ⟨absent, known⟩ := quiet.added other before
        exact ⟨fun waits => absent (List.mem_of_mem_erase waits), created ▸ known⟩
      · cases same
        refine ⟨fun waits => (distinct.mem_erase_iff.mp waits).1 rfl, ?_⟩
        rw [created]
        exact quiet.sound.queue.ledger.numbered timerId ⟨timer, found, sequence⟩
    · intro other dismissed
      exact (kept other dismissed).retired (quiet.retired other dismissed).uncalled
    · intro other same
      cases same
    · intro other same
      cases same
  | @remove timerId timer member found sequence =>
    refine quiet.noted sound rfl ?_ ?_ ?_ ?_
    · rintro other (before | same)
      · exact quiet.added other before
      · cases same
    · intro other dismissed
      exact (kept other dismissed).retired (quiet.retired other dismissed).uncalled
    · intro other same before
      cases same
      have gone := gone_of_cancelled quiet.sound (quiet.added timerId before).1
        (.remove member found sequence)
      exact gone.retired careful
    · intro other same
      cases same
  | @mark timerId absent =>
    obtain ⟨created, _, _⟩ := marked_frame world.queue timerId
    refine quiet.noted sound rfl ?_ ?_ ?_ ?_
    · rintro other (before | same)
      · rw [created]
        exact quiet.added other before
      · cases same
    · intro other dismissed
      exact (kept other dismissed).retired (quiet.retired other dismissed).uncalled
    · intro other same before
      cases same
      have gone := gone_of_cancelled quiet.sound (quiet.added timerId before).1 (.mark absent)
      exact gone.retired careful
    · intro other same
      cases same
  | @handleRead now idle =>
    refine quiet.unnoted sound rfl quiet.added ?_
    intro timerId dismissed
    apply (kept timerId dismissed).retired
    rintro pending member rfl
    exact (quiet.retired _ dismissed).inactive
      (due_active quiet.sound now _ (List.mem_map_of_mem member))
  | @call now expired rest next calling =>
    refine quiet.noted sound rfl ?_ ?_ ?_ ?_
    · rintro other (before | same)
      · exact quiet.added other before
      · cases same
    · intro other dismissed
      have uncalled := (quiet.retired other dismissed).uncalled
      rw [calling] at uncalled
      exact (kept other dismissed).retired fun pending member =>
        uncalled pending (List.mem_cons_of_mem _ member)
    · intro other same
      cases same
    · intro other same dismissed
      cases same
      have uncalled := (quiet.retired _ dismissed).uncalled
      rw [calling] at uncalled
      exact uncalled next List.mem_cons_self rfl
  | @finish now later expired middle calling reset =>
    obtain ⟨created, _⟩ := resetAll_active now expired (quiet.sound.batched calling).stopped reset
    obtain ⟨numbers, _⟩ := armFirst_frame middle later
    refine quiet.unnoted sound rfl ?_ ?_
    · intro timerId member
      rw [numbers, created]
      exact quiet.added timerId member
    · intro timerId dismissed
      apply (kept timerId dismissed).retired
      intro pending member
      cases member
  | expire armed reached =>
    refine quiet.unnoted sound rfl quiet.added ?_
    intro timerId dismissed
    exact (kept timerId dismissed).retired (quiet.retired timerId dismissed).uncalled

end Steps

/-- A timer that was added and then cancelled is not started again, in every run whose
cancellations spare the timers of the batch in progress that have not started. -/
theorem cancelled_not_started {steps : List Step} {world : World}
    (run : (machine.restrict Careful).Run .initial steps world) (timerId : TimerId) :
    ¬ [.added timerId, .cancelled timerId, .started timerId].Sublist world.trace := by
  have quiet : Quiet world := by
    apply run.invariant fun _ world => Quiet world
    · exact initial_quiet
    · rintro _ current step after kept ⟨careful, performed⟩
      exact kept.step careful (kept.sound.effect performed)
  exact quiet.silent timerId

instance (world : World) : DecidablePred (Careful world)
  | .delTimerInLoop timerId =>
    inferInstanceAs (Decidable (∀ pending ∈ world.phase.rest, pending.id ≠ timerId))
  | .create _ _ _ | .addTimerInLoop _ _ | .handleRead _ | .call | .finish _ | .expire _ =>
    inferInstanceAs (Decidable True)

/-- A repeating timer that cancels itself. -/
theorem cancelled_not_started_itself :
    ∃ world : World,
      (machine.restrict Careful).Run .initial
        [.create 1 10 5, .addTimerInLoop 0 ⟨1, 0⟩, .expire 10, .handleRead 10, .call,
          .delTimerInLoop ⟨1, 0⟩, .finish 12, .handleRead 40, .finish 41] world ∧
      [.added ⟨1, 0⟩, .cancelled ⟨1, 0⟩].Sublist world.trace ∧
      ¬ [.added ⟨1, 0⟩, .cancelled ⟨1, 0⟩, .started ⟨1, 0⟩].Sublist world.trace := by
  have followed :
      (Machine.follow Step.perform (fun world step => decide (Careful world step)) .initial
      [.create 1 10 5, .addTimerInLoop 0 ⟨1, 0⟩, .expire 10, .handleRead 10, .call,
        .delTimerInLoop ⟨1, 0⟩, .finish 12, .handleRead 40, .finish 41]).any
      (fun world => world.trace == [.added ⟨1, 0⟩, .started ⟨1, 0⟩, .cancelled ⟨1, 0⟩]) = true := by
    decide +kernel
  obtain ⟨world, run, final⟩ := Machine.Run.ofFollowAny (machine.restrict Careful)
    (fun allowed performed => ⟨of_decide_eq_true allowed, performed⟩) followed
  refine ⟨world, run, ?_, cancelled_not_started run ⟨1, 0⟩⟩
  rw [beq_iff_eq.mp final]
  decide

/-- Two timers expire together, and the callback of the first cancels the second: the
second is called all the same. -/
theorem cancelled_in_batch_started :
    ∃ world : World,
      machine.Run .initial
        [.create 1 10 0, .addTimerInLoop 0 ⟨1, 0⟩, .create 2 10 0,
          .addTimerInLoop 0 ⟨2, 1⟩, .expire 10, .handleRead 10, .call,
          .delTimerInLoop ⟨2, 1⟩, .call] world ∧
      [.added ⟨2, 1⟩, .cancelled ⟨2, 1⟩, .started ⟨2, 1⟩].Sublist world.trace := by
  have followed : (Machine.follow Step.perform (fun _ _ => true) .initial
      [.create 1 10 0, .addTimerInLoop 0 ⟨1, 0⟩, .create 2 10 0,
        .addTimerInLoop 0 ⟨2, 1⟩, .expire 10, .handleRead 10, .call,
        .delTimerInLoop ⟨2, 1⟩, .call]).any
      (fun world => world.trace ==
        [.added ⟨1, 0⟩, .added ⟨2, 1⟩, .started ⟨1, 0⟩, .cancelled ⟨2, 1⟩, .started ⟨2, 1⟩]) =
          true := by
    decide +kernel
  obtain ⟨world, run, final⟩ :=
    Machine.Run.ofFollowAny machine (fun _ performed => performed) followed
  refine ⟨world, run, ?_⟩
  rw [beq_iff_eq.mp final]
  decide

end FakeMuduo.Net.TimerRun
