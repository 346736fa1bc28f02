import FakeMuduo.Net.TimerTick

/-! When the callbacks of a timer are started, in a whole run. -/

namespace FakeMuduo.Net

open FakeMuduo.Base

namespace TimerRun

open TimerQueue

/-- The first time at which the next callback is due, after those started at these times. -/
def nextDue (when interval : Int) : List Int → Int
  | [] => when
  | first :: later => nextDue (first + interval) interval later

/-- No callback is started before it is due, and none again unless the timer repeats. -/
def Punctual (when interval : Int) : List Int → Prop
  | [] => True
  | first :: later => when ≤ first ∧ (later ≠ [] → 0 < interval) ∧
      Punctual (first + interval) interval later

section Punctual

variable {interval : Int} {times : List Int}

theorem nextDue_append (when time : Int) :
    nextDue when interval (times ++ [time]) = time + interval := by
  induction times generalizing when with
  | nil => rfl
  | cons first later ih => exact ih (first + interval)

theorem Punctual.append {when time : Int} (punctual : Punctual when interval times)
    (repeats : times ≠ [] → 0 < interval) (late : nextDue when interval times ≤ time) :
    Punctual when interval (times ++ [time]) := by
  induction times generalizing when with
  | nil => exact ⟨late, fun more => absurd rfl more, trivial⟩
  | cons first later ih =>
    obtain ⟨due, _, rest⟩ := punctual
    have again : 0 < interval := repeats (List.cons_ne_nil _ _)
    exact ⟨due, fun _ => again, ih rest (fun _ => again) late⟩

theorem Punctual.spaced {when : Int} (punctual : Punctual when interval times) {number : Nat}
    {time next : Int} (first : times[number]? = some time)
    (second : times[number + 1]? = some next) : time + interval ≤ next := by
  induction times generalizing when number with
  | nil => cases first
  | cons head later ih =>
    obtain ⟨_, _, rest⟩ := punctual
    cases number with
    | zero =>
      cases first
      cases later with
      | nil => cases second
      | cons following later =>
        cases second
        exact rest.1
    | succ number => exact ih rest first second

/-- A timer that is late once is not hurried afterwards. -/
theorem Punctual.no_drift {when : Int} (punctual : Punctual when interval times)
    {number : Nat} {time : Int} (known : times[number]? = some time) :
    when + number * interval ≤ time := by
  induction times generalizing when number with
  | nil => cases known
  | cons head later ih =>
    obtain ⟨due, _, rest⟩ := punctual
    cases number with
    | zero =>
      cases known
      simpa using due
    | succ number =>
      have later := ih rest known
      push_cast
      rw [Int.add_mul, Int.one_mul]
      omega

theorem Punctual.once {when : Int} (punctual : Punctual when interval times)
    (single : interval ≤ 0) :
    times.length ≤ 1 := by
  cases times with
  | nil => exact Nat.zero_le _
  | cons first later =>
    cases later with
    | nil => exact Nat.le_refl _
    | cons second later => exact absurd (punctual.2.1 (List.cons_ne_nil _ _)) (not_lt.mpr single)

end Punctual

/-- A timer and the arguments of its constructor. -/
structure Made where
  timerId : TimerId
  when : Int
  interval : Int
  deriving DecidableEq, Repr

/-- A run, with the timers made so far and the callbacks started, each with the time at which its
`handleRead` read the clock. -/
structure Clocked where
  world : World
  made : List Made
  starts : List (TimerId × Int)

def Clocked.initial : Clocked := ⟨.initial, [], []⟩

def Clocked.note (clocked : Clocked) : Step → Clocked
  | .create address when interval =>
    { clocked with made := clocked.made ++
      [⟨⟨address, clocked.world.queue.numsTimerCreated⟩, when, interval⟩] }
  | .call =>
    match clocked.world.phase with
    | .calling now _ (next :: _) => { clocked with starts := clocked.starts ++ [(next.id, now)] }
    | _ => clocked
  | _ => clocked

def Clocked.perform (clocked : Clocked) (step : Step) : Checked Clocked := do
  let after ← step.perform clocked.world
  return { clocked.note step with world := after }

def clocking : Machine Clocked Step := .ofFunction Clocked.perform

/-- When callbacks of the timer were started. -/
def Clocked.startsOf (clocked : Clocked) (timerId : TimerId) : List Int :=
  (clocked.starts.filter fun start => start.1 = timerId).map Prod.snd

/-- What is known of a timer that was made. -/
structure OnTime (world : World) (starts : List Int) (made : Made) : Prop where
  punctual : Punctual made.when made.interval starts
  numbered : made.timerId.sequence < world.queue.numsTimerCreated
  timer : ∀ {timer}, world.queue.heap made.timerId.timer = some timer →
    timer.sequence = made.timerId.sequence →
    timer.interval = made.interval ∧ timer.repeats = decide (0 < made.interval) ∧
      (made.timerId ∈ world.waiting → timer.expiration = made.when)
  waiting : made.timerId ∈ world.waiting → starts = []
  scheduled : ∀ {expiration}, world.queue.Scheduled made.timerId expiration →
    nextDue made.when made.interval starts ≤ expiration ∧ (starts ≠ [] → 0 < made.interval)
  due : ∀ {now expired rest}, world.phase = .calling now expired rest →
    made.timerId ∈ rest.map Pending.id →
    nextDue made.when made.interval starts ≤ now ∧ (starts ≠ [] → 0 < made.interval)
  called : ∀ {now expired rest}, world.phase = .calling now expired rest →
    made.timerId ∈ expired.map Pending.id →
    made.timerId ∉ rest.map Pending.id → ∃ before, starts = before ++ [now]

/-- The timer is the same one as before, but for its expiration. -/
def SameTimer (world after : World) (timerId : TimerId) : Prop :=
  ∀ {timer}, after.queue.heap timerId.timer = some timer → timer.sequence = timerId.sequence →
    ∃ before, world.queue.heap timerId.timer = some before ∧ before.sequence = timerId.sequence ∧
      before.interval = timer.interval ∧ before.repeats = timer.repeats ∧
      (timerId ∈ world.waiting → before.expiration = timer.expiration)

section Frame

variable {world after : World} {starts : List Int} {made : Made}

/-- A step that starts no callback of this timer, in the same batch or at the end of it. -/
theorem OnTime.frame (onTime : OnTime world starts made)
    (numbered : world.queue.numsTimerCreated ≤ after.queue.numsTimerCreated)
    (waiting : made.timerId ∈ after.waiting → made.timerId ∈ world.waiting)
    (same : SameTimer world after made.timerId)
    (scheduled : ∀ {expiration}, after.queue.Scheduled made.timerId expiration →
      nextDue made.when made.interval starts ≤ expiration ∧ (starts ≠ [] → 0 < made.interval))
    (phase : after.phase = world.phase ∨ after.phase = .idle) : OnTime after starts made := by
  refine ⟨onTime.punctual, Nat.lt_of_lt_of_le onTime.numbered numbered, ?_, ?_, scheduled, ?_, ?_⟩
  · intro timer found sequence
    obtain ⟨before, present, alike, interval, repeats, expiration⟩ := same found sequence
    obtain ⟨known, again, first⟩ := onTime.timer present alike
    refine ⟨interval.symm.trans known, repeats.symm.trans again, ?_⟩
    intro waits
    exact (expiration (waiting waits)).symm.trans (first (waiting waits))
  · intro waits
    exact onTime.waiting (waiting waits)
  · intro now expired rest calling
    rcases phase with unchanged | idle
    · exact onTime.due (unchanged.symm.trans calling)
    · exact absurd (idle.symm.trans calling) nofun
  · intro now expired rest calling
    rcases phase with unchanged | idle
    · exact onTime.called (unchanged.symm.trans calling)
    · exact absurd (idle.symm.trans calling) nofun

theorem sameTimer_of_heap {timerId : TimerId} (heap : after.queue.heap = world.queue.heap) :
    SameTimer world after timerId := by
  intro timer found sequence
  rw [heap] at found
  exact ⟨timer, found, sequence, rfl, rfl, fun _ => rfl⟩

/-- `resetTimer` changes the timers of the batch only, and of those the expiration only. -/
theorem resetAll_heap (now : Int) (expired : List Pending) {queue middle : TimerQueue}
    {waiting : List TimerId} {timerId : TimerId}
    (sound : queue.Sound (expired.map Pending.id) waiting)
    (reset : expired.foldlM (resetExpired now) queue = .ok middle) {timer : Timer}
    (found : middle.heap timerId.timer = some timer)
    (sequence : timer.sequence = timerId.sequence) :
    ∃ before, queue.heap timerId.timer = some before ∧ before.sequence = timerId.sequence ∧
      before.interval = timer.interval ∧ before.repeats = timer.repeats ∧
      (timerId ∉ expired.map Pending.id → before = timer) := by
  induction expired generalizing queue with
  | nil =>
    cases reset
    exact ⟨timer, found, sequence, rfl, rfl, fun _ => rfl⟩
  | cons pending expired ih =>
    rw [List.foldlM_cons] at reset
    obtain ⟨next, first, reset⟩ := bind_eq_ok.mp reset
    obtain ⟨own, _, present, number, call, kept, shape⟩ := sound.resetExpired now
    cases call.symm.trans first
    obtain ⟨middle', there, alike, interval, repeats, unchanged⟩ := ih kept reset
    by_cases here : timerId.timer = pending.entry.timer
    · rcases shape with ⟨again, _, rfl⟩ | ⟨_, rfl⟩
      · change Function.update queue.heap pending.entry.timer _ timerId.timer =
          some middle' at there
        rw [here, Function.update_self] at there
        cases there
        refine ⟨own, by rw [here]; exact present,
          (own.restart_sequence now).symm.trans alike, ?_, ?_, ?_⟩
        · rw [← interval, Timer.restart, if_pos again]
        · rw [← repeats, Timer.restart, if_pos again]
        · intro outside
          have same : timerId = pending.id := by
            rcases timerId with ⟨address, number'⟩
            cases here
            rw [Timer.restart_sequence, number] at alike
            cases alike
            rfl
          exact absurd (same ▸ List.mem_cons_self) outside
      · change Function.update queue.heap pending.entry.timer none timerId.timer =
          some middle' at there
        rw [here, Function.update_self] at there
        cases there
    · have before : queue.heap timerId.timer = some middle' := by
        rcases shape with ⟨_, _, rfl⟩ | ⟨_, rfl⟩
        · exact (Function.update_of_ne here _ _).symm.trans there
        · exact (Function.update_of_ne here _ _).symm.trans there
      refine ⟨middle', before, alike, interval, repeats, ?_⟩
      intro outside
      exact unchanged fun member => outside (List.mem_cons_of_mem _ member)

end Frame

/-- What holds of every timer made and of every callback started. -/
structure Kept (clocked : Clocked) : Prop where
  sound : clocked.world.Sound
  onTime : ∀ made ∈ clocked.made, OnTime clocked.world (clocked.startsOf made.timerId) made
  started : ∀ start ∈ clocked.starts, start.1.sequence < clocked.world.queue.numsTimerCreated

theorem initial_kept : Kept .initial := by
  refine ⟨initial_sound, ?_, ?_⟩
  · intro made member
    cases member
  · intro start member
    cases member

section Steps

variable {clocked : Clocked} {after : World}

theorem Kept.startsOf_fresh (kept : Kept clocked) (address : Address) :
    clocked.startsOf ⟨address, clocked.world.queue.numsTimerCreated⟩ = [] := by
  rw [Clocked.startsOf, List.map_eq_nil_iff, List.filter_eq_nil_iff]
  rintro ⟨timerId, now⟩ member same
  have early := kept.started _ member
  rw [of_decide_eq_true same] at early
  exact Nat.lt_irrefl _ early

theorem OnTime.create {world : World} {starts : List Int} {made : Made}
    (onTime : OnTime world starts made) (sound : world.Sound) {address : Address}
    {when interval : Int} (unused : world.queue.heap address = none) :
    OnTime { world with
      queue := world.queue.createTimer address when interval
      waiting := world.waiting ++ [⟨address, world.queue.numsTimerCreated⟩] } starts made := by
  refine onTime.frame (Nat.le_succ _) ?_ ?_ ?_ (.inl rfl)
  · intro waits
    rcases List.mem_append.mp waits with before | newest
    · exact before
    · rw [List.mem_singleton] at newest
      exact absurd (newest ▸ onTime.numbered) (Nat.lt_irrefl _)
  · intro timer found sequence
    by_cases here : made.timerId.timer = address
    · change Function.update world.queue.heap address _ made.timerId.timer = some timer at found
      rw [here, Function.update_self] at found
      cases found
      exact absurd sequence.symm (Nat.ne_of_lt onTime.numbered)
    · exact ⟨timer, (Function.update_of_ne here _ _).symm.trans found, sequence, rfl,
        rfl, fun _ => rfl⟩
  · intro expiration scheduled
    exact onTime.scheduled ((scheduled_create sound.queue unused).mp scheduled)

/-- A new timer is due when it was made for. -/
theorem onTime_new {world : World} (sound : world.Sound) {address : Address} {when interval : Int}
    (unused : world.queue.heap address = none) :
    OnTime { world with
      queue := world.queue.createTimer address when interval
      waiting := world.waiting ++ [⟨address, world.queue.numsTimerCreated⟩] } []
      ⟨⟨address, world.queue.numsTimerCreated⟩, when, interval⟩ := by
  have dead : ¬ Alive world.queue.heap ⟨address, world.queue.numsTimerCreated⟩ := by
    rintro ⟨timer, found, _⟩
    exact absurd (unused.symm.trans found) nofun
  have unbatched : ⟨address, world.queue.numsTimerCreated⟩ ∉ world.phase.batch.map Pending.id := by
    intro member
    exact dead ((sound.queue.owned.alive _).mpr (.inr (.inl member)))
  refine ⟨trivial, Nat.lt_succ_self _, ?_, fun _ => rfl, ?_, ?_, ?_⟩
  · intro timer found _
    change Function.update world.queue.heap address _ address = some timer at found
    rw [Function.update_self] at found
    cases found
    exact ⟨rfl, rfl, fun _ => rfl⟩
  · intro expiration scheduled
    exact absurd ((scheduled_create sound.queue unused).mp scheduled).2 dead
  · intro now expired rest calling member
    have suffix := sound.suffix
    rw [show world.phase = _ from calling] at suffix unbatched
    exact absurd (List.map_subset _ suffix.subset member) unbatched
  · intro now expired rest calling member
    rw [show world.phase = _ from calling] at unbatched
    exact absurd member unbatched

theorem Kept.create (kept : Kept clocked) {address : Address} {when interval : Int}
    (unused : clocked.world.queue.heap address = none) (bound : address < UINTPTR_MAX) :
    Kept ⟨{ clocked.world with
        queue := clocked.world.queue.createTimer address when interval
        waiting := clocked.world.waiting ++ [⟨address, clocked.world.queue.numsTimerCreated⟩] },
      clocked.made ++ [⟨⟨address, clocked.world.queue.numsTimerCreated⟩, when, interval⟩],
      clocked.starts⟩ := by
  refine ⟨(Effect.create unused bound).sound kept.sound, ?_, ?_⟩
  · intro made member
    rcases List.mem_append.mp member with old | new
    · exact (kept.onTime made old).create kept.sound unused
    · rw [List.mem_singleton] at new
      subst new
      change OnTime _ (clocked.startsOf ⟨address, clocked.world.queue.numsTimerCreated⟩) _
      rw [kept.startsOf_fresh address]
      exact onTime_new kept.sound unused
  · intro start member
    exact Nat.lt_succ_of_lt (kept.started start member)

/-- A step that makes no timer and starts no callback. -/
theorem Kept.quiet (kept : Kept clocked) (sound : after.Sound)
    (numbered : after.queue.numsTimerCreated = clocked.world.queue.numsTimerCreated)
    (onTime : ∀ made starts, OnTime clocked.world starts made → OnTime after starts made) :
    Kept { clocked with world := after } :=
  ⟨sound, fun made member => onTime made _ (kept.onTime made member), fun start member =>
    numbered ▸ kept.started start member⟩

theorem OnTime.add {world : World} {starts : List Int} {made : Made}
    (onTime : OnTime world starts made) {now : Int} {timerId : TimerId} {timer : Timer}
    (member : timerId ∈ world.waiting) (found : world.queue.heap timerId.timer = some timer)
    (sequence : timer.sequence = timerId.sequence) (trace : List Event) :
    OnTime { world with
      queue := world.queue.added now timerId timer.expiration
      waiting := world.waiting.erase timerId
      trace } starts made := by
  obtain ⟨numbers, _⟩ := added_frame world.queue now timerId timer.expiration
  refine onTime.frame (Nat.le_of_eq numbers.symm) List.mem_of_mem_erase
    (sameTimer_of_heap (added_heap world.queue now timerId timer.expiration)) ?_ (.inl rfl)
  intro expiration scheduled
  rcases (scheduled_added found sequence).mp scheduled with before | ⟨same, rfl⟩
  · exact onTime.scheduled before
  · rw [← same] at found sequence member
    obtain ⟨_, _, first⟩ := onTime.timer found sequence
    rw [onTime.waiting member, first member]
    exact ⟨le_refl _, fun some => absurd rfl some⟩

theorem OnTime.remove {world : World} {starts : List Int} {made : Made}
    (onTime : OnTime world starts made) {timerId : TimerId} {timer : Timer}
    (found : world.queue.heap timerId.timer = some timer)
    (sequence : timer.sequence = timerId.sequence) (trace : List Event) :
    OnTime { world with queue := world.queue.removed timerId timer.expiration, trace }
      starts made := by
  refine onTime.frame (Nat.le_refl _) id ?_ ?_ (.inl rfl)
  · intro other present alike
    by_cases here : made.timerId.timer = timerId.timer
    · change Function.update world.queue.heap timerId.timer none made.timerId.timer =
        some other at present
      rw [here, Function.update_self] at present
      cases present
    · exact ⟨other, (Function.update_of_ne here _ _).symm.trans present, alike, rfl,
        rfl, fun _ => rfl⟩
  · intro expiration scheduled
    exact onTime.scheduled ((scheduled_removed found sequence).mp scheduled).1

theorem OnTime.mark {world : World} {starts : List Int} {made : Made}
    (onTime : OnTime world starts made) (timerId : TimerId) (trace : List Event) :
    OnTime { world with queue := world.queue.marked timerId, trace } starts made := by
  obtain ⟨numbers, _⟩ := marked_frame world.queue timerId
  have heap : (world.queue.marked timerId).heap = world.queue.heap := by
    unfold marked
    split <;> rfl
  refine onTime.frame (Nat.le_of_eq numbers.symm) id (sameTimer_of_heap heap) ?_ (.inl rfl)
  intro expiration scheduled
  exact onTime.scheduled (scheduled_marked.mp scheduled)

/-- The timers that are cut off the tree are due. -/
theorem OnTime.handleRead {world : World} {starts : List Int} {made : Made}
    (onTime : OnTime world starts made) (sound : world.Sound) (now : Int) :
    OnTime { world with
      queue := world.queue.called now
      phase := .calling now (world.queue.due now) (world.queue.due now) } starts made := by
  refine { onTime with scheduled := ?_, due := ?_, called := ?_ }
  · intro expiration scheduled
    exact onTime.scheduled ((scheduled_called sound.queue).mp scheduled).1
  · rintro now' expired rest ⟨rfl, rfl, rfl⟩ member
    obtain ⟨expiration, scheduled, early⟩ := (mem_due sound.queue).mp member
    obtain ⟨late, repeats⟩ := onTime.scheduled scheduled
    exact ⟨le_trans late early, repeats⟩
  · rintro now' expired rest ⟨rfl, rfl, rfl⟩ member outside
    exact absurd member outside

theorem Clocked.startsOf_append (clocked : Clocked) (world : World)
    (timerId other : TimerId) (now : Int) :
    Clocked.startsOf ⟨world, clocked.made, clocked.starts ++ [(timerId, now)]⟩ other =
      if timerId = other then clocked.startsOf other ++ [now] else clocked.startsOf other := by
  rw [Clocked.startsOf, List.filter_append, List.map_append]
  split
  case isTrue same => simp [same, Clocked.startsOf]
  case isFalse apart => simp [apart, Clocked.startsOf]

section Call

variable {world : World} {starts : List Int} {made : Made} {now : Int}
  {expired rest : List Pending} {next : Pending}

/-- The timer whose callback is started is only in the batch, and there once. -/
theorem World.Sound.next_apart (sound : world.Sound)
    (calling : world.phase = .calling now expired (next :: rest)) :
    next.id ∉ rest.map Pending.id ∧ next.id ∉ world.waiting ∧
      next.id ∉ world.queue.activeTimers := by
  have suffix := sound.suffix
  rw [calling] at suffix
  have owned := (sound.batched calling).owned
  have member : next.id ∈ expired.map Pending.id :=
    List.mem_map_of_mem (suffix.subset List.mem_cons_self)
  obtain ⟨batch, _, disjoint⟩ := List.nodup_append.mp owned.distinct
  refine ⟨?_, fun waits => disjoint _ member _ waits rfl,
    owned.apart _ (List.mem_append_left _ member)⟩
  have sublist : ((next :: rest).map Pending.id).Sublist (expired.map Pending.id) :=
    suffix.sublist.map _
  exact (List.nodup_cons.mp (batch.sublist sublist)).1

theorem OnTime.call_self (onTime : OnTime world starts made) (sound : world.Sound)
    (calling : world.phase = .calling now expired (next :: rest)) (same : made.timerId = next.id)
    (trace : List Event) :
    OnTime { world with phase := .calling now expired rest, trace } (starts ++ [now]) made := by
  obtain ⟨once, handed, inactive⟩ := sound.next_apart calling
  rw [← same] at once handed inactive
  have first : made.timerId ∈ (next :: rest).map Pending.id := by
    rw [same]
    exact List.mem_cons_self
  obtain ⟨late, repeats⟩ := onTime.due calling first
  refine ⟨onTime.punctual.append repeats late, onTime.numbered, onTime.timer, ?_, ?_, ?_, ?_⟩
  · intro waits
    exact absurd waits handed
  · intro expiration scheduled
    exact absurd (sound.queue.scheduled_found scheduled).1 inactive
  · rintro _ _ _ ⟨rfl, rfl, rfl⟩ member
    exact absurd member once
  · rintro _ _ _ ⟨rfl, rfl, rfl⟩ _ _
    exact ⟨starts, rfl⟩

theorem OnTime.call_other (onTime : OnTime world starts made)
    (calling : world.phase = .calling now expired (next :: rest)) (apart : made.timerId ≠ next.id)
    (trace : List Event) :
    OnTime { world with phase := .calling now expired rest, trace } starts made := by
  refine { onTime with due := ?_, called := ?_ }
  · rintro _ _ _ ⟨rfl, rfl, rfl⟩ member
    exact onTime.due calling (List.mem_cons_of_mem _ member)
  · rintro _ _ _ ⟨rfl, rfl, rfl⟩ member outside
    refine onTime.called calling member ?_
    rw [List.map_cons, List.mem_cons, not_or]
    exact ⟨apart, outside⟩

theorem Kept.call (kept : Kept clocked)
    (calling : clocked.world.phase = .calling now expired (next :: rest)) (trace : List Event) :
    Kept ⟨{ clocked.world with phase := .calling now expired rest, trace }, clocked.made,
      clocked.starts ++ [(next.id, now)]⟩ := by
  have sound : World.Sound { clocked.world with phase := .calling now expired rest, trace } := by
    have called := (Effect.call calling).sound kept.sound
    exact ⟨called.queue, called.calling, called.suffix⟩
  refine ⟨sound, ?_, ?_⟩
  · intro made member
    rw [Clocked.startsOf_append]
    split
    case isTrue same => exact (kept.onTime made member).call_self kept.sound calling same.symm trace
    case isFalse apart => exact (kept.onTime made member).call_other calling (Ne.symm apart) trace
  · intro start member
    rcases List.mem_append.mp member with old | new
    · exact kept.started start old
    · rw [List.mem_singleton] at new
      subst new
      have suffix := kept.sound.suffix
      rw [calling] at suffix
      have queue := kept.sound.batched calling
      have batched : next.id ∈ expired.map Pending.id :=
        List.mem_map_of_mem (suffix.subset List.mem_cons_self)
      exact queue.ledger.numbered _ ((queue.owned.alive _).mpr (.inr (.inl batched)))

/-- The timers that go back to the tree are due one interval after the time they were called at. -/
theorem OnTime.finish {later : Int} {middle : TimerQueue} (onTime : OnTime world starts made)
    (sound : world.Sound) (calling : world.phase = .calling now expired [])
    (reset : expired.foldlM (resetExpired now) { world.queue with callingExpiredTimers := false } =
      .ok middle) :
    OnTime { world with queue := middle.armFirst later, phase := .idle } starts made := by
  have stopped := (sound.batched calling).stopped
  obtain ⟨created, _⟩ := resetAll_active now expired stopped reset
  obtain ⟨numbers, _⟩ := armFirst_frame middle later
  have heap : (middle.armFirst later).heap = middle.heap := by
    unfold armFirst
    split <;> rfl
  refine onTime.frame (Nat.le_of_eq (numbers.trans created).symm) id ?_ ?_ (.inr rfl)
  · intro timer found sequence
    rw [heap] at found
    obtain ⟨before, present, alike, interval, repeats, unchanged⟩ :=
      resetAll_heap now expired stopped reset found sequence
    refine ⟨before, present, alike, interval, repeats, ?_⟩
    intro waits
    have disjoint := (List.nodup_append.mp stopped.owned.distinct).2.2
    rw [unchanged fun member => disjoint _ member _ waits rfl]
  · intro expiration scheduled
    rw [scheduled_armFirst, resetAll_scheduled now expired stopped reset] at scheduled
    rcases scheduled with before | ⟨member, _, timer, found, repeats, rfl⟩
    · exact onTime.scheduled before
    · obtain ⟨_, alive, sequence⟩ := (stopped.owned.alive _).mpr (.inr (.inl member))
      cases alive.symm.trans found
      obtain ⟨interval, again, _⟩ := onTime.timer found sequence
      obtain ⟨before, rfl⟩ := onTime.called calling member List.not_mem_nil
      rw [nextDue_append, interval]
      exact ⟨le_refl _, fun _ => of_decide_eq_true (again.symm.trans repeats)⟩

end Call

theorem Kept.step {step : Step} {next : Clocked} (kept : Kept clocked)
    (performed : clocked.perform step = .ok next) :
    Kept next := by
  obtain ⟨after, taken, same⟩ := bind_eq_ok.mp performed
  cases same
  have effect := kept.sound.effect taken
  have sound := effect.sound kept.sound
  cases effect with
  | create unused bound => exact kept.create unused bound
  | add member found sequence =>
    obtain ⟨numbers, _⟩ := added_frame clocked.world.queue _ _ _
    exact kept.quiet sound numbers fun made starts onTime => onTime.add member found sequence _
  | remove member found sequence =>
    exact kept.quiet sound rfl fun made starts onTime => onTime.remove found sequence _
  | mark absent =>
    obtain ⟨numbers, _⟩ := marked_frame clocked.world.queue _
    exact kept.quiet sound numbers fun made starts onTime => onTime.mark _ _
  | handleRead idle =>
    exact kept.quiet sound rfl fun made starts onTime => onTime.handleRead kept.sound _
  | call calling =>
    simp only [Clocked.note, calling]
    exact kept.call calling _
  | @finish now later expired middle calling reset =>
    obtain ⟨created, _⟩ := resetAll_active now expired (kept.sound.batched calling).stopped reset
    obtain ⟨numbers, _⟩ := armFirst_frame middle later
    exact kept.quiet sound (numbers.trans created) fun made starts onTime =>
      onTime.finish kept.sound calling reset
  | expire armed reached =>
    refine kept.quiet sound rfl fun made starts onTime => ?_
    exact onTime.frame (Nat.le_refl _) id (sameTimer_of_heap rfl)
      (fun scheduled => onTime.scheduled scheduled) (.inl rfl)

end Steps

/-- A timer made for `when` does not start its callback before `when`, nor again less than its
interval later; it is never hurried to catch up, and without a positive interval it
starts at most once. -/
theorem starts_on_time {steps : List Step} {clocked : Clocked}
    (run : clocking.Run .initial steps clocked) {made : Made} (member : made ∈ clocked.made) :
    (∀ (number : Nat) time, (clocked.startsOf made.timerId)[number]? = some time →
      made.when + number * made.interval ≤ time) ∧
    (∀ (number : Nat) time next, (clocked.startsOf made.timerId)[number]? = some time →
      (clocked.startsOf made.timerId)[number + 1]? = some next →
        0 < made.interval ∧ time + made.interval ≤ next) ∧
    (made.interval ≤ 0 → (clocked.startsOf made.timerId).length ≤ 1) := by
  have kept : Kept clocked :=
    run.invariant (fun _ clocked => Kept clocked) initial_kept fun kept performed =>
      kept.step performed
  have punctual := (kept.onTime made member).punctual
  refine ⟨fun number time known => punctual.no_drift known, ?_, punctual.once⟩
  intro number time next first second
  refine ⟨?_, punctual.spaced first second⟩
  by_contra single
  have few := punctual.once (not_lt.mp single)
  obtain ⟨bound, _⟩ := List.getElem?_eq_some_iff.mp second
  omega

/-- The first timer is late by ten, and is next due an interval after that. -/
def lateTimerSteps : List Step :=
  [.create 1 10 5, .addTimerInLoop 0 ⟨1, 0⟩, .create 2 12 0, .addTimerInLoop 0 ⟨2, 1⟩,
    .expire 10, .handleRead 20, .call, .call, .finish 21, .expire 25, .handleRead 26,
    .call, .finish 26]

theorem starts_on_time_late :
    ∃ clocked, clocking.Run .initial lateTimerSteps clocked ∧ ⟨⟨1, 0⟩, 10, 5⟩ ∈ clocked.made ∧
      clocked.startsOf ⟨1, 0⟩ = [20, 26] ∧ ∀ (number : Nat) time next,
        (clocked.startsOf ⟨1, 0⟩)[number]? = some time →
        (clocked.startsOf ⟨1, 0⟩)[number + 1]? = some next → (0 : Int) < 5 ∧ time + 5 ≤ next := by
  have followed :
      (Machine.follow Clocked.perform (fun _ _ => true) .initial lateTimerSteps).any (fun clocked =>
      decide ((⟨⟨1, 0⟩, 10, 5⟩ : Made) ∈ clocked.made ∧ clocked.startsOf ⟨1, 0⟩ = [20, 26])) =
        true := by
    decide +kernel
  obtain ⟨clocked, run, final⟩ :=
    Machine.Run.ofFollowAny clocking (fun _ performed => performed) followed
  obtain ⟨member, starts⟩ := of_decide_eq_true final
  exact ⟨clocked, run, member, starts, (starts_on_time run member).2.1⟩

end TimerRun

end FakeMuduo.Net
