import FakeMuduo.Net.TimerCancel
import FakeMuduo.Net.TimerRequests

/-! In which order the requests of different threads are processed, and when a
cancelled timer is not in the tree. -/

namespace FakeMuduo.Net.TimerRequests

open FakeMuduo.Base

/-- The tree holds an entry of this timer. -/
def World.InTree (world : World) (timerId : TimerId) : Prop :=
  (∃ entry ∈ world.timers.queue.timerTree, entry.timer = timerId.timer) ∧
    TimerQueue.Alive world.timers.queue.heap timerId

/-- A timer whose two requests, to add it and to cancel it, were both processed is
not in the tree. -/
def TakesEffect (world : World) : Prop :=
  ∀ timerId, .added timerId ∈ world.timers.trace → .cancelled timerId ∈ world.timers.trace →
    ¬ world.InTree timerId

/-- No queued request adds a timer that the loop's own thread has cancelled already. -/
def InTime (world : World) : Step → Prop
  | .callFunctor _ => ∀ timerId ∈ world.cancelledAtOnce, world.place.requests.head? ≠
      some (.addTimer timerId)
  | _ => True

theorem World.inTree_iff {world : World} (sound : world.timers.Sound) (timerId : TimerId) :
    world.InTree timerId ↔ timerId ∈ world.timers.queue.activeTimers := by
  constructor
  · rintro ⟨⟨entry, member, same⟩, alive⟩
    obtain ⟨timer, found, _, active⟩ := sound.queue.matched.entries entry member
    have equal : timerId = ⟨entry.timer, timer.sequence⟩ :=
      alive.eq_of_timer ⟨timer, found, rfl⟩ same.symm
    exact equal ▸ active
  · intro active
    obtain ⟨timer, found, sequence, held⟩ := sound.queue.matched.ids timerId active
    exact ⟨⟨_, held, rfl⟩, timer, found, sequence⟩

/-- The order of requests. A timer that waits to be added has its request in the queue from the time
`addTimer` returns, before every request to cancel it; only the loop's own thread can be earlier. -/
structure Orderly (timers : TimerRun.World) (queued : List Request) (callers : Nat → Caller)
    (returned cancelledAtOnce : List TimerId) : Prop where
  sound : timers.Sound
  returnedNumber : ∀ timerId ∈ returned, timerId.sequence < timers.queue.numsTimerCreated
  callerNumber : ∀ thread timerId, callers thread = .created timerId ∨
    callers thread = .posted timerId →
    timerId.sequence < timers.queue.numsTimerCreated
  asked : ∀ timerId, .delTimer timerId ∈ queued → timerId ∈ returned
  cancelled : ∀ timerId, .cancelled timerId ∈ timers.trace → timerId ∈ returned
  returnedQueued : ∀ timerId ∈ returned, timerId ∈ timers.waiting → .addTimer timerId ∈ queued
  postedQueued : ∀ thread timerId, callers thread = .posted timerId → timerId ∈ timers.waiting →
    .addTimer timerId ∈ queued
  inOrder : ∀ before timerId after, queued = before ++ .delTimer timerId :: after →
    timerId ∈ timers.waiting →
    .addTimer timerId ∈ before
  carriedOut : ∀ timerId ∈ cancelledAtOnce, .cancelled timerId ∈ timers.trace
  early : ∀ timerId, .cancelled timerId ∈ timers.trace → timerId ∈ timers.waiting →
    timerId ∈ cancelledAtOnce
  added : ∀ timerId, .added timerId ∈ timers.trace →
    timerId ∉ timers.waiting ∧ timerId.sequence < timers.queue.numsTimerCreated
  gone : ∀ timerId, .added timerId ∈ timers.trace → .cancelled timerId ∈ timers.trace →
    TimerRun.Gone timers timerId

def World.Orderly (world : World) : Prop :=
  TimerRequests.Orderly world.timers world.queued world.callers world.returned world.cancelledAtOnce

theorem initial_orderly : World.initial.Orderly := by
  refine ⟨TimerRun.initial_sound, ?_, ?_, ?_, ?_, ?_, ?_, ?_, ?_, ?_, ?_, ?_⟩
  all_goals simp [World.initial, World.queued, Place.requests, TimerRun.World.initial]

section Steps

variable {timers after : TimerRun.World} {queued rest : List Request} {callers : Nat → Caller}
  {returned cancelledAtOnce : List TimerId} {timerId : TimerId}

/-- A step of the timer queue that processes no request. -/
theorem Orderly.internal {step : TimerRun.Step}
    (orderly : Orderly timers queued callers returned cancelledAtOnce)
    (effect : TimerRun.Effect timers step after) (waiting : after.waiting = timers.waiting)
    (created : after.queue.numsTimerCreated = timers.queue.numsTimerCreated)
    (adds : ∀ timerId, .added timerId ∈ after.trace → .added timerId ∈ timers.trace)
    (cancels : ∀ timerId, .cancelled timerId ∈ after.trace ↔ .cancelled timerId ∈ timers.trace) :
    Orderly after queued callers returned cancelledAtOnce := by
  refine ⟨effect.sound orderly.sound, ?_, ?_, orderly.asked, ?_, ?_, ?_, ?_, ?_, ?_, ?_, ?_⟩
  · rw [created]
    exact orderly.returnedNumber
  · rw [created]
    exact orderly.callerNumber
  · intro timerId member
    exact orderly.cancelled timerId ((cancels timerId).mp member)
  · rw [waiting]
    exact orderly.returnedQueued
  · rw [waiting]
    exact orderly.postedQueued
  · rw [waiting]
    exact orderly.inOrder
  · intro timerId member
    exact (cancels timerId).mpr (orderly.carriedOut timerId member)
  · intro timerId member
    rw [waiting]
    exact orderly.early timerId ((cancels timerId).mp member)
  · intro timerId member
    rw [waiting, created]
    exact orderly.added timerId (adds timerId member)
  · intro timerId member cancelled
    have known := adds timerId member
    exact (orderly.gone timerId known ((cancels timerId).mp cancelled)).step orderly.sound
      (orderly.added timerId known).2
      effect

/-- A new timer, of which nobody knows yet. -/
theorem Orderly.create {address : Address} {when interval : Int}
    (orderly : Orderly timers queued callers returned cancelledAtOnce)
    (effect : TimerRun.Effect timers (.create address when interval) after) :
    Orderly after queued callers returned cancelledAtOnce := by
  have sound := effect.sound orderly.sound
  have gone : ∀ timerId, .added timerId ∈ timers.trace → .cancelled timerId ∈ timers.trace →
      TimerRun.Gone after timerId := fun timerId added cancelled =>
    (orderly.gone timerId added cancelled).step orderly.sound (orderly.added timerId added).2 effect
  cases effect with
  | create unused bound =>
    have old : ∀ timerId : TimerId, timerId.sequence < timers.queue.numsTimerCreated →
        timerId ∈ timers.waiting ++ [⟨address, timers.queue.numsTimerCreated⟩] →
          timerId ∈ timers.waiting := by
      intro timerId bound member
      rcases List.mem_append.mp member with waits | new
      · exact waits
      · rw [List.mem_singleton.mp new] at bound
        exact absurd bound (Nat.lt_irrefl _)
    refine ⟨sound, ?_, ?_, orderly.asked, orderly.cancelled, ?_, ?_, ?_,
      orderly.carriedOut, ?_, ?_, gone⟩
    · intro timerId member
      exact Nat.lt_succ_of_lt (orderly.returnedNumber timerId member)
    · intro thread timerId caller
      exact Nat.lt_succ_of_lt (orderly.callerNumber thread timerId caller)
    · intro timerId member waits
      exact orderly.returnedQueued timerId member
        (old timerId (orderly.returnedNumber timerId member) waits)
    · intro thread timerId caller waits
      exact orderly.postedQueued thread timerId caller
        (old timerId (orderly.callerNumber thread timerId (.inr caller)) waits)
    · intro before timerId later split waits
      have known := orderly.asked timerId (split ▸ List.mem_append_right _ List.mem_cons_self)
      exact orderly.inOrder before timerId later
        split (old timerId (orderly.returnedNumber timerId known) waits)
    · intro timerId cancelled waits
      have known := orderly.cancelled timerId cancelled
      exact orderly.early timerId cancelled
        (old timerId (orderly.returnedNumber timerId known) waits)
    · intro timerId added
      obtain ⟨absent, known⟩ := orderly.added timerId added
      exact ⟨fun waits => absent (old timerId known waits), Nat.lt_succ_of_lt known⟩

/-- The request to add a timer is processed, from the queue or at once, before one to cancel it. -/
theorem Orderly.add {now : Int} (orderly : Orderly timers queued callers returned cancelledAtOnce)
    (effect : TimerRun.Effect timers (.addTimerInLoop now timerId) after)
    (inTime : .cancelled timerId ∉ timers.trace)
    (taken : queued = rest ∨ queued = .addTimer timerId :: rest) :
    Orderly after rest callers returned cancelledAtOnce := by
  have sound := effect.sound orderly.sound
  have gone : ∀ other, .added other ∈ timers.trace → .cancelled other ∈ timers.trace →
      TimerRun.Gone after other :=
    fun other added cancelled =>
      (orderly.gone other added cancelled).step orderly.sound (orderly.added other added).2 effect
  have distinct := (List.nodup_append.mp orderly.sound.queue.owned.distinct).2.1
  cases effect with
  | @add _ _ timer member found sequence =>
    obtain ⟨created, _, _⟩ := TimerRun.added_frame timers.queue now timerId timer.expiration
    have left : ∀ other, other ∈ timers.waiting.erase timerId →
        other ∈ timers.waiting ∧ other ≠ timerId := by
      intro other waits
      obtain ⟨apart, still⟩ := distinct.mem_erase_iff.mp waits
      exact ⟨still, apart⟩
    have still : ∀ other, other ≠ timerId → .addTimer other ∈ queued → .addTimer other ∈ rest := by
      intro other apart member
      rcases taken with rfl | rfl
      · exact member
      · rcases List.mem_cons.mp member with same | later
        · exact absurd (Request.addTimer.inj same) apart
        · exact later
    have uncancelled : ∀ other, .cancelled other ∈ timers.trace ++ [.added timerId] →
        .cancelled other ∈ timers.trace := by
      intro other cancelled
      rcases List.mem_append.mp cancelled with before | new
      · exact before
      · cases List.mem_singleton.mp new
    refine ⟨sound, ?_, ?_, ?_, ?_, ?_, ?_, ?_, ?_, ?_, ?_, ?_⟩
    · rw [created]
      exact orderly.returnedNumber
    · rw [created]
      exact orderly.callerNumber
    · intro other member
      apply orderly.asked other
      rcases taken with rfl | rfl
      · exact member
      · exact List.mem_cons_of_mem _ member
    · intro other cancelled
      exact orderly.cancelled other (uncancelled other cancelled)
    · intro other member waits
      obtain ⟨waited, apart⟩ := left other waits
      exact still other apart (orderly.returnedQueued other member waited)
    · intro thread other caller waits
      obtain ⟨waited, apart⟩ := left other waits
      exact still other apart (orderly.postedQueued thread other caller waited)
    · intro before other later split waits
      obtain ⟨waited, apart⟩ := left other waits
      rcases taken with rfl | rfl
      · exact orderly.inOrder before other later split waited
      · have first := orderly.inOrder (.addTimer timerId :: before) other later
          (by rw [split]; rfl) waited
        rcases List.mem_cons.mp first with same | earlier
        · exact absurd (Request.addTimer.inj same) apart
        · exact earlier
    · intro other member
      exact List.mem_append_left _ (orderly.carriedOut other member)
    · intro other cancelled waits
      exact orderly.early other (uncancelled other cancelled) (left other waits).1
    · intro other added
      rw [created]
      rcases List.mem_append.mp added with before | new
      · obtain ⟨absent, known⟩ := orderly.added other before
        exact ⟨fun waits => absent (left other waits).1, known⟩
      · cases List.mem_singleton.mp new
        exact ⟨fun waits => (left timerId waits).2 rfl,
          orderly.sound.queue.ledger.numbered timerId ⟨timer, found, sequence⟩⟩
    · intro other added cancelled
      have earlier := uncancelled other cancelled
      rcases List.mem_append.mp added with before | new
      · exact gone other before earlier
      · cases List.mem_singleton.mp new
        exact absurd earlier inTime

theorem cancelled_frame (effect : TimerRun.Effect timers (.delTimerInLoop timerId) after) :
    after.waiting = timers.waiting ∧ after.queue.numsTimerCreated = timers.queue.numsTimerCreated ∧
      after.trace = timers.trace ++ [.cancelled timerId] := by
  cases effect with
  | remove => exact ⟨rfl, rfl, rfl⟩
  | mark => exact ⟨rfl, (TimerRun.marked_frame timers.queue timerId).1, rfl⟩

/-- The request to cancel a timer is processed, from the queue or at once. -/
theorem Orderly.cancel {nowCancelled : List TimerId}
    (orderly : Orderly timers queued callers returned cancelledAtOnce)
    (effect : TimerRun.Effect timers (.delTimerInLoop timerId) after) (known : timerId ∈ returned)
    (taken : queued = rest ∨ queued = .delTimer timerId :: rest)
    (noted : ∀ other, other ∈ nowCancelled → other ∈ cancelledAtOnce ∨ other = timerId)
    (kept : ∀ other ∈ cancelledAtOnce, other ∈ nowCancelled)
    (early : timerId ∈ timers.waiting → timerId ∈ nowCancelled) :
    Orderly after rest callers returned nowCancelled := by
  have sound := effect.sound orderly.sound
  obtain ⟨waiting, created, trace⟩ := cancelled_frame effect
  have unadded : ∀ other, .added other ∈ after.trace → .added other ∈ timers.trace := by
    intro other added
    rw [trace] at added
    rcases List.mem_append.mp added with before | new
    · exact before
    · cases List.mem_singleton.mp new
  have still : ∀ other, .addTimer other ∈ queued → .addTimer other ∈ rest := by
    intro other member
    rcases taken with rfl | rfl
    · exact member
    · rcases List.mem_cons.mp member with same | later
      · cases same
      · exact later
  refine ⟨sound, ?_, ?_, ?_, ?_, ?_, ?_, ?_, ?_, ?_, ?_, ?_⟩
  · rw [created]
    exact orderly.returnedNumber
  · rw [created]
    exact orderly.callerNumber
  · intro other member
    apply orderly.asked other
    rcases taken with rfl | rfl
    · exact member
    · exact List.mem_cons_of_mem _ member
  · intro other cancelled
    rw [trace] at cancelled
    rcases List.mem_append.mp cancelled with before | new
    · exact orderly.cancelled other before
    · cases List.mem_singleton.mp new
      exact known
  · intro other member waits
    exact still other (orderly.returnedQueued other member (waiting ▸ waits))
  · intro thread other caller waits
    exact still other (orderly.postedQueued thread other caller (waiting ▸ waits))
  · intro before other later split waits
    rw [waiting] at waits
    rcases taken with rfl | rfl
    · exact orderly.inOrder before other later split waits
    · have first := orderly.inOrder (.delTimer timerId :: before) other later
        (by rw [split]; rfl) waits
      rcases List.mem_cons.mp first with same | earlier
      · cases same
      · exact earlier
  · intro other member
    rw [trace, List.mem_append, List.mem_singleton]
    rcases noted other member with before | same
    · exact .inl (orderly.carriedOut other before)
    · exact .inr (congrArg _ same)
  · intro other cancelled waits
    rw [trace] at cancelled
    rw [waiting] at waits
    rcases List.mem_append.mp cancelled with before | new
    · exact kept other (orderly.early other before waits)
    · cases List.mem_singleton.mp new
      exact early waits
  · intro other added
    rw [waiting, created]
    exact orderly.added other (unadded other added)
  · intro other added cancelled
    have known := unadded other added
    obtain ⟨unawaited, number⟩ := orderly.added other known
    rw [trace] at cancelled
    rcases List.mem_append.mp cancelled with before | new
    · exact (orderly.gone other known before).step orderly.sound number effect
    · cases List.mem_singleton.mp new
      exact TimerRun.gone_of_cancelled orderly.sound unawaited effect

/-- A request at the head of the queue to cancel a timer finds it added. -/
theorem Orderly.head_added
    (orderly : Orderly timers (.delTimer timerId :: rest) callers returned cancelledAtOnce) :
    timerId ∉ timers.waiting := by
  intro waits
  cases orderly.inOrder [] timerId rest rfl waits

/-- Another thread goes on in its call of `addTimer`. -/
theorem Orderly.setCaller
    (orderly : Orderly timers queued callers returned cancelledAtOnce) (thread : Nat)
    (caller : Caller) (number : ∀ timerId, caller = .created timerId ∨ caller = .posted timerId →
      timerId.sequence < timers.queue.numsTimerCreated)
    (post : ∀ timerId, caller = .posted timerId → timerId ∈ timers.waiting →
      .addTimer timerId ∈ queued) :
    Orderly timers queued (Function.update callers thread caller) returned cancelledAtOnce := by
  refine { orderly with callerNumber := ?_, postedQueued := ?_ }
  · intro other timerId placed
    by_cases same : other = thread
    · subst same
      rw [Function.update_self] at placed
      exact number timerId placed
    · rw [Function.update_of_ne same] at placed
      exact orderly.callerNumber other timerId placed
  · intro other timerId placed
    by_cases same : other = thread
    · subst same
      rw [Function.update_self] at placed
      exact post timerId placed
    · rw [Function.update_of_ne same] at placed
      exact orderly.postedQueued other timerId placed

/-- Another thread queues a request; one to cancel a timer comes after the
timer's id was returned. -/
theorem Orderly.enqueue (orderly : Orderly timers queued callers returned cancelledAtOnce)
    (request : Request) (known : ∀ timerId, request = .delTimer timerId → timerId ∈ returned) :
    Orderly timers (queued ++ [request]) callers returned cancelledAtOnce := by
  refine { orderly with asked := ?_, returnedQueued := ?_, postedQueued := ?_, inOrder := ?_ }
  · intro timerId member
    rcases List.mem_append.mp member with before | new
    · exact orderly.asked timerId before
    · exact known timerId (List.mem_singleton.mp new).symm
  · intro timerId member waits
    exact List.mem_append_left _ (orderly.returnedQueued timerId member waits)
  · intro thread timerId caller waits
    exact List.mem_append_left _ (orderly.postedQueued thread timerId caller waits)
  · intro before timerId later split waits
    rcases List.eq_nil_or_concat later with rfl | ⟨front, last, rfl⟩
    · obtain ⟨rfl, same⟩ := List.append_inj' split rfl
      exact orderly.returnedQueued timerId (known timerId (List.singleton_inj.mp same)) waits
    · have shorter : queued = before ++ .delTimer timerId :: front := by
        rw [List.concat_eq_append, ← List.cons_append, ← List.append_assoc] at split
        exact (List.append_inj' split rfl).1
      exact orderly.inOrder before timerId front shorter waits

/-- A call of `addTimer` returns. -/
theorem Orderly.return (orderly : Orderly timers queued callers returned cancelledAtOnce)
    (number : timerId.sequence < timers.queue.numsTimerCreated)
    (post : timerId ∈ timers.waiting → .addTimer timerId ∈ queued) :
    Orderly timers queued callers (returned ++ [timerId]) cancelledAtOnce := by
  refine { orderly with returnedNumber := ?_, asked := ?_, cancelled := ?_, returnedQueued := ?_ }
  · intro other member
    rcases List.mem_append.mp member with before | new
    · exact orderly.returnedNumber other before
    · rw [List.mem_singleton.mp new]
      exact number
  · intro other member
    exact List.mem_append_left _ (orderly.asked other member)
  · intro other member
    exact List.mem_append_left _ (orderly.cancelled other member)
  · intro other member
    rcases List.mem_append.mp member with before | new
    · exact orderly.returnedQueued other before
    · rw [List.mem_singleton.mp new]
      exact post

end Steps

variable {world after : World}

theorem World.takes_effect {step : TimerRun.Step} (performed : world.takes step = .ok after)
    (sound : world.timers.Sound) :
    ∃ timers, TimerRun.Effect world.timers step timers ∧ { world with timers } = after := by
  obtain ⟨timers, taken, returned⟩ := bind_eq_ok.mp performed
  exact ⟨timers, sound.effect taken, Except.ok.inj returned⟩

theorem World.queued_push (world : World) (request : Request) :
    { world with pending := world.pending ++ [request] }.queued = world.queued ++ [request] :=
  (List.append_assoc _ _ _).symm

/-- The steps of the timer queue that process no request. -/
def isOwn : TimerRun.Step → Bool
  | .handleRead _ | .call | .finish _ | .expire _ => true
  | .create _ _ _ | .addTimerInLoop _ _ | .delTimerInLoop _ => false

theorem World.Orderly.takes_own (orderly : world.Orderly) {step : TimerRun.Step}
    (own : isOwn step = true) (performed : world.takes step = .ok after) : after.Orderly := by
  obtain ⟨timers, effect, rfl⟩ := World.takes_effect performed orderly.sound
  have started : ∀ (trace : List TimerRun.Event) (event other : TimerRun.Event), event ≠ other →
      (event ∈ trace ++ [other] ↔ event ∈ trace) := by
    intro trace event other apart
    rw [List.mem_append, List.mem_singleton, or_iff_left apart]
  have sound := orderly.sound
  cases effect with
  | create | add | remove | mark => cases own
  | handleRead idle =>
    exact TimerRequests.Orderly.internal orderly (.handleRead idle) rfl rfl (fun _ => id)
      (fun _ => Iff.rfl)
  | call calling =>
    exact TimerRequests.Orderly.internal orderly (.call calling) rfl rfl
      (fun _ => (started _ _ _ TimerRun.Event.noConfusion).mp)
        (fun _ => started _ _ _ TimerRun.Event.noConfusion)
  | @finish now later expired middle calling reset =>
    obtain ⟨created, _⟩ :=
      TimerRun.resetAll_active now expired (sound.batched calling).stopped reset
    obtain ⟨numbers, _⟩ := TimerRun.armFirst_frame middle later
    exact TimerRequests.Orderly.internal orderly (.finish calling reset) rfl
      (numbers.trans created) (fun _ => id)
      (fun _ => Iff.rfl)
  | expire armed reached =>
    exact TimerRequests.Orderly.internal orderly (.expire armed reached) rfl rfl (fun _ => id)
      (fun _ => Iff.rfl)

/-- The queue's order does not depend on how much of it the loop's thread has taken. -/
theorem World.Orderly.congr (orderly : world.Orderly) (timers : after.timers = world.timers)
    (queued : after.queued = world.queued) (callers : after.callers = world.callers)
    (returned : after.returned = world.returned)
    (atOnce : after.cancelledAtOnce = world.cancelledAtOnce) :
    after.Orderly := by
  rw [World.Orderly, timers, queued, callers, returned, atOnce]
  exact orderly

theorem World.Orderly.callFunctor (orderly : world.Orderly) {request : Request}
    {requests : List Request} {now : Int} (calling : world.place = .calling (request :: requests))
    (inTime : ∀ timerId ∈ world.cancelledAtOnce, request ≠ .addTimer timerId)
    (performed : { world with place := .calling requests }.callFunctor now request = .ok after) :
    after.Orderly := by
  have taken : world.queued = request :: { world with place := .calling requests }.queued := by
    rw [World.queued, calling]
    rfl
  cases request with
  | addTimer timerId =>
    obtain ⟨timers, effect, rfl⟩ := World.takes_effect performed orderly.sound
    refine TimerRequests.Orderly.add orderly effect ?_ (.inr taken)
    intro cancelled
    cases effect with
    | add member => exact inTime timerId (orderly.early timerId cancelled member) rfl
  | delTimer timerId =>
    obtain ⟨timers, effect, rfl⟩ := World.takes_effect performed orderly.sound
    have known := orderly.asked timerId (taken ▸ List.mem_cons_self)
    refine TimerRequests.Orderly.cancel orderly effect known (.inr taken) (fun _ => .inl)
      (fun _ => id) ?_
    intro waits
    rw [World.Orderly, taken] at orderly
    exact absurd waits orderly.head_added

theorem World.Orderly.addTimer (orderly : world.Orderly) {address : Address}
    {when interval now : Int} (performed : (do
      let created ← world.takes (.create address when interval)
      let added ← created.takes (.addTimerInLoop now (world.nextId address))
      return { added with returned := world.returned ++ [world.nextId address] }) =
        Except.ok after) :
    after.Orderly := by
  obtain ⟨created, createdOk, rest⟩ := bind_eq_ok.mp performed
  obtain ⟨added, addedOk, returned⟩ := bind_eq_ok.mp rest
  cases returned
  obtain ⟨timers, creates, rfl⟩ := World.takes_effect createdOk orderly.sound
  have known := TimerRequests.Orderly.create orderly creates
  obtain ⟨final, adds, rfl⟩ := World.takes_effect addedOk known.sound
  have fresh : .cancelled (world.nextId address) ∉ timers.trace := by
    intro cancelled
    cases creates with
    | create =>
      have bound := orderly.returnedNumber _ (orderly.cancelled _ cancelled)
      exact absurd bound (Nat.lt_irrefl _)
  have kept := known.add adds fresh (.inl rfl)
  have noted : .added (world.nextId address) ∈ final.trace := by
    cases adds with
    | add => exact List.mem_append_right _ List.mem_cons_self
  obtain ⟨absent, number⟩ := kept.added _ noted
  exact kept.return number fun waits => absurd waits absent

theorem World.Orderly.cancel (orderly : world.Orderly) {timerId : TimerId}
    (known : timerId ∈ world.returned) (performed : (do
      let cancelled ← world.takes (.delTimerInLoop timerId)
      return { cancelled with cancelledAtOnce := world.cancelledAtOnce ++ [timerId] }) =
        Except.ok after) :
    after.Orderly := by
  obtain ⟨cancelled, taken, returned⟩ := bind_eq_ok.mp performed
  cases returned
  obtain ⟨timers, effect, rfl⟩ := World.takes_effect taken orderly.sound
  refine TimerRequests.Orderly.cancel orderly effect known (.inl rfl) ?_ ?_ ?_
  · intro other member
    exact (List.mem_append.mp member).imp_right List.mem_singleton.mp
  · intro other member
    exact List.mem_append_left _ member
  · intro _
    exact List.mem_append_right _ List.mem_cons_self

theorem World.Orderly.newTimer (orderly : world.Orderly) (thread : Nat) {address : Address}
    {when interval : Int} (performed : (do
      let created ← world.takes (.create address when interval)
      return { created with
        callers := Function.update world.callers thread (.created (world.nextId address)) }) =
          Except.ok after) :
    after.Orderly := by
  obtain ⟨created, taken, returned⟩ := bind_eq_ok.mp performed
  cases returned
  obtain ⟨timers, effect, rfl⟩ := World.takes_effect taken orderly.sound
  have known := TimerRequests.Orderly.create orderly effect
  refine known.setCaller thread _ ?_ ?_
  · intro timerId placed
    cases effect with
    | create =>
      rcases placed with same | same
      · cases same
        exact Nat.lt_succ_self _
      · cases same
  · intro timerId same
    cases same

theorem World.Orderly.post (orderly : world.Orderly) {thread : Nat} {timerId : TimerId}
    (created : world.callers thread = .created timerId) :
    World.Orderly { world with
      pending := world.pending ++ [.addTimer timerId]
      callers := Function.update world.callers thread (.posted timerId) } := by
  have number := orderly.callerNumber thread timerId (.inl created)
  have queued := TimerRequests.Orderly.enqueue orderly (.addTimer timerId)
    (fun _ => Request.noConfusion)
  rw [← World.queued_push] at queued
  refine queued.setCaller thread _ ?_ ?_
  · intro other placed
    rcases placed with same | same
    · cases same
    · cases same
      exact number
  · intro other same _
    cases same
    rw [World.queued_push]
    exact List.mem_append_right _ List.mem_cons_self

theorem World.Orderly.returnId (orderly : world.Orderly) {thread : Nat} {timerId : TimerId}
    (posted : world.callers thread = .posted timerId) :
    World.Orderly { world with
      returned := world.returned ++ [timerId]
      callers := Function.update world.callers thread .idle } := by
  have kept := TimerRequests.Orderly.return orderly
    (orderly.callerNumber thread timerId (.inr posted))
    (orderly.postedQueued thread timerId posted)
  refine kept.setCaller thread _ ?_ ?_
  · intro other placed
    rcases placed with same | same
    · cases same
    · cases same
  · intro other same
    cases same

theorem World.Orderly.step (orderly : world.Orderly) {step : Step} (inTime : InTime world step)
    (performed : world.perform step = .ok after) : after.Orderly := by
  cases step with
  | addTimer address when interval now =>
    rw [World.perform] at performed
    split at performed
    · exact orderly.addTimer performed
    · cases performed
  | cancel timerId =>
    rw [World.perform] at performed
    split at performed
    · rename_i ready
      exact orderly.cancel ready.2 performed
    · cases performed
  | newTimer thread address when interval =>
    rw [World.perform] at performed
    split at performed
    · exact orderly.newTimer thread performed
    · cases performed
  | post thread =>
    rw [World.perform] at performed
    split at performed
    · rename_i timerId created
      cases performed
      exact orderly.post created
    · cases performed
  | returnId thread =>
    rw [World.perform] at performed
    split at performed
    · rename_i timerId posted
      obtain ⟨timer, _, rest⟩ := bind_eq_ok.mp performed
      split at rest
      · cases rest
        exact orderly.returnId posted
      · cases rest
    · cases performed
  | foreignCancel timerId =>
    obtain ⟨known, rfl⟩ := guarded_eq_ok.mp performed
    have kept := TimerRequests.Orderly.enqueue orderly (.delTimer timerId) (by
      intro other same
      cases same
      exact known)
    rw [← World.queued_push] at kept
    exact kept
  | loop =>
    obtain ⟨outside, rfl⟩ := guarded_eq_ok.mp performed
    refine orderly.congr rfl ?_ rfl rfl rfl
    rw [World.queued, World.queued, outside.1]
    rfl
  | epollWait =>
    obtain ⟨polling, rfl⟩ := guarded_eq_ok.mp performed
    refine orderly.congr rfl ?_ rfl rfl rfl
    rw [World.queued, World.queued, polling]
    rfl
  | handleRead now =>
    rw [World.perform] at performed
    split at performed
    · exact orderly.takes_own rfl performed
    · cases performed
  | call => exact orderly.takes_own rfl performed
  | finish later => exact orderly.takes_own rfl performed
  | expire now => exact orderly.takes_own rfl performed
  | doPendingFunctors =>
    obtain ⟨handled, rfl⟩ := guarded_eq_ok.mp performed
    refine orderly.congr rfl ?_ rfl rfl rfl
    rw [World.queued, World.queued, handled.1]
    exact List.append_nil _
  | callFunctor now =>
    rw [World.perform] at performed
    split at performed
    · rename_i request requests calling
      refine orderly.callFunctor calling ?_ performed
      intro timerId member same
      apply inTime timerId member
      rw [calling, same]
      rfl
    · cases performed
  | endFunctors =>
    obtain ⟨called, rfl⟩ := guarded_eq_ok.mp performed
    refine orderly.congr rfl ?_ rfl rfl rfl
    rw [World.queued, World.queued, called]
    rfl

theorem World.Orderly.takesEffect (orderly : world.Orderly) : TakesEffect world := by
  intro timerId added cancelled held
  exact (orderly.gone timerId added cancelled).inactive
    ((World.inTree_iff orderly.sound timerId).mp held)

/-- A request that comes too late puts a cancelled timer into the tree. -/
theorem World.Orderly.inTime (orderly : world.Orderly) {step : Step}
    (performed : world.perform step = .ok after) (takesEffect : TakesEffect after) :
    InTime world step := by
  cases step with
  | callFunctor now =>
    intro timerId member head
    rw [World.perform] at performed
    split at performed
    · rename_i request requests calling
      rw [calling] at head
      cases head
      obtain ⟨timers, effect, rfl⟩ := World.takes_effect performed orderly.sound
      have sound := effect.sound orderly.sound
      have cancelled := orderly.carriedOut timerId member
      cases effect with
      | @add _ _ timer waits found sequence =>
        obtain ⟨_, _, active⟩ :=
          TimerRun.added_frame world.timers.queue now timerId timer.expiration
        apply takesEffect timerId
        · exact List.mem_append_right _ List.mem_cons_self
        · exact List.mem_append_left _ cancelled
        · rw [World.inTree_iff sound, active]
          exact Finset.mem_insert_self _ _
    · cases performed
  | _ => trivial

/-- Cancelling takes effect throughout exactly the runs in which no queued request adds a timer
after the loop's own thread has cancelled it. -/
theorem takesEffect_iff_inTime {steps : List Step} {world : World} :
    machine.Throughout TakesEffect .initial steps world ↔
      (machine.restrict InTime).Run .initial steps world :=
  Machine.throughout_iff_restrict initial_orderly (fun _ orderly => orderly.takesEffect)
    (fun orderly performed =>
      ⟨orderly.inTime performed, fun inTime => orderly.step inTime performed⟩)

/-- Another thread adds a repeating timer, and the loop's thread cancels it before
it takes the request. -/
def lateAddSteps : List Step :=
  [.newTimer 0 1 10 5, .post 0, .returnId 0, .cancel ⟨1, 0⟩, .loop, .epollWait,
    .doPendingFunctors, .callFunctor 0, .endFunctors]

theorem cancel_without_effect :
    ∃ world, machine.Run .initial lateAddSteps world ∧ world.timers.phase = .idle ∧
      ¬ TakesEffect world := by
  have followed :
      (Machine.follow World.perform (fun _ _ => true) .initial lateAddSteps).any (fun world =>
      decide (world.timers.phase = .idle ∧ world.timers.trace = [.cancelled ⟨1, 0⟩, .added ⟨1, 0⟩] ∧
        world.timers.queue.timerTree.elements = [⟨10, 1⟩] ∧
        (world.timers.queue.heap 1).map Timer.sequence = some 0)) = true := by
    decide +kernel
  obtain ⟨world, run, final⟩ :=
    Machine.Run.ofFollowAny machine (fun _ performed => performed) followed
  obtain ⟨idle, trace, tree, heap⟩ := of_decide_eq_true final
  refine ⟨world, run, idle, ?_⟩
  intro takesEffect
  obtain ⟨timer, found, sequence⟩ := Option.map_eq_some_iff.mp heap
  have held : ⟨10, 1⟩ ∈ world.timers.queue.timerTree := by
    change _ ∈ world.timers.queue.timerTree.elements
    rw [tree]
    exact List.mem_cons_self
  apply takesEffect ⟨1, 0⟩
  · simp [trace]
  · simp [trace]
  · exact ⟨⟨_, held, rfl⟩, timer, found, sequence⟩

end FakeMuduo.Net.TimerRequests
