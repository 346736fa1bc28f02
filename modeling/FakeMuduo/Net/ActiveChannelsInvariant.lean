import FakeMuduo.Net.ActiveChannels
import Mathlib.Data.List.Nodup

/-! Why the loop never handles a channel that was destroyed. -/

namespace FakeMuduo.Net

open FakeMuduo.Base

namespace Channel

theorem updateChannel_added {channel result : Channel}
    (updated : channel.updateChannel = .ok result) :
    result.addedToLoop = channel.addedToLoop ∧ result.index ≠ .kNew := by
  unfold updateChannel at updated
  split at updated
  · rw [check_bind_eq_ok] at updated
    cases updated.2
    simp only [epollCtl]
    split <;> exact ⟨rfl, fun same => by cases same⟩
  · rw [check_bind_eq_ok] at updated
    cases updated.2
    simp only [epollCtl]
    split <;> exact ⟨rfl, fun same => by cases same⟩
  · rename_i index
    rw [check_bind_eq_ok] at updated
    have returned := updated.2
    split at returned
    · cases returned
      exact ⟨rfl, fun same => by cases same⟩
    · cases returned
      simp only [epollCtl]
      split <;> exact ⟨rfl, fun same => by cases index.symm.trans same⟩

end Channel

/-- Every call but `remove` leaves the channel in the loop. -/
theorem ChannelCall.onChannel_added {channel result : Channel} {call : ChannelCall}
    (kept : call ≠ .remove) (called : call.onChannel channel = .ok result) :
    result.addedToLoop = true ∧ result.index ≠ .kNew := by
  cases call with
  | remove => exact absurd rfl kept
  | enableReading | enableWriting | disableReading | disableWriting | disableAll =>
    obtain ⟨added, registered⟩ := Channel.updateChannel_added called
    exact ⟨added, registered⟩

theorem Channel.remove_index {channel result : Channel} (removed : channel.remove = .ok result) :
    result.index = .kNew := by
  simp only [remove, removeChannel, check_bind_eq_ok] at removed
  obtain ⟨_, _, _, _, returned⟩ := removed
  cases returned
  rfl

namespace Epoller

variable {Id : Type} [DecidableEq Id] {fd : Id → Int} {poller after : Epoller Id} {id : Id}

theorem setObject_self (object : ChannelObject) :
    (poller.setObject id object).objects id = object :=
  Function.update_self _ _ _

theorem setObject_of_ne {other : Id} (different : other ≠ id) (object : ChannelObject) :
    (poller.setObject id object).objects other = poller.objects other :=
  Function.update_of_ne different _ _

/-- A call returns on a new channel only if its descriptor is free. -/
theorem entry_of_perform {call : ChannelCall} (performed : poller.perform fd id call = .ok after)
    (fresh : (poller.objects id).index = .kNew) : poller.channels (fd id) = none := by
  cases call with
  | remove =>
    simp only [perform, removeObject, removeChannel, check_bind_eq_ok] at performed
    obtain ⟨_, _, _, _, known, _⟩ := performed
    simp [setObject, fresh] at known
  | enableReading | enableWriting | disableReading | disableWriting | disableAll =>
    simp only [perform, updateEvents, updateChannel, setObject, Function.update_self, fresh,
      check_bind_eq_ok] at performed
    exact performed.1

theorem allowed_of_perform {call : ChannelCall}
    (performed : poller.perform fd id call = .ok after) :
    poller.Allowed id call := by
  rintro rfl
  simp only [perform, removeObject, removeChannel, check_bind_eq_ok] at performed
  obtain ⟨silent, _, _, _, known, _⟩ := performed
  refine ⟨?_, silent⟩
  intro fresh
  simp [setObject, fresh] at known

end Epoller

namespace ActiveChannels

variable {Id : Type} {loop after : ActiveChannels Id}

/-- The poller's status of a channel. -/
def status (loop : ActiveChannels Id) (id : Id) : Status := (loop.poller.objects id).index

/-- What the map, the kernel and the channels say about each other. -/
structure Registered (loop : ActiveChannels Id) : Prop where
  known : ∀ {id}, loop.status id ≠ .kNew →
    loop.alive id = true ∧ (loop.poller.objects id).addedToLoop = true ∧
      loop.poller.channels (loop.fds id) = some id
  mapped : ∀ {fd id}, loop.poller.channels fd = some id → loop.fds id = fd ∧ loop.status id ≠ .kNew
  added : ∀ {id}, loop.status id = .kAdded →
    loop.poller.kernel (loop.fds id) = some (loop.poller.objects id).events ∧
      loop.pointers (loop.fds id) = some id
  polled : ∀ {fd}, loop.poller.kernel fd ≠ none → ∃ id, loop.fds id = fd ∧ loop.status id = .kAdded
  failed : loop.poller.failed = []

/-- Where the loop is in the active channels: those that are left are registered. -/
structure Dispatching (loop : ActiveChannels Id) : Prop where
  remaining : ∀ id ∈ loop.remaining, loop.status id ≠ .kNew
  suffix : loop.remaining <:+ loop.activeChannels
  distinct : loop.activeChannels.Nodup
  current : ∀ {id}, loop.currentActiveChannel = some id → id ∉ loop.remaining
  calm : loop.eventHandling = false → loop.remaining = [] ∧ loop.currentActiveChannel = none
  handler : loop.callbacks ≠ none →
    ∃ id, loop.currentActiveChannel = some id ∧ loop.handling id = true ∧ loop.alive id = true

theorem initial_registered : (initial : ActiveChannels Id).Registered := by
  refine ⟨?_, ?_, ?_, ?_, rfl⟩
  · intro id known
    exact absurd rfl known
  · intro fd id mapped
    cases mapped
  · intro id added
    cases added
  · intro fd polled
    exact absurd rfl polled

theorem initial_dispatching : (initial : ActiveChannels Id).Dispatching := by
  refine ⟨?_, List.suffix_refl _, List.nodup_nil, ?_, fun _ => ⟨rfl, rfl⟩, fun running =>
    absurd rfl running⟩
  · intro id member
    cases member
  · intro id current
    cases current

/-- Registered channels have different descriptors. -/
theorem Registered.injective (registered : loop.Registered) {id other : Id}
    (known : loop.status id ≠ .kNew) (known' : loop.status other ≠ .kNew)
    (same : loop.fds id = loop.fds other) : id = other := by
  have first := (registered.known known).2.2
  have second := (registered.known known').2.2
  rw [← same, first] at second
  exact Option.some.inj second

/-- A channel whose descriptor no other has registered is seen by the poller as its status says. -/
theorem Registered.mirrors (registered : loop.Registered) {id : Id}
    (entry : loop.status id = .kNew → loop.poller.channels (loop.fds id) = none) :
    loop.poller.Mirrors loop.fds id := by
  have own : ∀ {other}, loop.poller.channels (loop.fds id) = some id →
      loop.fds other = loop.fds id →
        loop.status other = .kAdded → other = id := by
    intro other mapped same added
    have known : loop.status other ≠ .kNew := by
      rw [added]
      nofun
    exact registered.injective known (registered.mapped mapped).2 same
  refine ⟨⟨?_, ?_⟩, ⟨?_, ?_⟩, ⟨?_, ?_⟩⟩
  · intro fresh
    refine ⟨entry fresh, ?_⟩
    by_contra polled
    obtain ⟨other, same, added⟩ := registered.polled polled
    have mapped := (registered.known (show loop.status other ≠ .kNew by rw [added]; nofun)).2.2
    rw [same, entry fresh] at mapped
    cases mapped
  · rintro ⟨unmapped, _⟩
    by_contra known
    rw [(registered.known known).2.2] at unmapped
    cases unmapped
  · intro added
    exact ⟨(registered.known (show loop.status id ≠ .kNew by rw [status, added]; nofun)).2.2,
      (registered.added added).1⟩
  · rintro ⟨mapped, polled⟩
    obtain ⟨other, same, added⟩ :=
      registered.polled (show loop.poller.kernel (loop.fds id) ≠ none by rw [polled]; nofun)
    obtain rfl := own mapped same added
    exact added
  · intro deleted
    have mapped :=
      (registered.known (show loop.status id ≠ .kNew by rw [status, deleted]; nofun)).2.2
    refine ⟨mapped, ?_⟩
    by_contra polled
    obtain ⟨other, same, added⟩ := registered.polled polled
    obtain rfl := own mapped same added
    exact absurd (added.symm.trans deleted) nofun
  · rintro ⟨mapped, unpolled⟩
    cases now : (loop.poller.objects id).index with
    | kDeleted => rfl
    | kNew => exact absurd now (registered.mapped mapped).2
    | kAdded =>
      rw [(registered.added now).1] at unpolled
      cases unpolled

variable [DecidableEq Id]

/-- What a call of a channel does to the loop. -/
theorem callChannel_eq {id : Id} {call : ChannelCall}
    (called : loop.callChannel id call = .ok after) :
    (call = .remove → loop.eventHandling = true → loop.currentActiveChannel = some id ∨
      id ∉ loop.activeChannels) ∧
      ∃ poller, loop.poller.perform loop.fds id call = .ok poller ∧ after = { loop with
        poller
        pointers := if poller.failed = loop.poller.failed then
            Function.update loop.pointers (loop.fds id)
              (if (poller.kernel (loop.fds id)).isSome then some id else none)
          else loop.pointers } := by
  unfold callChannel at called
  rw [bind_eq_ok] at called
  obtain ⟨_, removable, rest⟩ := called
  rw [bind_eq_ok] at rest
  obtain ⟨poller, performed, returned⟩ := rest
  cases returned
  refine ⟨?_, poller, performed, rfl⟩
  rintro rfl
  rw [assertRemovable, check_bind_eq_ok, check_bind_eq_ok] at removable
  exact removable.2.1

/-- A call of a channel that returns keeps the loop, the poller and the kernel in step. -/
theorem Registered.callChannel (registered : loop.Registered) {id : Id} {call : ChannelCall}
    (alive : loop.alive id = true) (called : loop.callChannel id call = .ok after) :
    after.Registered ∧ (∀ other, other ≠ id → after.status other = loop.status other) ∧
      (call ≠ .remove → after.status id ≠ .kNew) := by
  obtain ⟨_, poller, performed, rfl⟩ := callChannel_eq called
  have mirrors := registered.mirrors fun fresh => Epoller.entry_of_perform performed fresh
  obtain ⟨result, returned, moves, share⟩ :=
    Epoller.perform_moves mirrors (Epoller.allowed_of_perform performed)
  cases returned.symm.trans performed
  have apart : ∀ {other}, other ≠ id → loop.status other ≠ .kNew →
      loop.fds other ≠ loop.fds id := by
    intro other different known same
    have entry := (registered.known known).2.2
    rw [same] at entry
    cases fresh : loop.status id with
    | kNew =>
      rw [Epoller.entry_of_perform performed fresh] at entry
      cases entry
    | kAdded | kDeleted =>
      exact different (registered.injective known (show loop.status id ≠ .kNew by
        rw [fresh]; nofun) same)
  have others : ∀ {other}, other ≠ id → (poller.objects other).index = loop.status other :=
    fun different => congrArg ChannelObject.index (moves.objects _ different)
  have own : ∀ {fd other}, fd = loop.fds id → poller.channels fd = some other →
      other = id ∧ (poller.objects id).index ≠ .kNew := by
    rintro fd other rfl mapped
    cases index : (poller.objects id).index with
    | kNew =>
      rw [(moves.mirrors.kNew.mp index).1] at mapped
      cases mapped
    | kAdded =>
      rw [(moves.mirrors.kAdded.mp index).1] at mapped
      exact ⟨(Option.some.inj mapped).symm, nofun⟩
    | kDeleted =>
      rw [(moves.mirrors.kDeleted.mp index).1] at mapped
      exact ⟨(Option.some.inj mapped).symm, nofun⟩
  have inLoop : call ≠ .remove → (poller.objects id).addedToLoop = true ∧
      (poller.objects id).index ≠ .kNew :=
    fun kept => ChannelCall.onChannel_added kept share
  have removed : (poller.objects id).index ≠ .kNew → call ≠ .remove := by
    rintro known rfl
    exact known (Channel.remove_index share)
  rw [if_pos moves.failed]
  refine ⟨⟨?_, ?_, ?_, ?_, moves.failed.trans registered.failed⟩, fun other => others, fun kept =>
    (inLoop kept).2⟩
  · intro other known
    by_cases same : other = id
    · subst same
      refine ⟨alive, (inLoop (removed known)).1, ?_⟩
      cases index : (poller.objects other).index with
      | kNew => exact absurd index known
      | kAdded => exact (moves.mirrors.kAdded.mp index).1
      | kDeleted => exact (moves.mirrors.kDeleted.mp index).1
    · have before : loop.status other ≠ .kNew := fun fresh => known ((others same).trans fresh)
      obtain ⟨living, inside, entry⟩ := registered.known before
      refine ⟨living, ?_, (moves.channels _ (apart same before)).trans entry⟩
      exact (congrArg ChannelObject.addedToLoop (moves.objects _ same)).trans inside
  · intro fd other mapped
    by_cases here : fd = loop.fds id
    · obtain ⟨rfl, known⟩ := own here mapped
      exact ⟨here.symm, known⟩
    · obtain ⟨there, known⟩ := registered.mapped ((moves.channels fd here).symm.trans mapped)
      have different : other ≠ id := by
        rintro rfl
        exact here there.symm
      exact ⟨there, fun fresh => known ((others different).symm.trans fresh)⟩
  · intro other added
    by_cases same : other = id
    · subst same
      have polled := (moves.mirrors.kAdded.mp added).2
      refine ⟨polled, ?_⟩
      change Function.update loop.pointers (loop.fds other) _ (loop.fds other) = some other
      rw [Function.update_self, polled]
      rfl
    · have before : loop.status other = .kAdded := (others same).symm.trans added
      have elsewhere := apart same (by rw [before]; nofun)
      obtain ⟨polled, pointer⟩ := registered.added before
      refine ⟨?_, (Function.update_of_ne elsewhere _ _).trans pointer⟩
      change poller.kernel (loop.fds other) = some (poller.objects other).events
      rw [moves.kernel _ elsewhere, moves.objects _ same, polled]
  · intro fd polled
    by_cases here : fd = loop.fds id
    · subst here
      refine ⟨id, rfl, ?_⟩
      cases index : (poller.objects id).index with
      | kNew => exact absurd (moves.mirrors.kNew.mp index).2 polled
      | kAdded => exact index
      | kDeleted => exact absurd (moves.mirrors.kDeleted.mp index).2 polled
    · have before : loop.poller.kernel fd ≠ none := fun none =>
        polled ((moves.kernel fd here).trans none)
      obtain ⟨other, there, added⟩ := registered.polled before
      have different : other ≠ id := by
        rintro rfl
        exact here there.symm
      exact ⟨other, there, (others different).trans added⟩

/-- A channel that is still to be handled cannot be removed. -/
theorem Dispatching.callChannel (dispatching : loop.Dispatching)
    (registered : loop.Registered) {id : Id} {call : ChannelCall} (alive : loop.alive id = true)
    (called : loop.callChannel id call = .ok after) :
    after.Dispatching := by
  obtain ⟨_, others, kept⟩ := registered.callChannel alive called
  obtain ⟨inactive, poller, _, rfl⟩ := callChannel_eq called
  refine { dispatching with remaining := ?_ }
  intro other member
  by_cases same : other = id
  · subst same
    refine kept ?_
    intro removed
    have running : loop.eventHandling = true := by
      by_contra stopped
      rw [(dispatching.calm (Bool.not_eq_true _ ▸ stopped)).1] at member
      cases member
    rcases inactive removed running with current | absent
    · exact dispatching.current current member
    · exact absent (dispatching.suffix.subset member)
  · rw [others other same]
    exact dispatching.remaining other member

theorem Registered.construct (registered : loop.Registered) {id : Id}
    (dead : loop.alive id = false) (fd : Int) :
    (loop.construct id fd).Registered ∧
      (∀ other, (loop.construct id fd).status other = loop.status other) := by
  have fresh : loop.status id = .kNew := by
    by_contra known
    rw [(registered.known known).1] at dead
    cases dead
  have objects : ∀ {other}, other ≠ id → (loop.construct id fd).poller.objects other =
      loop.poller.objects other :=
    fun different => Epoller.setObject_of_ne different _
  have same : ∀ other, (loop.construct id fd).status other = loop.status other := by
    intro other
    by_cases same : other = id
    · subst same
      rw [fresh]
      exact congrArg ChannelObject.index (Epoller.setObject_self _)
    · exact congrArg ChannelObject.index (objects same)
  have different : ∀ {other}, loop.status other ≠ .kNew → other ≠ id := by
    rintro other known rfl
    exact known fresh
  have fds : ∀ {other}, loop.status other ≠ .kNew →
      (loop.construct id fd).fds other = loop.fds other :=
    fun known => Function.update_of_ne (different known) _ _
  refine ⟨⟨?_, ?_, ?_, ?_, registered.failed⟩, same⟩
  · intro other known
    rw [same] at known
    obtain ⟨living, inside, entry⟩ := registered.known known
    refine ⟨(Function.update_of_ne (different known) _ _).trans living, ?_, ?_⟩
    · rw [objects (different known)]
      exact inside
    · rw [fds known]
      exact entry
  · intro key other mapped
    obtain ⟨there, known⟩ := registered.mapped mapped
    rw [same, fds known]
    exact ⟨there, known⟩
  · intro other added
    rw [same] at added
    have known : loop.status other ≠ .kNew := by
      rw [added]
      nofun
    rw [fds known, objects (different known)]
    exact registered.added added
  · intro key polled
    obtain ⟨other, there, added⟩ := registered.polled polled
    have known : loop.status other ≠ .kNew := by
      rw [added]
      nofun
    exact ⟨other, (fds known).trans there, (same other).trans added⟩

theorem Dispatching.construct (dispatching : loop.Dispatching)
    (registered : loop.Registered) {id : Id} (dead : loop.alive id = false) (fd : Int) :
    (loop.construct id fd).Dispatching := by
  refine { dispatching with remaining := ?_, handler := ?_ }
  · intro other member
    rw [(registered.construct dead fd).2]
    exact dispatching.remaining other member
  · intro running
    obtain ⟨current, now, handling, living⟩ := dispatching.handler running
    have different : current ≠ id := by
      rintro rfl
      rw [dead] at living
      cases living
    exact ⟨current, now, (Function.update_of_ne different _ _).trans handling,
      (Function.update_of_ne different _ _).trans living⟩

theorem tie_objects (id other : Id) :
    ((loop.tie id).poller.objects other).index = loop.status other ∧
    ((loop.tie id).poller.objects other).events = (loop.poller.objects other).events ∧
    ((loop.tie id).poller.objects other).addedToLoop = (loop.poller.objects other).addedToLoop := by
  by_cases same : other = id
  · subst same
    rw [ActiveChannels.tie, Epoller.setObject_self]
    exact ⟨rfl, rfl, rfl⟩
  · rw [ActiveChannels.tie, Epoller.setObject_of_ne same]
    exact ⟨rfl, rfl, rfl⟩

theorem tie_status (id other : Id) : (loop.tie id).status other = loop.status other :=
  (tie_objects id other).1

theorem Registered.tie (registered : loop.Registered) (id : Id) : (loop.tie id).Registered := by
  refine ⟨?_, ?_, ?_, ?_, registered.failed⟩
  · intro other known
    rw [tie_status] at known
    obtain ⟨living, inside, entry⟩ := registered.known known
    exact ⟨living, (tie_objects id other).2.2.trans inside, entry⟩
  · intro fd other mapped
    rw [tie_status]
    exact registered.mapped mapped
  · intro other added
    rw [tie_status] at added
    obtain ⟨polled, pointer⟩ := registered.added added
    exact ⟨polled.trans (congrArg some (tie_objects id other).2.1.symm), pointer⟩
  · intro fd polled
    obtain ⟨other, there, added⟩ := registered.polled polled
    exact ⟨other, there, (tie_status id other).trans added⟩

theorem Dispatching.tie (dispatching : loop.Dispatching) (id : Id) : (loop.tie id).Dispatching :=
  { dispatching with
    remaining := fun other member fresh =>
      dispatching.remaining other member ((tie_status id other).symm.trans fresh) }

/-- A channel that is destroyed is neither registered nor handled. -/
theorem destroy_eq {id : Id} {inLoopThread : Bool}
    (destroyed : loop.destroy id inLoopThread = .ok after) :
    loop.handling id = false ∧ (loop.poller.objects id).addedToLoop = false ∧
      after = { loop with alive := Function.update loop.alive id false } := by
  simp only [destroy, check_bind_eq_ok] at destroyed
  obtain ⟨unhandled, removed, _, returned⟩ := destroyed
  cases returned
  exact ⟨unhandled, removed, rfl⟩

theorem Registered.destroy (registered : loop.Registered) {id : Id} {inLoopThread : Bool}
    (destroyed : loop.destroy id inLoopThread = .ok after) : after.Registered := by
  obtain ⟨_, removed, rfl⟩ := destroy_eq destroyed
  refine { registered with known := ?_ }
  intro other known
  obtain ⟨living, inside, entry⟩ := registered.known known
  have different : other ≠ id := by
    rintro rfl
    rw [removed] at inside
    cases inside
  exact ⟨(Function.update_of_ne different _ _).trans living, inside, entry⟩

theorem Dispatching.destroy (dispatching : loop.Dispatching) {id : Id} {inLoopThread : Bool}
    (destroyed : loop.destroy id inLoopThread = .ok after) : after.Dispatching := by
  obtain ⟨unhandled, _, rfl⟩ := destroy_eq destroyed
  refine { dispatching with handler := ?_ }
  intro running
  obtain ⟨current, now, handling, living⟩ := dispatching.handler running
  have different : current ≠ id := by
    rintro rfl
    rw [unhandled] at handling
    cases handling
  exact ⟨current, now, handling, (Function.update_of_ne different _ _).trans living⟩

/-- The active channels are registered ones. -/
theorem Registered.fill (registered : loop.Registered) (ready : List (Int × ReadyEvents))
    (polled : ∀ event ∈ ready, loop.poller.kernel event.1 ≠ none) :
    ∃ ids revents, loop.fillActiveChannels ready =
        .ok { loop with revents, activeChannels := loop.activeChannels ++ ids } ∧
      ids.map loop.fds = ready.map Prod.fst ∧ ∀ id ∈ ids, loop.status id = .kAdded := by
  induction ready generalizing loop with
  | nil =>
    refine ⟨[], loop.revents, ?_, rfl, fun _ member => by cases member⟩
    rw [List.append_nil]
    rfl
  | cons event ready ih =>
    obtain ⟨id, there, added⟩ := registered.polled (polled event List.mem_cons_self)
    have known : loop.status id ≠ .kNew := by
      rw [added]
      nofun
    have pointer := (registered.added added).2
    rw [there] at pointer
    obtain ⟨ids, revents, filled, fds, statuses⟩ := @ih { loop with
      revents := Function.update loop.revents id event.2
      activeChannels := loop.activeChannels ++ [id] } { registered with }
      (fun other member => polled other (List.mem_cons_of_mem _ member))
    refine ⟨id :: ids, revents, ?_, ?_, ?_⟩
    · obtain ⟨fd, happened⟩ := event
      simp only [fillActiveChannels, pointer, (registered.known known).1, if_true]
      rw [filled, List.append_assoc]
      rfl
    · rw [List.map_cons, List.map_cons, there]
      exact congrArg _ fds
    · intro other member
      rcases List.mem_cons.mp member with rfl | later
      · exact added
      · exact statuses other later

theorem Registered.poll (registered : loop.Registered) (dispatching : loop.Dispatching)
    (waiting : loop.eventHandling = false) {ready : List (Int × ReadyEvents)}
    (reports : loop.Reports ready) :
    ∃ next, loop.poll ready = .ok next ∧ next.Registered ∧ next.Dispatching := by
  obtain ⟨distinct, _, polled⟩ := reports
  obtain ⟨ids, revents, filled, fds, added⟩ :=
    @Registered.fill _ { loop with activeChannels := [] } _ { registered with } ready polled
  have polledTo : loop.poll ready = .ok { loop with
      revents
      events := if 0 < ready.length ∧ ready.length = loop.events then 2 * loop.events
        else loop.events
      activeChannels := ids
      remaining := ids
      eventHandling := true } := by
    rw [ActiveChannels.poll, filled]
    rfl
  refine ⟨_, polledTo, { registered with }, { dispatching with
    remaining := ?_
    suffix := List.suffix_refl ids
    distinct := ?_
    current := ?_
    calm := fun stopped => by cases stopped }⟩
  · intro id member fresh
    exact absurd ((added id member).symm.trans fresh) nofun
  · rw [← fds] at distinct
    exact List.Nodup.of_map _ distinct
  · intro id current
    exact absurd ((dispatching.calm waiting).2.symm.trans current) nofun

omit [DecidableEq Id] in
theorem Dispatching.handleEvent (dispatching : loop.Dispatching) {id : Id} {remaining : List Id}
    {handling : Id → Bool} {callbacks : Option (List Callback)}
    (left : loop.remaining = id :: remaining)
    (handler : callbacks ≠ none → handling id = true ∧ loop.alive id = true) :
    ({ loop with remaining, currentActiveChannel := some id, handling, callbacks } :
      ActiveChannels Id).Dispatching := by
  have suffix := dispatching.suffix
  rw [left] at suffix
  have distinct : (id :: remaining).Nodup := dispatching.distinct.sublist suffix.sublist
  refine {
    remaining := fun other member =>
      dispatching.remaining other (left ▸ List.mem_cons_of_mem _ member)
    suffix := (List.suffix_cons id remaining).trans suffix
    distinct := dispatching.distinct
    current := ?_, calm := ?_
    handler := fun running => ⟨id, rfl, handler running⟩ }
  · rintro other current
    cases current
    exact (List.nodup_cons.mp distinct).1
  · intro stopped
    exact absurd (left.symm.trans (dispatching.calm stopped).1) nofun

/-- The call returns or fails an assertion. -/
def Asserts {α : Type} (call : Checked α) : Prop := call ≠ .error .danglingReference

theorem asserts_check {α : Type} {holds : Prop} [Decidable holds] {condition : String}
    {next : Unit → Checked α} (rest : Asserts (next ())) :
    Asserts (check condition holds >>= next) := by
  by_cases passes : holds
  · rw [check_pass condition passes]
    exact rest
  · rw [check, if_neg passes]
    intro failed
    cases failed

theorem asserts_updateEvents (fd : Id → Int) (poller : Epoller Id) (id : Id) (events : Events) :
    Asserts (poller.updateEvents fd id events) := by
  unfold Epoller.updateEvents Epoller.updateChannel
  split
  · exact asserts_check nofun
  · exact asserts_check (asserts_check nofun)
  · refine asserts_check (asserts_check ?_)
    split <;> nofun

theorem asserts_perform (fd : Id → Int) (poller : Epoller Id) (id : Id) (call : ChannelCall) :
    Asserts (poller.perform fd id call) := by
  cases call with
  | remove =>
    exact asserts_check (asserts_check (asserts_check (asserts_check (asserts_check nofun))))
  | enableReading | enableWriting | disableReading | disableWriting | disableAll =>
    exact asserts_updateEvents fd poller id _

theorem asserts_callChannel (id : Id) (call : ChannelCall) :
    Asserts (loop.callChannel id call) := by
  have removable : Asserts (loop.assertRemovable id call) := by
    cases call with
    | remove => exact asserts_check (asserts_check nofun)
    | enableReading | enableWriting | disableReading | disableWriting | disableAll => nofun
  have performed := asserts_perform loop.fds loop.poller id call
  unfold callChannel
  cases first : loop.assertRemovable id call with
  | error fault =>
    rw [first] at removable
    exact fun failed => removable (congrArg Except.error (Except.error.inj failed))
  | ok _ =>
    cases second : loop.poller.perform loop.fds id call with
    | error fault =>
      rw [second] at performed
      exact fun failed => performed (congrArg Except.error (Except.error.inj failed))
    | ok poller => nofun

/-- A step dereferences no channel that is dead, and keeps the channels that are left registered. -/
theorem perform_kept (registered : loop.Registered) (dispatching : loop.Dispatching)
    (step : Step Id) :
    Asserts (loop.perform step) ∧ ∀ after, loop.perform step = .ok after →
      after.Registered ∧ after.Dispatching := by
  cases step with
  | construct id fd =>
    simp only [perform]
    split
    · exact ⟨nofun, nofun⟩
    · rename_i dead
      refine ⟨nofun, ?_⟩
      rintro after ⟨rfl⟩
      have gone : loop.alive id = false := Bool.not_eq_true _ ▸ dead
      exact ⟨(registered.construct gone fd).1, dispatching.construct registered gone fd⟩
  | tie id =>
    simp only [perform]
    split
    · refine ⟨nofun, ?_⟩
      rintro after ⟨rfl⟩
      exact ⟨registered.tie id, dispatching.tie id⟩
    · exact ⟨nofun, nofun⟩
  | call id call =>
    simp only [perform]
    split
    · rename_i alive
      refine ⟨asserts_callChannel id call, ?_⟩
      intro after called
      exact ⟨(registered.callChannel alive called).1,
        dispatching.callChannel registered alive called⟩
    · exact ⟨nofun, nofun⟩
  | destroy id inLoopThread =>
    simp only [perform]
    split
    · refine ⟨asserts_check (asserts_check (asserts_check nofun)), ?_⟩
      intro after destroyed
      exact ⟨registered.destroy destroyed, dispatching.destroy destroyed⟩
    · exact ⟨nofun, nofun⟩
  | poll ready =>
    simp only [perform]
    split
    · rename_i ready
      obtain ⟨next, polled, kept⟩ := registered.poll dispatching ready.1 ready.2
      rw [polled]
      refine ⟨nofun, ?_⟩
      rintro after ⟨rfl⟩
      exact kept
    · exact ⟨nofun, nofun⟩
  | handleEvent owned =>
    simp only [perform]
    split
    · rename_i id remaining none left
      have known := dispatching.remaining id (left ▸ List.mem_cons_self)
      have alive := (registered.known known).1
      simp only [alive, if_true]
      split
      · refine ⟨nofun, ?_⟩
        rintro after ⟨rfl⟩
        exact ⟨{ registered with }, dispatching.handleEvent left fun running => absurd none running⟩
      · refine ⟨nofun, ?_⟩
        rintro after ⟨rfl⟩
        exact ⟨{ registered with }, dispatching.handleEvent left fun _ =>
          ⟨Function.update_self _ _ _, alive⟩⟩
    · exact ⟨nofun, nofun⟩
  | callback =>
    simp only [perform]
    split
    · rename_i first callbacks id running current
      obtain ⟨handled, now, handling, alive⟩ := dispatching.handler (by rw [running]; nofun)
      cases now.symm.trans current
      simp only [alive, if_true]
      refine ⟨nofun, ?_⟩
      rintro after ⟨rfl⟩
      exact ⟨{ registered with }, { dispatching with handler := fun _ =>
        ⟨_, now, handling, alive⟩ }⟩
    · exact ⟨nofun, nofun⟩
  | handled =>
    simp only [perform]
    split
    · rename_i id running current
      obtain ⟨handled, now, handling, alive⟩ := dispatching.handler (by rw [running]; nofun)
      cases now.symm.trans current
      simp only [alive, if_true]
      refine ⟨nofun, ?_⟩
      rintro after ⟨rfl⟩
      exact ⟨{ registered with }, { dispatching with handler := fun running => absurd rfl running }⟩
    · exact ⟨nofun, nofun⟩
  | endHandling =>
    simp only [perform]
    split
    · rename_i finished
      refine ⟨nofun, ?_⟩
      rintro after ⟨rfl⟩
      exact ⟨{ registered with }, { dispatching with
        current := fun impossible => by cases impossible
        calm := fun _ => ⟨finished.2.1, rfl⟩
        handler := fun running => absurd finished.2.2 running }⟩
    · exact ⟨nofun, nofun⟩

/-- What the loop may rely on when it handles the active channels. -/
structure Safe (loop : ActiveChannels Id) : Prop where
  alive : ∀ step, loop.perform step ≠ .error .danglingReference
  succeeded : loop.poller.failed = []
  once : loop.activeChannels.Nodup ∧ loop.remaining <:+ loop.activeChannels
  registered : ∀ id ∈ loop.remaining, loop.alive id = true ∧
    loop.poller.channels (loop.fds id) = some id
  polled : ∀ fd, loop.poller.kernel fd ≠ none →
    ∃ id, loop.pointers fd = some id ∧ loop.alive id = true ∧ loop.fds id = fd

/-- As long as no assertion fails, the loop handles only channels that are alive and registered,
each once in an iteration, whatever their handlers do to other channels. -/
theorem handles_live_channels {steps : List (Step Id)}
    (run : machine.Run initial steps loop) : loop.Safe := by
  have kept : loop.Registered ∧ loop.Dispatching := by
    refine run.invariant (fun _ loop => loop.Registered ∧ loop.Dispatching)
      ⟨initial_registered, initial_dispatching⟩ ?_
    rintro _ current step next ⟨registered, dispatching⟩ performed
    exact (perform_kept registered dispatching step).2 next performed
  obtain ⟨registered, dispatching⟩ := kept
  refine ⟨fun step => (perform_kept registered dispatching step).1, registered.failed,
    ⟨dispatching.distinct, dispatching.suffix⟩, ?_, ?_⟩
  · intro id member
    obtain ⟨alive, _, entry⟩ := registered.known (dispatching.remaining id member)
    exact ⟨alive, entry⟩
  · intro fd polled
    obtain ⟨id, there, added⟩ := registered.polled polled
    have known : loop.status id ≠ .kNew := by
      rw [added]
      nofun
    exact ⟨id, there ▸ (registered.added added).2, (registered.known known).1, there⟩

/-- A channel removes itself in its handler and is destroyed; another takes its
address before the next handler. -/
def sampleSteps : List (Step Bool) :=
  [.construct true 7, .construct false 8, .call true .enableReading, .call false .enableWriting,
    .poll [(7, ⟨true, false, false, false, false, false, false⟩),
    (8, ⟨false, false, true, true, false, false, false⟩)], .handleEvent true, .callback,
    .call true .disableAll, .call true .remove, .handled, .destroy true true, .construct true 7,
    .call true .enableReading, .handleEvent true, .callback]

theorem handles_live_channels_sample :
    ∃ loop : ActiveChannels Bool, machine.Run initial sampleSteps loop ∧ loop.Safe ∧
      loop.currentActiveChannel = some false ∧ loop.callbacks = some [.write] ∧
        loop.pointers 7 = some true := by
  have followed :
      (Machine.follow perform (fun _ _ => true) (initial : ActiveChannels Bool) sampleSteps).any
        (fun loop => loop.currentActiveChannel == some false && loop.callbacks == some [.write] &&
          loop.pointers 7 == some true) = true := by
    decide +kernel
  obtain ⟨loop, run, final⟩ :=
    Machine.Run.ofFollowAny machine (fun _ performed => performed) followed
  simp only [Bool.and_eq_true, beq_iff_eq] at final
  exact ⟨loop, run, handles_live_channels run, final.1.1, final.1.2, final.2⟩

end ActiveChannels

end FakeMuduo.Net
