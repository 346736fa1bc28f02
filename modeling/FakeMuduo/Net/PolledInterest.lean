import FakeMuduo.Net.Epoller

/-! When the kernel watches exactly the channels that have an interest. -/

namespace FakeMuduo.Net

open FakeMuduo.Base

namespace Channel

variable {channel result : Channel}

/-- An update leaves the descriptor in the kernel's set unless it takes away the last interest. -/
theorem update_interest (watched : channel.interest.isSome ↔ channel.index = .kAdded)
    (returned : channel.update = .ok result) :
    result.events = channel.events ∧
      (result.interest.isSome ↔ channel.events ≠ .kNoneEvent ∨ channel.index ≠ .kAdded) := by
  rw [update, updateChannel] at returned
  rcases index : channel.index
  case kNew =>
    simp only [index] at returned
    obtain ⟨_, added⟩ := check_bind_eq_ok.mp returned
    have absent : channel.interest = none := by simpa [index] using watched
    cases added
    simp [epollCtl, absent]
  case kDeleted =>
    simp only [index] at returned
    obtain ⟨_, added⟩ := check_bind_eq_ok.mp returned
    have absent : channel.interest = none := by simpa [index] using watched
    cases added
    simp [epollCtl, absent]
  case kAdded =>
    simp only [index] at returned
    obtain ⟨_, changed⟩ := check_bind_eq_ok.mp returned
    have present : channel.interest.isSome := watched.mpr index
    by_cases none : channel.events = .kNoneEvent
    · rw [if_pos (by simp [isNoneEvent, none])] at changed
      cases changed
      simp [epollCtl, none]
    · rw [if_neg (by simp [isNoneEvent, none])] at changed
      cases changed
      simp [epollCtl, present, none]

theorem remove_interest (watched : channel.interest.isSome ↔ channel.index = .kAdded)
    (returned : channel.remove = .ok result) :
    result.events = .kNoneEvent ∧ result.interest = none := by
  obtain ⟨silent, removed⟩ := check_bind_eq_ok.mp returned
  obtain ⟨_, removed⟩ := check_bind_eq_ok.mp removed
  obtain ⟨_, removed⟩ := check_bind_eq_ok.mp removed
  obtain ⟨_, removed⟩ := check_bind_eq_ok.mp removed
  cases removed
  have silent : channel.events = .kNoneEvent := beq_iff_eq.mp silent
  by_cases added : channel.index = .kAdded
  · simp [added, epollCtl, silent]
  · have absent : channel.interest = none := by simpa [added] using watched
    simp [added, silent, absent]

end Channel

/-- The events of a descriptor that `epoll_wait` reports. -/
structure Report where
  pollin : Bool
  pollout : Bool
  pollhup : Bool
  pollerr : Bool
  deriving DecidableEq, Repr

namespace Epoller

variable {Id : Type} [DecidableEq Id] {fd : Id → Int} {poller after : Epoller Id}

/-- What the kernel may report of a descriptor: the events asked for, and `POLLHUP` and `POLLERR`
of every descriptor in its set. -/
def MayReport (poller : Epoller Id) (fd : Int) (report : Report) : Prop :=
  ∃ interest, poller.kernel fd = some interest ∧ (report.pollin = true → interest.read = true) ∧
    (report.pollout = true → interest.write = true)

/-- The descriptor is in the kernel's set exactly if the channel has an interest; without one
nothing is reported. -/
structure PolledByInterest (fd : Id → Int) (poller : Epoller Id) (id : Id) : Prop where
  watched : (poller.kernel (fd id)).isSome ↔ (poller.objects id).events ≠ .kNoneEvent
  silent : (poller.objects id).events = .kNoneEvent → ∀ report, ¬ poller.MayReport (fd id) report

/-- Nothing is disabled on a channel that has no interest. -/
def Changing (poller : Epoller Id) (label : Id × ChannelCall) : Prop :=
  match label.2 with
  | .disableReading | .disableWriting | .disableAll => (poller.objects label.1).events ≠ .kNoneEvent
  | .enableReading | .enableWriting | .remove => True

theorem Mirrors.share_watched {id : Id} (mirrors : poller.Mirrors fd id) :
    (poller.share fd id).interest.isSome ↔ (poller.share fd id).index = .kAdded := by
  change (poller.kernel (fd id)).isSome ↔ (poller.objects id).index = .kAdded
  rcases index : (poller.objects id).index
  case kNew => simp [(mirrors.kNew.mp index).2]
  case kDeleted => simp [(mirrors.kDeleted.mp index).2]
  case kAdded => simp [(mirrors.kAdded.mp index).2]

/-- Silence follows from not being in the kernel's set. -/
theorem polledByInterest_iff {id : Id} : PolledByInterest fd poller id ↔
    ((poller.share fd id).interest.isSome ↔ (poller.share fd id).events ≠ .kNoneEvent) := by
  constructor
  · exact PolledByInterest.watched
  · intro watched
    refine ⟨watched, ?_⟩
    rintro none report ⟨interest, present, _⟩
    have absent := mt watched.mp (not_not.mpr none)
    simp [share, present] at absent

theorem Moves.polled_others {id other : Id} (moves : poller.Moves fd after id)
    (distinct : Function.Injective fd) (different : other ≠ id) :
    PolledByInterest fd after other ↔ PolledByInterest fd poller other := by
  have key : fd other ≠ fd id := fun same => different (distinct same)
  rw [polledByInterest_iff, polledByInterest_iff, share, share, moves.objects other different,
    moves.kernel _ key]

/-- A call keeps the channel polled by its interest exactly if it is a changing one. -/
theorem polled_iff_changing {id : Id} {call : ChannelCall} (mirrors : poller.Mirrors fd id)
    (polled : PolledByInterest fd poller id)
    (moved : call.onChannel (poller.share fd id) = .ok (after.share fd id)) :
    PolledByInterest fd after id ↔ poller.Changing (id, call) := by
  have watched := mirrors.share_watched
  have interested : (poller.share fd id).index = .kAdded ↔
      (poller.objects id).events ≠ .kNoneEvent :=
    watched.symm.trans polled.watched
  rw [polledByInterest_iff]
  have updated : ∀ events, { poller.share fd id with events }.update = .ok (after.share fd id) →
      (((after.share fd id).interest.isSome ↔ (after.share fd id).events ≠ .kNoneEvent) ↔
        events ≠ .kNoneEvent ∨ (poller.objects id).events ≠ .kNoneEvent) := by
    intro events returned
    obtain ⟨same, present⟩ :=
      @Channel.update_interest { poller.share fd id with events } _ watched returned
    rw [same, present]
    dsimp only
    rw [ne_eq (poller.share fd id).index, interested]
    by_cases some : events = .kNoneEvent
    · simp [some]
    · simp [some]
  cases call with
  | remove =>
    obtain ⟨silent, absent⟩ := Channel.remove_interest watched moved
    simp [silent, absent, Changing]
  | enableReading => simpa [Changing, Events.kNoneEvent] using updated _ moved
  | enableWriting => simpa [Changing, Events.kNoneEvent] using updated _ moved
  | disableReading =>
    refine (updated _ moved).trans (or_iff_right_of_imp ?_)
    rintro some none
    exact some (congrArg (fun events => { events with read := false }) none)
  | disableWriting =>
    refine (updated _ moved).trans (or_iff_right_of_imp ?_)
    rintro some none
    exact some (congrArg (fun events => { events with write := false }) none)
  | disableAll => simpa [Changing] using updated _ moved

/-- Every channel's status is right, and it is polled by its interest. -/
def InStep (fd : Id → Int) (poller : Epoller Id) : Prop :=
  ∀ id, poller.Mirrors fd id ∧ PolledByInterest fd poller id

/-- In exactly the runs that disable nothing on a channel without an interest, every channel is
in the kernel's set after every call if and only if it has an interest. -/
theorem polledByInterest_iff_changing (distinct : Function.Injective fd)
    {calls : List (Id × ChannelCall)} :
    (machine fd).Throughout (fun poller => ∀ id, PolledByInterest fd poller id)
      initial calls poller ↔
      ((machine fd).restrict Changing).Run initial calls poller := by
  have start : InStep fd initial := by
    intro id
    exact ⟨initial_mirrors fd id, polledByInterest_iff.mpr
      (by simp [share, initial, ChannelObject.create])⟩
  refine Machine.throughout_iff_restrict start (fun poller holds id => (holds id).2) ?_
  rintro current ⟨id, call⟩ after holds ⟨allowed, performed⟩
  obtain ⟨result, returned, moves, moved⟩ := perform_moves (holds id).1 allowed
  cases returned.symm.trans performed
  have exactly := polled_iff_changing (holds id).1 (holds id).2 moved
  constructor
  · intro polled
    exact exactly.mp (polled id)
  · intro changing other
    by_cases same : other = id
    · subst same
      exact ⟨moves.mirrors, exactly.mpr changing⟩
    · exact ⟨moves.others distinct same (holds other).1,
        (moves.polled_others distinct same).mpr (holds other).2⟩

instance (poller : Epoller Id) : DecidablePred poller.Changing
  | (_, .disableReading) | (_, .disableWriting) | (_, .disableAll) =>
    inferInstanceAs (Decidable (_ ≠ _))
  | (_, .enableReading) | (_, .enableWriting) | (_, .remove) => inferInstanceAs (Decidable True)

instance (poller : Epoller Id) (id : Id) (call : ChannelCall) :
    Decidable (poller.Allowed id call) :=
  inferInstanceAs (Decidable (_ → _))

/-- A channel is enabled, disabled part by part, enabled again, disabled and removed. -/
def alternatingCalls : List (Unit × ChannelCall) :=
  [((), .enableReading), ((), .enableWriting), ((), .disableReading), ((), .disableWriting),
    ((), .enableReading), ((), .disableAll), ((), .remove)]

theorem polledByInterest_iff_changing_alternating :
    ∃ poller : Epoller Unit, (machine fun _ => 5).Throughout
      (fun poller => ∀ id, PolledByInterest (fun _ => 5) poller id) initial
        alternatingCalls poller := by
  have followed : (Machine.follow (fun poller label => poller.perform (fun _ => 5) label.1 label.2)
      (fun poller label => decide (poller.Changing label ∧ poller.Allowed label.1 label.2)) initial
      alternatingCalls).isSome = true := by
    decide +kernel
  obtain ⟨poller, reached⟩ := Option.isSome_iff_exists.mp followed
  refine ⟨poller, (polledByInterest_iff_changing fun _ _ _ => rfl).mpr ?_⟩
  refine Machine.Run.ofFollow _ (fun allowed performed => ?_) _ reached
  obtain ⟨changing, allowed⟩ := of_decide_eq_true allowed
  exact ⟨changing, allowed, performed⟩

/-- Disabling everything twice puts the descriptor back into the kernel's set. -/
theorem disabled_twice_polled :
    ∃ poller : Epoller Unit, (machine fun _ => 5).Run initial
        [((), .enableReading), ((), .disableAll), ((), .disableAll)] poller ∧
      (poller.objects ()).events = .kNoneEvent ∧ poller.MayReport 5 ⟨false, false, true, false⟩ ∧
      ¬ PolledByInterest (fun _ => 5) poller () := by
  have followed : (Machine.follow (fun poller label => poller.perform (fun _ => 5) label.1 label.2)
      (fun poller label => decide (poller.Allowed label.1 label.2)) initial
      [((), .enableReading), ((), .disableAll), ((), .disableAll)]).any (fun poller =>
        decide ((poller.objects ()).events = .kNoneEvent ∧ poller.kernel 5 = some .kNoneEvent)) =
          true := by
    decide +kernel
  obtain ⟨poller, run, final⟩ := Machine.Run.ofFollowAny (machine fun _ => 5)
    (fun allowed performed => ⟨of_decide_eq_true allowed, performed⟩) followed
  obtain ⟨none, present⟩ := of_decide_eq_true final
  have reported : poller.MayReport 5 ⟨false, false, true, false⟩ :=
    ⟨.kNoneEvent, present, Bool.noConfusion, Bool.noConfusion⟩
  exact ⟨poller, run, none, reported, fun polled => polled.silent none _ reported⟩

end Epoller

end FakeMuduo.Net
