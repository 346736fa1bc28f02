import FakeMuduo.Base.Machine
import FakeMuduo.Net.Channel
import Mathlib.Logic.Function.Basic

/-! The poller of a loop with all of its channels, and the kernel's interest set. -/

namespace FakeMuduo.Net

open FakeMuduo.Base

/-- A channel without what the poller and the kernel hold for it. -/
structure ChannelObject where
  events : Events
  index : Status
  tied : Bool
  addedToLoop : Bool
  deriving DecidableEq, Repr

def ChannelObject.create : ChannelObject := ⟨.kNoneEvent, .kNew, false, false⟩

def ChannelObject.isNoneEvent (object : ChannelObject) : Bool := object.events == .kNoneEvent

/-- `kernel` is the interest set of `epoll`; `failed` are the calls of `epoll_ctl` that failed,
which are only logged. -/
structure Epoller (Id : Type) where
  objects : Id → ChannelObject
  channels : Int → Option Id
  kernel : Int → Option Events
  failed : List (Channel.Operation × Int)

inductive ChannelCall where
  | enableReading | enableWriting | disableReading | disableWriting | disableAll | remove
  deriving DecidableEq, Repr

/-- The call on one channel's share of the poller. -/
def ChannelCall.onChannel (channel : Channel) : ChannelCall → Checked Channel
  | enableReading => channel.enableReading
  | enableWriting => channel.enableWriting
  | disableReading => channel.disableReading
  | disableWriting => channel.disableWriting
  | disableAll => channel.disableAll
  | remove => channel.remove

namespace Epoller

variable {Id : Type} [DecidableEq Id] (fd : Id → Int)

def initial : Epoller Id where
  objects := fun _ => .create
  channels := fun _ => none
  kernel := fun _ => none
  failed := []

def setObject (poller : Epoller Id) (id : Id) (object : ChannelObject) : Epoller Id :=
  { poller with objects := Function.update poller.objects id object }

def setIndex (poller : Epoller Id) (id : Id) (index : Status) : Epoller Id :=
  poller.setObject id { poller.objects id with index }

/-- `channels_[fd] = channel`, or `channels_.erase(fd)`. -/
def setEntry (poller : Epoller Id) (fd : Int) (entry : Option Id) : Epoller Id :=
  { poller with channels := Function.update poller.channels fd entry }

def epollCtl (poller : Epoller Id) (operation : Channel.Operation) (fd : Int)
    (events : Events) : Epoller Id :=
  match operation, poller.kernel fd with
  | .add, none | .mod, some _ =>
    { poller with kernel := Function.update poller.kernel fd (some events) }
  | .del, some _ => { poller with kernel := Function.update poller.kernel fd none }
  | operation, _ => { poller with failed := poller.failed ++ [(operation, fd)] }

def update (poller : Epoller Id) (id : Id) (operation : Channel.Operation) : Epoller Id :=
  poller.epollCtl operation (fd id) (poller.objects id).events

def updateChannel (poller : Epoller Id) (id : Id) : Checked (Epoller Id) :=
  match (poller.objects id).index with
  | .kNew => do
    check "channels_.find(fd) == channels_.end()" (poller.channels (fd id) = none)
    return ((poller.setEntry (fd id) (some id)).setIndex id .kAdded).update fd id .add
  | .kDeleted => do
    check "channels_.find(fd) != channels_.end()" (poller.channels (fd id) ≠ none)
    check "channels_[fd] == channel" (poller.channels (fd id) = some id)
    return (poller.setIndex id .kAdded).update fd id .add
  | .kAdded => do
    check "channels_.find(fd) != channels_.end()" (poller.channels (fd id) ≠ none)
    check "channels_[fd] == channel" (poller.channels (fd id) = some id)
    if (poller.objects id).isNoneEvent then return (poller.update fd id .del).setIndex id .kDeleted
    else return poller.update fd id .mod

def removeChannel (poller : Epoller Id) (id : Id) : Checked (Epoller Id) := do
  let status := (poller.objects id).index
  check "channels_.find(fd) != channels_.end()" (poller.channels (fd id) ≠ none)
  check "channels_[fd] == channel" (poller.channels (fd id) = some id)
  check "channel->isNoneEvent()" ((poller.objects id).isNoneEvent = true)
  check "status == kAdded || status == kDeleted" (status = .kAdded ∨ status = .kDeleted)
  let erased := poller.setEntry (fd id) none
  return (if status = .kAdded then erased.update fd id .del else erased).setIndex id .kNew

/-- `Channel::update` with the new mask. -/
def updateEvents (poller : Epoller Id) (id : Id) (events : Events) : Checked (Epoller Id) :=
  (poller.setObject id { poller.objects id with events, addedToLoop := true }).updateChannel fd id

/-- `Channel::remove`. -/
def removeObject (poller : Epoller Id) (id : Id) : Checked (Epoller Id) := do
  check "isNoneEvent()" ((poller.objects id).isNoneEvent = true)
  (poller.setObject id { poller.objects id with addedToLoop := false }).removeChannel fd id

def perform (poller : Epoller Id) (id : Id) : ChannelCall → Checked (Epoller Id)
  | .enableReading => poller.updateEvents fd id { (poller.objects id).events with read := true }
  | .enableWriting => poller.updateEvents fd id { (poller.objects id).events with write := true }
  | .disableReading => poller.updateEvents fd id { (poller.objects id).events with read := false }
  | .disableWriting => poller.updateEvents fd id { (poller.objects id).events with write := false }
  | .disableAll => poller.updateEvents fd id .kNoneEvent
  | .remove => poller.removeObject fd id

/-- A channel is removed when it is registered and has no interest, as the source asserts. -/
def Allowed (poller : Epoller Id) (id : Id) (call : ChannelCall) : Prop :=
  call = .remove → (poller.objects id).index ≠ .kNew ∧ (poller.objects id).isNoneEvent = true

def machine : Machine (Epoller Id) (Id × ChannelCall) :=
  (Machine.ofFunction fun poller label => poller.perform fd label.1 label.2).restrict
    fun poller label => poller.Allowed label.1 label.2

/-- The status tells what the map and the kernel hold for the descriptor. -/
structure Mirrors (poller : Epoller Id) (id : Id) : Prop where
  kNew : (poller.objects id).index = .kNew ↔ poller.channels (fd id) = none ∧
    poller.kernel (fd id) = none
  kAdded : (poller.objects id).index = .kAdded ↔
    poller.channels (fd id) = some id ∧ poller.kernel (fd id) = some (poller.objects id).events
  kDeleted : (poller.objects id).index = .kDeleted ↔
    poller.channels (fd id) = some id ∧ poller.kernel (fd id) = none

/-- One channel's share of the poller and of the kernel's set. -/
def share (poller : Epoller Id) (id : Id) : Channel :=
  let object := poller.objects id
  ⟨object.events, object.index, object.tied, object.addedToLoop,
    decide (poller.channels (fd id) = some id), poller.kernel (fd id)⟩

/-- What a call does: it changes one channel's share and nothing else. -/
structure Moves (poller after : Epoller Id) (id : Id) : Prop where
  objects : ∀ other, other ≠ id → after.objects other = poller.objects other
  channels : ∀ key, key ≠ fd id → after.channels key = poller.channels key
  kernel : ∀ key, key ≠ fd id → after.kernel key = poller.kernel key
  failed : after.failed = poller.failed
  mirrors : after.Mirrors fd id

variable {fd} {poller after : Epoller Id} {id : Id}

/-- The poller with a new share of a channel. -/
def withShare (poller : Epoller Id) (fd : Id → Int) (id : Id) (object : ChannelObject)
    (entry : Option Id) (interest : Option Events) : Epoller Id where
  objects := Function.update poller.objects id object
  channels := Function.update poller.channels (fd id) entry
  kernel := Function.update poller.kernel (fd id) interest
  failed := poller.failed

theorem withShare_share (object : ChannelObject) (entry : Option Id) (interest : Option Events) :
    (poller.withShare fd id object entry interest).share fd id =
      ⟨object.events, object.index, object.tied, object.addedToLoop,
        decide (entry = some id), interest⟩ := by
  simp [withShare, share]

theorem withShare_moves {object : ChannelObject} {entry : Option Id} {interest : Option Events}
    (kNew : object.index = .kNew ↔ entry = none ∧ interest = none)
    (kAdded : object.index = .kAdded ↔ entry = some id ∧ interest = some object.events)
    (kDeleted : object.index = .kDeleted ↔ entry = some id ∧ interest = none) :
    poller.Moves fd (poller.withShare fd id object entry interest) id where
  objects := fun other different => Function.update_of_ne different _ _
  channels := fun key different => Function.update_of_ne different _ _
  kernel := fun key different => Function.update_of_ne different _ _
  failed := rfl
  mirrors := by
    constructor
    · simpa [withShare] using kNew
    · simpa [withShare] using kAdded
    · simpa [withShare] using kDeleted

theorem update_same {Value : Type} {entries : Int → Value} {key : Int} {value : Value}
    (present : entries key = value) :
    Function.update entries key value = entries := by
  rw [← present, Function.update_eq_self]

theorem updateEvents_moves (mirrors : poller.Mirrors fd id) (events : Events) :
    ∃ after, poller.updateEvents fd id events = .ok after ∧ poller.Moves fd after id ∧
      { poller.share fd id with events }.update = .ok (after.share fd id) := by
  rcases index : (poller.objects id).index
  case kNew =>
    obtain ⟨entry, interest⟩ := mirrors.kNew.mp index
    refine ⟨poller.withShare fd id ⟨events, .kAdded, (poller.objects id).tied, true⟩ (some id)
      (some events), ?_, withShare_moves (by simp) (by simp) (by simp), ?_⟩
    · simp [updateEvents, updateChannel, setObject, setIndex, setEntry, update, epollCtl, check,
        index, entry, interest, withShare, pure, Except.pure]
    · rw [withShare_share]
      simp [share, Channel.update, Channel.updateChannel, Channel.epollCtl, check, index,
        entry, interest, pure, Except.pure]
  case kDeleted =>
    obtain ⟨entry, interest⟩ := mirrors.kDeleted.mp index
    have same := update_same entry
    refine ⟨poller.withShare fd id ⟨events, .kAdded, (poller.objects id).tied, true⟩ (some id)
      (some events), ?_, withShare_moves (by simp) (by simp) (by simp), ?_⟩
    · simp [updateEvents, updateChannel, setObject, setIndex, update, epollCtl, check, index,
        entry, interest, withShare, same, pure, Except.pure]
    · rw [withShare_share]
      simp [share, Channel.update, Channel.updateChannel, Channel.epollCtl, check, index,
        entry, interest, pure, Except.pure]
  case kAdded =>
    obtain ⟨entry, interest⟩ := mirrors.kAdded.mp index
    have same := update_same entry
    by_cases none : events = .kNoneEvent
    · refine ⟨poller.withShare fd id ⟨events, .kDeleted, (poller.objects id).tied, true⟩
        (some id) .none, ?_, withShare_moves (by simp) (by simp) (by simp), ?_⟩
      · simp [updateEvents, updateChannel, setObject, setIndex, update, epollCtl, check, index,
          entry, interest, withShare, same, ChannelObject.isNoneEvent, none, pure, Except.pure]
      · rw [withShare_share]
        simp [share, Channel.update, Channel.updateChannel, Channel.epollCtl, check, index, entry,
          interest, Channel.isNoneEvent, none, pure, Except.pure]
    · refine ⟨poller.withShare fd id ⟨events, .kAdded, (poller.objects id).tied, true⟩ (some id)
        (some events), ?_, withShare_moves (by simp) (by simp) (by simp), ?_⟩
      · simp [updateEvents, updateChannel, setObject, update, epollCtl, check, index, entry,
          interest, withShare, same, ChannelObject.isNoneEvent, none, pure, Except.pure]
      · rw [withShare_share]
        simp [share, Channel.update, Channel.updateChannel, Channel.epollCtl, check, index, entry,
          interest, Channel.isNoneEvent, none, pure, Except.pure]

theorem removeObject_moves (mirrors : poller.Mirrors fd id)
    (registered : (poller.objects id).index ≠ .kNew)
    (silent : (poller.objects id).isNoneEvent = true) :
    ∃ after, poller.removeObject fd id = .ok after ∧ poller.Moves fd after id ∧
      (poller.share fd id).remove = .ok (after.share fd id) := by
  have none : (poller.objects id).events = .kNoneEvent := beq_iff_eq.mp silent
  refine ⟨poller.withShare fd id ⟨(poller.objects id).events, .kNew, (poller.objects id).tied,
    false⟩ .none .none, ?_, withShare_moves (by simp) (by simp) (by simp), ?_⟩
  · rcases index : (poller.objects id).index
    case kNew => exact (registered index).elim
    case kAdded =>
      obtain ⟨entry, interest⟩ := mirrors.kAdded.mp index
      simp [removeObject, removeChannel, setObject, setIndex, setEntry, update, epollCtl, check,
        index, entry, interest, withShare, ChannelObject.isNoneEvent, none, pure, Except.pure]
    case kDeleted =>
      obtain ⟨entry, interest⟩ := mirrors.kDeleted.mp index
      have same := update_same interest
      simp [removeObject, removeChannel, setObject, setIndex, setEntry, check, index, entry,
        same, withShare, ChannelObject.isNoneEvent, none, pure, Except.pure]
  · rcases index : (poller.objects id).index
    case kNew => exact (registered index).elim
    case kAdded =>
      obtain ⟨entry, interest⟩ := mirrors.kAdded.mp index
      rw [withShare_share]
      simp [share, Channel.remove, Channel.removeChannel, Channel.epollCtl, check, index, entry,
        interest, Channel.isNoneEvent, none, pure, Except.pure]
    case kDeleted =>
      obtain ⟨entry, interest⟩ := mirrors.kDeleted.mp index
      rw [withShare_share]
      simp [share, Channel.remove, Channel.removeChannel, check, index, entry,
        interest, Channel.isNoneEvent, none, pure, Except.pure]

/-- Every call that the source's assertions allow returns, and the channel's own model, which
sees only its share, makes the same move. -/
theorem perform_moves (mirrors : poller.Mirrors fd id) {call : ChannelCall}
    (allowed : poller.Allowed id call) :
    ∃ after, poller.perform fd id call = .ok after ∧ poller.Moves fd after id ∧
      call.onChannel (poller.share fd id) = .ok (after.share fd id) := by
  cases call with
  | remove => exact removeObject_moves mirrors (allowed rfl).1 (allowed rfl).2
  | _ => exact updateEvents_moves mirrors _

omit [DecidableEq Id] in
/-- Channels with other descriptors do not notice. -/
theorem Moves.others (moves : poller.Moves fd after id)
    (distinct : Function.Injective fd) {other : Id} (different : other ≠ id)
    (mirrors : poller.Mirrors fd other) : after.Mirrors fd other := by
  have key : fd other ≠ fd id := fun same => different (distinct same)
  constructor
  · rw [moves.objects other different, moves.channels _ key, moves.kernel _ key]
    exact mirrors.kNew
  · rw [moves.objects other different, moves.channels _ key, moves.kernel _ key]
    exact mirrors.kAdded
  · rw [moves.objects other different, moves.channels _ key, moves.kernel _ key]
    exact mirrors.kDeleted

omit [DecidableEq Id] in
theorem initial_mirrors (fd : Id → Int) (id : Id) : initial.Mirrors fd id := by
  constructor <;> simp [initial, ChannelObject.create]

/-- Over every sequence of calls on channels with distinct descriptors the map and the kernel
stay in step with every channel's status, no `epoll_ctl` fails and no assertion does. -/
theorem epoller_mirrors_kernel (distinct : Function.Injective fd) {calls : List (Id × ChannelCall)}
    (run : (machine fd).Run initial calls poller) :
    (∀ id, poller.Mirrors fd id) ∧ poller.failed = [] ∧
      ∀ id call, poller.Allowed id call → ∃ after, poller.perform fd id call = .ok after := by
  have kept : (∀ id, poller.Mirrors fd id) ∧ poller.failed = [] := by
    refine run.invariant (fun _ current => (∀ id, current.Mirrors fd id) ∧ current.failed = [])
      ⟨initial_mirrors fd, rfl⟩ ?_
    rintro _ current ⟨id, call⟩ after ⟨mirrors, failed⟩ ⟨allowed, performed⟩
    obtain ⟨result, returned, moves, _⟩ := perform_moves (mirrors id) allowed
    cases returned.symm.trans performed
    refine ⟨?_, moves.failed.trans failed⟩
    intro other
    by_cases same : other = id
    · rw [same]
      exact moves.mirrors
    · exact moves.others distinct same (mirrors other)
  refine ⟨kept.1, kept.2, ?_⟩
  intro id call allowed
  obtain ⟨after, returned, _⟩ := perform_moves (kept.1 id) allowed
  exact ⟨after, returned⟩

def sampleFd (id : Bool) : Int := if id then 7 else 8

/-- Two channels; one is disabled twice, enabled again, and removed, while the other is watched. -/
def sampleCalls : List (Bool × ChannelCall) :=
  [(true, .enableReading), (false, .disableWriting), (true, .disableAll), (true, .disableAll),
    (true, .enableWriting), (true, .disableWriting), (false, .enableReading), (true, .remove),
    (true, .enableReading)]

theorem epoller_mirrors_kernel_sample :
    ∃ poller : Epoller Bool, (machine sampleFd).Run initial sampleCalls poller ∧
      (poller.objects true).index = .kAdded ∧ poller.kernel 8 = some ⟨true, false⟩ ∧
        poller.failed = [] ∧
      ∀ id, poller.Mirrors sampleFd id := by
  have followed : (Machine.follow (fun poller label => poller.perform sampleFd label.1 label.2)
      (fun poller label => label.2 != .remove || ((poller.objects label.1).index != .kNew &&
        (poller.objects label.1).isNoneEvent)) initial sampleCalls).any (fun poller =>
          (poller.objects true).index == .kAdded && poller.kernel 8 == some ⟨true, false⟩) =
            true := by
    decide +kernel
  obtain ⟨poller, run, final⟩ := Machine.Run.ofFollowAny (machine sampleFd)
    (fun allowed performed => ⟨fun removed => by simpa [removed] using allowed, performed⟩) followed
  simp only [Bool.and_eq_true, beq_iff_eq] at final
  have distinct : Function.Injective sampleFd := by
    intro first second
    cases first <;> cases second <;> decide
  obtain ⟨mirrors, failed, _⟩ := epoller_mirrors_kernel distinct run
  exact ⟨poller, run, final.1, final.2, failed, mirrors⟩

end Epoller

end FakeMuduo.Net
