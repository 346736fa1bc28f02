import FakeMuduo.Base.Checked

/-! A channel together with what the poller and the kernel hold for its file
descriptor. Channels of one loop have distinct descriptors, so each sees only its
own entry of `channels_` and of the kernel's interest set. -/

namespace FakeMuduo.Net

open FakeMuduo.Base

/-- The interest mask: `read` is `kReadEvent`, `write` is `kWriteEvent`. -/
structure Events where
  read : Bool
  write : Bool
  deriving DecidableEq, Repr

def Events.kNoneEvent : Events := ⟨false, false⟩

/-- The poller's status, kept in the channel's index. -/
inductive Status where
  | kNew | kAdded | kDeleted
  deriving DecidableEq, Repr

/-- `registered` says that `channels_` maps the descriptor to this channel, and
`interest` is the kernel's entry for it. -/
structure Channel where
  events : Events
  index : Status
  tied : Bool
  addedToLoop : Bool
  registered : Bool
  interest : Option Events
  deriving DecidableEq, Repr

namespace Channel

/-- The constructor, for a descriptor no poller knows. -/
def create : Channel where
  events := .kNoneEvent
  index := .kNew
  tied := false
  addedToLoop := false
  registered := false
  interest := none

def isReading (channel : Channel) : Bool := channel.events.read

def isWriting (channel : Channel) : Bool := channel.events.write

def isNoneEvent (channel : Channel) : Bool := channel.events == .kNoneEvent

inductive Operation where
  | add | mod | del
  deriving DecidableEq, Repr

/-- `epoll_ctl`: adding fails on a present entry, the other operations on an
absent one, and a failure changes nothing. -/
def epollCtl (channel : Channel) : Operation → Channel
  | .add =>
    if channel.interest.isNone then { channel with interest := some channel.events } else channel
  | .mod =>
    if channel.interest.isSome then { channel with interest := some channel.events } else channel
  | .del => { channel with interest := none }

/-- `Epoller::updateChannel`. -/
def updateChannel (channel : Channel) : Checked Channel :=
  match channel.index with
  | .kNew => do
    check "channels_.find(fd) == channels_.end()" (channel.registered = false)
    return { channel with registered := true, index := .kAdded }.epollCtl .add
  | .kDeleted => do
    check "channels_[fd] == channel" (channel.registered = true)
    return { channel with index := .kAdded }.epollCtl .add
  | .kAdded => do
    check "channels_[fd] == channel" (channel.registered = true)
    if channel.isNoneEvent then
      return { channel.epollCtl .del with index := .kDeleted }
    else
      return channel.epollCtl .mod

/-- `Epoller::removeChannel`. -/
def removeChannel (channel : Channel) : Checked Channel := do
  check "channels_[fd] == channel" (channel.registered = true)
  check "channel->isNoneEvent()" (channel.isNoneEvent = true)
  check "status == kAdded || status == kDeleted"
    (channel.index = .kAdded ∨ channel.index = .kDeleted)
  let erased := { channel with registered := false }
  let cleared := if channel.index = .kAdded then erased.epollCtl .del else erased
  return { cleared with index := .kNew }

def update (channel : Channel) : Checked Channel :=
  { channel with addedToLoop := true }.updateChannel

def remove (channel : Channel) : Checked Channel := do
  check "isNoneEvent()" (channel.isNoneEvent = true)
  { channel with addedToLoop := false }.removeChannel

def tie (channel : Channel) : Channel := { channel with tied := true }

def enableReading (channel : Channel) : Checked Channel :=
  { channel with events.read := true }.update

def enableWriting (channel : Channel) : Checked Channel :=
  { channel with events.write := true }.update

def disableReading (channel : Channel) : Checked Channel :=
  { channel with events.read := false }.update

def disableWriting (channel : Channel) : Checked Channel :=
  { channel with events.write := false }.update

def disableAll (channel : Channel) : Checked Channel :=
  { channel with events := .kNoneEvent }.update

/-- The kernel watches the descriptor with the channel's interest. -/
structure Polled (channel : Channel) : Prop where
  registered : channel.registered = true
  added : channel.index = .kAdded
  mirrored : channel.interest = some channel.events

/-- Registered without interest: the kernel no longer knows the descriptor. -/
structure Parked (channel : Channel) : Prop where
  registered : channel.registered = true
  deleted : channel.index = .kDeleted
  silent : channel.events = .kNoneEvent
  unwatched : channel.interest = none

/-- Neither the poller nor the kernel knows the descriptor. -/
structure Unregistered (channel : Channel) : Prop where
  unmapped : channel.registered = false
  fresh : channel.index = .kNew
  silent : channel.events = .kNoneEvent
  unwatched : channel.interest = none

theorem create_unregistered : create.Unregistered := ⟨rfl, rfl, rfl, rfl⟩

/-- A watched channel that keeps some interest stays watched, with the new mask. -/
theorem update_polled {channel : Channel} (registered : channel.registered = true)
    (added : channel.index = .kAdded) (watched : channel.interest.isSome)
    (interested : channel.events ≠ .kNoneEvent) :
    ∃ result, channel.update = .ok result ∧ result.Polled ∧ result.events = channel.events := by
  rcases channel with ⟨events, index, tied, addedToLoop, mapped, interest⟩
  subst registered added
  refine ⟨⟨events, .kAdded, tied, true, true, some events⟩, ?_, ⟨rfl, rfl, rfl⟩, rfl⟩
  have some : (events == Events.kNoneEvent) = false := by simpa using interested
  simp [update, updateChannel, isNoneEvent, some, epollCtl, check, watched, pure, Except.pure]

theorem enableWriting_polled (polled : Polled channel) :
    ∃ result, channel.enableWriting = .ok result ∧ result.Polled ∧
      result.events = { channel.events with write := true } :=
  update_polled polled.registered polled.added (by simp [polled.mirrored])
    (by simp [Events.kNoneEvent])

theorem disableWriting_polled (polled : Polled channel) (reading : channel.isReading = true) :
    ∃ result, channel.disableWriting = .ok result ∧ result.Polled ∧
      result.events = { channel.events with write := false } :=
  update_polled polled.registered polled.added (by simp [polled.mirrored])
    (by simpa [Events.kNoneEvent, isReading] using reading)

theorem enableReading_unregistered (unregistered : Unregistered channel) :
    ∃ result, channel.tie.enableReading = .ok result ∧ result.Polled ∧
      result.events = ⟨true, false⟩ := by
  rcases channel with ⟨events, index, tied, addedToLoop, mapped, interest⟩
  obtain ⟨rfl, rfl, rfl, rfl⟩ := unregistered
  exact ⟨_, rfl, ⟨rfl, rfl, rfl⟩, rfl⟩

theorem enableWriting_create : ∃ result, create.enableWriting = .ok result ∧ result.Polled :=
  ⟨_, rfl, ⟨rfl, rfl, rfl⟩⟩

theorem disableAll_parked (polled : Polled channel) :
    ∃ result, channel.disableAll = .ok result ∧ result.Parked := by
  rcases channel with ⟨events, index, tied, addedToLoop, mapped, interest⟩
  obtain ⟨registered, added, _⟩ := polled
  subst registered added
  exact ⟨_, rfl, ⟨rfl, rfl, rfl, rfl⟩⟩

theorem remove_unregistered (parked : Parked channel) :
    ∃ result, channel.remove = .ok result ∧ result.Unregistered := by
  rcases channel with ⟨events, index, tied, addedToLoop, mapped, interest⟩
  obtain ⟨rfl, rfl, rfl, rfl⟩ := parked
  exact ⟨_, rfl, ⟨rfl, rfl, rfl, rfl⟩⟩

/-- A removed channel may be destroyed. -/
theorem remove_addedToLoop {channel result : Channel} (removed : channel.remove = .ok result) :
    result.addedToLoop = false := by
  simp only [remove, removeChannel, check_bind_eq_ok] at removed
  obtain ⟨_, _, _, _, returned⟩ := removed
  cases returned
  by_cases added : channel.index = .kAdded
  · simp [added, epollCtl]
  · simp [added]

end Channel

end FakeMuduo.Net
