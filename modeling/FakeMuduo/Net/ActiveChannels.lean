import FakeMuduo.Net.Epoller

/-! The loop polls and handles the channels that are active, while their handlers use, remove,
destroy and construct channels. Addresses and descriptors are used again. -/

namespace FakeMuduo.Net

open FakeMuduo.Base

/-- What `epoll_wait` reports of a descriptor. -/
structure ReadyEvents where
  pollIn : Bool
  pollPri : Bool
  pollOut : Bool
  pollHup : Bool
  pollRdHup : Bool
  pollErr : Bool
  pollNval : Bool
  deriving DecidableEq, Repr

inductive Callback where
  | close | error | read | write
  deriving DecidableEq, Repr

/-- The callbacks that `Channel::handleEventWithGurad` makes, in its order. -/
def ReadyEvents.callbacks (revents : ReadyEvents) : List Callback :=
  (if revents.pollHup && !revents.pollIn then [.close] else []) ++
  (if revents.pollErr || revents.pollNval then [.error] else []) ++
  (if revents.pollIn || revents.pollPri || revents.pollRdHup then [.read] else []) ++
  (if revents.pollOut then [.write] else [])

/-- An identity is the address of a channel. `pointers` has the `data.ptr` of the kernel's entries,
`events` is `events_.size()`, and `callbacks` is what the handler that runs has still to call. -/
structure ActiveChannels (Id : Type) where
  poller : Epoller Id
  fds : Id → Int
  pointers : Int → Option Id
  alive : Id → Bool
  handling : Id → Bool
  revents : Id → ReadyEvents
  events : Nat
  activeChannels : List Id
  remaining : List Id
  currentActiveChannel : Option Id
  eventHandling : Bool
  callbacks : Option (List Callback)

namespace ActiveChannels

variable {Id : Type} [DecidableEq Id]

omit [DecidableEq Id] in
def initial : ActiveChannels Id where
  poller := .initial
  fds := fun _ => 0
  pointers := fun _ => none
  alive := fun _ => false
  handling := fun _ => false
  revents := fun _ => ⟨false, false, false, false, false, false, false⟩
  events := 16
  activeChannels := []
  remaining := []
  currentActiveChannel := none
  eventHandling := false
  callbacks := none

/-- `owned` says whether `tie_.lock()` finds the owner of a tied channel. -/
inductive Step (Id : Type) where
  | construct (id : Id) (fd : Int)
  | tie (id : Id)
  | call (id : Id) (call : ChannelCall)
  | destroy (id : Id) (inLoopThread : Bool)
  | poll (ready : List (Int × ReadyEvents))
  | handleEvent (owned : Bool)
  | callback
  | handled
  | endHandling
  deriving DecidableEq, Repr

variable (loop : ActiveChannels Id)

def construct (id : Id) (fd : Int) : ActiveChannels Id :=
  { loop with
    poller := loop.poller.setObject id .create
    fds := Function.update loop.fds id fd
    alive := Function.update loop.alive id true
    handling := Function.update loop.handling id false }

def tie (id : Id) : ActiveChannels Id :=
  { loop with poller := loop.poller.setObject id { loop.poller.objects id with tied := true } }

/-- The assertions of `Channel::remove` and `EventLoop::removeChannel`. -/
def assertRemovable (id : Id) : ChannelCall → Checked Unit
  | .remove => do
    check "isNoneEvent()" ((loop.poller.objects id).isNoneEvent = true)
    check "current_active_channel_ == channel || std::find(active_channels_, channel) == active_channels_.end()"
      (loop.eventHandling = true → loop.currentActiveChannel = some id ∨ id ∉ loop.activeChannels)
    return ()
  | .enableReading | .enableWriting | .disableReading | .disableWriting | .disableAll => return ()

/-- A call of a channel, and what it leaves in the kernel: an `epoll_ctl` that
succeeds stores the channel. -/
def callChannel (id : Id) (call : ChannelCall) : Checked (ActiveChannels Id) := do
  loop.assertRemovable id call
  let poller ← loop.poller.perform loop.fds id call
  return { loop with
    poller
    pointers := if poller.failed = loop.poller.failed then
        Function.update loop.pointers (loop.fds id)
          (if (poller.kernel (loop.fds id)).isSome then some id else none)
      else loop.pointers }

/-- The destructor of a channel. -/
def destroy (id : Id) (inLoopThread : Bool) : Checked (ActiveChannels Id) := do
  check "!event_handling_" (loop.handling id = false)
  check "!added_to_loop_" ((loop.poller.objects id).addedToLoop = false)
  check "!loop_->hasChannel(this)" (inLoopThread = true →
    loop.poller.channels (loop.fds id) ≠ some id)
  return { loop with alive := Function.update loop.alive id false }

/-- `epoll_wait` reports descriptors of the interest set, each once and no more than
there is room for. -/
def Reports (ready : List (Int × ReadyEvents)) : Prop :=
  (ready.map Prod.fst).Nodup ∧ ready.length ≤ loop.events ∧
    ∀ event ∈ ready, loop.poller.kernel event.1 ≠ none

instance (ready : List (Int × ReadyEvents)) : Decidable (loop.Reports ready) :=
  inferInstanceAs (Decidable (_ ∧ _ ∧ _))

def fillActiveChannels (loop : ActiveChannels Id) :
    List (Int × ReadyEvents) → Checked (ActiveChannels Id)
  | [] => .ok loop
  | (fd, revents) :: ready =>
    match loop.pointers fd with
    | none => .error .danglingReference
    | some id =>
      if loop.alive id then
        fillActiveChannels { loop with
          revents := Function.update loop.revents id revents
          activeChannels := loop.activeChannels ++ [id] } ready
      else .error .danglingReference

/-- `Epoller::poll` and the start of the loop over the active channels. -/
def poll (ready : List (Int × ReadyEvents)) : Checked (ActiveChannels Id) := do
  let filled ← ({ loop with activeChannels := [] }).fillActiveChannels ready
  return { filled with
    events := if 0 < ready.length ∧ ready.length = loop.events then 2 * loop.events else loop.events
    remaining := filled.activeChannels
    eventHandling := true }

/-- Handlers and functors call channels that are alive. -/
def perform : Step Id → Checked (ActiveChannels Id)
  | .construct id fd => if loop.alive id then .error .disabled else .ok (loop.construct id fd)
  | .tie id => if loop.alive id then .ok (loop.tie id) else .error .disabled
  | .call id call => if loop.alive id then loop.callChannel id call else .error .disabled
  | .destroy id inLoopThread =>
    if loop.alive id then loop.destroy id inLoopThread
    else .error .disabled
  | .poll ready =>
    if loop.eventHandling = false ∧ loop.Reports ready then loop.poll ready else .error .disabled
  | .handleEvent owned =>
    match loop.callbacks, loop.remaining with
    | none, id :: remaining =>
      if loop.alive id then
        let next := { loop with remaining, currentActiveChannel := some id }
        if (loop.poller.objects id).tied && !owned then .ok next
        else .ok { next with
          handling := Function.update loop.handling id true
          callbacks := some (loop.revents id).callbacks }
      else .error .danglingReference
    | _, _ => .error .disabled
  | .callback =>
    match loop.callbacks, loop.currentActiveChannel with
    | some (_ :: callbacks), some id =>
      if loop.alive id then .ok { loop with callbacks := some callbacks }
      else .error .danglingReference
    | _, _ => .error .disabled
  | .handled =>
    match loop.callbacks, loop.currentActiveChannel with
    | some [], some id =>
      if loop.alive id then
        .ok { loop with callbacks := none, handling := Function.update loop.handling id false }
      else .error .danglingReference
    | _, _ => .error .disabled
  | .endHandling =>
    if loop.eventHandling = true ∧ loop.remaining = [] ∧ loop.callbacks = none then
      .ok { loop with currentActiveChannel := none, eventHandling := false }
    else .error .disabled

def machine : Machine (ActiveChannels Id) (Step Id) := .ofFunction perform

end ActiveChannels

end FakeMuduo.Net
