import FakeMuduo.Net.TimerQueue

/-! The calls of a loop's timers from any thread. The loop's own thread carries a request out at
once; the others queue it, and the loop's thread takes the queued ones in their order. -/

namespace FakeMuduo.Net.TimerRequests

open FakeMuduo.Base

/-- A functor queued by `TimerQueue::addTimer` or `delTimer`. -/
inductive Request where
  | addTimer (timerId : TimerId)
  | delTimer (timerId : TimerId)
  deriving DecidableEq, Repr

/-- Where another thread is in `addTimer`: it has created the timer, or also queued the request
and has still to read the id that it returns. -/
inductive Caller where
  | idle
  | created (timerId : TimerId)
  | posted (timerId : TimerId)
  deriving DecidableEq, Repr

/-- Where the loop's thread is in `loop()`. -/
inductive Place where
  | outside
  | polling
  | handling
  | calling (requests : List Request)
  deriving DecidableEq, Repr

def Place.requests : Place → List Request
  | .calling requests => requests
  | _ => []

/-- `returned` are the ids that calls of `addTimer` have returned, and `cancelledAtOnce` those for
which the loop's own thread called `cancel`. -/
structure World where
  timers : TimerRun.World
  place : Place
  pending : List Request
  callers : Nat → Caller
  returned : List TimerId
  cancelledAtOnce : List TimerId

namespace World

def initial : World where
  timers := .initial
  place := .outside
  pending := []
  callers := fun _ => .idle
  returned := []
  cancelledAtOnce := []

variable (world : World)

/-- The requests that the loop's thread has still to take. -/
def queued : List Request := world.place.requests ++ world.pending

/-- The loop's thread runs code of the user's. -/
def InUserCode : Prop := world.place ≠ .polling ∧ world.timers.phase.userRuns = true

instance : Decidable world.InUserCode := inferInstanceAs (Decidable (_ ∧ _))

/-- The id that the next new timer has. -/
def nextId (address : Address) : TimerId := ⟨address, world.timers.queue.numsTimerCreated⟩

end World

/-- `addTimer` and `cancel` are calls on the loop's thread. Of another thread `newTimer`, `post` and
`returnId` are the parts of `addTimer`, and `foreignCancel` is `cancel`. `handleRead`, `call`,
`finish` and `expire` are those of the timer queue. -/
inductive Step where
  | addTimer (address : Address) (when interval now : Int)
  | cancel (timerId : TimerId)
  | newTimer (thread : Nat) (address : Address) (when interval : Int)
  | post (thread : Nat)
  | returnId (thread : Nat)
  | foreignCancel (timerId : TimerId)
  | loop
  | epollWait
  | handleRead (now : Int)
  | call
  | finish (later : Int)
  | expire (now : Int)
  | doPendingFunctors
  | callFunctor (now : Int)
  | endFunctors
  deriving DecidableEq, Repr

namespace World

variable (world : World)

/-- A step of the timer queue. -/
def takes (step : TimerRun.Step) : Checked World := do
  let timers ← step.perform world.timers
  return { world with timers }

/-- `addTimerInLoop` or `delTimerInLoop` for a queued request. -/
def callFunctor (now : Int) : Request → Checked World
  | .addTimer timerId => world.takes (.addTimerInLoop now timerId)
  | .delTimer timerId => world.takes (.delTimerInLoop timerId)

def perform : Step → Checked World
  | .addTimer address when interval now =>
    if world.InUserCode then do
      let created ← world.takes (.create address when interval)
      let added ← created.takes (.addTimerInLoop now (world.nextId address))
      return { added with returned := world.returned ++ [world.nextId address] }
    else .error .disabled
  | .cancel timerId =>
    if world.InUserCode ∧ timerId ∈ world.returned then do
      let cancelled ← world.takes (.delTimerInLoop timerId)
      return { cancelled with cancelledAtOnce := world.cancelledAtOnce ++ [timerId] }
    else .error .disabled
  | .newTimer thread address when interval =>
    match world.callers thread with
    | .idle => do
      let created ← world.takes (.create address when interval)
      return { created with
        callers := Function.update world.callers thread (.created (world.nextId address)) }
    | _ => .error .disabled
  | .post thread =>
    match world.callers thread with
    | .created timerId =>
      .ok { world with
        pending := world.pending ++ [.addTimer timerId]
        callers := Function.update world.callers thread (.posted timerId) }
    | _ => .error .disabled
  | .returnId thread =>
    match world.callers thread with
    | .posted timerId => do
      let timer ← world.timers.queue.deref timerId.timer
      if timer.sequence = timerId.sequence then
        return { world with
          returned := world.returned ++ [timerId]
          callers := Function.update world.callers thread .idle }
      else .error .danglingReference
    | _ => .error .disabled
  | .foreignCancel timerId =>
    if timerId ∈ world.returned then
      .ok { world with pending := world.pending ++ [.delTimer timerId] }
    else .error .disabled
  | .loop =>
    if world.place = .outside ∧ world.timers.phase = .idle then .ok { world with place := .polling }
    else .error .disabled
  | .epollWait =>
    if world.place = .polling then .ok { world with place := .handling }
    else .error .disabled
  | .handleRead now =>
    if world.place = .handling then world.takes (.handleRead now)
    else .error .disabled
  | .call => world.takes .call
  | .finish later => world.takes (.finish later)
  | .expire now => world.takes (.expire now)
  | .doPendingFunctors =>
    if world.place = .handling ∧ world.timers.phase = .idle then
      .ok { world with place := .calling world.pending, pending := [] }
    else .error .disabled
  | .callFunctor now =>
    match world.place with
    | .calling (request :: requests) =>
      { world with place := .calling requests }.callFunctor now request
    | _ => .error .disabled
  | .endFunctors =>
    if world.place = .calling [] then .ok { world with place := .polling }
    else .error .disabled

end World

def machine : Machine World Step := .ofFunction World.perform

end FakeMuduo.Net.TimerRequests
