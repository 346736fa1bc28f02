import FakeMuduo.Base.Checked
import FakeMuduo.Base.Machine
import FakeMuduo.Base.OrderedSet
import Mathlib.Data.Prod.Lex
import Mathlib.Data.Finset.Card

/-! Timers of an event loop. Time stamps and durations count microseconds. -/

namespace FakeMuduo.Net

open FakeMuduo.Base

structure Timespec where
  tvSec : Int
  tvNsec : Int
  deriving DecidableEq, Repr

/-- C++ division and remainder truncate toward zero. -/
def toTimespec (time : Int) : Timespec where
  tvSec := time.tdiv 1000000
  tvNsec := time.tmod 1000000 * 1000

/-- `now` is what the clock says during the call. -/
def timespecFromNow (when now : Int) : Timespec :=
  let interval := toTimespec (when - now)
  let interval := if interval.tvSec < 0 then { interval with tvSec := 0 } else interval
  if interval.tvSec = 0 ∧ interval.tvNsec < 100 then { interval with tvNsec := 100 } else interval

/-- A one-shot timerfd: `target` is the time it is armed for, in nanoseconds, `unread`
an expiry that was not read yet, `armedAt` the time of the last arming. -/
structure Timerfd where
  target : Option Int
  unread : Bool
  armedAt : Int
  deriving DecidableEq, Repr

namespace Timerfd

def new : Timerfd := ⟨none, false, 0⟩

/-- `timerfd_settime` refuses a malformed time and disarms at zero. -/
def settime (timerfd : Timerfd) (now : Int) (value : Timespec) : Timerfd :=
  if value.tvSec < 0 ∨ value.tvNsec < 0 ∨ 1000000000 ≤ value.tvNsec then timerfd
  else if value.tvSec = 0 ∧ value.tvNsec = 0 then { timerfd with target := none, unread := false }
  else ⟨some (1000 * now + (value.tvSec * 1000000000 + value.tvNsec)), false, 1000 * now⟩

end Timerfd

/-- Address of a `Timer`; null is `0`. -/
abbrev Address := Nat

def UINTPTR_MAX : Address := 18446744073709551615

structure Timer where
  expiration : Int
  interval : Int
  repeats : Bool
  sequence : Nat
  deriving DecidableEq, Repr

namespace Timer

def make (when interval : Int) (sequence : Nat) : Timer where
  expiration := when
  interval := interval
  repeats := decide (interval > 0)
  sequence := sequence

def restart (timer : Timer) (when : Int) : Timer :=
  if timer.repeats then { timer with expiration := when + timer.interval }
  else { timer with expiration := 0 }

end Timer

structure TimerId where
  timer : Address
  sequence : Nat
  deriving DecidableEq, Repr

structure TimerEntry where
  expiration : Int
  timer : Address
  deriving DecidableEq, Repr

namespace TimerEntry

def key (entry : TimerEntry) : Int ×ₗ Address := toLex (entry.expiration, entry.timer)

theorem key_injective : Function.Injective key := by
  rintro ⟨expiration, timer⟩ ⟨other, address⟩ same
  obtain ⟨rfl, rfl⟩ := Prod.mk.inj (toLex.injective same)
  rfl

/-- `std::pair` compares the expirations first, then the addresses. -/
instance : LinearOrder TimerEntry := LinearOrder.lift' key key_injective

theorem lt_iff {entry other : TimerEntry} :
    entry < other ↔ entry.expiration < other.expiration ∨
      entry.expiration = other.expiration ∧ entry.timer < other.timer :=
  Prod.Lex.toLex_lt_toLex

end TimerEntry

/-- `heap` holds the timers alive; `freed` records the timers deleted so far. -/
structure TimerQueue where
  heap : Address → Option Timer
  numsTimerCreated : Nat
  freed : List TimerId
  timerTree : OrderedSet TimerEntry
  activeTimers : Finset TimerId
  deletedTimers : Finset TimerId
  callingExpiredTimers : Bool
  timerfd : Timerfd

namespace TimerQueue

def new : TimerQueue where
  heap := fun _ => none
  numsTimerCreated := 0
  freed := []
  timerTree := .empty
  activeTimers := ∅
  deletedTimers := ∅
  callingExpiredTimers := false
  timerfd := .new

def deref (queue : TimerQueue) (timer : Address) : Checked Timer :=
  match queue.heap timer with
  | some timer => .ok timer
  | none => .error .danglingReference

def delete (queue : TimerQueue) (timer : Address) : Checked TimerQueue := do
  let dead ← queue.deref timer
  return { queue with
    heap := Function.update queue.heap timer none
    freed := queue.freed ++ [⟨timer, dead.sequence⟩] }

/-- `new Timer` at an address the allocator picks. -/
def createTimer (queue : TimerQueue) (address : Address) (when interval : Int) : TimerQueue :=
  { queue with
    heap := Function.update queue.heap address (some (.make when interval queue.numsTimerCreated))
    numsTimerCreated := queue.numsTimerCreated + 1 }

def updateTimerfd (queue : TimerQueue) (now expiration : Int) : TimerQueue :=
  { queue with timerfd := queue.timerfd.settime now (timespecFromNow expiration now) }

/-- The assertion `timer_tree_.size() == active_timers_.size()`. -/
def checkSizes (queue : TimerQueue) : Checked Unit :=
  check "timer_tree_.size() == active_timers_.size()"
    (queue.timerTree.size = queue.activeTimers.card)

def insertTimer (queue : TimerQueue) (timer : Address) : Checked (Bool × TimerQueue) := do
  queue.checkSizes
  let target ← queue.deref timer
  let isEarliestTimer := queue.timerTree.first?.all fun first =>
    target.expiration < first.expiration
  let res1 := queue.timerTree.insert ⟨target.expiration, timer⟩
  check "res1.second" (res1.1 = true)
  check "res2.second" (⟨timer, target.sequence⟩ ∉ queue.activeTimers)
  return (isEarliestTimer, { queue with
    timerTree := res1.2
    activeTimers := insert ⟨timer, target.sequence⟩ queue.activeTimers })

def addTimerInLoop (queue : TimerQueue) (now : Int) (timer : Address) : Checked TimerQueue := do
  let (isEarliestTimer, queue) ← queue.insertTimer timer
  if isEarliestTimer then
    let target ← queue.deref timer
    return queue.updateTimerfd now target.expiration
  else return queue

def delTimerInLoop (queue : TimerQueue) (timerId : TimerId) : Checked TimerQueue := do
  queue.checkSizes
  let queue ←
    if timerId ∈ queue.activeTimers then do
      let timer ← queue.deref timerId.timer
      let (n, timerTree) := queue.timerTree.erase ⟨timer.expiration, timerId.timer⟩
      check "n == 1" (n = 1)
      { queue with timerTree, activeTimers := queue.activeTimers.erase timerId }.delete
        timerId.timer
    else if queue.callingExpiredTimers then
      .ok { queue with deletedTimers := insert timerId queue.deletedTimers }
    else .ok queue
  queue.checkSizes
  return queue

def eraseActive (queue : TimerQueue) (entry : TimerEntry) : Checked TimerQueue := do
  let timer ← queue.deref entry.timer
  let timerId : TimerId := ⟨entry.timer, timer.sequence⟩
  check "n == 1" (timerId ∈ queue.activeTimers)
  return { queue with activeTimers := queue.activeTimers.erase timerId }

def getExpired (queue : TimerQueue) (now : Int) : Checked (List TimerEntry × TimerQueue) := do
  queue.checkSizes
  let (expired, timerTree) := queue.timerTree.cut ⟨now, UINTPTR_MAX⟩
  check "iter == timer_tree_.end() || now < iter->first"
    (timerTree.first?.all fun first => now < first.expiration)
  let queue ← expired.foldlM eraseActive { queue with timerTree }
  queue.checkSizes
  return (expired, queue)

/-- A pointer of the expired batch, with the sequence of the timer it was taken from: to
use it when that timer is gone is an error, even if another one lives at the address. -/
structure Pending where
  entry : TimerEntry
  sequence : Nat
  deriving DecidableEq, Repr

def Pending.id (pending : Pending) : TimerId := ⟨pending.entry.timer, pending.sequence⟩

def derefPending (queue : TimerQueue) (pending : Pending) : Checked Timer := do
  let timer ← queue.deref pending.entry.timer
  if timer.sequence = pending.sequence then return timer else .error .danglingReference

def pendingOf (queue : TimerQueue) (expired : List TimerEntry) : List Pending :=
  expired.filterMap fun entry => (queue.heap entry.timer).map fun timer => ⟨entry, timer.sequence⟩

/-- `handleRead` up to the loop over the expired timers. -/
def startCalling (queue : TimerQueue) (now : Int) : Checked (List Pending × TimerQueue) := do
  let queue := { queue with timerfd := { queue.timerfd with unread := false } }
  let (expired, queue) ← queue.getExpired now
  return (queue.pendingOf expired, { queue with callingExpiredTimers := true, deletedTimers := ∅ })

/-- The body of the loop in `resetTimer`. -/
def resetExpired (now : Int) (queue : TimerQueue) (pending : Pending) : Checked TimerQueue := do
  let timer ← queue.derefPending pending
  let timerId : TimerId := ⟨pending.entry.timer, timer.sequence⟩
  if timer.repeats = true ∧ timerId ∉ queue.deletedTimers then
    let queue := { queue with
      heap := Function.update queue.heap pending.entry.timer (some (timer.restart now)) }
    let (_, queue) ← queue.insertTimer pending.entry.timer
    return queue
  else queue.delete pending.entry.timer

/-- `now` is the time `handleRead` started, `later` what the clock says at the end. -/
def resetTimer (queue : TimerQueue) (expired : List Pending) (now later : Int) :
    Checked TimerQueue := do
  let queue ← expired.foldlM (resetExpired now) queue
  match queue.timerTree.first? with
  | none => return queue
  | some first =>
    let timer ← queue.deref first.timer
    return queue.updateTimerfd later timer.expiration

/-- `~TimerQueue`, after it has closed the timerfd. -/
def destroy (queue : TimerQueue) : Checked TimerQueue :=
  queue.timerTree.elements.foldlM (fun queue entry => queue.delete entry.timer) queue

end TimerQueue

namespace TimerRun

open TimerQueue

/-- Whether the loop's thread is inside `handleRead`, and then with which batch and which
part of it still to be called. -/
inductive Phase where
  | idle
  | calling (now : Int) (expired rest : List Pending)
  deriving DecidableEq, Repr

inductive Event where
  | added (timerId : TimerId)
  | cancelled (timerId : TimerId)
  | started (timerId : TimerId)
  deriving DecidableEq, Repr

/-- `waiting` are the timers created and not yet handed to `addTimerInLoop`. -/
structure World where
  queue : TimerQueue
  phase : Phase
  waiting : List TimerId
  trace : List Event

def World.initial : World := ⟨.new, .idle, [], []⟩

/-- The user's code runs on the loop's thread: outside `handleRead`, or in a callback. -/
def Phase.userRuns : Phase → Bool
  | idle => true
  | calling _ expired rest => decide (rest.length < expired.length)

/-- `call` starts the next callback of the batch, `finish` is the rest of `handleRead`,
`expire` is the timerfd's own step. Any thread may create timers. -/
inductive Step where
  | create (address : Address) (when interval : Int)
  | addTimerInLoop (now : Int) (timerId : TimerId)
  | delTimerInLoop (timerId : TimerId)
  | handleRead (now : Int)
  | call
  | finish (later : Int)
  | expire (now : Int)
  deriving DecidableEq, Repr

def Step.perform (world : World) : Step → Checked World
  | create address when interval =>
    if world.queue.heap address = none ∧ 0 < address ∧ address < UINTPTR_MAX then
      .ok { world with
        queue := world.queue.createTimer address when interval
        waiting := world.waiting ++ [⟨address, world.queue.numsTimerCreated⟩] }
    else .error .disabled
  | addTimerInLoop now timerId =>
    if timerId ∈ world.waiting ∧ world.phase.userRuns then do
      let queue ← world.queue.addTimerInLoop now timerId.timer
      return { world with
        queue
        waiting := world.waiting.erase timerId
        trace := world.trace ++ [.added timerId] }
    else .error .disabled
  | delTimerInLoop timerId =>
    if world.phase.userRuns then do
      let queue ← world.queue.delTimerInLoop timerId
      return { world with queue, trace := world.trace ++ [.cancelled timerId] }
    else .error .disabled
  | handleRead now =>
    if world.phase = .idle then do
      let (expired, queue) ← world.queue.startCalling now
      return { world with queue, phase := .calling now expired expired }
    else .error .disabled
  | call =>
    match world.phase with
    | .calling now expired (next :: rest) => do
      let _ ← world.queue.derefPending next
      return { world with
        phase := .calling now expired rest
        trace := world.trace ++ [.started next.id] }
    | _ => .error .disabled
  | finish later =>
    match world.phase with
    | .calling now expired [] => do
      let queue ← { world.queue with callingExpiredTimers := false }.resetTimer expired now later
      return { world with queue, phase := .idle }
    | _ => .error .disabled
  | expire now =>
    match world.queue.timerfd.target with
    | some target =>
      if target ≤ 1000 * now then
        .ok { world with queue := { world.queue with timerfd :=
          { world.queue.timerfd with target := none, unread := true } } }
      else .error .disabled
    | none => .error .disabled

def machine : Machine World Step := .ofFunction Step.perform

end TimerRun

end FakeMuduo.Net
