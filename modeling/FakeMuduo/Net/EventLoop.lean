import FakeMuduo.Base.Checked
import FakeMuduo.Base.Machine
import Mathlib.Data.List.Range
import Mathlib.Logic.Function.Basic

/-! An event loop and the threads that post functors to it. The loop's own thread and the
others interleave at every push, swap, wakeup and read of the eventfd. -/

namespace FakeMuduo.Net

open FakeMuduo.Base

namespace EventLoop

/-- A functor pushed to `pending_functors_`: its place among all pushes, and how many calls of
`doPendingFunctors` had swapped the list before. -/
structure Posted where
  ticket : Nat
  round : Nat
  deriving DecidableEq, Repr

/-- The wakeup channel, or one whose handler runs user code. -/
inductive ActiveChannel where
  | wakeup
  | other
  deriving DecidableEq, Repr

/-- Where the loop's thread is in `loop()`. `called` is `doPendingFunctors` before the swap,
`running` its loop over the functors, and `iterated` the end of an iteration. -/
inductive Phase where
  | outside
  | polling
  | handling (remaining : List ActiveChannel)
  | called
  | running (functors : List Posted)
  | iterated
  deriving DecidableEq, Repr

end EventLoop

/-- `posting` is the functor for which the loop's own thread is in `queueInLoop` after the push,
and `waking` the same for the other threads. `depth` counts the calls of user code the loop's
thread is in. `pushed` and `started` say what happened so far, a start with the number of its
`doPendingFunctors` call; `entered` is how many functors were pushed before `loop()`. -/
structure EventLoop where
  pending : List EventLoop.Posted
  callingPendingFunctors : Bool
  wakeupCount : Nat
  phase : EventLoop.Phase
  depth : Nat
  posting : Option EventLoop.Posted
  waking : Nat → Option EventLoop.Posted
  rounds : Nat
  pushed : List EventLoop.Posted
  started : List (EventLoop.Posted × Nat)
  entered : Nat

namespace EventLoop

def initial : EventLoop where
  pending := []
  callingPendingFunctors := false
  wakeupCount := 0
  phase := .outside
  depth := 0
  posting := none
  waking := fun _ => none
  rounds := 0
  pushed := []
  started := []
  entered := 0

variable (loop : EventLoop)

/-- The functor that the next push adds. -/
def posted : Posted := ⟨loop.pushed.length, loop.rounds⟩

def push : EventLoop :=
  { loop with pending := loop.pending ++ [loop.posted], pushed := loop.pushed ++ [loop.posted] }

/-- A write of the eventfd fails when its counter is full. -/
def wakeup : EventLoop :=
  { loop with wakeupCount := min (loop.wakeupCount + 1) 18446744073709551614 }

def handleRead : EventLoop := { loop with wakeupCount := 0 }

/-- The loop's thread runs code of the user's, which may call the loop. -/
def inUserCode : Prop := 0 < loop.depth ∨ loop.phase = .outside

instance : Decidable loop.inUserCode := inferInstanceAs (Decidable (_ ∨ _))

/-- A step of the loop's thread, or of another one. `queueInLoop` is the push and
`testWakeup` the rest of that call; `runInLoop` calls its functor at once. Of other threads
both are a push and then a wakeup. -/
inductive Step where
  | loop
  | poll
  | quit
  | epollWait (active : List ActiveChannel)
  | handleEvent
  | doPendingFunctors
  | swap
  | callFunctor
  | endFunctors
  | queueInLoop
  | testWakeup
  | runInLoop
  | returnFromUser
  | foreignQueueInLoop (thread : Nat)
  | foreignWakeup (thread : Nat)
  deriving DecidableEq, Repr

/-- The loop's thread is in no call of its own. -/
def isFree : Prop := loop.depth = 0 ∧ loop.posting = none

instance : Decidable loop.isFree := inferInstanceAs (Decidable (_ ∧ _))

def perform : Step → Checked EventLoop
  | .loop =>
    if loop.phase = .outside ∧ loop.isFree then
      .ok { loop with phase := .polling, entered := loop.pushed.length }
    else .error .disabled
  | .poll =>
    if loop.phase = .iterated then .ok { loop with phase := .polling }
    else .error .disabled
  | .quit =>
    if loop.phase = .iterated then .ok { loop with phase := .outside }
    else .error .disabled
  | .epollWait active =>
    if loop.phase = .polling ∧ (.wakeup ∈ active → 0 < loop.wakeupCount) then
      .ok { loop with phase := .handling active }
    else .error .disabled
  | .handleEvent =>
    match loop.phase with
    | .handling (.wakeup :: remaining) =>
      if loop.isFree then .ok { loop.handleRead with phase := .handling remaining }
      else .error .disabled
    | .handling (.other :: remaining) =>
      if loop.isFree then .ok { loop with phase := .handling remaining, depth := 1 }
      else .error .disabled
    | _ => .error .disabled
  | .doPendingFunctors =>
    if loop.phase = .handling [] ∧ loop.isFree then
      .ok { loop with phase := .called, callingPendingFunctors := true }
    else .error .disabled
  | .swap =>
    if loop.phase = .called then
      .ok { loop with phase := .running loop.pending, pending := [], rounds := loop.rounds + 1 }
    else .error .disabled
  | .callFunctor =>
    match loop.phase with
    | .running (functor :: functors) =>
      if loop.isFree then
        .ok { loop with
          phase := .running functors, depth := 1,
          started := loop.started ++ [(functor, loop.rounds)] }
      else .error .disabled
    | _ => .error .disabled
  | .endFunctors =>
    if loop.phase = .running [] ∧ loop.isFree then
      .ok { loop with phase := .iterated, callingPendingFunctors := false }
    else .error .disabled
  | .queueInLoop =>
    if loop.inUserCode ∧ loop.posting = none then .ok { loop.push with posting := some loop.posted }
    else .error .disabled
  | .testWakeup =>
    match loop.posting with
    | some _ =>
      if loop.callingPendingFunctors then .ok { loop.wakeup with posting := none }
      else .ok { loop with posting := none }
    | none => .error .disabled
  | .runInLoop =>
    if loop.inUserCode ∧ loop.posting = none then .ok { loop with depth := loop.depth + 1 }
    else .error .disabled
  | .returnFromUser =>
    if 0 < loop.depth ∧ loop.posting = none then .ok { loop with depth := loop.depth - 1 }
    else .error .disabled
  | .foreignQueueInLoop thread =>
    match loop.waking thread with
    | none => .ok { loop.push with waking := Function.update loop.waking thread (some loop.posted) }
    | some _ => .error .disabled
  | .foreignWakeup thread =>
    match loop.waking thread with
    | some _ => .ok { loop.wakeup with waking := Function.update loop.waking thread none }
    | none => .error .disabled

def machine : Machine EventLoop Step := .ofFunction perform

end EventLoop

end FakeMuduo.Net
