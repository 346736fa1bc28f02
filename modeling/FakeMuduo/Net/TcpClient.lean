import FakeMuduo.Base.Machine
import FakeMuduo.Net.Connector

/-! A client's loop thread and the threads that call the client. They interleave at every access
to the two `connect_` flags and at every post of a functor. -/

namespace FakeMuduo.Net

open FakeMuduo.Base FakeMuduo.Util

namespace Connector

/-- The thread of a call: the loop's own, or another one. -/
abbrev Thread := Option Nat

namespace World

variable (world : World)

def callOf : Thread → Call
  | none => world.call
  | some thread => world.calls thread

def setCall (call : Call) : Thread → World
  | none => { world with call := call }
  | some thread => { world with calls := Function.update world.calls thread call }

/-- The loop's thread runs code of the user's. -/
def InUserCode : Prop := world.call = .idle ∧ world.phase ≠ .polling

instance : Decidable world.InUserCode := inferInstanceAs (Decidable (_ ∧ _))

/-- A thread may begin a call of the client's. -/
def MayCall : Thread → Prop
  | none => world.InUserCode
  | some thread => world.calls thread = .idle

instance (thread : Thread) : Decidable (world.MayCall thread) :=
  match thread with
  | none => inferInstanceAs (Decidable world.InUserCode)
  | some thread => inferInstanceAs (Decidable (world.calls thread = .idle))

/-- A write of a `connect()` call. -/
def noteConnect : World := { world with connects := world.connects + 1, stopped := false }

/-- The kernel may report an event of the connector's channel. -/
def isWatched : Bool := world.connector.channel.any (·.channel.interest.isSome)

end World

/-- A step of the loop's thread, of a thread that calls the client, or of the clock. `connectClient`
and `stopClient` begin a call of `TcpClient::connect` or `stop` and write the client's flag,
`setConnect` writes the connector's, and `post` queues the functor. `expire` is a retry timer. -/
inductive Step where
  | connectClient (thread : Thread)
  | stopClient (thread : Thread)
  | setConnect (thread : Thread)
  | post (thread : Thread)
  | disconnect
  | enableRetry
  | forceClose (sockfd : Nat)
  | wait (duration : Nat)
  | loop
  | epollWait (event : Option Revents) (hangup : Bool)
  | handleEvent (probe : Probe)
  | handleClose
  | expire (index : Nat)
  | doPendingFunctors
  | callFunctor
  | endFunctors
  | quit
  | restart
  | startInLoop
  | connect (savedErrno : Errno)
  deriving DecidableEq, Repr

namespace World

variable (world : World)

/-- A functor is called. A connection that was closed already is not closed again. -/
def callFunctor : Functor → Checked World
  | .startInLoop => .ok { world with call := .starting }
  | .stopInLoop since => do
    let world ← world.stopInLoop
    return { world with stopped := world.stopped || since == world.connects }
  | .resetChannel => world.resetChannel
  | .forceClose sockfd =>
    if world.client.connection = some sockfd then world.removeConnection sockfd else .ok world

def perform : Step → Checked World
  | .connectClient thread =>
    if world.MayCall thread then
      .ok ({ world with client.connect := true }.noteConnect.setCall (.flagged .connect) thread)
    else .error .disabled
  | .stopClient thread =>
    if world.MayCall thread then
      .ok ({ world with client.connect := false }.setCall (.flagged (.stop world.connects)) thread)
    else .error .disabled
  | .setConnect thread =>
    match world.callOf thread with
    | .flagged .connect =>
      .ok ({ world with connector.connect := true }.noteConnect.setCall
        (if thread.isNone then .starting else .written .connect) thread)
    | .flagged (.stop since) =>
      .ok ({ world with connector.connect := false }.setCall (.written (.stop since)) thread)
    | _ => .error .disabled
  | .post thread =>
    match world.callOf thread with
    | .written .connect => .ok ((world.queueInLoop .startInLoop).setCall .idle thread)
    | .written (.stop since) => .ok ((world.queueInLoop (.stopInLoop since)).setCall .idle thread)
    | _ => .error .disabled
  | .disconnect => .ok { world with client.connect := false }
  | .enableRetry => .ok { world with client.retry := true }
  | .forceClose sockfd =>
    if sockfd ∈ world.handed.map Handover.sockfd then .ok (world.queueInLoop (.forceClose sockfd))
    else .error .disabled
  | .wait duration => .ok { world with now := world.now + duration }
  | .loop =>
    if world.phase = .outside ∧ world.call = .idle then .ok { world with phase := .polling }
    else .error .disabled
  | .epollWait event hangup =>
    if world.phase = .polling ∧ (event.isSome → world.isWatched) then
      .ok { world with phase := .handling event (if hangup then world.client.connection else none) }
    else .error .disabled
  | .handleEvent probe =>
    match world.phase with
    | .handling (some revents) hangup =>
      if world.call = .idle then
        { world with phase := .handling none hangup }.handleEvent revents probe
      else .error .disabled
    | _ => .error .disabled
  | .handleClose =>
    match world.phase with
    | .handling event (some sockfd) =>
      if world.call = .idle then
        { world with phase := .handling event none }.removeConnection sockfd
      else .error .disabled
    | _ => .error .disabled
  | .expire index =>
    match world.phase, world.timers[index]? with
    | .handling _ _, some due =>
      if world.call = .idle ∧ due ≤ world.now then
        .ok { world with timers := world.timers.eraseIdx index, call := .starting }
      else .error .disabled
    | _, _ => .error .disabled
  | .doPendingFunctors =>
    if world.phase = .handling none none ∧ world.call = .idle then
      .ok { world with phase := .calling world.pending, pending := [] }
    else .error .disabled
  | .callFunctor =>
    match world.phase with
    | .calling (functor :: functors) =>
      if world.call = .idle then { world with phase := .calling functors }.callFunctor functor
      else .error .disabled
    | _ => .error .disabled
  | .endFunctors =>
    if world.phase = .calling [] ∧ world.call = .idle then .ok { world with phase := .polling }
    else .error .disabled
  | .quit =>
    if world.phase = .calling [] ∧ world.call = .idle then .ok { world with phase := .outside }
    else .error .disabled
  | .restart => if world.call = .restarting then .ok world.restart else .error .disabled
  | .startInLoop => if world.call = .starting then world.startInLoop else .error .disabled
  | .connect savedErrno =>
    if world.call = .connecting then world.connect savedErrno
    else .error .disabled

end World

def machine : Machine World Step := .ofFunction World.perform

end Connector

end FakeMuduo.Net
