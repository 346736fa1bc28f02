import FakeMuduo.Base.Checked
import FakeMuduo.Base.Machine
import FakeMuduo.Base.Slots
import FakeMuduo.Net.Acceptor

/-! The acceptor beside other threads that open and close file descriptors: `handleRead` and the
destructor one system call at a time. -/

namespace FakeMuduo.Net

open FakeMuduo.Base FakeMuduo.Util

namespace Acceptor

/-- Who closes a descriptor. -/
inductive Holder where
  | acceptor | user
  deriving DecidableEq, Repr

/-- What became of a client: handed to the callback, closed as there is none, or dropped to get
the idle descriptor back; `aborted` left the queue by itself. -/
inductive Fate where
  | handed (connfd : Nat)
  | closed
  | dropped
  | aborted
  deriving DecidableEq, Repr

/-- Where the loop thread is in `handleRead` or the destructor; `killed` is after a fatal line. -/
inductive Phase where
  | waiting
  | declined (connfd : Nat)
  | exhausted
  | freed
  | retried
  | reclosed
  | killed
  | destroying
  | destroyed
  deriving DecidableEq, Repr

/-- `entered` is the acceptor when `handleRead` was called, and `made` its calls since. -/
structure Listening where
  slots : Slots Holder
  backlog : List Nat
  listenFd : Nat
  acceptor : Acceptor
  phase : Phase
  arrived : List Nat
  served : List (Nat × Fate)
  entered : Acceptor
  made : List AcceptCall
  deriving DecidableEq, Repr

inductive ListeningStep where
  | connects (client : Nat)
  | aborts
  | opens
  | closes (fd : Nat)
  | handleRead (failure : Option Errno)
  | destroy
  | proceed (fails : Bool)
  deriving DecidableEq, Repr

/-- `::accept`: a full table is noticed before an empty queue. -/
def acceptAs (slots : Slots Holder) (backlog : List Nat) (holder : Holder)
    (failure : Option Errno) :
    Except Errno ((Nat × Slots Holder) × Nat × List Nat) :=
  match slots.allocate holder with
  | none => .error EMFILE
  | some taken =>
    match failure, backlog with
    | some errno, _ => .error errno
    | none, [] => .error EAGAIN
    | none, client :: rest => .ok (taken, client, rest)

/-- `::close`, which fails on `-1`. Closing what another part of the process holds is a fault. -/
def closeOwn (slots : Slots Holder) : Int → Checked (Slots Holder)
  | .ofNat fd =>
    if slots.Holds .acceptor fd then .ok (slots.release fd)
    else .error .danglingReference
  | .negSucc _ => .ok slots

namespace Listening

/-- After a failed `accept`. -/
def refused (log : Log) (state : Listening) (savedErrno : Errno) : Listening :=
  match Sockets.accept log savedErrno with
  | none => { state with phase := .killed }
  | some errno => if log.errnoAfter .kERROR errno = EMFILE then
      { state with phase := .exhausted } else state

/-- `handleRead` up to its first call after `accept`. -/
def handleRead (log : Log) (state : Listening) (failure : Option Errno) : Checked Listening :=
  if state.phase = .waiting then
    let called := { state with entered := state.acceptor, made := [] }
    let holder := if state.acceptor.newConnectionCallback then Holder.user else .acceptor
    match acceptAs state.slots state.backlog holder failure with
    | .ok ((connfd, slots), client, backlog) =>
      if state.acceptor.newConnectionCallback then
        .ok { called with
          slots, backlog
          served := state.served ++ [(client, .handed connfd)]
          made := [.newConnection connfd] }
      else
        .ok { called with
          slots, backlog
          served := state.served ++ [(client, .closed)]
          phase := .declined connfd }
    | .error savedErrno => .ok (called.refused log savedErrno)
  else
    .error .disabled

/-- `~Acceptor` up to the end of its body. -/
def destroy (state : Listening) : Checked Listening :=
  if state.phase = .waiting then do
    let slots ← closeOwn state.slots state.acceptor.idleFd
    return { state with slots, phase := .destroying }
  else
    .error .disabled

/-- The next call of `handleRead`, or `~Socket` of the acceptor's socket after its destructor. -/
def proceed (state : Listening) (fails : Bool) : Checked Listening :=
  match state.phase with
  | .waiting | .killed | .destroyed => .error .disabled
  | .declined connfd => do
    let slots ← closeOwn state.slots connfd
    return { state with slots, phase := .waiting, made := [.closeConnection connfd] }
  | .exhausted => do
    let slots ← closeOwn state.slots state.acceptor.idleFd
    return { state with slots, phase := .freed, made := [.closeIdle state.acceptor.idleFd] }
  | .freed =>
    let called := { state with phase := .retried, made := state.made ++ [AcceptCall.acceptIdle] }
    match acceptAs state.slots state.backlog .acceptor (if fails then some EAGAIN else none) with
    | .ok ((fd, slots), client, backlog) =>
      .ok { called with
        slots, backlog
        served := state.served ++ [(client, Fate.dropped)]
        acceptor := { state.acceptor with idleFd := fd } }
    | .error _ => .ok { called with acceptor := { state.acceptor with idleFd := -1 } }
  | .retried => do
    let slots ← closeOwn state.slots state.acceptor.idleFd
    let made := state.made ++ [.closeIdle state.acceptor.idleFd]
    return { state with slots, made, phase := .reclosed }
  | .reclosed =>
    let called := { state with phase := .waiting, made := state.made ++ [AcceptCall.openIdle] }
    match fails, state.slots.allocate .acceptor with
    | false, some (fd, slots) =>
      .ok { called with slots, acceptor := { state.acceptor with idleFd := fd } }
    | _, _ => .ok { called with acceptor := { state.acceptor with idleFd := -1 } }
  | .destroying => do
    let slots ← closeOwn state.slots state.listenFd
    return { state with slots, phase := .destroyed }

def perform (log : Log) (state : Listening) : ListeningStep → Checked Listening
  | .connects client =>
    .ok { state with backlog := state.backlog ++ [client], arrived := state.arrived ++ [client] }
  | .aborts =>
    match state.backlog with
    | [] => .error .disabled
    | client :: backlog =>
      .ok { state with backlog, served := state.served ++ [(client, .aborted)] }
  | .opens =>
    match state.slots.allocate .user with
    | none => .ok state
    | some (_, slots) => .ok { state with slots }
  | .closes fd => .ok { state with slots := state.slots.release fd }
  | .handleRead failure => state.handleRead log failure
  | .destroy => state.destroy
  | .proceed fails => state.proceed fails

/-- The rest of the process closes its own descriptors only. -/
def Permitted (state : Listening) : ListeningStep → Prop
  | .closes fd => state.slots.Holds .user fd
  | _ => True

instance (state : Listening) : DecidablePred state.Permitted
  | .closes fd => inferInstanceAs (Decidable (state.slots.Holds .user fd))
  | .connects _ | .aborts | .opens | .handleRead _ | .destroy | .proceed _ =>
    inferInstanceAs (Decidable True)

/-- The descriptors the acceptor has to close. -/
def owned (state : Listening) : List Int :=
  match state.phase with
  | .destroyed => []
  | .freed | .reclosed | .destroying => [(state.listenFd : Int)]
  | .declined connfd => [(connfd : Int), state.acceptor.idleFd, (state.listenFd : Int)]
  | .waiting | .exhausted | .retried | .killed => [state.acceptor.idleFd, (state.listenFd : Int)]

/-- The constructor: the listening socket, without which the process ends, and `/dev/null`, whose
descriptor is `-1` if it cannot be opened. -/
def construct (slots : Slots Holder) (newConnectionCallback : Bool) : Option Listening := do
  let (listenFd, slots) ← slots.allocate .acceptor
  let (idleFd, slots) : Int × Slots Holder := match slots.allocate .acceptor with
    | some (fd, slots) => (fd, slots)
    | none => (-1, slots)
  return {
    slots, listenFd
    backlog := []
    acceptor := { newConnectionCallback, idleFd }
    phase := .waiting
    arrived := []
    served := []
    entered := { newConnectionCallback, idleFd }
    made := [] }

end Listening

def listening (log : Log) : Machine Listening ListeningStep :=
  (Machine.ofFunction (Listening.perform log)).restrict Listening.Permitted

end Acceptor

end FakeMuduo.Net
