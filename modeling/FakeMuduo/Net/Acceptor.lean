import FakeMuduo.Util.Log

/-! The acceptor's answer to a readable listening socket. -/

namespace FakeMuduo.Net

open FakeMuduo.Util

def EPERM : Errno := 1

def EINTR : Errno := 4

def EAGAIN : Errno := EWOULDBLOCK

def EMFILE : Errno := 24

def EPROTO : Errno := 71

def ECONNABORTED : Errno := 103

/-- The kernel's answer to an `::accept4`. -/
inductive AcceptAnswer where
  | accepted (connfd : Nat)
  | failed (errno : Errno)
  deriving DecidableEq, Repr

/-- What the acceptor does to the outside, in order; the descriptor of `closeIdle`
is what the two system calls before it returned, which may be `-1`. -/
inductive AcceptCall where
  | newConnection (connfd : Nat)
  | closeConnection (connfd : Nat)
  | closeIdle (fd : Int)
  | acceptIdle
  | openIdle
  deriving DecidableEq, Repr

/-- A fatal line ends the process when it is formatted. `StdLogger` formats it before
the statement returns; `AsyncLogger` leaves that to its own thread. -/
def logFatal (log : Log) (errno : Errno) : Option Errno :=
  if log.isLowerThanOrEqualToCurr .kFATAL && log.logger == some .std then none else some errno

namespace Sockets

/-- The errors after which `sockets::accept` restores `errno`. -/
def isExpected (errno : Errno) : Bool :=
  errno == EAGAIN || errno == ECONNABORTED || errno == EINTR || errno == EPERM || errno == EPROTO ||
    errno == EMFILE

/-- The `errno` a failed `sockets::accept` leaves, or nothing if the process was aborted. The
listed unexpected errors and the unknown ones differ in their message only. -/
def accept (log : Log) (savedErrno : Errno) : Option Errno :=
  let errno := log.errnoAfter .kERROR savedErrno
  if isExpected savedErrno then some savedErrno else logFatal log errno

/-- After an error that it does not expect, `sockets::accept` leaves `errno` as the log
statements leave it. -/
theorem accept_unexpected (log : Log) {savedErrno : Errno}
    (unexpected : isExpected savedErrno = false) :
    accept log savedErrno = none ∨ accept log savedErrno = some 0 ∨
      accept log savedErrno = some savedErrno := by
  simp only [accept, unexpected, logFatal, log.errnoAfter_error]
  cases log.isLowerThanOrEqualToCurr .kFATAL && log.logger == some .std with
  | true => exact .inl rfl
  | false =>
    cases log.clearsErrno with
    | true => exact .inr (.inl rfl)
    | false => exact .inr (.inr rfl)

end Sockets

structure Acceptor where
  newConnectionCallback : Bool
  idleFd : Int
  deriving DecidableEq, Repr

namespace Acceptor

/-- `handleRead` with the kernel's answers: to `::accept4`, to the `::accept` on the freed
descriptor and to the `::open` that takes it back. Nothing is returned if
the process was aborted. -/
def handleRead (log : Log) (acceptor : Acceptor) (answer : AcceptAnswer) (accepted opened : Int) :
    Option (Acceptor × List AcceptCall) := do
  match answer with
  | .accepted connfd =>
    if acceptor.newConnectionCallback then
      return (acceptor, [.newConnection connfd])
    else
      return (acceptor, [.closeConnection connfd])
  | .failed savedErrno =>
    let errno ← Sockets.accept log savedErrno
    let errno := log.errnoAfter .kERROR errno
    if errno = EMFILE then
      return ({ acceptor with idleFd := opened },
        [.closeIdle acceptor.idleFd, .acceptIdle, .closeIdle accepted, .openIdle])
    else
      return (acceptor, [])

/-- The idle descriptor was given up for one connection. -/
def recovers (outcome : Option (Acceptor × List AcceptCall)) : Bool :=
  match outcome with
  | some (_, calls) => calls.contains .acceptIdle
  | none => false

theorem recovers_accepted (log : Log) (acceptor : Acceptor) (connfd : Nat) (accepted opened : Int) :
    recovers (acceptor.handleRead log (.accepted connfd) accepted opened) = false := by
  cases callback : acceptor.newConnectionCallback <;> simp [handleRead, callback, recovers]

theorem recovers_failed (log : Log) (acceptor : Acceptor) (savedErrno : Errno)
    (accepted opened : Int) :
    recovers (acceptor.handleRead log (.failed savedErrno) accepted opened) =
      (Sockets.accept log savedErrno).any (fun errno => errno == EMFILE && !log.clearsErrno) := by
  simp only [handleRead]
  cases Sockets.accept log savedErrno with
  | none => rfl
  | some errno =>
    by_cases clears : log.clearsErrno = true
    · simp [log.errnoAfter_error, clears, EMFILE, recovers]
    · by_cases full : errno = EMFILE
      · simp [log.errnoAfter_error, clears, full, recovers]
      · have other : (errno == EMFILE) = false := beq_false_of_ne full
        simp [log.errnoAfter_error, clears, full, other, recovers]

/-- The idle descriptor is given up exactly when the process is out of descriptors and the
error line leaves `errno` alone. -/
theorem recovers_eq (log : Log) (acceptor : Acceptor) (savedErrno : Errno) (accepted opened : Int) :
    recovers (acceptor.handleRead log (.failed savedErrno) accepted opened) =
      (savedErrno == EMFILE && !log.clearsErrno) := by
  rw [recovers_failed]
  cases expected : Sockets.isExpected savedErrno with
  | true => simp [Sockets.accept, expected]
  | false =>
    have other : (savedErrno == EMFILE) = false := by
      apply beq_false_of_ne
      intro full
      subst full
      cases expected
    rcases Sockets.accept_unexpected log expected with aborted | cleared | kept
    · simp [aborted, other]
    · rw [cleared, other]
      rfl
    · simp [kept, other]

end Acceptor

end FakeMuduo.Net
