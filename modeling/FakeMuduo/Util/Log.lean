import Mathlib.Data.List.Basic

/-! What a log statement does to `errno` on the thread that executes it. -/

namespace FakeMuduo.Util

abbrev Errno := Nat

def EWOULDBLOCK : Errno := 11

def EPIPE : Errno := 32

def ECONNRESET : Errno := 104

inductive LogLevel where
  | kCLOSE | kFATAL | kINFO | kWARN | kERROR | kDEBUG
  deriving DecidableEq, Repr

def LogLevel.value : LogLevel → Nat
  | kCLOSE => 0
  | kFATAL => 1
  | kINFO => 2
  | kWARN => 3
  | kERROR => 4
  | kDEBUG => 5

/-- The installed logger: `StdLogger` formats on the calling thread, `AsyncLogger`
on its own. -/
inductive Logger where
  | std | async
  deriving DecidableEq, Repr

structure Log where
  level : LogLevel
  logger : Option Logger
  deriving DecidableEq, Repr

def Log.isLowerThanOrEqualToCurr (log : Log) (level : LogLevel) : Bool :=
  level.value ≤ log.level.value

/-- `errno` after the statement: formatting the line clears a non-zero `errno`. -/
def Log.errnoAfter (log : Log) (level : LogLevel) (errno : Errno) : Errno :=
  if log.isLowerThanOrEqualToCurr level && log.logger == some .std then 0 else errno

/-- The error lines are formatted on the calling thread, and so its `errno` is lost. -/
def Log.clearsErrno (log : Log) : Bool :=
  log.isLowerThanOrEqualToCurr .kERROR && log.logger == some .std

theorem Log.errnoAfter_error (log : Log) (errno : Errno) :
    log.errnoAfter .kERROR errno = if log.clearsErrno then 0 else errno := rfl

/-- Whoever formats the debug lines formats the error lines too. -/
theorem Log.errnoAfter_debug (log : Log) (errno : Errno) :
    log.errnoAfter .kDEBUG errno = errno ∨ log.errnoAfter .kDEBUG errno = 0 ∧
      log.clearsErrno = true := by
  unfold Log.errnoAfter Log.clearsErrno Log.isLowerThanOrEqualToCurr
  by_cases formats : log.logger = some .std
  · cases log.level <;> simp [LogLevel.value, formats]
  · simp [formats]

end FakeMuduo.Util
