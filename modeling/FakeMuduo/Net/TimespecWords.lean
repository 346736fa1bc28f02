import FakeMuduo.Net.TimerfdInvariant

/-! The relative timer value in the 64-bit words that the clock and `timespec` are made of. -/

namespace FakeMuduo.Net

/-- The number is one of a signed 64-bit word. -/
def Fits64 (value : Int) : Prop := Int64.minValue.toInt ≤ value ∧ value ≤ Int64.maxValue.toInt

instance (value : Int) : Decidable (Fits64 value) :=
  inferInstanceAs (Decidable (Int64.minValue.toInt ≤ value ∧ value ≤ Int64.maxValue.toInt))

theorem Fits64.bmod {value : Int} (fits : Fits64 value) :
    value.bmod 18446744073709551616 = value := by
  have least : -9223372036854775808 ≤ value := fits.1
  have greatest : value ≤ 9223372036854775807 := fits.2
  apply Int.bmod_eq_of_le
  · omega
  · omega

namespace Words

def kSecondToMicroseconds : UInt32 := 1000 * 1000

structure Timespec where
  tvSec : Int64
  tvNsec : Int64
  deriving DecidableEq, Repr

/-- The cast to seconds is a signed division. In the remainder, the unsigned constant is converted
to the signed type, which is the wider one. -/
def toTimespec (time : Int64) : Timespec where
  tvSec := time / 1000000
  tvNsec := time % kSecondToMicroseconds.toUInt64.toInt64 * 1000

def timespecFromNow (when now : Int64) : Timespec :=
  let interval := toTimespec (when - now)
  let interval := if interval.tvSec < 0 then { interval with tvSec := 0 } else interval
  if interval.tvSec = 0 ∧ interval.tvNsec < 100 then { interval with tvNsec := 100 } else interval

/-- The numbers that the words stand for. -/
def Timespec.value (timespec : Timespec) : Net.Timespec :=
  ⟨timespec.tvSec.toInt, timespec.tvNsec.toInt⟩

theorem kSecondToMicroseconds_signed : kSecondToMicroseconds.toUInt64.toInt64 = 1000000 := by decide

theorem remainder_fits (time : Int) : Fits64 (time.tmod 1000000 * 1000) := by
  have below := Int.tmod_lt_of_pos time (show (0 : Int) < 1000000 by decide)
  have above := Int.lt_tmod_of_pos time (show (0 : Int) < 1000000 by decide)
  constructor
  · rw [show Int64.minValue.toInt = -9223372036854775808 from rfl]
    omega
  · rw [show Int64.maxValue.toInt = 9223372036854775807 from rfl]
    omega

/-- No word overflows: what is computed in words is what is computed in numbers. -/
theorem toTimespec_value (time : Int64) : (toTimespec time).value = Net.toTimespec time.toInt := by
  have seconds : (time / 1000000).toInt = time.toInt.tdiv 1000000 :=
    Int64.toInt_div_of_ne_right time 1000000 (by decide)
  have nanoseconds : (time % 1000000 * 1000).toInt = time.toInt.tmod 1000000 * 1000 := by
    rw [Int64.toInt_mul, Int64.toInt_mod]
    exact (remainder_fits time.toInt).bmod
  unfold toTimespec Timespec.value Net.toTimespec
  rw [kSecondToMicroseconds_signed, seconds, nanoseconds]

theorem sub_toInt {when now : Int64} (fits : Fits64 (when.toInt - now.toInt)) :
    (when - now).toInt = when.toInt - now.toInt := by
  rw [Int64.toInt_sub]
  exact fits.bmod

theorem toInt_eq_zero {word : Int64} : word.toInt = 0 ↔ word = 0 :=
  @Int64.toInt_inj word 0

theorem toInt_lt_zero {word : Int64} : word.toInt < 0 ↔ word < 0 :=
  (@Int64.lt_iff_toInt_lt word 0).symm

theorem toInt_lt_hundred {word : Int64} : word.toInt < 100 ↔ word < 100 :=
  (@Int64.lt_iff_toInt_lt word 100).symm

theorem atLeast_value (interval : Timespec) :
    (if interval.tvSec = 0 ∧ interval.tvNsec < 100 then { interval with tvNsec := 100 }
      else interval).value =
      if interval.value.tvSec = 0 ∧ interval.value.tvNsec < 100 then
        { interval.value with tvNsec := 100 }
      else interval.value := by
  have short : interval.value.tvSec = 0 ∧ interval.value.tvNsec < 100 ↔
      interval.tvSec = 0 ∧ interval.tvNsec < 100 := and_congr toInt_eq_zero toInt_lt_hundred
  by_cases clamps : interval.tvSec = 0 ∧ interval.tvNsec < 100
  · rw [if_pos clamps, if_pos (short.mpr clamps)]
    rfl
  · rw [if_neg clamps, if_neg (mt short.mp clamps)]

theorem timespecFromNow_value {when now : Int64} (fits : Fits64 (when.toInt - now.toInt)) :
    (timespecFromNow when now).value = Net.timespecFromNow when.toInt now.toInt := by
  have same : Net.toTimespec (when.toInt - now.toInt) = (toTimespec (when - now)).value := by
    rw [toTimespec_value, sub_toInt fits]
  have negative : (toTimespec (when - now)).value.tvSec < 0 ↔
    (toTimespec (when - now)).tvSec < 0 := toInt_lt_zero
  rw [timespecFromNow, atLeast_value, Net.timespecFromNow, same]
  by_cases past : (toTimespec (when - now)).tvSec < 0
  · rw [if_pos past, if_pos (negative.mpr past)]
    rfl
  · rw [if_neg past, if_neg (mt negative.mp past)]

/-- For all times whose difference is a word, future or however far past, the timer value is well
formed, is not zero and is exact from 100 ns on, so that `timerfd_settime` arms the
timer for that time. -/
theorem timespecFromNow_exact (when now : Int64) (fits : Fits64 (when.toInt - now.toInt)) :
    0 ≤ (timespecFromNow when now).tvSec.toInt ∧
      0 ≤ (timespecFromNow when now).tvNsec.toInt ∧
        (timespecFromNow when now).tvNsec.toInt < 1000000000 ∧
      ¬ ((timespecFromNow when now).tvSec = 0 ∧ (timespecFromNow when now).tvNsec = 0) ∧
      (timespecFromNow when now).tvSec.toInt * 1000000000 +
        (timespecFromNow when now).tvNsec.toInt =
        max 100 (1000 * (when.toInt - now.toInt)) ∧
      ∀ timerfd : Timerfd, timerfd.settime now.toInt (timespecFromNow when now).value =
        ⟨some (max (1000 * now.toInt + 100) (1000 * when.toInt)), false, 1000 * now.toInt⟩ := by
  have numbers := timespecFromNow_spec when.toInt now.toInt
  have arms (timerfd : Timerfd) := timerfd.settime_fromNow when.toInt now.toInt
  rw [← timespecFromNow_value fits] at numbers arms
  generalize timespecFromNow when now = interval at numbers arms ⊢
  obtain ⟨seconds, nanoseconds, bound, total⟩ := numbers
  refine ⟨seconds, nanoseconds, bound, ?_, total, arms⟩
  rintro ⟨noSeconds, noNanoseconds⟩
  simp only [Timespec.value, toInt_eq_zero.mpr noSeconds, toInt_eq_zero.mpr noNanoseconds] at total
  omega

/-- The earliest time there is, at the epoch. -/
theorem timespecFromNow_exact_earliest :
    Fits64 (Int64.minValue.toInt - Int64.toInt 0) ∧
      (timespecFromNow Int64.minValue 0).tvSec.toInt * 1000000000 +
        (timespecFromNow Int64.minValue 0).tvNsec.toInt =
        max 100 (1000 * (Int64.minValue.toInt - Int64.toInt 0)) :=
  ⟨by decide, (timespecFromNow_exact Int64.minValue 0 (by decide)).2.2.2.2.1⟩

end Words

end FakeMuduo.Net
