import FakeMuduo.Base.Text

/-! Points in time, counted in microseconds since the epoch. -/

namespace FakeMuduo.Util

open FakeMuduo.Base

structure TimeStamp where
  timeSinceEpoch : BitVec 64
  deriving DecidableEq, Repr

namespace TimeStamp

def kSecondsToMicroseconds : Nat := 1000 * 1000

/-- The count that `duration_cast` gives to `localtime_r`. -/
def seconds (time : TimeStamp) : Int := time.timeSinceEpoch.toInt.tdiv kSecondsToMicroseconds

/-- `localtime` writes a number of seconds in the format `"%F %T"`. -/
def toFormattedString (localtime : Int → Text) (time : TimeStamp) : Text := localtime time.seconds

/-- The microseconds that `toString(true)` prints: the count is cut to 32 bits first. -/
def rest (time : TimeStamp) : Nat :=
  (time.timeSinceEpoch.setWidth 32).toNat % kSecondsToMicroseconds

/-- `toString(true)`. -/
def toString (localtime : Int → Text) (time : TimeStamp) : Text :=
  time.toFormattedString localtime ++ snprintf 12 (ascii "." ++ (decimal time.rest).leftpad 6 48)

/-- The printed text denotes the instant: the second and the six digits of the fraction. -/
def Denotes (time : TimeStamp) : Prop :=
  ∃ digits, (∀ localtime, time.toString localtime = localtime time.seconds ++ 46 :: digits) ∧
    digits.length = 6 ∧
    parseDecimal digits = some time.rest ∧
    time.seconds * kSecondsToMicroseconds + time.rest = time.timeSinceEpoch.toInt ∧
      time.rest < kSecondsToMicroseconds

/-- The printed pairs are in lexicographic order. -/
def PrintedBefore (earlier later : TimeStamp) : Prop :=
  earlier.seconds < later.seconds ∨ earlier.seconds = later.seconds ∧ earlier.rest < later.rest

/-- Two instants are printed as what they denote, and in their order. -/
def PrintedRight (first second : TimeStamp) : Prop :=
  first.Denotes ∧ second.Denotes ∧
    (first.timeSinceEpoch.toInt < second.timeSinceEpoch.toInt → PrintedBefore first second)

/-- What is cut off is a whole number of seconds. -/
def CutWhole (time : TimeStamp) : Prop := 15625 ∣ time.timeSinceEpoch.toNat / 4294967296

instance (time : TimeStamp) : Decidable time.CutWhole := inferInstanceAs (Decidable (_ ∣ _))

variable {time first second : TimeStamp}

theorem rest_lt (time : TimeStamp) : time.rest < kSecondsToMicroseconds := Nat.mod_lt _ (by decide)

theorem toString_eq (localtime : Int → Text) (time : TimeStamp) :
    time.toString localtime = localtime time.seconds ++ 46 :: (decimal time.rest).leftpad 6 48 ∧
      ((decimal time.rest).leftpad 6 48).length = 6 := by
  have short : (decimal time.rest).length ≤ 6 := decimal_length (by decide) time.rest_lt
  have six : ((decimal time.rest).leftpad 6 48).length = 6 := by
    rw [List.length_leftpad]
    omega
  refine ⟨?_, six⟩
  rw [toString, snprintf_fits (by rw [List.length_append, six]; decide)]
  rfl

theorem toNat_of_nonneg (nonneg : 0 ≤ time.timeSinceEpoch.toInt) :
    time.timeSinceEpoch.toInt = time.timeSinceEpoch.toNat := by
  have bound := time.timeSinceEpoch.isLt
  rw [BitVec.toInt_eq_toNat_cond] at nonneg ⊢
  split at nonneg
  · rw [if_pos ‹_›]
  · omega

theorem seconds_eq (nonneg : 0 ≤ time.timeSinceEpoch.toInt) :
    time.seconds = (time.timeSinceEpoch.toNat / 1000000 : Nat) := by
  rw [seconds, toNat_of_nonneg nonneg]
  rfl

theorem rest_eq (time : TimeStamp) :
    time.rest = time.timeSinceEpoch.toNat % 4294967296 % 1000000 := by
  rw [rest, BitVec.toNat_setWidth]
  rfl

theorem denotes_iff (nonneg : 0 ≤ time.timeSinceEpoch.toInt) : time.Denotes ↔ time.CutWhole := by
  have micro : (kSecondsToMicroseconds : Int) = 1000000 := rfl
  have exact : time.seconds * kSecondsToMicroseconds + time.rest = time.timeSinceEpoch.toInt ↔
      time.CutWhole := by
    rw [seconds_eq nonneg, rest_eq, toNat_of_nonneg nonneg, micro, CutWhole]
    omega
  constructor
  · rintro ⟨_, _, _, _, same, _⟩
    exact exact.mp same
  · intro whole
    exact ⟨_, fun localtime => (toString_eq localtime time).1, (toString_eq (fun _ => []) time).2,
      parseDecimal_leftpad 6 time.rest, exact.mpr whole, time.rest_lt⟩

/-- Instants are printed right exactly if cutting the count to 32 bits takes whole seconds away. -/
theorem printedRight_iff (first second : TimeStamp) (firstNonneg : 0 ≤ first.timeSinceEpoch.toInt)
    (secondNonneg : 0 ≤ second.timeSinceEpoch.toInt) :
    PrintedRight first second ↔ first.CutWhole ∧ second.CutWhole := by
  rw [PrintedRight, denotes_iff firstNonneg, denotes_iff secondNonneg]
  constructor
  · rintro ⟨firstWhole, secondWhole, _⟩
    exact ⟨firstWhole, secondWhole⟩
  · rintro ⟨firstWhole, secondWhole⟩
    refine ⟨firstWhole, secondWhole, ?_⟩
    intro before
    obtain ⟨_, _, _, _, firstSame, firstBound⟩ := (denotes_iff firstNonneg).mpr firstWhole
    obtain ⟨_, _, _, _, secondSame, secondBound⟩ := (denotes_iff secondNonneg).mpr secondWhole
    have micro : kSecondsToMicroseconds = 1000000 := rfl
    rw [micro] at firstSame firstBound secondSame secondBound
    rw [PrintedBefore]
    omega

/-- The epoch, and an instant a bit more than an hour later. -/
theorem printedRight_early : PrintedRight ⟨0⟩ ⟨3600000001⟩ :=
  (printedRight_iff ⟨0⟩ ⟨3600000001⟩ (by decide) (by decide)).mpr ⟨by decide, by decide⟩

/-- An instant of the year 2021, on the second, and the one after it. -/
theorem not_printedRight : ¬ PrintedRight ⟨1628308800000000⟩ ⟨1628308800000001⟩ := by
  rintro ⟨denotes, _⟩
  have whole := (denotes_iff (by decide)).mp denotes
  revert whole
  decide

end TimeStamp

end FakeMuduo.Util
