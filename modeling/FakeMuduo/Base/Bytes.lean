import FakeMuduo.Base.Text

/-! Numbers as a little-endian host stores them, and in network byte order. -/

namespace FakeMuduo.Base

/-- The bytes of a number of `width` bytes, the lowest one first. -/
def toBytes : Nat → Nat → Text
  | 0, _ => []
  | width + 1, number => UInt8.ofNat (number % 256) :: toBytes width (number / 256)

def ofBytes : Text → Nat
  | [] => 0
  | byte :: bytes => byte.toNat + 256 * ofBytes bytes

@[simp] theorem toBytes_length (width number : Nat) : (toBytes width number).length = width := by
  induction width generalizing number with
  | zero => rfl
  | succ width ih => rw [toBytes, List.length_cons, ih]

theorem ofBytes_toBytes {width number : Nat} (fits : number < Nat.pow 256 width) :
    ofBytes (toBytes width number) = number := by
  induction width generalizing number with
  | zero =>
    have zero : number < 1 := fits
    rw [toBytes, ofBytes]
    omega
  | succ width ih =>
    have quotient : number / 256 < Nat.pow 256 width := by
      apply Nat.div_lt_of_lt_mul
      rw [Nat.mul_comm]
      exact fits
    have low : (UInt8.ofNat (number % 256)).toNat = number % 256 := by
      simp
    rw [toBytes, ofBytes, ih quotient, low]
    omega

/-- A machine word of a whole number of bytes, and the word read back. -/
theorem ofNat_ofBytes_toBytes {bits width : Nat} (whole : Nat.pow 2 bits = Nat.pow 256 width)
    (word : BitVec bits) :
    BitVec.ofNat bits (ofBytes (toBytes width word.toNat)) = word := by
  have fits : word.toNat < Nat.pow 256 width := whole ▸ word.isLt
  rw [ofBytes_toBytes fits, BitVec.ofNat_toNat, BitVec.setWidth_eq]

theorem toBytes_ofBytes (bytes : Text) : toBytes bytes.length (ofBytes bytes) = bytes := by
  induction bytes with
  | nil => rfl
  | cons byte bytes ih =>
    have bound := byte.toNat_lt
    have low : (byte.toNat + 256 * ofBytes bytes) % 256 = byte.toNat := by omega
    have high : (byte.toNat + 256 * ofBytes bytes) / 256 = ofBytes bytes := by omega
    rw [List.length_cons, ofBytes, toBytes, low, high, ih, UInt8.ofNat_toNat]

theorem ofBytes_append (low high : Text) :
    ofBytes (low ++ high) = ofBytes low + Nat.pow 256 low.length * ofBytes high := by
  induction low with
  | nil => simp [ofBytes]
  | cons byte low ih =>
    have power : Nat.pow 256 (byte :: low).length = 256 * Nat.pow 256 low.length := Nat.pow_succ'
    rw [List.cons_append, ofBytes, ih, ofBytes, power, Nat.mul_add, Nat.mul_assoc, Nat.add_assoc]

theorem ofBytes_lt (bytes : Text) : ofBytes bytes < Nat.pow 256 bytes.length := by
  induction bytes with
  | nil => decide
  | cons byte bytes ih =>
    have bound := byte.toNat_lt
    have power : Nat.pow 256 (byte :: bytes).length = 256 * Nat.pow 256 bytes.length :=
      Nat.pow_succ'
    rw [ofBytes, power]
    omega

/-- A word takes no notice of the bytes beyond its width. -/
theorem ofNat_ofBytes_append {bits : Nat} {low : Text}
    (whole : Nat.pow 2 bits = Nat.pow 256 low.length) (high : Text) :
    BitVec.ofNat bits (ofBytes (low ++ high)) = BitVec.ofNat bits (ofBytes low) := by
  apply BitVec.eq_of_toNat_eq
  rw [ofBytes_append, ← whole]
  exact Nat.add_mul_mod_self_left _ _ _

/-- The word with its bytes in the opposite order. -/
def swapBytes {bits : Nat} (width : Nat) (word : BitVec bits) : BitVec bits :=
  BitVec.ofNat bits (ofBytes (toBytes width word.toNat).reverse)

section Word

variable {bits width : Nat} (whole : Nat.pow 2 bits = Nat.pow 256 width)

include whole

theorem toBytes_swapBytes (word : BitVec bits) :
    toBytes width (swapBytes width word).toNat = (toBytes width word.toNat).reverse := by
  have length : (toBytes width word.toNat).reverse.length = width := by
    rw [List.length_reverse, toBytes_length]
  have fits : ofBytes (toBytes width word.toNat).reverse < Nat.pow 2 bits := by
    have bound := ofBytes_lt (toBytes width word.toNat).reverse
    rwa [length, ← whole] at bound
  have same : (swapBytes width word).toNat = ofBytes (toBytes width word.toNat).reverse :=
    Nat.mod_eq_of_lt fits
  have back := toBytes_ofBytes (toBytes width word.toNat).reverse
  rwa [length, ← same] at back

theorem swapBytes_swapBytes (word : BitVec bits) :
    swapBytes width (swapBytes width word) = word := by
  rw [swapBytes, toBytes_swapBytes whole, List.reverse_reverse, ofNat_ofBytes_toBytes whole]

end Word

/-- The bytes of an integer in two's complement, the highest one first. -/
def bigEndian : Nat → Int → Text
  | 0, _ => []
  | width + 1, value => bigEndian width (value / 256) ++ [UInt8.ofNat (value % 256).toNat]

@[simp] theorem bigEndian_length (width : Nat) (value : Int) :
    (bigEndian width value).length = width := by
  induction width generalizing value with
  | zero => rfl
  | succ width ih => rw [bigEndian, List.length_append, ih, List.length_singleton]

theorem bigEndian_eq_reverse (width number : Nat) (turns : Int) :
    bigEndian width (number + turns * (Nat.pow 256 width : Nat)) =
      (toBytes width number).reverse := by
  induction width generalizing number with
  | zero => rfl
  | succ width ih =>
    have power : ((Nat.pow 256 (width + 1) : Nat) : Int) = (Nat.pow 256 width : Nat) * 256 :=
      Int.natCast_mul _ _
    have regroup : (number : Int) + turns * ((Nat.pow 256 width : Nat) * 256) =
        number + turns * (Nat.pow 256 width : Nat) * 256 := by
      rw [Int.mul_assoc]
    have low : ((number : Int) + turns * (Nat.pow 256 width : Nat) * 256) % 256 =
        (number % 256 : Nat) := by
      rw [Int.add_mul_emod_self_right]
      rfl
    have high : ((number : Int) + turns * (Nat.pow 256 width : Nat) * 256) / 256 =
        (number / 256 : Nat) + turns * (Nat.pow 256 width : Nat) := by
      rw [Int.add_mul_ediv_right _ _ (by decide)]
      rfl
    rw [bigEndian, toBytes, List.reverse_cons, power, regroup, high, ih, low, Int.toNat_natCast]

theorem bigEndian_toInt {bits width : Nat} (whole : Nat.pow 2 bits = Nat.pow 256 width)
    (word : BitVec bits) :
    bigEndian width word.toInt = (toBytes width word.toNat).reverse := by
  rw [BitVec.toInt_eq_toNat_cond]
  split
  · simpa using bigEndian_eq_reverse width word.toNat 0
  · have below : (word.toNat : Int) - (2 ^ bits : Nat) =
        word.toNat + -1 * (Nat.pow 256 width : Nat) := by
      rw [← whole]
      change _ = (word.toNat : Int) + -1 * (2 ^ bits : Nat)
      omega
    rw [below]
    exact bigEndian_eq_reverse width word.toNat (-1)

end FakeMuduo.Base
