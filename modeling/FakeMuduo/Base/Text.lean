import Mathlib.Data.List.Basic

/-! Byte strings and the parts of `printf` that the source uses. -/

namespace FakeMuduo.Base

abbrev Text := List UInt8

def ascii (text : String) : Text := text.toList.map fun char => UInt8.ofNat char.toNat

def decimal (number : Nat) : Text := (Nat.toDigits 10 number).map fun char => UInt8.ofNat char.toNat

/-- What `snprintf` leaves in a buffer of `size` bytes, the last one for the terminator. -/
def snprintf (size : Nat) (text : Text) : Text := text.take (size - 1)

theorem snprintf_fits {size : Nat} {text : Text} (fits : text.length < size) :
    snprintf size text = text :=
  List.take_of_length_le (by omega)

/-- The characters of a text in ASCII. -/
def chars (text : Text) : List Char := text.map fun byte => Char.ofNat byte.toNat

theorem chars_decimal (number : Nat) : chars (decimal number) = Nat.toDigits 10 number := by
  rw [chars, decimal, List.map_map]
  refine (List.map_congr_left ?_).trans (List.map_id _)
  intro char member
  have digit := Nat.isDigit_of_mem_toDigits (by decide) (by decide) member
  have small : char.toNat < 256 := by
    have bound := (Char.isDigit_iff_toNat.mp digit).2
    exact Nat.lt_of_le_of_lt bound (by decide)
  simp [Nat.mod_eq_of_lt small]

/-- The number that a text of decimal digits stands for. -/
def parseDecimal (text : Text) : Option Nat :=
  if text ≠ [] ∧ (chars text).all Char.isDigit then
    some (Nat.ofDigitChars 10 (chars text) 0) else none

/-- Zeros in front do not change the number. -/
theorem parseDecimal_leftpad (width number : Nat) :
    parseDecimal ((decimal number).leftpad width 48) = some number := by
  have padded : chars ((decimal number).leftpad width 48) =
      List.replicate (width - (decimal number).length) '0' ++ Nat.toDigits 10 number := by
    rw [List.leftpad, chars, List.map_append, List.map_replicate]
    exact congrArg _ (chars_decimal number)
  have some : (decimal number).leftpad width 48 ≠ [] := by
    simp [List.leftpad, decimal, Nat.toDigits_ne_nil]
  have digits : (List.replicate (width - (decimal number).length) '0' ++
      Nat.toDigits 10 number).all Char.isDigit =
        true := by
    rw [List.all_eq_true]
    intro char member
    rcases List.mem_append.mp member with zero | digit
    · rw [List.eq_of_mem_replicate zero]
      decide
    · exact Nat.isDigit_of_mem_toDigits (by decide) (by decide) digit
  rw [parseDecimal, padded, if_pos ⟨some, digits⟩, Nat.ofDigitChars_append,
    Nat.ofDigitChars_replicate_zero, Nat.mul_zero, Nat.ofDigitChars_ten_toDigits]

theorem parseDecimal_decimal (number : Nat) : parseDecimal (decimal number) = some number := by
  simpa [List.leftpad] using parseDecimal_leftpad 0 number

theorem decimal_injective : Function.Injective decimal := by
  intro first second same
  have read : some first = some second := by
    rw [← parseDecimal_decimal first, same, parseDecimal_decimal]
  exact Option.some.inj read

theorem decimal_length {number digits : Nat} (some : 0 < digits)
    (bound : number < Nat.pow 10 digits) :
    (decimal number).length ≤ digits := by
  rw [decimal, List.length_map]
  exact (Nat.length_toDigits_le_iff (by decide) some).mpr bound

end FakeMuduo.Base
