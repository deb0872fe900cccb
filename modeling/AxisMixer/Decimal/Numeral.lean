/-!
# Decimal numerals

A numeral is a run of the digits `0` to `9`.  Numerals of more than `maxDigits` digits have no
value, whatever the digits are: leading zeros count.
-/

namespace AxisMixer.Decimal

/-- The greatest number of digits of a numeral that has a value. -/
def maxDigits : Nat := 4300

/-- The number that the digits denote, if they are not too many. -/
def numeral? (digits : List Char) : Option Nat :=
  if digits.length ≤ maxDigits then some (Nat.ofDigitChars 10 digits 0) else none

/-- Whether the number can be written out in at most `maxDigits` digits. -/
def isWritable (n : Nat) : Bool := n < Nat.pow 10 maxDigits

/-- Written in decimal and read again, a number is itself. -/
theorem numeral?_toDigits {n : Nat} (h : (Nat.toDigits 10 n).length ≤ maxDigits) :
    numeral? (Nat.toDigits 10 n) = some n := by
  rw [numeral?, if_pos h, Nat.ofDigitChars_toDigits (by decide) (by decide)]

end AxisMixer.Decimal
