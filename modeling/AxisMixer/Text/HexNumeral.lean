import AxisMixer.Text.Blank
import AxisMixer.Text.Digit

/-!
# Hexadecimal numerals

A hexadecimal numeral has a sign or none, `0x` or `0X` or neither, and then digits.  Single
underscores may stand between digits and behind the `0x`.  A decimal digit of any script is a
digit; the letters are those of ASCII.  Blanks may stand around the numeral, the information
separators U+001C to U+001F excepted.

* `hexNumeral?`: the number that a text denotes.
* `hex4`: the digits of a number, at least four.
-/

namespace AxisMixer.Text

/-- The lower-case hexadecimal digits of `n`, at least `width` of them. -/
def hexDigits (width n : Nat) : List Char :=
  let digits := Nat.toDigits 16 n
  List.replicate (width - digits.length) '0' ++ digits

/-- A blank that may stand around a numeral. -/
def isNumeralBlank (c : Char) : Bool := isBlank c && !(0x1C ≤ c.toNat && c.toNat ≤ 0x1F)

/-- The value of a hexadecimal digit. -/
def hexDigitValue? (c : Char) : Option Nat :=
  if 'a' ≤ c ∧ c ≤ 'f' then some (c.toNat - 'a'.toNat + 10)
  else if 'A' ≤ c ∧ c ≤ 'F' then some (c.toNat - 'A'.toNat + 10)
  else digitValue? c

/-- Reads digits onto `value`; `awaiting` holds where a digit has to follow, at the start and behind
an underscore. -/
def hexDigitsFrom (value : Nat) (awaiting : Bool) : List Char → Option Nat
  | [] => if awaiting then none else some value
  | '_' :: rest => if awaiting then none else hexDigitsFrom value true rest
  | c :: rest => do hexDigitsFrom (16 * value + (← hexDigitValue? c)) false rest

/-- The digits behind the sign and the `0x`. -/
def hexMagnitude? (cs : List Char) : Option Nat := hexDigitsFrom 0 true cs

/-- The number behind the sign. -/
def hexUnsigned? : List Char → Option Nat
  | zero :: x :: rest =>
    if digitValue? zero = some 0 ∧ (x = 'x' ∨ x = 'X') then
      match rest with
      | '_' :: rest => hexMagnitude? rest
      | rest => hexMagnitude? rest
    else hexMagnitude? (zero :: x :: rest)
  | cs => hexMagnitude? cs

def trimNumeral (cs : List Char) : List Char :=
  ((cs.dropWhile isNumeralBlank).reverse.dropWhile isNumeralBlank).reverse

/-- The number that the text denotes. -/
def hexNumeral? (s : String) : Option Int :=
  match trimNumeral s.toList with
  | '-' :: rest => (hexUnsigned? rest).map fun n => -(n : Int)
  | '+' :: rest => (hexUnsigned? rest).map fun n => (n : Int)
  | cs => (hexUnsigned? cs).map fun n => (n : Int)

/-- The number in lower-case hexadecimal digits, filled with zeros behind its sign until it takes
at least four characters. -/
def hex4 (n : Int) : String :=
  if n < 0 then String.ofList ('-' :: hexDigits 3 n.natAbs)
  else String.ofList (hexDigits 4 n.natAbs)

end AxisMixer.Text
