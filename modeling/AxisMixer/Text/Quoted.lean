import AxisMixer.Text.CodePoint
import AxisMixer.Text.HexNumeral
import AxisMixer.Text.Printable

/-!
# Quoted text — text as it is shown in a message about a value

Quoted text stands between single quotes, or between double quotes if it holds a single quote and
no double one.  A backslash and the quote itself are escaped, tab, line feed and carriage return
have escapes of their own, and any other character that is not printable is written by its code.

The functions work on code points, so that a half of a surrogate pair can be shown as well.
-/

namespace AxisMixer.Text

/-- The code in two, four or eight hexadecimal digits, behind `\x`, `\u` or `\U`. -/
def escapeCode (n : Nat) : List Char :=
  if n ≤ 0xFF then '\\' :: 'x' :: hexDigits 2 n
  else if n ≤ 0xFFFF then '\\' :: 'u' :: hexDigits 4 n
  else '\\' :: 'U' :: hexDigits 8 n

/-- One code point between the quotes `quote`. -/
def quotePoint (quote : Char) : CodePoint → List Char
  | .half n => escapeCode (CodePoint.half n).value
  | .char c =>
    if c = '\t' then ['\\', 't']
    else if c = '\n' then ['\\', 'n']
    else if c = '\r' then ['\\', 'r']
    else if c = '\\' ∨ c = quote then ['\\', c]
    else if isPrintable c then [c]
    else escapeCode c.toNat

def quotedPoints (points : List CodePoint) : String :=
  let quote :=
    if points.contains (.char '\'') && !points.contains (.char '"') then '"' else '\''
  String.ofList (quote :: points.flatMap (quotePoint quote) ++ [quote])

def quoted (s : String) : String := quotedPoints (codePoints s)

end AxisMixer.Text
