import AxisMixer.Expr.Token
import AxisMixer.Decimal.Numeral

/-!
# Errors in expression text

A `SyntaxError` says what is wrong, in which text, at which offset, and which fragment of the text
is to blame.  Its message has three lines: the cause, the text, and a pointer below the offset.
-/

namespace AxisMixer

namespace SyntaxError

inductive Cause where
  /-- A colon with no device name in front of it. -/
  | strayColon
  /-- A name that is neither a number nor followed by a colon. -/
  | missingColon (name : String)
  /-- A device name and its colon with no axis name behind them. -/
  | missingAxis (device : String)
  | unknownAxis (name : String)
  /-- A token that cannot stand where it stands. -/
  | unexpected (found : Token)
  | missingNumber (sign : Token) (found : Token)
  /-- The parenthesis opened at `offset` is not closed where `found` stands. -/
  | unclosed (offset : Nat) (found : Token)
  | literalOutOfRange (value : Int)
  deriving DecidableEq, Repr

def Cause.message : Cause → String
  | strayColon => "Unexpected character ':'"
  | missingColon name => "Expected ':' after device name '" ++ name ++ "'"
  | missingAxis device => "Expected an axis name after '" ++ device ++ ":'"
  | unknownAxis name =>
    "Unknown axis name '" ++ name ++ "' (expected one of " ++
      String.intercalate ", " (Axis.all.map Axis.name) ++ ")"
  | unexpected found => "Unexpected " ++ found.describe
  | missingNumber sign found =>
    "Expected a number after sign '" ++ sign.text ++ "', found " ++ found.describe
  | unclosed offset found =>
    "Expected ')' to close '(' at offset " ++ toString offset ++ ", found " ++ found.describe
  | literalOutOfRange value => "Integer literal " ++ toString value ++ " is out of range"

end SyntaxError

structure SyntaxError where
  cause : SyntaxError.Cause
  /-- The whole text of the expression. -/
  source : String
  /-- The offset, in characters, that the error points at. -/
  position : Nat
  fragment : String
  deriving DecidableEq, Repr

namespace SyntaxError

/-- An error at the token `t`.  The fragment is the text of the token, or the last ten characters
of the source if the token is its end. -/
def atToken (source : String) (t : Token) (cause : Cause) : SyntaxError :=
  { cause, source, position := t.position
    fragment :=
      if t.text.isEmpty then String.ofList (source.toList.drop (t.position - 10)) else t.text }

/-- The second and third line of a message: the text, and the pointer below the offset. -/
def pointer (e : SyntaxError) : String :=
  "\n  " ++ e.source ++ "\n  " ++ String.ofList (List.replicate e.position ' ') ++ "^"

def message (e : SyntaxError) : String := e.cause.message ++ e.pointer

end SyntaxError

/-- Why a text could not be read as an expression. -/
inductive ReadError where
  | malformed (e : SyntaxError)
  /-- A numeral of more than `Decimal.maxDigits` digits; nothing more is said about it. -/
  | numeralTooLong
  deriving DecidableEq, Repr

end AxisMixer
