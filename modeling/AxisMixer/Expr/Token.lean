import AxisMixer.Expr.Basic
import AxisMixer.Text.Blank

/-!
# Tokens — the words of expression text

* `isNameChar`: the characters a device name may hold.
* `Token`: a word of the text, with the characters it is made of and the offset of the first one.
-/

namespace AxisMixer

/-- The characters that end a name and stand for themselves. -/
def isDelimiter (c : Char) : Bool :=
  c == ':' || c == '(' || c == ')' || c == '+' || c == '-' || c == '*' || c == '/'

/-- A device name may hold any character but blanks and delimiters. -/
def isNameChar (c : Char) : Bool := !Text.isBlank c && !isDelimiter c

/-- A device name is a non-empty run of name characters. -/
def isDeviceName (s : String) : Bool := !s.toList.isEmpty && s.toList.all isNameChar

namespace Token

inductive Kind where
  | number (value : Nat)
  | reference (key : AxisKey)
  | operator (op : Operator)
  | lparen
  | rparen
  /-- The end of the text. -/
  | finish
  deriving DecidableEq, Repr

/-- The kinds of word that are a single character. -/
def Kind.ofChar? : Char → Option Kind
  | '(' => some .lparen
  | ')' => some .rparen
  | c => (Operator.ofSymbol? c).map .operator

end Token

structure Token where
  kind : Token.Kind
  text : String
  position : Nat
  deriving DecidableEq, Repr

namespace Token

/-- The token that ends a text of `position` characters. -/
def finish (position : Nat) : Token := ⟨.finish, "", position⟩

/-- How an error message refers to the token. -/
def describe (t : Token) : String :=
  match t.kind with
  | .finish => "end of expression"
  | _ => "'" ++ t.text ++ "'"

end Token

end AxisMixer
