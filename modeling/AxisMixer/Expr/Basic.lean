import AxisMixer.Axis

/-!
# Expressions — integer arithmetic over axes

An expression is a reference to an axis, an integer literal, or one of four operators applied to
two expressions.

* `Expr.text`: the fully parenthesised text of an expression.
* `Expr.references`: the axes an expression mentions, from left to right; `Expr.dependencies`
  names each of them once.
-/

namespace AxisMixer

inductive Operator where
  | add | sub | mul | div
  deriving DecidableEq, Repr

namespace Operator

def all : List Operator := [add, sub, mul, div]

def symbol : Operator → Char
  | add => '+' | sub => '-' | mul => '*' | div => '/'

def ofSymbol? (c : Char) : Option Operator := all.find? fun o => o.symbol == c

/-- A higher number binds tighter; all operators associate to the left. -/
def precedence : Operator → Nat
  | add | sub => 1
  | mul | div => 2

/-- The quotient of the magnitudes, negated where the signs differ: it is rounded toward zero. -/
def quotient (l r : Int) : Int :=
  let magnitude : Int := l.natAbs / r.natAbs
  if l < 0 ↔ r < 0 then magnitude else -magnitude

/-- The operation on unbounded integers.  Division has no result for a divisor of zero. -/
def result? : Operator → Int → Int → Option Int
  | add, l, r => some (l + r)
  | sub, l, r => some (l - r)
  | mul, l, r => some (l * r)
  | div, l, r => if r = 0 then none else some (quotient l r)

theorem ofSymbol?_symbol (o : Operator) : ofSymbol? o.symbol = some o := by cases o <;> decide

end Operator

inductive Expr where
  | ref (key : AxisKey)
  | lit (value : Int)
  | binary (op : Operator) (left right : Expr)
  deriving DecidableEq, Repr

namespace Expr

/-- No parentheses around a leaf, one pair around every operation, one space on each side of its
operator. -/
def text : Expr → String
  | ref key => key.text
  | lit value => toString value
  | binary op left right =>
    "(" ++ left.text ++ " " ++ op.symbol.toString ++ " " ++ right.text ++ ")"

/-- The axes mentioned, from left to right, with repetitions. -/
def references : Expr → List AxisKey
  | ref key => [key]
  | lit _ => []
  | binary _ left right => left.references ++ right.references

/-- The axes seen so far and behind them, each once, the axes mentioned that are not among them. -/
def collect : Expr → List AxisKey → List AxisKey
  | ref key, seen => if key ∈ seen then seen else seen ++ [key]
  | lit _, seen => seen
  | binary _ left right, seen => right.collect (left.collect seen)

/-- The axes mentioned, each once, in the order of first mention. -/
def dependencies (e : Expr) : List AxisKey := e.collect []

end Expr

end AxisMixer
