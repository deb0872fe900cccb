import AxisMixer.Expr.Basic

/-!
# The value of an expression

Evaluation goes from left to right in unbounded integers; only the final result is brought into
the range of an event value, so an intermediate overflow is harmless.

* `Expr.value`: the exact value, or the first thing that goes wrong.
* `Expr.evaluate`: the exact value saturated to `minValue … maxValue`.
-/

namespace AxisMixer

/-- The least value an event can carry, `-2³¹`. -/
def minValue : Int := -2147483648

/-- The greatest value an event can carry, `2³¹ - 1`. -/
def maxValue : Int := 2147483647

/-- The nearest integer that an event can carry. -/
def saturate (n : Int) : Int := max minValue (min maxValue n)

/-- What the axes stand at; `none` for an axis whose value is not known. -/
abbrev Bindings := AxisKey → Option Int

/-- The values listed, the last one where a key is listed twice. -/
def Bindings.ofList (entries : List (AxisKey × Int)) : Bindings := fun key =>
  (entries.reverse.find? fun e => e.1 == key).map Prod.snd

inductive EvalError where
  /-- No value is known for the axis. -/
  | unbound (key : AxisKey)
  /-- The divisor of the division `expr` came out as zero. -/
  | divisionByZero (expr : Expr)
  deriving DecidableEq, Repr

namespace Expr

/-- The value in unbounded integers, operands first, the left one before the right one. -/
def value (bindings : Bindings) : Expr → Except EvalError Int
  | ref key =>
    match bindings key with
    | some n => .ok n
    | none => .error (.unbound key)
  | lit n => .ok n
  | binary op left right => do
    let l ← left.value bindings
    let r ← right.value bindings
    match op.result? l r with
    | some n => .ok n
    | none => .error (.divisionByZero (binary op left right))

/-- The value as an event can carry it. -/
def evaluate (bindings : Bindings) (e : Expr) : Except EvalError Int :=
  (e.value bindings).map saturate

end Expr

end AxisMixer
