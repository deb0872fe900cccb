import AxisMixer.Decimal.Binary64

/-!
# Shortest decimals — the fewest digits that read back

The reals that round to `m · 2 ^ q` form an interval, which contains its ends if and only if `m` is
even.  Of all decimals in the interval with the fewest digits, the shortest decimal is the one
nearest to the number itself.  A decimal of a given number of digits lies in the interval only if
one of the number's two neighbours on that grid does, so two tests for each number of digits are
enough.
-/

namespace AxisMixer.Decimal

/-- A positive binary number and the interval that rounds to it, in quarters of `2 ^ q`. -/
structure Rounding where
  low : Nat
  mid : Nat
  high : Nat
  closed : Bool
  /-- One quarter is `2 ^ scale`. -/
  scale : Int

namespace Rounding

/-- Below a power of two the numbers lie twice as dense, so that the interval is shorter there. -/
def ofBinary (m : Nat) (q : Int) : Rounding where
  low := 4 * m - (if m = Nat.pow 2 52 ∧ -1074 < q then 1 else 2)
  mid := 4 * m
  high := 4 * m + 2
  closed := m % 2 == 0
  scale := q - 2

/-- The number of digits in front of the decimal point; zero or less if zeros follow the point. -/
def magnitude (r : Rounding) : Int :=
  let num := r.mid <<< r.scale.toNat
  let den := 1 <<< (-r.scale).toNat
  if den ≤ num then (Nat.toDigits 10 (num / den)).length
  else 1 - (Nat.toDigits 10 ((den - 1) / num)).length

/-- The integer `c` for which `c · 10 ^ k` lies in the interval and is nearest to the number. -/
def nearest? (r : Rounding) (k : Int) : Option Nat :=
  let unit := Nat.pow 10 k.toNat <<< (-r.scale).toNat
  let scaled (n : Nat) := (n * Nat.pow 10 (-k).toNat) <<< r.scale.toNat
  let inside (c : Nat) :=
    if r.closed then scaled r.low ≤ c * unit && c * unit ≤ scaled r.high
    else scaled r.low < c * unit && c * unit < scaled r.high
  let below := scaled r.mid / unit
  let rest := scaled r.mid % unit
  let belowIsNearer := 2 * rest < unit || (2 * rest == unit && below % 2 == 0)
  match inside below, inside (below + 1) with
  | true, true => some (if belowIsNearer then below else below + 1)
  | true, false => some below
  | false, true => some (below + 1)
  | false, false => none

/-- The digits `c` and the exponent `k` of the shortest decimal `c · 10 ^ k`; seventeen digits are
always enough. -/
def shortest (r : Rounding) : Nat × Int :=
  let grids := (List.range 17).map fun (n : Nat) => r.magnitude - 1 - (n : Int)
  (grids.findSome? fun k => (r.nearest? k).map (·, k)).getD (r.mid, r.scale)

end Rounding

/-- The digits of the shortest decimal of `m · 2 ^ q`, with no zero at their end, and the place of
the decimal point relative to the first digit. -/
def shortestDigits (m : Nat) (q : Int) : List Char × Int :=
  let (c, k) := (Rounding.ofBinary m q).shortest
  let digits := Nat.toDigits 10 c
  ((digits.reverse.dropWhile (· == '0')).reverse, digits.length + k)

end AxisMixer.Decimal
