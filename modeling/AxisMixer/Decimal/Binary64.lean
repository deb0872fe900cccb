/-!
# Binary64 — the double-precision floating-point numbers

A finite number is a sign, a natural number below `2⁵³` and a power of two not below `2⁻¹⁰⁷⁴`;
beside the finite numbers there are two infinities and the value that is no number.

* `Binary64.ofDecimal`: the number nearest to a decimal one, in exact natural arithmetic.
-/

namespace AxisMixer.Decimal

/-- The integer nearest to `num / den`; of two that are equally near, the even one. -/
def roundHalfEven (num den : Nat) : Nat :=
  let q := num / den
  let r := num % den
  if 2 * r < den then q
  else if den < 2 * r then q + 1
  else q + q % 2

inductive Binary64 where
  /-- `mantissa · 2 ^ exponent`, negated if `negative`. -/
  | finite (negative : Bool) (mantissa : Nat) (exponent : Int)
  | infinite (negative : Bool)
  | nan
  deriving DecidableEq, Repr

namespace Binary64

/-- The exponent of the greatest power of two not above `num / den`. -/
def log2Quotient (num den : Nat) : Int :=
  let l : Int := (num.log2 : Int) - den.log2
  if den <<< l.toNat ≤ num <<< (-l).toNat then l else l - 1

/-- The number nearest to the positive quotient `num / den`. -/
def ofQuotient (negative : Bool) (num den : Nat) : Binary64 :=
  let exponent := max (log2Quotient num den - 52) (-1074)
  let mantissa := roundHalfEven (num <<< (-exponent).toNat) (den <<< exponent.toNat)
  let carried := mantissa == Nat.pow 2 53
  let exponent := if carried then exponent + 1 else exponent
  if 971 < exponent then infinite negative
  else finite negative (if carried then Nat.pow 2 52 else mantissa) exponent

/-- The number nearest to `digits · 10 ^ exponent`.  Magnitudes from `10³¹⁰` on are infinite, and
those below `10⁻³³⁰` are zero. -/
def ofDecimal (negative : Bool) (digits : Nat) (exponent : Int) : Binary64 :=
  let magnitude : Int := (Nat.toDigits 10 digits).length + exponent
  if digits = 0 ∨ magnitude < -330 then finite negative 0 (-1074)
  else if 310 < magnitude then infinite negative
  else ofQuotient negative (digits * Nat.pow 10 exponent.toNat) (Nat.pow 10 (-exponent).toNat)

end Binary64

end AxisMixer.Decimal
