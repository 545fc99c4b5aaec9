/-!
# Binary64 magnitudes

Nonnegative binary64 numbers as exact pairs of a mantissa and a power of two.
Every operation works out the exact result as a quotient of natural numbers and
rounds it once, to the nearest number and from the middle to an even mantissa.
-/

namespace CharDispatch

/-- The number `mantissa * 2 ^ exponent`.  Numbers that come from `Binary64.round?`
have a mantissa below `2 ^ 53`, and one below `2 ^ 52` only at the least exponent. -/
structure Binary64 where
  mantissa : Nat
  exponent : Int
deriving DecidableEq, Repr

namespace Binary64

/-- The least exponent. -/
def leastExponent : Int := -1074

/-- The greatest exponent. -/
def greatestExponent : Int := 971

/-- The value of the leading bit of a mantissa, which is `2 ^ 52`. -/
def hidden : Nat := 0x10000000000000

/-- Zero. -/
def zero : Binary64 := ⟨0, leastExponent⟩

/-- A power with a natural base, which is one for a negative exponent.  A factor
of `base ^ exponent` is `raise base exponent` in the numerator of a quotient and
`raise base (-exponent)` in its denominator. -/
def raise (base : Nat) (exponent : Int) : Nat := Nat.pow base exponent.toNat

/-- The natural number nearest to a quotient, from the middle the even one. -/
def roundDiv (numerator denominator : Nat) : Nat :=
  let quotient := numerator / denominator
  let twice := 2 * (numerator % denominator)
  if denominator < twice ∨ (twice = denominator ∧ quotient % 2 = 1) then quotient + 1
  else quotient

/-- The exponent of the greatest power of two not above a positive quotient. -/
def log2Div (numerator denominator : Nat) : Int :=
  let guess : Int := (Nat.log2 numerator : Int) - Nat.log2 denominator
  if numerator * raise 2 (-guess) < denominator * raise 2 guess then guess - 1 else guess

/-- The binary64 number nearest to a quotient, if it is not too great. -/
def round? (numerator denominator : Nat) : Option Binary64 :=
  if numerator = 0 then some zero
  else
    let exponent := max (log2Div numerator denominator - 52) leastExponent
    let mantissa := roundDiv (numerator * raise 2 (-exponent)) (denominator * raise 2 exponent)
    let rounded : Binary64 :=
      if mantissa = 2 * hidden then ⟨hidden, exponent + 1⟩ else ⟨mantissa, exponent⟩
    if rounded.exponent ≤ greatestExponent then some rounded else none

/-- The numerator of a number as a quotient. -/
def numerator (x : Binary64) : Nat := x.mantissa * raise 2 x.exponent

/-- The denominator of a number as a quotient. -/
def denominator (x : Binary64) : Nat := raise 2 (-x.exponent)

/-- The rounded product, if it is not too great. -/
def mul? (x y : Binary64) : Option Binary64 :=
  round? (x.numerator * y.numerator) (x.denominator * y.denominator)

/-- The rounded quotient, if it is not too great. -/
def div? (x y : Binary64) : Option Binary64 :=
  round? (x.numerator * y.denominator) (x.denominator * y.numerator)

/-- The number nearest to a natural number, if it is not too great. -/
def ofNat? (n : Nat) : Option Binary64 := round? n 1

/-- A number times a power of ten.  Powers from `-308` to `308` are rounded
themselves and then multiplied or divided by; a smaller power is taken in
several divisions, and a greater one leaves only zero in range. -/
def scaleTen (x : Binary64) (power : Int) : Option Binary64 :=
  if 308 < power then if x.mantissa = 0 then some x else none
  else if 0 ≤ power then (ofNat? (raise 10 power)).bind x.mul?
  else if -308 ≤ power then (ofNat? (raise 10 (-power))).bind x.div?
  else if x.mantissa = 0 then some x
  else ((ofNat? (raise 10 308)).bind x.div?).bind fun smaller => smaller.scaleTen (power + 308)
termination_by (-power).toNat

end Binary64

end CharDispatch
