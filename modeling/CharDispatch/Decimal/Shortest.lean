import CharDispatch.Decimal.Binary64

/-!
# Shortest decimals

A binary64 number stands for all real numbers that round to it.  Its shortest
decimal is the one with the fewest digits among these reals, and of several the
nearest to the number, from the middle between two the one with the even last
digit.  To find it, the two neighbours of the number on coarser and finer decimal
grids are tested; the first grid with a hit decides.
-/

namespace CharDispatch

/-- The decimal `digits * 10 ^ exponent`. -/
structure Decimal where
  digits : Nat
  exponent : Int
deriving DecidableEq, Repr

/-- How many decimal digits a natural number has. -/
def Decimal.digitCount (n : Nat) : Nat := if n < 10 then 1 else digitCount (n / 10) + 1

namespace Binary64

/-- How many digits a positive number has in front of the point; for a number
below one tenth, the negated count of zeros right behind the point. -/
def wholeDigits (x : Binary64) : Int :=
  let top := x.numerator
  let bottom := x.denominator
  if bottom ≤ top then Decimal.digitCount (top / bottom)
  else
    let count := Decimal.digitCount (bottom / top)
    if top * raise 10 (count - 1) = bottom then 2 - (count : Int) else 1 - (count : Int)

/-- The point of the grid of multiples of `10 ^ place` that rounds to `x` and is
nearest to it, in units of the grid.  From the middle the even one is taken. -/
def onGrid? (x : Binary64) (place : Int) : Option Nat :=
  let unit := raise 10 place * raise 2 (2 - x.exponent)
  let scale := raise 2 (x.exponent - 2) * raise 10 (-place)
  let exact := 4 * x.mantissa * scale
  let below :=
    if x.mantissa = hidden ∧ leastExponent < x.exponent then 1 else 2
  let least := (4 * x.mantissa - below) * scale
  let greatest := (4 * x.mantissa + 2) * scale
  let isHit (point : Nat) : Bool :=
    if x.mantissa % 2 = 0 then least ≤ point * unit && point * unit ≤ greatest
    else least < point * unit && point * unit < greatest
  let lower := exact / unit
  let twice := 2 * (exact % unit)
  let isNearer : Bool := twice < unit || (twice == unit && lower % 2 == 0)
  if isHit lower && (isNearer || !isHit (lower + 1)) then some lower
  else if isHit (lower + 1) then some (lower + 1)
  else none

end Binary64

namespace Decimal

/-- A decimal without zeros at its end. -/
def trimmed (digits : Nat) (exponent : Int) : Decimal :=
  if digits = 0 then ⟨0, 0⟩
  else if digits % 10 = 0 then trimmed (digits / 10) (exponent + 1)
  else ⟨digits, exponent⟩
termination_by digits

/-- The shortest decimal of a number.  Seventeen digits tell any two numbers apart. -/
def shortest (x : Binary64) : Decimal :=
  if x.mantissa = 0 then ⟨0, 0⟩
  else
    let whole := x.wholeDigits
    let hit := (List.range 17).findSome? fun (extra : Nat) =>
      let place := whole - 1 - (extra : Int)
      (x.onGrid? place).map fun point => trimmed point place
    hit.getD ⟨0, 0⟩

end Decimal

end CharDispatch
