import CharDispatch.Decimal.Shortest

/-!
# Notations of decimals

A decimal is written positionally, with all its places and always with a point,
or with one digit in front of the point and a signed exponent.
-/

namespace CharDispatch.Decimal

/-- How many digits stand in front of the point when all places are written; for
a decimal below one tenth, the negated count of zeros right behind the point. -/
def wholeDigits (decimal : Decimal) : Int := digitCount decimal.digits + decimal.exponent

/-- All places, with at least one digit on each side of the point. -/
def positional (decimal : Decimal) : String :=
  let digits := Nat.toDigits 10 decimal.digits
  let text :=
    if 0 ≤ decimal.exponent then
      digits ++ List.replicate decimal.exponent.toNat '0' ++ ['.', '0']
    else
      let places := (-decimal.exponent).toNat
      if places < digits.length then
        digits.take (digits.length - places) ++ '.' :: digits.drop (digits.length - places)
      else '0' :: '.' :: List.replicate (places - digits.length) '0' ++ digits
  String.ofList text

/-- One digit in front of the point and the power of ten with its sign.  A single
digit has no point. -/
def scientific (decimal : Decimal) : String :=
  let digits := Nat.toDigits 10 decimal.digits
  let power := decimal.wholeDigits - 1
  let point := if digits.length = 1 then [] else ['.']
  let sign := if power < 0 then '-' else '+'
  String.ofList
    (digits.take 1 ++ point ++ digits.drop 1 ++ 'e' :: sign :: Nat.toDigits 10 power.natAbs)

example : positional ⟨12, -6⟩ = "0.000012" ∧ scientific ⟨12, -7⟩ = "1.2e-6" := by
  decide +kernel

example : positional ⟨12, 3⟩ = "12000.0" ∧ scientific ⟨1, 16⟩ = "1e+16" := by
  decide +kernel

end CharDispatch.Decimal
