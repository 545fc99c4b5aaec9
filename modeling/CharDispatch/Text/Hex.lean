/-!
# Hexadecimal digits

Code points are written and read in base sixteen: with four capital digits in
source literals, with as few small digits as possible in messages.
-/

namespace CharDispatch.Hex

/-- The capital digit for a value below sixteen. -/
def capital (n : Nat) : Char :=
  if n < 10 then Char.ofNat ('0'.toNat + n) else Char.ofNat ('A'.toNat + (n - 10))

/-- The small digit for a value below sixteen. -/
def small (n : Nat) : Char :=
  if n < 10 then Char.ofNat ('0'.toNat + n) else Char.ofNat ('a'.toNat + (n - 10))

/-- The four capital digits of a value below `16 ^ 4`. -/
def four (n : Nat) : List Char :=
  [capital (n / 4096 % 16), capital (n / 256 % 16), capital (n / 16 % 16), capital (n % 16)]

/-- The small digits of a value, without leading zeros. -/
def shortest (n : Nat) : List Char :=
  if n < 16 then [small n] else shortest (n / 16) ++ [small (n % 16)]
termination_by n
decreasing_by omega

/-- The value of a digit of either case. -/
def value? (c : Char) : Option Nat :=
  if '0' ≤ c ∧ c ≤ '9' then some (c.toNat - '0'.toNat)
  else if 'A' ≤ c ∧ c ≤ 'F' then some (c.toNat - 'A'.toNat + 10)
  else if 'a' ≤ c ∧ c ≤ 'f' then some (c.toNat - 'a'.toNat + 10)
  else none

/-- The value of four digits. -/
def four? (a b c d : Char) : Option Nat := do
  let a ← value? a
  let b ← value? b
  let c ← value? c
  let d ← value? d
  return ((a * 16 + b) * 16 + c) * 16 + d

/-- A capital digit reads back. -/
theorem value?_capital {n : Nat} (digit : n < 16) : value? (capital n) = some n := by
  have : ∀ k : Fin 16, value? (capital k.val) = some k.val := by decide
  exact this ⟨n, digit⟩

/-- Four capital digits read back. -/
theorem four?_four {n : Nat} (bound : n < 65536) :
    four? (capital (n / 4096 % 16)) (capital (n / 256 % 16)) (capital (n / 16 % 16))
      (capital (n % 16)) = some n := by
  simp only [four?, value?_capital (Nat.mod_lt _ (by decide : 0 < 16)), Option.bind_eq_bind,
    Option.bind_some, Option.pure_def, Option.some.injEq]
  omega

/-- Small digits of a value below thirty-two read back behind two zeros. -/
theorem four?_small {n : Nat} (bound : n < 32) :
    four? '0' '0' (small (n / 16)) (small (n % 16)) = some n := by
  have all : ∀ k : Fin 32,
      four? '0' '0' (small (k.val / 16)) (small (k.val % 16)) = some k.val := by decide
  exact all ⟨n, bound⟩

end CharDispatch.Hex
