import Nativize.Number.Basic

/-!
# Shortest decimals

`Number.shortest` gives the decimal with the fewest digits that reads back as a given number, and
of those the one nearest to it. The candidates with `n` digits are the two neighbours of the value
on the grid of decimals with `n` digits: if any point of the grid reads back, one of these does.
-/

namespace Nativize

/-- The value `digits * 10 ^ exponent`. -/
structure Decimal where
  digits : Nat
  exponent : Int
deriving DecidableEq, Repr

namespace Number

/-- The exponent of the leading decimal digit of the positive quotient `num / den`. -/
def leadingExponent (num den : Nat) : Int :=
  if den ≤ num then digitCount (num / den) - 1
  else
    let n := digitCount (den / num) - 1
    if den ≤ num * Nat.pow 10 n then -(n : Int) else -(n + 1 : Int)

/-- The quotient `num / den` counted in units of `10 ^ e`, as a quotient of naturals. -/
def inUnits (num den : Nat) (e : Int) : Nat × Nat :=
  if 0 ≤ e then (num, den * Nat.pow 10 e.toNat) else (num * Nat.pow 10 (-e).toNat, den)

/-- The decimal `digits * 10 ^ e` reads back as the magnitude of the given rank. -/
def readsBack (rank digits : Nat) (e : Int) : Bool :=
  ofDecimal false digits e == ofRank false rank

/-- The decimal on the grid of `count` digits nearest to a magnitude among those that read back
as it. -/
def onGrid? (rank count : Nat) : Option Decimal :=
  let q := ratio rank
  let e := leadingExponent q.1 q.2 - (count - 1 : Nat)
  let v := inUnits q.1 q.2 e
  let lower := v.1 / v.2
  let upper := lower + 1
  let isUpperNearer : Bool := v.2 < 2 * (v.1 % v.2) || (v.2 == 2 * (v.1 % v.2) && lower % 2 == 1)
  match readsBack rank lower e, readsBack rank upper e with
  | true, true => some ⟨if isUpperNearer then upper else lower, e⟩
  | true, false => some ⟨lower, e⟩
  | false, true => some ⟨upper, e⟩
  | false, false => none

/-- Search the grids of `count`, `count + 1`, … digits. -/
def searchGrids (rank : Nat) : Nat → Nat → Option Decimal
  | 0, _ => none
  | steps + 1, count => (onGrid? rank count).orElse fun _ => searchGrids rank steps (count + 1)

/-- Move trailing zeros of the digits into the exponent. -/
def dropTrailingZeros : Nat → Decimal → Decimal
  | 0, d => d
  | steps + 1, d =>
    if d.digits ≠ 0 && d.digits % 10 == 0 then
      dropTrailingZeros steps ⟨d.digits / 10, d.exponent + 1⟩
    else d

/-- The shortest decimal that reads back as the magnitude of the given rank. Seventeen digits
always do. -/
def shortest (rank : Nat) : Decimal :=
  if rank = 0 then ⟨0, 0⟩
  else dropTrailingZeros 20 ((searchGrids rank 17 1).getD ⟨0, 0⟩)

end Number

end Nativize
