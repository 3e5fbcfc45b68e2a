/-!
# Binary floating-point numbers

A number of 64 bits is kept as its sign and its place among the finite magnitudes, so that every
value has one representation and all arithmetic on it is exact arithmetic on naturals.
`Number.ofRatio` rounds a quotient of naturals to the nearest number, a tie going to the even one.
-/

namespace Nativize

/-- The number of finite magnitudes. -/
def Number.magnitudes : Nat := 2047 * Nat.pow 2 52

/-- A floating-point number. The rank of a finite one is the place of its magnitude in the list of
all finite magnitudes from zero upward. -/
inductive Number where
  | nan
  | infinite (negative : Bool)
  | finite (negative : Bool) (rank : Fin Number.magnitudes)
deriving DecidableEq

namespace Number

/-- The finite number of the given rank; beyond the last rank lies infinity. -/
def ofRank (negative : Bool) (rank : Nat) : Number :=
  if h : rank < magnitudes then .finite negative ⟨rank, h⟩ else .infinite negative

def zero : Number := .ofRank false 0

instance : Inhabited Number := ⟨zero⟩

/-- The magnitude of rank `r` is `mantissa r * 2 ^ exponent r`. -/
def mantissa (rank : Nat) : Nat :=
  if rank < Nat.pow 2 52 then rank else Nat.pow 2 52 + rank % Nat.pow 2 52

def exponent (rank : Nat) : Int :=
  if rank < Nat.pow 2 52 then -1074 else (rank / Nat.pow 2 52 : Nat) - 1075

/-- The magnitude of a rank as a quotient of two naturals. -/
def ratio (rank : Nat) : Nat × Nat :=
  let e := exponent rank
  if 0 ≤ e then (mantissa rank * Nat.pow 2 e.toNat, 1) else (mantissa rank, Nat.pow 2 (-e).toNat)

/-- The quotient rounded to the nearest natural, a tie going to the even one. -/
def roundDiv (num den : Nat) : Nat :=
  let q := num / den
  let r := num % den
  if 2 * r < den then q
  else if den < 2 * r then q + 1
  else q + q % 2

/-- The quotient `num / (den * 2 ^ e)` as a quotient of naturals. -/
def scaleDown (num den : Nat) (e : Int) : Nat × Nat :=
  if 0 ≤ e then (num, den * Nat.pow 2 e.toNat) else (num * Nat.pow 2 (-e).toNat, den)

/-- The exponent of the unit in the last place of the quotient `num / den`. -/
def unitExponent (num den : Nat) : Int :=
  let guess : Int := (num.log2 : Int) - (den.log2 : Int) - 52
  let scaled := scaleDown num den guess
  max (-1074) (if scaled.1 / scaled.2 < Nat.pow 2 52 then guess - 1 else guess)

/-- The rank of the magnitude nearest to `num / den`. It may lie beyond the last finite one. -/
def nearestRank (num den : Nat) : Nat :=
  if num = 0 then 0
  else
    let e := unitExponent num den
    let scaled := scaleDown num den e
    (e + 1074).toNat * Nat.pow 2 52 + roundDiv scaled.1 scaled.2

/-- The number nearest to `num / den`. -/
def ofRatio (negative : Bool) (num den : Nat) : Number := ofRank negative (nearestRank num den)

def ofNat (n : Nat) : Number := ofRatio false n 1

instance (n : Nat) : OfNat Number n := ⟨ofNat n⟩

/-- The count of decimal digits of a natural. -/
def digitCount (n : Nat) : Nat := (Nat.toDigits 10 n).length

/-- The number nearest to `digits * 10 ^ exponent`. The first two tests settle magnitudes far
beyond the range of finite numbers without computing a huge power. -/
def ofDecimal (negative : Bool) (digits : Nat) (exponent : Int) : Number :=
  if digits = 0 then ofRank negative 0
  else if 400 < exponent + digitCount digits then .infinite negative
  else if exponent + digitCount digits < -400 then ofRank negative 0
  else if 0 ≤ exponent then ofRatio negative (digits * Nat.pow 10 exponent.toNat) 1
  else ofRatio negative digits (Nat.pow 10 (-exponent).toNat)

/-- The number with the other sign. -/
def negate : Number → Number
  | .nan => .nan
  | .infinite s => .infinite (!s)
  | .finite s r => .finite (!s) r

/-- The magnitude of a whole finite number. -/
def wholeMagnitude? : Number → Option Nat
  | .finite _ rank =>
    let q := ratio rank
    if q.1 % q.2 = 0 then some (q.1 / q.2) else none
  | _ => none

/-- The sum of two numbers that are not negative, rounded to the nearest one. -/
def addMagnitudes (x y : Number) : Number :=
  match x, y with
  | .finite _ a, .finite _ b =>
    let p := ratio a
    let q := ratio b
    ofRatio false (p.1 * q.2 + q.1 * p.2) (p.2 * q.2)
  | .nan, _ => .nan
  | _, .nan => .nan
  | _, _ => .infinite false

/-- A number that is not negative times a natural, rounded to the nearest one. -/
def scale (x : Number) (factor : Nat) : Number :=
  match x with
  | .finite _ a => ofRatio false ((ratio a).1 * factor) (ratio a).2
  | other => other

/-- The number written by digits of a base, most significant first, rounding after each digit. -/
def ofDigits (base : Nat) (digits : List Nat) : Number :=
  digits.foldl (fun x d => addMagnitudes (scale x base) (ofNat d)) zero

end Number

end Nativize
