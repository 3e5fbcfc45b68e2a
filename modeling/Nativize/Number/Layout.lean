import Nativize.Number.Shortest

/-!
# Texts of numbers

The digits of a number come from `Number.shortest`; here they are laid out. Two formats use them:
the values of a style table, and the numeric literals of printed code.
-/

namespace Nativize.Number

def decimalText (n : Nat) : String := String.ofList (Nat.toDigits 10 n)

def zeros (n : Nat) : String := String.ofList (List.replicate n '0')

def signText (negative : Bool) : String := if negative then "-" else ""

/-- The digits of a decimal, and the place of its point counted from the first of them. -/
def digitsAndPoint (d : Decimal) : List Char × Int :=
  let digits := Nat.toDigits 10 d.digits
  (digits, d.exponent + digits.length)

/-- Positional notation without a point at the end. -/
def positional (digits : List Char) (point : Int) : String :=
  if point ≤ 0 then "0." ++ zeros (-point).toNat ++ String.ofList digits
  else if digits.length ≤ point then String.ofList digits ++ zeros (point.toNat - digits.length)
  else String.ofList (digits.take point.toNat) ++ "." ++ String.ofList (digits.drop point.toNat)

/-- Scientific notation with an explicit sign of the exponent. -/
def scientific (digits : List Char) (point : Int) : String :=
  let power := point - 1
  let mark := if power < 0 then "e-" else "e+"
  let fraction := digits.drop 1
  String.ofList (digits.take 1) ++
    (if fraction.isEmpty then "" else "." ++ String.ofList fraction) ++
    mark ++ decimalText power.natAbs

/-- Data notation of a finite number: positional from `10⁻⁵` up to `10¹⁶`, whole numbers ending in
`.0`, and scientific beyond. -/
def dataText (negative : Bool) (rank : Nat) : String :=
  let (digits, point) := digitsAndPoint (shortest rank)
  signText negative ++
    if rank = 0 then "0.0"
    else if -5 < point && point ≤ 16 then
      positional digits point ++ (if (digits.length : Int) ≤ point then ".0" else "")
    else scientific digits point

/-- The value of a style property as JSON: whole numbers below `2⁵³` as integers, numbers that are
not finite as `null`. -/
def styleText (x : Number) : String :=
  match x with
  | .finite negative rank =>
    match x.wholeMagnitude? with
    | some n =>
      if n < Nat.pow 2 53 then (if negative && n ≠ 0 then "-" else "") ++ decimalText n
      else dataText negative rank
    | none => dataText negative rank
  | _ => "null"

/-- Script notation of a positive magnitude: positional up to 21 whole digits and down to six zeros
after the point, scientific beyond. -/
def scriptText (rank : Nat) : String :=
  let (digits, point) := digitsAndPoint (shortest rank)
  if rank = 0 then "0"
  else if -6 < point && point ≤ 21 then positional digits point
  else scientific digits point

def hexText (n : Nat) : String := "0x" ++ String.ofList (Nat.toDigits 16 n)

/-- The text without a zero before a leading point and without the plus sign of an exponent. -/
def trimmed (text : List Char) : List Char :=
  let text := match text with
    | '0' :: '.' :: rest => '.' :: rest
    | other => other
  text.filter (· ≠ '+')

/-- The shorter of two texts, the first one when they are equally long. -/
def shorter (current candidate : List Char) : List Char :=
  if candidate.length < current.length then candidate else current

/-- `.000d` as `de-n`. -/
def fractionCandidate (text : List Char) : Option (List Char) :=
  match text with
  | '.' :: '0' :: rest =>
    let digits := rest.dropWhile (· = '0')
    if text.contains 'e' then none
    else
      let places := text.length - 1
      some (digits ++ ('e' :: '-' :: Nat.toDigits 10 places))
  | _ => none

/-- Trailing zeros as `en`. -/
def zerosCandidate (text : List Char) : Option (List Char) :=
  let tail := text.reverse.takeWhile (· = '0')
  if tail.isEmpty || text.any (fun c => c = '.' || c = 'e' || c = 'x') then none
  else some (text.take (text.length - tail.length) ++ ('e' :: Nat.toDigits 10 tail.length))

/-- `d.ddden` with the point removed. -/
def pointCandidate (text : List Char) : Option (List Char) :=
  let whole := text.takeWhile (· ≠ '.')
  let rest := (text.dropWhile (· ≠ '.')).drop 1
  let fraction := rest.takeWhile (· ≠ 'e')
  let power := (rest.dropWhile (· ≠ 'e')).drop 1
  if fraction.isEmpty || power.isEmpty then none
  else
    let negative := power.head? = some '-'
    let size : Nat := (power.filter (·.isDigit)).foldl (fun n c => n * 10 + (c.toNat - 48)) 0
    let shifted : Int := (if negative then -(size : Int) else (size : Int)) - fraction.length
    let digits := whole ++ fraction
    some (digits ++ ('e' :: (if shifted < 0 then ['-'] else []) ++ Nat.toDigits 10 shifted.natAbs))

/-- The literal of a magnitude in printed code, the shortest of a few spellings. -/
def literalChars (rank : Nat) : List Char :=
  let whole? := wholeMagnitude? (ofRank false rank)
  match whole? with
  | some n => if n < 1000 then Nat.toDigits 10 n else pick whole?
  | none => pick whole?
where
  pick (whole? : Option Nat) : List Char :=
    let start := trimmed (scriptText rank).toList
    let hex := match whole? with
      | some n => shorter start (hexText n).toList
      | none => start
    let fraction := ((fractionCandidate hex).map (shorter hex)).getD hex
    let powers := ((zerosCandidate fraction).map (shorter fraction)).getD fraction
    ((pointCandidate powers).map (shorter powers)).getD powers

end Nativize.Number
