import Nativize.Number.Basic
import Nativize.Text.CharClass

/-!
# Leading numbers of texts

`leadingNumber` reads the longest number at the start of a text, after leading blanks: an optional
sign, then `Infinity` or a decimal with an optional exponent. The scan takes decimal digits of
every script, but only the ASCII ones have a value; with any other the result is NaN.
-/

namespace Nativize.Style

open Text

/-- The parts of a scanned number, as they were written. -/
inductive NumberText where
  | infinity (sign : Option Char)
  | decimal (sign : Option Char) (whole : List Char) (point : Bool) (fraction : List Char)
      (power : Option (Char × Option Char × List Char))
deriving DecidableEq, Repr

/-- An optional sign and the rest of the text. -/
def scanSign : List Char → Option Char × List Char
  | '+' :: rest => (some '+', rest)
  | '-' :: rest => (some '-', rest)
  | rest => (none, rest)

/-- The maximal run of decimal digits and the rest of the text. -/
def scanDigits (text : List Char) : List Char × List Char := text.span isDecimalDigit

/-- An exponent, if a complete one follows. -/
def scanPower : List Char → Option (Char × Option Char × List Char)
  | c :: rest =>
    if c = 'e' || c = 'E' then
      let (sign, rest) := scanSign rest
      let digits := (scanDigits rest).1
      if digits.isEmpty then none else some (c, sign, digits)
    else none
  | [] => none

/-- The digits of a decimal, with or without a point: whole digits, whether a point follows, the
digits after it, and the rest of the text. -/
def scanMantissa (text : List Char) : Option (List Char × Bool × List Char × List Char) :=
  let (whole, rest) := scanDigits text
  match rest with
  | '.' :: rest' =>
    let (fraction, tail) := scanDigits rest'
    if whole.isEmpty && fraction.isEmpty then none else some (whole, true, fraction, tail)
  | _ => if whole.isEmpty then none else some (whole, false, [], rest)

/-- The longest number at the start of a text. -/
def scanNumber (text : List Char) : Option NumberText :=
  let (sign, rest) := scanSign text
  if "Infinity".toList.isPrefixOf rest then some (.infinity sign)
  else (scanMantissa rest).map fun (whole, point, fraction, tail) =>
    .decimal sign whole point fraction (scanPower tail)

/-- The value of ASCII digits. -/
def digitsValue (digits : List Char) : Nat := digits.foldl (fun n c => n * 10 + digitValue c) 0

/-- The exponent of a scanned number. -/
def powerValue : Option (Char × Option Char × List Char) → Int
  | none => 0
  | some (_, sign, digits) =>
    if sign = some '-' then -(digitsValue digits : Int) else digitsValue digits

/-- All digits of a scanned number. -/
def NumberText.digits : NumberText → List Char
  | .infinity _ => []
  | .decimal _ whole _ fraction power => whole ++ fraction ++ (power.map (·.2.2)).getD []

/-- The number nearest to what was scanned, NaN when a digit is not an ASCII one. -/
def NumberText.value (scanned : NumberText) : Number :=
  if scanned.digits.all (·.isDigit) then
    match scanned with
    | .infinity sign => .infinite (sign = some '-')
    | .decimal sign whole _ fraction power =>
      .ofDecimal (sign = some '-') (digitsValue (whole ++ fraction))
        (powerValue power - fraction.length)
  else .nan

/-- The number at the start of a text, NaN when there is none. -/
def leadingNumber (text : List Char) : Number :=
  ((scanNumber (trimLeft text)).map NumberText.value).getD .nan

end Nativize.Style
