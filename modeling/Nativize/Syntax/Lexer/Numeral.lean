import Nativize.Syntax.Lexer.Lexeme
import Nativize.Text.Quoted

/-!
# Numeric literals

Decimal literals with fraction and exponent, literals of base 2, 8 and 16, the old octal form, and
big integers. An underscore may stand between two digits.
-/

namespace Nativize.Syntax

open Text

/-- A run of digits of a base with underscores between them: the digits without underscores, the
text as written, and the rest. There is none when an underscore does not stand between digits. -/
def scanRun (isDigit : Char → Bool) (text : List Char) :
    Option (List Char × List Char × List Char) :=
  let (run, rest) := text.span fun c => isDigit c || c == '_'
  let isBad :=
    run.head? = some '_' || run.getLast? = some '_' ||
      (run.zip (run.drop 1)).any fun p => p.1 == '_' && p.2 == '_'
  if isBad then none else some (run.filter (· ≠ '_'), run, rest)

def digitsValue (base : Nat) (digits : List Char) : Nat :=
  digits.foldl (fun n c => n * base + (hexValue? c).getD 0) 0

/-- The number of a literal in a base other than ten. Up to 64 bits the value is rounded once, and
beyond after each digit. -/
def baseNumber (base : Nat) (digits : List Char) : Number :=
  let value := digitsValue base digits
  if value < Nat.pow 2 64 then .ofNat value
  else .ofDigits base (digits.map fun c => (hexValue? c).getD 0)

/-- A literal must not run into a name or another digit. -/
def endsNumeral (rest : List Char) : Bool :=
  match rest with
  | [] => true
  | c :: _ => !(isIdentifierPart c || c == '\\')

def isOctalDigit (c : Char) : Bool := '0' ≤ c && c ≤ '7'

def isBinaryDigit (c : Char) : Bool := c == '0' || c == '1'

def isHexDigit (c : Char) : Bool := (hexValue? c).isSome

/-- The end of a literal: its lexeme and the rest, if nothing runs into it. -/
def finishNumeral (lexeme : Lexeme) (rest : List Char) : Lexeme × List Char :=
  if endsNumeral rest then (lexeme, rest) else (.invalid, rest)

def scanBased (marker : Char) (base : Nat) (isDigit : Char → Bool) (text : List Char) :
    Lexeme × List Char :=
  match scanRun isDigit text with
  | none => (.invalid, text)
  | some (digits, run, rest) =>
    if digits.isEmpty then (.invalid, rest)
    else
      match rest with
      | 'n' :: rest => finishNumeral (.bigint (toString (digitsValue base digits))) rest
      | rest =>
        finishNumeral (.number (baseNumber base digits) (String.ofList ('0' :: marker :: run))) rest

/-- An exponent: its value, its text and the rest. A mark without digits is an error. -/
def scanExponent (text : List Char) : Option (Int × List Char × List Char) :=
  let signed (mark : Char) (sign : List Char) (negative : Bool) (rest : List Char) :=
    (scanRun Char.isDigit rest).bind fun (digits, run, rest) =>
      if digits.isEmpty then none
      else
        let size := digitsValue 10 digits
        some ((if negative then -(size : Int) else size), mark :: (sign ++ run), rest)
  match text with
  | c :: rest =>
    if c = 'e' || c = 'E' then
      match rest with
      | '+' :: rest => signed c ['+'] false rest
      | '-' :: rest => signed c ['-'] true rest
      | rest => signed c [] false rest
    else some (0, [], text)
  | [] => some (0, [], [])

/-- The literal after its whole digits. -/
def scanFractionAndExponent (whole wholeText : List Char) (text : List Char) : Lexeme × List Char :=
  let finish (fraction fractionText rest : List Char) : Lexeme × List Char :=
    match scanExponent rest with
    | none => (.invalid, rest)
    | some (power, powerText, rest) =>
      let value :=
        Number.ofDecimal false (digitsValue 10 (whole ++ fraction)) (power - fraction.length)
      finishNumeral (.number value (String.ofList (wholeText ++ fractionText ++ powerText))) rest
  match text with
  | '.' :: rest =>
    match scanRun Char.isDigit rest with
    | none => (.invalid, rest)
    | some (fraction, run, rest) => finish fraction ('.' :: run) rest
  | rest => finish [] [] rest

/-- A numeric literal. The text starts with a digit, or with a point before a digit. Digits after a
zero are octal; where one of them is no octal digit the literal is decimal, and a capital letter
may not begin its exponent. -/
def scanNumeral (text : List Char) : Lexeme × List Char :=
  match text with
  | '0' :: c :: rest =>
    if c = 'x' || c = 'X' then scanBased c 16 isHexDigit rest
    else if c = 'o' || c = 'O' then scanBased c 8 isOctalDigit rest
    else if c = 'b' || c = 'B' then scanBased c 2 isBinaryDigit rest
    else if c.isDigit then
      let (run, after) := (c :: rest).span Char.isDigit
      if run.all isOctalDigit then
        finishNumeral (.number (baseNumber 8 run) (String.ofList ('0' :: run))) after
      else if after.head? = some 'E' then (.invalid, after)
      else scanFractionAndExponent run ('0' :: run) after
    else if c = 'n' then finishNumeral (.bigint "0") rest
    else if c = '_' then (.invalid, rest)
    else scanFractionAndExponent ['0'] ['0'] (c :: rest)
  | text =>
    match scanRun Char.isDigit text with
    | none => (.invalid, text)
    | some (digits, run, rest) =>
      match rest with
      | 'n' :: after =>
        if digits.isEmpty then (.invalid, after)
        else finishNumeral (.bigint (toString (digitsValue 10 digits))) after
      | rest => scanFractionAndExponent digits run rest

end Nativize.Syntax
