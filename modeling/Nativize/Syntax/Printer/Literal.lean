import Nativize.Syntax.Printer.Page

/-!
# Printed literals

Strings always stand in double quotes. Texts are kept from closing a surrounding script element.
-/

namespace Nativize.Syntax

open Print

/-- The texts match when case is ignored, as far as the first one goes. -/
def startsIgnoringCase (small : List Char) (text : List Char) : Bool :=
  match small, text with
  | [], _ => true
  | _ :: _, [] => false
  | a :: small, b :: text => a = b.toLower && startsIgnoringCase small text

/-- The text with a backslash in each `</script`, in any case. -/
def guardScript : List Char → List Char
  | '<' :: '/' :: rest =>
    if startsIgnoringCase ['s', 'c', 'r', 'i', 'p', 't'] rest then
      '<' :: '\\' :: '/' :: guardScript rest
    else '<' :: guardScript ('/' :: rest)
  | c :: rest => c :: guardScript rest
  | [] => []

def guarded (text : String) : String := String.ofList (guardScript text.toList)

/-- The printed form of one character of a string, given what follows it. -/
def stringChar (c : Char) (rest : List Char) : List Char :=
  if c.toNat = 0 then
    if (rest.head?.map Char.isDigit).getD false then ['\\', 'x', '0', '0'] else ['\\', '0']
  else if c.toNat = 7 then ['\\', 'x', '0', '7']
  else if c.toNat = 8 then ['\\', 'b']
  else if c.toNat = 0xB then ['\\', 'v']
  else if c.toNat = 0xC then ['\\', 'f']
  else if c = '\n' then ['\\', 'n']
  else if c = '\r' then ['\\', 'r']
  else if c.toNat = 0x1B then ['\\', 'x', '1', 'B']
  else if c = '\\' then ['\\', '\\']
  else if c = '"' then ['\\', '"']
  else if c.toNat = 0x2028 then ['\\', 'u', '2', '0', '2', '8']
  else if c.toNat = 0x2029 then ['\\', 'u', '2', '0', '2', '9']
  else if c.toNat = 0xA0 then ['\\', 'x', 'A', '0']
  else [c]

/-- The printed characters of a string, between the quotes. When `lone` is set a replacement
character and four digits stand for half of a surrogate pair. -/
def stringChars (lone : Bool) : List Char → List Char
  | [] => []
  | c :: rest =>
    if c.toNat = 0xFFFD && lone then
      match rest with
      | a :: b :: d :: e :: rest =>
        if [a, b, d, e] = ['f', 'f', 'f', 'd'] then c :: stringChars lone rest
        else ['\\', 'u', a, b, d, e] ++ stringChars lone rest
      | short => c :: short
    else if c = '<' then
      match rest with
      | '/' :: rest' =>
        if startsIgnoringCase ['s', 'c', 'r', 'i', 'p', 't'] rest' then
          '<' :: '\\' :: '/' :: stringChars lone rest'
        else '<' :: stringChars lone ('/' :: rest')
      | other => '<' :: stringChars lone other
    else stringChar c rest ++ stringChars lone rest

/-- A string literal. -/
def stringText (value : StringValue) : String :=
  "\"" ++ String.ofList (stringChars value.lone value.text.toList) ++ "\""

/-- The text of a magnitude, and whether a point after it would be taken as part of it. -/
def magnitudeText (rank : Nat) : String × Bool :=
  let text := Number.literalChars rank
  (String.ofList text, !(text.any fun c => c = '.' || c = 'e' || c = 'x'))

/-- A magnitude. -/
def magnitude (rank : Nat) : Print Unit := do
  let (text, takesPoint) := magnitudeText rank
  str text
  if takesPoint then markNumber

/-- A number, in parentheses where a sign would be misread. Eighteen is the level of operators
before an expression. -/
def number (value : Number) (level : Nat) : Print Unit :=
  match value with
  | .nan => word "NaN"
  | .infinite false => word "Infinity"
  | .infinite true => wrap (18 ≤ level) do
    spaceBeforeOperator "-"
    str "-Infinity"
  | .finite false rank => do
    spaceBeforeWord
    magnitude rank
  | .finite true rank =>
    if 18 ≤ level then do
      str "(-"
      magnitude rank
      str ")"
    else do
      spaceBeforeOperator "-"
      str "-"
      magnitude rank

/-- A directive in the quotes that its text allows. -/
def directiveText (text : String) : String :=
  let quote := if needsSingle text.toList then "'" else "\""
  quote ++ text ++ quote
where
  /-- A double quote comes before any other one. -/
  needsSingle : List Char → Bool
    | '"' :: _ => true
    | '\'' :: _ => false
    | '\\' :: _ :: rest => needsSingle rest
    | _ :: rest => needsSingle rest
    | [] => false

end Nativize.Syntax
