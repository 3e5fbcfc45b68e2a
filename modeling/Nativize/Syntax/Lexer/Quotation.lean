import Nativize.Syntax.Lexer.Lexeme
import Nativize.Text.Quoted

/-!
# Strings, templates and regular expressions

The extent of a literal is found first, by stepping over escaped characters; then its escapes are
read. A string may hold single halves of surrogate pairs, so its value is first a list of code
points and such halves. Two halves make a character only where both are written with four digits,
one directly after the other.
-/

namespace Nativize.Syntax

open Text

/-- The text of a string up to its closing quote, and the rest. A line break ends the search
unless it is escaped. -/
def stringExtent (quote : Char) : List Char → Option (List Char × List Char)
  | [] => none
  | '\\' :: '\r' :: '\n' :: rest =>
    (stringExtent quote rest).map fun (body, after) => ('\\' :: '\r' :: '\n' :: body, after)
  | '\\' :: c :: rest =>
    (stringExtent quote rest).map fun (body, after) => ('\\' :: c :: body, after)
  | c :: rest =>
    if c = quote then some ([], rest)
    else if c = '\n' || c = '\r' then none
    else (stringExtent quote rest).map fun (body, after) => (c :: body, after)

/-- Four hexadecimal digits. -/
def hex4? (text : List Char) : Option (Nat × List Char) :=
  match text with
  | a :: b :: c :: d :: rest =>
    match hexValue? a, hexValue? b, hexValue? c, hexValue? d with
    | some a, some b, some c, some d => some (((a * 16 + b) * 16 + c) * 16 + d, rest)
    | _, _, _, _ => none
  | _ => none

/-- The code point between braces, after the opening one. -/
def bracedCode? (text : List Char) : Option (Nat × List Char) :=
  let (digits, rest) := text.span fun c => (hexValue? c).isSome
  match rest with
  | '\x7d' :: rest =>
    let code := digits.foldl (fun n c => n * 16 + (hexValue? c).getD 0) 0
    if digits.isEmpty || 0x10FFFF < code then none else some (code, rest)
  | _ => none

/-- An old octal escape, from its first digit: its value and the rest. -/
def octalEscape (text : List Char) : Nat × List Char :=
  let value (digits : List Char) : Nat := digits.foldl (fun n c => n * 8 + (c.toNat - 48)) 0
  let longest := match text with
    | c :: _ => if c ≤ '3' then 3 else 2
    | [] => 0
  let digits := (text.take longest).takeWhile fun c => '0' ≤ c && c ≤ '7'
  (value digits, text.drop digits.length)

def isHighHalf (n : Nat) : Bool := 0xD800 ≤ n && n ≤ 0xDBFF

def isLowHalf (n : Nat) : Bool := 0xDC00 ≤ n && n ≤ 0xDFFF

/-- The code point of a pair of halves. -/
def joinedHalves (high low : Nat) : Nat := (high - 0xD800) * 0x400 + (low - 0xDC00) + 0x10000

/-- The code point of an escape with four digits, from them on. A second escape is taken with it
where the two are halves of a pair. -/
def unitEscape? (text : List Char) : Option (Nat × List Char) :=
  (hex4? text).map fun (unit, rest) =>
    match rest with
    | '\\' :: 'u' :: second =>
      match hex4? second with
      | some (low, after) =>
        if isHighHalf unit && isLowHalf low then (joinedHalves unit low, after) else (unit, rest)
      | none => (unit, rest)
    | _ => (unit, rest)

/-- The code points and halves of one escape, after its backslash, and the rest. In a template the
old octal forms are refused. -/
def escape? (inTemplate : Bool) (text : List Char) : Option (List Nat × List Char) :=
  match text with
  | [] => none
  | 'b' :: rest => some ([8], rest)
  | 't' :: rest => some ([9], rest)
  | 'n' :: rest => some ([10], rest)
  | 'v' :: rest => some ([11], rest)
  | 'f' :: rest => some ([12], rest)
  | 'r' :: rest => some ([13], rest)
  | '\r' :: '\n' :: rest => some ([], rest)
  | 'x' :: a :: b :: rest =>
    match hexValue? a, hexValue? b with
    | some a, some b => some ([a * 16 + b], rest)
    | _, _ => none
  | 'x' :: _ => none
  | 'u' :: '\x7b' :: rest => (bracedCode? rest).map fun (code, rest) => ([code], rest)
  | 'u' :: rest => (unitEscape? rest).map fun (code, rest) => ([code], rest)
  | c :: rest =>
    if isLineBreak c then some ([], rest)
    else if c.isDigit then
      let nextIsDigit := (rest.head?.map (·.isDigit)).getD false
      if c = '0' && !nextIsDigit then some ([0], rest)
      else if inTemplate then none
      else if c = '8' || c = '9' then some ([c.toNat], rest)
      else
        let (value, after) := octalEscape (c :: rest)
        some ([value], after)
    else some ([c.toNat], rest)

/-- The code points and halves of a literal's text. The first argument bounds the number of
steps, each of which consumes some of the text. -/
def unitsOf (inTemplate : Bool) : Nat → List Char → Option (List Nat)
  | _, [] => some []
  | 0, _ => none
  | fuel + 1, '\\' :: rest =>
    (escape? inTemplate rest).bind fun (units, after) =>
      (unitsOf inTemplate fuel after).map (units ++ ·)
  | fuel + 1, c :: rest => (unitsOf inTemplate fuel rest).map (c.toNat :: ·)

/-- The four lower-case hexadecimal digits of a code unit. -/
def unitDigits (n : Nat) : List Char :=
  [hexDigit (n / 4096 % 16), hexDigit (n / 256 % 16), hexDigit (n / 16 % 16), hexDigit (n % 16)]

/-- The value of a string from its code points and halves. -/
def stringValue (codes : List Nat) : StringValue :=
  let isHalf (n : Nat) : Bool := isHighHalf n || isLowHalf n
  if codes.any isHalf then
    ⟨String.ofList (codes.flatMap fun n =>
      if isHalf n || n = 0xFFFD then Char.ofNat 0xFFFD :: unitDigits n else [Char.ofNat n]), true⟩
  else ⟨String.ofList (codes.map Char.ofNat), false⟩

/-- A string literal, after its opening quote. -/
def scanString (quote : Char) (text : List Char) : Lexeme × List Char :=
  match stringExtent quote text with
  | none => (.invalid, text)
  | some (body, rest) =>
    match unitsOf false body.length body with
    | none => (.invalid, rest)
    | some units => (.string (stringValue units) (String.ofList body), rest)

/-- The text of a template up to its end or its next substitution; whether it ends there, and the
rest. -/
def templateExtent : List Char → Option (List Char × Bool × List Char)
  | [] => none
  | '\x60' :: rest => some ([], true, rest)
  | '$' :: '\x7b' :: rest => some ([], false, rest)
  | '\\' :: c :: rest =>
    (templateExtent rest).map fun (body, isLast, after) => ('\\' :: c :: body, isLast, after)
  | c :: rest => (templateExtent rest).map fun (body, isLast, after) => (c :: body, isLast, after)

/-- The text with every line break written as a line feed. -/
def normalizeBreaks : List Char → List Char
  | '\r' :: '\n' :: rest => '\n' :: normalizeBreaks rest
  | '\r' :: rest => '\n' :: normalizeBreaks rest
  | c :: rest => c :: normalizeBreaks rest
  | [] => []

/-- A part of a template, after the sign that opens it. -/
def scanTemplate (text : List Char) : Lexeme × List Char :=
  match templateExtent text with
  | none => (.invalid, text)
  | some (body, isLast, rest) =>
    let raw := normalizeBreaks body
    let cooked := (unitsOf true raw.length raw).map fun units => (stringValue units).text
    (.template ⟨String.ofList raw, cooked⟩ isLast, rest)

/-- The text of a regular expression up to its closing slash, and the rest. -/
def regexExtent (inClass : Bool) : List Char → Option (List Char × List Char)
  | [] => none
  | '\\' :: c :: rest =>
    if isLineBreak c then none
    else (regexExtent inClass rest).map fun (body, after) => ('\\' :: c :: body, after)
  | c :: rest =>
    if isLineBreak c then none
    else if c = '/' && !inClass then some ([], rest)
    else
      let inClass := if c = '[' then true else if c = ']' then false else inClass
      (regexExtent inClass rest).map fun (body, after) => (c :: body, after)

/-- Every letter once, and each among the known ones. Two of them, which choose the rules for
characters beyond the basic plane, exclude each other. -/
def validFlags (flags : List Char) : Bool :=
  flags.all (fun c => "dgimsuvy".toList.contains c) && flags.all (fun c => flags.count c = 1) &&
    !(flags.contains 'u' && flags.contains 'v')

/-- A regular expression, after its opening slash. -/
def scanRegex (text : List Char) : Lexeme × List Char :=
  match regexExtent false text with
  | none => (.invalid, text)
  | some (body, rest) =>
    let (flags, after) := rest.span isIdentifierPart
    if body.isEmpty || !validFlags flags then (.invalid, after)
    else (.regex (String.ofList body) (String.ofList flags), after)

end Nativize.Syntax
