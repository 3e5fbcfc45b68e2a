import Nativize.Syntax.Lexer.Numeral
import Nativize.Syntax.Lexer.Quotation
import Nativize.Syntax.Lexer.Trivia

/-!
# From text to tokens

`Token.scan` takes the next token from the front of a text. Where the grammar decides what a
character starts, a slash is read as an operator, a closing brace as itself and `>` alone; the
parser asks for another reading of the same place where it needs one.
-/

namespace Nativize.Syntax

open Text

/-- The operators and separators, longer ones before their beginnings. -/
def punctuators : List String :=
  ["...", "===", "!==", "**=", "<<=", "&&=", "||=", "??=", "=>", "==", "!=", "<=", "++", "--", "<<",
   "&&", "||", "??", "?.", "+=", "-=", "*=", "/=", "%=", "&=", "|=", "^=", "**", "\x7b", "\x7d",
   "(", ")", "[", "]", ".", ";", ",", "<", ">", "+", "-", "*", "/", "%", "&", "|", "^", "!", "~",
   "?", ":", "=", "@", "#"]

/-- The longest operator or separator at the front of a text. A question mark and a point before a
digit belong to a conditional. -/
def scanPunctuator (text : List Char) : Lexeme × List Char :=
  match text with
  | '?' :: '.' :: d :: rest =>
    if d.isDigit then (.punct "?", '.' :: d :: rest) else (.punct "?.", d :: rest)
  | text =>
    match punctuators.find? fun p => p.toList.isPrefixOf text with
    | some p => (.punct p, text.drop p.toList.length)
    | none => (.invalid, text.drop 1)

/-- The characters of a name, whether any was escaped, and the rest. The first argument bounds the
number of steps, each of which consumes some of the text. -/
def nameExtent : Nat → List Char → Option (List Char × Bool × List Char)
  | 0, text => some ([], false, text)
  | fuel + 1, text =>
    match text with
    | '\\' :: 'u' :: '\x7b' :: rest =>
      (bracedCode? rest).bind fun (code, rest) =>
        (nameExtent fuel rest).map fun (name, _, after) => (Char.ofNat code :: name, true, after)
    | '\\' :: 'u' :: rest =>
      (hex4? rest).bind fun (code, rest) =>
        (nameExtent fuel rest).map fun (name, _, after) => (Char.ofNat code :: name, true, after)
    | '\\' :: _ => none
    | c :: rest =>
      if isIdentifierPart c then
        (nameExtent fuel rest).map fun (name, escaped, after) => (c :: name, escaped, after)
      else some ([], false, c :: rest)
    | [] => some ([], false, [])

/-- A name, which must begin as one. -/
def scanName (text : List Char) : Option (String × Bool × List Char) :=
  (nameExtent text.length text).bind fun (name, escaped, rest) =>
    match name with
    | c :: tail =>
      if isIdentifierStart c && tail.all isIdentifierPart then
        some (String.ofList name, escaped, rest)
      else none
    | [] => none

/-- The lexeme at the front of a text without blanks, and the rest. -/
def scanLexeme (text : List Char) : Lexeme × List Char :=
  match text with
  | [] => (.finish, [])
  | '"' :: rest => scanString '"' rest
  | '\'' :: rest => scanString '\'' rest
  | '\x60' :: rest => scanTemplate rest
  | '#' :: rest =>
    match scanName rest with
    | some (name, _, after) => (.privateName name, after)
    | none => (.invalid, rest)
  | '.' :: d :: rest =>
    if d.isDigit then scanNumeral ('.' :: d :: rest) else scanPunctuator ('.' :: d :: rest)
  | c :: rest =>
    if c.isDigit then scanNumeral (c :: rest)
    else if isIdentifierStart c || c = '\\' then
      match scanName (c :: rest) with
      | some (name, escaped, after) => (.word name escaped, after)
      | none => (.invalid, rest)
    else scanPunctuator (c :: rest)

/-- The next token of a text, after a gap. -/
def Token.scan (gap : Gap) (text : List Char) : Token :=
  match scanGap gap .between text with
  | none => ⟨.invalid, false, [], text, text, [], false, false⟩
  | some (gap, start) =>
    let (lexeme, rest) := scanLexeme start
    let lead := if gap.pending.isEmpty then [] else gap.comments start.length
    ⟨lexeme, gap.afterBreak, lead, text, start, rest, gap.isPure, gap.isQuiet⟩

/-- The token after a token. -/
def Token.next (t : Token) : Token := .scan (.after t.lexeme) t.rest

/-- The token with another reading of its place. -/
def Token.reread (t : Token) (reading : Lexeme × List Char) : Token :=
  { t with lexeme := reading.1, rest := reading.2 }

/-- A token that starts with a slash, read as a regular expression. -/
def Token.asRegex (t : Token) : Token := t.reread (scanRegex (t.start.drop 1))

/-- A closing brace read as the continuation of a template. -/
def Token.asTemplate (t : Token) : Token := t.reread (scanTemplate (t.start.drop 1))

/-- The operators that begin with `>`, longer ones first. -/
def greaterOperators : List String := [">>>=", ">>>", ">>=", ">>", ">=", ">"]

/-- The longest operator that begins with `>`. -/
def Token.asGreater (t : Token) : Token :=
  match greaterOperators.find? fun p => p.toList.isPrefixOf t.start with
  | some p => t.reread (.punct p, t.start.drop p.toList.length)
  | none => t

/-- A token that begins with `<`, read as that sign alone. -/
def Token.asLess (t : Token) : Token :=
  match t.start with
  | '<' :: rest => t.reread (.punct "<", rest)
  | _ => t

/-- A name of markup, in which dashes may stand. -/
def Token.asMarkupName (t : Token) : Token :=
  match t.start with
  | c :: _ =>
    if isIdentifierStart c then
      let (name, rest) := t.start.span fun d => isIdentifierPart d || d == '-'
      t.reread (.word (String.ofList name) false, rest)
    else t
  | [] => t

/-- A string of markup, in which nothing is escaped. -/
def Token.asMarkupString (t : Token) : Token :=
  let upTo (quote : Char) (text : List Char) : Token :=
    let (body, rest) := text.span (· ≠ quote)
    match rest with
    | _ :: rest => t.reread (.string ⟨String.ofList body, false⟩ (String.ofList body), rest)
    | [] => t.reread (.invalid, [])
  match t.start with
  | '"' :: rest => upTo '"' rest
  | '\'' :: rest => upTo '\'' rest
  | _ => t

/-- The text of markup before the token, up to the next element or container. -/
def Token.markupText (t : Token) : List Char × List Char :=
  t.before.span fun c => c ≠ '\x7b' && c ≠ '<'

end Nativize.Syntax
