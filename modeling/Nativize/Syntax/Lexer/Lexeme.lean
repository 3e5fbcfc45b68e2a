import Nativize.Syntax.Kind
import Nativize.Text.Identifier

/-!
# Lexemes

The smallest parts of a program text, and which words are names.
-/

namespace Nativize.Syntax

inductive Lexeme where
  /-- An identifier or keyword. One that is written with escapes is never a keyword. -/
  | word (name : String) (isEscaped : Bool)
  | privateName (name : String)
  | punct (text : String)
  | number (value : Number) (raw : String)
  | bigint (digits : String)
  /-- A string and the text between its quotes. -/
  | string (value : StringValue) (raw : String)
  /-- A fixed part of a template; the last one ends the template. -/
  | template (quasi : Quasi) (isLast : Bool)
  | regex (pattern flags : String)
  | finish
  /-- A text that is no lexeme. -/
  | invalid
deriving DecidableEq

/-- A lexeme in its place. -/
structure Token where
  lexeme : Lexeme
  /-- A line break stands between this token and the one before. -/
  afterBreak : Bool
  /-- The comments attached to the token. -/
  lead : List Comment
  /-- The input after the token before. -/
  before : List Char
  /-- The input from the first character of the token. -/
  start : List Char
  /-- The input after the token. -/
  rest : List Char
  /-- A comment before the token says that a call has no effects. -/
  isPure : Bool := false
  /-- A comment before the token says that calls of a function have no effects. -/
  isQuiet : Bool := false

/-- The words that are never names. -/
def reservedWords : List String :=
  ["break", "case", "catch", "class", "const", "continue", "debugger", "default", "delete", "do",
   "else", "enum", "export", "extends", "false", "finally", "for", "function", "if", "import", "in",
   "instanceof", "new", "null", "return", "super", "switch", "this", "throw", "true", "try",
   "typeof", "var", "void", "while", "with"]

def isReserved (word : String) : Bool := reservedWords.contains word

def isLineBreak (c : Char) : Bool :=
  c == '\n' || c == '\r' || c.toNat == 0x2028 || c.toNat == 0x2029

/-- White space between lexemes, line breaks apart. -/
def isProgramBlank (c : Char) : Bool :=
  c == ' ' || c == '\t' || c.toNat == 0xB || c.toNat == 0xC || c.toNat == 0x85 || c.toNat == 0xA0 ||
    c.toNat == 0xFEFF || c.toNat == 0x1680 || (0x2000 ≤ c.toNat && c.toNat ≤ 0x200B) ||
    c.toNat == 0x202F || c.toNat == 0x205F || c.toNat == 0x3000

end Nativize.Syntax
