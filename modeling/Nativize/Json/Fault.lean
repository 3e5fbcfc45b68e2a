import Nativize.Number.Layout
import Nativize.Text.Escaped

/-!
# Faults of JSON documents

The causes for which a document is refused, and their wording.
-/

namespace Nativize.Json

/-- A value of a kind that does not fit its place. -/
inductive Unexpected where
  | null
  | boolean (b : Bool)
  | integer (negative : Bool) (magnitude : Nat)
  | float (negative : Bool) (rank : Nat)
  | string (text : String)
  | sequence
  | map
deriving DecidableEq

def Unexpected.describe : Unexpected → String
  | .null => "null"
  | .boolean b => "boolean `" ++ (if b then "true" else "false") ++ "`"
  | .integer negative n => "integer `" ++ Number.signText negative ++ Number.decimalText n ++ "`"
  | .float negative rank => "floating point `" ++ Number.dataText negative rank ++ "`"
  | .string text => "string " ++ Text.inMessage text
  | .sequence => "sequence"
  | .map => "map"

/-- Why a document is refused. -/
inductive Fault where
  | endInValue
  | endInString
  | endInObject
  | endInList
  | expectedColon
  | expectedListEnd
  | expectedObjectEnd
  | expectedIdent
  | expectedValue
  | invalidEscape
  | invalidNumber
  | numberOutOfRange
  | controlCharacter
  | keyNotString
  | loneSurrogate
  | unfinishedHexEscape
  | trailingComma
  | trailingCharacters
  | wrongType (found : Unexpected) (wanted : String)
  | missingField (name : String)
  | duplicateField (name : String)
  | wrongLength (found : Nat) (wanted : String)
deriving DecidableEq

def Fault.message : Fault → String
  | .endInValue => "EOF while parsing a value"
  | .endInString => "EOF while parsing a string"
  | .endInObject => "EOF while parsing an object"
  | .endInList => "EOF while parsing a list"
  | .expectedColon => "expected `:`"
  | .expectedListEnd => "expected `,` or `]`"
  | .expectedObjectEnd => "expected `,` or `\x7d`"
  | .expectedIdent => "expected ident"
  | .expectedValue => "expected value"
  | .invalidEscape => "invalid escape"
  | .invalidNumber => "invalid number"
  | .numberOutOfRange => "number out of range"
  | .controlCharacter => "control character (\\u0000-\\u001F) found while parsing a string"
  | .keyNotString => "key must be a string"
  | .loneSurrogate => "lone leading surrogate in hex escape"
  | .unfinishedHexEscape => "unexpected end of hex escape"
  | .trailingComma => "trailing comma"
  | .trailingCharacters => "trailing characters"
  | .wrongType found wanted => "invalid type: " ++ found.describe ++ ", expected " ++ wanted
  | .missingField name => "missing field `" ++ name ++ "`"
  | .duplicateField name => "duplicate field `" ++ name ++ "`"
  | .wrongLength found wanted =>
    "invalid length " ++ Number.decimalText found ++ ", expected " ++ wanted

end Nativize.Json
