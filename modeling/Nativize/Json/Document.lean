import Nativize.Json.Fault
import Nativize.Text.Quoted

/-!
# Reading and writing JSON

Lists and objects are written in their compact form, given the written forms of their items. A
reader takes a value of a known shape from the front of a document. The shape decides what is
accepted at each place, so a value of a wrong kind is reported before any later mistake in the
notation. Loops are bounded by the length of the document, each round consuming some of it.
-/

namespace Nativize.Json

/-! ## Writing -/

/-- A list of written items. -/
def listChars (items : List (List Char)) : List Char :=
  '[' :: (List.intercalate [','] items ++ [']'])

/-- An entry of an object: its quoted key and its written value. -/
def entryChars (entry : String × List Char) : List Char :=
  Text.quotedChars entry.1.toList ++ ':' :: entry.2

/-- An object of written values. -/
def objectChars (entries : List (String × List Char)) : List Char :=
  '\x7b' :: (List.intercalate [','] (entries.map entryChars) ++ ['\x7d'])

/-! ## Reading by shape -/

/-- A reader of values from the front of a document. -/
abbrev Reader (α : Type) := StateT (List Char) (Except Fault) α

def fail {α : Type} (fault : Fault) : Reader α := throw fault

def isSpace (c : Char) : Bool := c == ' ' || c == '\n' || c == '\t' || c == '\r'

/-- The next character after blanks, which are dropped; the character itself stays. -/
def peek : Reader (Option Char) := fun s =>
  let rest := s.dropWhile isSpace
  .ok (rest.head?, rest)

/-- Drop one character. -/
def skip : Reader Unit := modify (·.drop 1)

/-- The next character, which is consumed. -/
def next? : Reader (Option Char) := fun s => .ok (s.head?, s.drop 1)

/-- The four hexadecimal digits of an escape. What is too short for them is measured in bytes. -/
def readHex4 : Reader Nat := do
  let s ← get
  match s with
  | a :: b :: c :: d :: rest =>
    match Text.hexValue? a, Text.hexValue? b, Text.hexValue? c, Text.hexValue? d with
    | some a, some b, some c, some d =>
      set rest
      return ((a * 16 + b) * 16 + c) * 16 + d
    | _, _, _, _ => fail .invalidEscape
  | short =>
    if (String.ofList short).utf8ByteSize < 4 then fail .endInString else fail .invalidEscape

/-- The character of an escape `\u`, with its second half when it needs one. In a text that is
not used the halves are not matched. -/
def readUnicodeEscape (used : Bool) : Reader Char := do
  let high ← readHex4
  if !used then return Char.ofNat high
  else if 0xDC00 ≤ high && high ≤ 0xDFFF then fail .loneSurrogate
  else if high < 0xD800 || 0xDBFF < high then return Char.ofNat high
  else
    match ← next? with
    | none => fail .endInString
    | some '\\' =>
      match ← next? with
      | none => fail .endInString
      | some 'u' =>
        let low ← readHex4
        if low < 0xDC00 || 0xDFFF < low then fail .loneSurrogate
        else return Char.ofNat ((high - 0xD800) * 0x400 + (low - 0xDC00) + 0x10000)
      | some _ => fail .unfinishedHexEscape
    | some _ => fail .unfinishedHexEscape

/-- The character of an escape, after its backslash. -/
def readEscape (used : Bool) : Reader Char := do
  match ← next? with
  | none => fail .endInString
  | some 'u' => readUnicodeEscape used
  | some '"' => return '"'
  | some '\\' => return '\\'
  | some '/' => return '/'
  | some 'b' => return Char.ofNat 8
  | some 'f' => return Char.ofNat 12
  | some 'n' => return '\n'
  | some 'r' => return '\r'
  | some 't' => return '\t'
  | some _ => fail .invalidEscape

/-- The characters of a string up to its closing quote, which is consumed. -/
def readStringRest (used : Bool) : Nat → List Char → Reader (List Char)
  | 0, _ => fail .endInString
  | fuel + 1, read => do
    match ← next? with
    | none => fail .endInString
    | some '"' => return read.reverse
    | some '\\' => do
      let c ← readEscape used
      readStringRest used fuel (c :: read)
    | some c =>
      if c.toNat < 0x20 then fail .controlCharacter else readStringRest used fuel (c :: read)

/-- A string, after its opening quote. -/
def readStringBody : Reader String := do
  let s ← get
  return String.ofList (← readStringRest true (s.length + 1) [])

/-- A string that is not used, after its opening quote. -/
def skipStringBody : Reader Unit := do
  let s ← get
  discard (readStringRest false (s.length + 1) [])

/-- The rest of a keyword, after its first letter. -/
def readIdent : List Char → Reader Unit
  | [] => pure ()
  | c :: rest => do
    match ← next? with
    | none => fail .endInValue
    | some d => if c = d then readIdent rest else fail .expectedIdent

/-- The run of digits at the front of the document. -/
def readDigits : Reader (List Char) := fun s => .ok (s.span (·.isDigit))

def wordLimit : Nat := Nat.pow 2 64

/-- Digits gathered into a significand of 64 bits while they fit; the count of those left over. -/
def gather (significand : Nat) : List Char → Nat × Nat × Nat
  | [] => (significand, 0, 0)
  | c :: rest =>
    let longer := significand * 10 + (c.toNat - 48)
    if wordLimit ≤ longer then (significand, 0, rest.length + 1)
    else
      let (value, taken, left) := gather longer rest
      (value, taken + 1, left)

/-- The largest exponent of a power of ten that is finite. -/
def lastPower : Nat := 308

/-- A number times or over a power of ten, both rounded before. -/
def timesPower (x : Number) (power : Int) : Number :=
  match x, Number.ofDecimal false 1 (power.natAbs : Int) with
  | .finite _ a, .finite _ b =>
    let p := Number.ratio a
    let q := Number.ratio b
    if 0 ≤ power then Number.ofRatio false (p.1 * q.1) (p.2 * q.2)
    else Number.ofRatio false (p.1 * q.2) (p.2 * q.1)
  | x, _ => x

/-- A significand times a power of ten. Division goes in steps of the last finite power, of which
three bring every significand to zero. -/
def ofParts (significand : Nat) (power : Int) : Number :=
  let x := Number.ofNat significand
  if significand = 0 then x
  else if lastPower < power then .infinite false
  else if -lastPower ≤ power then timesPower x power
  else
    let y := timesPower x (-lastPower)
    let power := power + lastPower
    if -lastPower ≤ power then timesPower y power else Number.zero

def floatFound (negative : Bool) (significand : Nat) (power : Int) : Reader Unexpected :=
  match ofParts significand power with
  | .finite _ rank => return .float negative rank
  | _ => fail .numberOutOfRange

/-- The exponent of a number, after its mark. -/
def readPower : Reader Int := do
  let s ← get
  let negative := s.head? = some '-'
  if negative || s.head? = some '+' then skip
  match (← get).head? with
  | none => fail .endInValue
  | some c =>
    if c.isDigit then
      let digits ← readDigits
      let size : Nat := digits.foldl (fun n d => n * 10 + (d.toNat - 48)) 0
      return if negative then -(size : Int) else size
    else fail .invalidNumber

/-- What follows the digits of a float: an exponent or nothing. -/
def readFloatTail (negative : Bool) (significand : Nat) (power : Int) : Reader Unexpected := do
  match (← get).head? with
  | some 'e' => do skip; floatFound negative significand (power + (← readPower))
  | some 'E' => do skip; floatFound negative significand (power + (← readPower))
  | _ => floatFound negative significand power

/-- The digits after the point of a number. -/
def readFraction (negative : Bool) (significand : Nat) (power : Int) : Reader Unexpected := do
  let digits ← readDigits
  if digits.isEmpty then
    match (← get).head? with
    | none => fail .endInValue
    | some _ => fail .invalidNumber
  else
    let (value, taken, _) := gather significand digits
    readFloatTail negative value (power - taken)

/-- A number, after its sign. -/
def readNumber (negative : Bool) : Reader Unexpected := do
  let digits ← readDigits
  match digits with
  | [] =>
    match (← get).head? with
    | none => fail .endInValue
    | some _ => fail .invalidNumber
  | first :: rest =>
    if first = '0' && !rest.isEmpty then fail .invalidNumber
    else
      let (value, _, left) := gather 0 digits
      match (← get).head? with
      | some '.' => do skip; readFraction negative value left
      | some 'e' => readFloatTail negative value left
      | some 'E' => readFloatTail negative value left
      | _ =>
        if left = 0 then
          if negative && (value = 0 || Nat.pow 2 63 < value) then floatFound true value 0
          else return .integer negative value
        else floatFound negative value left

/-- Fail because the next value is not of the wanted kind, or is no value at all. -/
def wrongType {α : Type} (wanted : String) : Reader α := do
  match ← peek with
  | none => fail .endInValue
  | some 'n' => do skip; readIdent ['u', 'l', 'l']; fail (.wrongType .null wanted)
  | some 't' => do skip; readIdent ['r', 'u', 'e']; fail (.wrongType (.boolean true) wanted)
  | some 'f' => do skip; readIdent ['a', 'l', 's', 'e']; fail (.wrongType (.boolean false) wanted)
  | some '"' => do skip; fail (.wrongType (.string (← readStringBody)) wanted)
  | some '[' => fail (.wrongType .sequence wanted)
  | some '\x7b' => fail (.wrongType .map wanted)
  | some '-' => do skip; fail (.wrongType (← readNumber true) wanted)
  | some c =>
    if c.isDigit then do fail (.wrongType (← readNumber false) wanted) else fail .expectedValue

/-- A string. -/
def readString : Reader String := do
  match ← peek with
  | none => fail .endInValue
  | some '"' => do skip; readStringBody
  | some _ => wrongType "a string"

/-- The colon between a key and its value. -/
def readColon : Reader Unit := do
  match ← peek with
  | none => fail .endInObject
  | some ':' => skip
  | some _ => fail .expectedColon

/-- A number whose value is not used, after its sign. -/
def skipNumber : Reader Unit := do
  match ← readDigits with
  | [] => fail .invalidNumber
  | first :: rest =>
    if first = '0' && !rest.isEmpty then fail .invalidNumber
    if (← get).head? = some '.' then
      skip
      if (← readDigits).isEmpty then fail .invalidNumber
    let mark := (← get).head?
    if mark = some 'e' || mark = some 'E' then
      skip
      let sign := (← get).head?
      if sign = some '-' || sign = some '+' then skip
      if (← readDigits).isEmpty then fail .invalidNumber

mutual

/-- A value that is not used, of any kind. -/
def skipValue : Nat → Reader Unit
  | 0 => fail .endInValue
  | fuel + 1 => do
    match ← peek with
    | none => fail .endInValue
    | some 'n' => do skip; readIdent ['u', 'l', 'l']
    | some 't' => do skip; readIdent ['r', 'u', 'e']
    | some 'f' => do skip; readIdent ['a', 'l', 's', 'e']
    | some '"' => do skip; skipStringBody
    | some '-' => do skip; skipNumber
    | some '[' => do
      skip
      match ← peek with
      | none => fail .endInList
      | some ']' => skip
      | some _ => skipItems fuel
    | some '\x7b' => do
      skip
      match ← peek with
      | none => fail .endInObject
      | some '\x7d' => skip
      | some _ => skipEntries fuel
    | some c => if c.isDigit then skipNumber else fail .expectedValue

/-- The items of a list that is not used, up to its end. -/
def skipItems : Nat → Reader Unit
  | 0 => fail .endInList
  | fuel + 1 => do
    skipValue fuel
    match ← peek with
    | none => fail .endInList
    | some ',' => do skip; skipItems fuel
    | some ']' => skip
    | some _ => fail .expectedListEnd

/-- The entries of an object that is not used, up to its end. -/
def skipEntries : Nat → Reader Unit
  | 0 => fail .endInObject
  | fuel + 1 => do
    match ← peek with
    | none => fail .endInObject
    | some '"' => do
      skip
      skipStringBody
      readColon
      skipValue fuel
      match ← peek with
      | none => fail .endInObject
      | some ',' => do skip; skipEntries fuel
      | some '\x7d' => skip
      | some _ => fail .expectedObjectEnd
    | some _ => fail .keyNotString

end

/-- Whether another key follows in an object. Its opening quote is consumed. -/
def nextKey (first : Bool) : Reader Bool := do
  match ← peek with
  | none => fail .endInObject
  | some '\x7d' => return false
  | some c =>
    if first then
      if c = '"' then do skip; return true else fail .keyNotString
    else if c = ',' then
      skip
      match ← peek with
      | none => fail .endInValue
      | some '"' => do skip; return true
      | some '\x7d' => fail .trailingComma
      | some _ => fail .keyNotString
    else fail .expectedObjectEnd

/-- Whether another item follows in a list. -/
def nextItem (first : Bool) : Reader Bool := do
  match ← peek with
  | none => fail .endInList
  | some ']' => return false
  | some c =>
    if first then return true
    else if c = ',' then
      skip
      match ← peek with
      | none => fail .endInValue
      | some ']' => fail .trailingComma
      | some _ => return true
    else fail .expectedListEnd

/-- The end of a list whose items are all read. -/
def endList : Reader Unit := do
  match ← peek with
  | none => fail .endInList
  | some ']' => skip
  | some ',' => do
    skip
    match ← peek with
    | some ']' => fail .trailingComma
    | _ => fail .trailingCharacters
  | some _ => fail .trailingCharacters

/-- The items of a list in order, `first` telling that none is read yet. -/
def readItems {α : Type} (item : Reader α) : Nat → Bool → Reader (List α)
  | 0, _ => fail .endInList
  | fuel + 1, first => do
    if ← nextItem first then
      let x ← item
      return x :: (← readItems item fuel false)
    else return []

/-- A list. -/
def readList {α : Type} (item : Reader α) : Reader (List α) := do
  match ← peek with
  | none => fail .endInValue
  | some '[' => do
    skip
    let s ← get
    let items ← readItems item (s.length + 1) true
    endList
    return items
  | some _ => wrongType "a sequence"

/-- The entries of an object in order. -/
def readEntries {α : Type} (value : Reader α) : Nat → Bool → Reader (List (String × α))
  | 0, _ => fail .endInObject
  | fuel + 1, first => do
    if ← nextKey first then
      let key ← readStringBody
      readColon
      let x ← value
      return (key, x) :: (← readEntries value fuel false)
    else return []

/-- An object with keys of any name. -/
def readMap {α : Type} (value : Reader α) : Reader (List (String × α)) := do
  match ← peek with
  | none => fail .endInValue
  | some '\x7b' => do
    skip
    let s ← get
    let entries ← readEntries value (s.length + 1) true
    skip
    return entries
  | some _ => wrongType "a map"

/-- A record with named fields. Reading a field gives the change that it makes to the value being
built. -/
structure Record (α : Type) where
  /-- How the record is called in messages. -/
  name : String
  fields : List (String × Reader (α → α))
  /-- Whether a field may be left out. -/
  optional : Bool

/-- The entries of a record written as an object. -/
def Record.readNamed {α : Type} (r : Record α) :
    Nat → Bool → List String → α → Reader (List String × α)
  | 0, _, _, _ => fail .endInObject
  | fuel + 1, first, seen, value => do
    if ← nextKey first then
      let key ← readStringBody
      match r.fields.lookup key with
      | some field =>
        if seen.contains key then fail (.duplicateField key)
        readColon
        let change ← field
        r.readNamed fuel false (key :: seen) (change value)
      | none =>
        readColon
        let s ← get
        skipValue (2 * s.length + 2)
        r.readNamed fuel false seen value
    else return (seen, value)

/-- The fields of a record written as a list, in the order of their declaration. -/
def Record.readPlaced {α : Type} (r : Record α) :
    List (String × Reader (α → α)) → Nat → α → Reader α
  | [], _, value => pure value
  | (_, field) :: rest, index, value => do
    if ← nextItem (index == 0) then
      let change ← field
      r.readPlaced rest (index + 1) (change value)
    else if r.optional then return value
    else fail (.wrongLength index
      (r.name ++ " with " ++ Number.decimalText r.fields.length ++ " elements"))

/-- A record, written as an object or as a list of its fields. -/
def Record.read {α : Type} (r : Record α) (start : α) : Reader α := do
  match ← peek with
  | none => fail .endInValue
  | some '[' => do
    skip
    let value ← r.readPlaced r.fields 0 start
    endList
    return value
  | some '\x7b' => do
    skip
    let s ← get
    let (seen, value) ← r.readNamed (s.length + 1) true [] start
    if !r.optional then
      match r.fields.find? fun f => !seen.contains f.1 with
      | some f => fail (.missingField f.1)
      | none => pure ()
    skip
    return value
  | some _ => wrongType r.name

/-- Read a whole document. Only blanks may follow the value. -/
def readDocument {α : Type} (reader : Reader α) (text : List Char) : Except Fault α := do
  let (value, rest) ← reader.run text
  if (rest.dropWhile isSpace).isEmpty then return value else throw .trailingCharacters

end Nativize.Json
