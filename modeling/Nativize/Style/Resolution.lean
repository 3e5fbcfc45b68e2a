import Nativize.Profile.Basic
import Nativize.Style.Measure
import Nativize.Style.Value

/-!
# Style properties on the platform

`Resolution.of` decides what becomes of one style property; `mergeRule` applies the decision to the
entries of a rule in order. It is written once for every kind of value, so that evaluated values and
expressions of a program are treated alike.
-/

namespace Nativize.Style

/-! ## Camel case

`font-size` becomes `fontSize`: a dash directly before a letter `a` to `z` is dropped and the letter
put in upper case. Every other character stays.
-/

def isSmallLetter (c : Char) : Bool := 'a' ≤ c && c ≤ 'z'

/-- The upper-case letter of a letter `a` to `z`. -/
def bigLetter (c : Char) : Char := Char.ofNat (c.toNat - 32)

/-- Merge each dash with a small letter after it. -/
def camelChars : List Char → List Char
  | '-' :: c :: rest =>
    if isSmallLetter c then bigLetter c :: camelChars rest else '-' :: camelChars (c :: rest)
  | c :: rest => c :: camelChars rest
  | [] => []

def camelCase (property : String) : String := String.ofList (camelChars property.toList)

/-! ## Properties -/

/-- What becomes of a property. -/
inductive Resolution where
  | drop
  /-- A single `flex: 1` takes its place. -/
  | flex
  /-- The value stays, under the given name. -/
  | keep (name : String)
  /-- A length in pixels becomes its magnitude, under the given name. -/
  | pixels (name : String) (magnitude : Number)
deriving DecidableEq

/-- The name of a property on the platform, if it has one. The short name of the background colour
is never used there. -/
def platformName? (tables : Tables) (property : String) : Option String :=
  let name? :=
    match tables.propertyRenames.get? property with
    | some mapped => if mapped.isEmpty then none else some mapped
    | none =>
      let camel := camelCase property
      if tables.allowedProperties.contains camel then some camel else none
  name?.map fun name => if name = "background" then "backgroundColor" else name

def endsIn (ending text : String) : Bool := ending.toList.isSuffixOf text.toList

/-- The text without its last two characters. -/
def withoutUnit (text : String) : List Char := text.toList.take (text.toList.length - 2)

/-- Decide on a property, given its value where that is a text. -/
def Resolution.of (tables : Tables) (property : String) (text? : Option String) : Resolution :=
  match platformName? tables property with
  | none => .drop
  | some name =>
    match text? with
    | none => .keep name
    | some text =>
      if endsIn "px" text then .pixels name (leadingNumber (withoutUnit text))
      else if endsIn "vh" text && name = "height" then .flex
      else if endsIn "vw" text && name = "width" then .flex
      else .keep name

/-- The entry that a resolution leaves, where `ofNumber` makes a value of a number. -/
def Resolution.entry {α : Type} (ofNumber : Number → α) (value : α) :
    Resolution → Option (String × α)
  | .drop => none
  | .flex => some ("flex", ofNumber 1)
  | .keep name => some (name, value)
  | .pixels name magnitude => some (name, ofNumber magnitude)

/-- Resolve the entries of a rule in order. A later entry replaces the value of an earlier one of
the same name. -/
def mergeRule {α : Type} (tables : Tables) (textOf : α → Option String) (ofNumber : Number → α)
    (rule : OrderedMap α) : OrderedMap α :=
  .ofList (rule.entries.filterMap fun p =>
    (Resolution.of tables p.1 (textOf p.2)).entry ofNumber p.2)

def Value.text? : Value → Option String
  | .text s => some s
  | .number _ => none

/-- Resolve a rule of evaluated values. -/
def Rule.resolve (tables : Tables) (rule : Rule) : Rule :=
  mergeRule tables Value.text? Value.number rule

end Nativize.Style
