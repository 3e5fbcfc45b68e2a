import Nativize.Number.Layout
import Nativize.OrderedMap
import Nativize.Text.Quoted

/-!
# Style tables

A style rule maps property names to numbers or texts, and a style table maps rule names to rules.
Both keep the order of insertion. Their JSON is written compactly or on indented lines.
-/

namespace Nativize.Style

/-- An evaluated style value. -/
inductive Value where
  | number (n : Number)
  | text (s : String)
deriving DecidableEq

abbrev Rule := OrderedMap Value

abbrev Table := OrderedMap Rule

def Value.json : Value → String
  | .number n => n.styleText
  | .text s => Text.quoted s

/-- A map as compact JSON, given the texts of its values. -/
def compactJson (m : OrderedMap String) : String :=
  "\x7b" ++ String.intercalate "," (m.entries.map fun p => Text.quoted p.1 ++ ":" ++ p.2) ++ "\x7d"

def tabs (depth : Nat) : String := String.ofList (List.replicate (2 * depth) ' ')

/-- A map on lines of its own below `depth` levels, given the texts of its values. -/
def indentedJson (depth : Nat) (m : OrderedMap String) : String :=
  if m.isEmpty then "\x7b\x7d"
  else
    let line (p : String × String) : String := tabs (depth + 1) ++ Text.quoted p.1 ++ ": " ++ p.2
    "\x7b\n" ++ String.intercalate ",\n" (m.entries.map line) ++ "\n" ++ tabs depth ++ "\x7d"

def Rule.json (rule : Rule) : String := compactJson (rule.map Value.json)

def Table.json (table : Table) : String := compactJson (table.map Rule.json)

/-- The table with one entry on each line. -/
def Table.indentedJson (table : Table) : String :=
  Style.indentedJson 0 (table.map fun rule => Style.indentedJson 1 (rule.map Value.json))

end Nativize.Style
