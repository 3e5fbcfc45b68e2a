import Nativize.Json.Document
import Nativize.Profile.Basic

/-!
# Profiles as documents

A profile document overrides the fields that it names and leaves the others at their defaults.
-/

namespace Nativize

open Json

def FontFace.record : Record FontFace where
  name := "struct FontFace"
  fields :=
    [("family", do let s ← readString; return fun f => { f with family := s }),
     ("path", do let s ← readString; return fun f => { f with path := s })]
  optional := false

def FontFace.read : Reader FontFace := FontFace.record.read ⟨"", ""⟩

def Names.record : Record Names where
  name := "struct WellKnownNames"
  fields := Role.all.map fun role =>
    (role.key, do let s ← readString; return fun names => names.update role s)
  optional := true

/-- The elements of a list without repetitions, each where it came first. -/
def distinct (items : List String) : List String :=
  items.foldl (fun acc s => if acc.contains s then acc else acc ++ [s]) []

namespace Tables

def readTexts : Reader (List String) := readList readString

def readTextMap : Reader (OrderedMap String) := do return OrderedMap.ofList (← readMap readString)

/-- Reading a field gives the change that it makes to the tables. -/
def readField : TableField → Reader (Tables → Tables)
  | .tagMap => do let m ← readTextMap; return fun t => { t with tagMap := m }
  | .propertyRenames => do let m ← readTextMap; return fun t => { t with propertyRenames := m }
  | .allowedProperties => do
    let l ← readTexts
    return fun t => { t with allowedProperties := distinct l }
  | .recognizedComponents => do
    let l ← readTexts
    return fun t => { t with recognizedComponents := l }
  | .referencedIdentifiers => do
    let l ← readTexts
    return fun t => { t with referencedIdentifiers := l }
  | .stylesheetExtensions => do
    let l ← readTexts
    return fun t => { t with stylesheetExtensions := l }
  | .imageExtensions => do let l ← readTexts; return fun t => { t with imageExtensions := l }
  | .assetDirectory => do let s ← readString; return fun t => { t with assetDirectory := s }
  | .storageMethods => do let l ← readTexts; return fun t => { t with storageMethods := l }
  | .fontFaces => do let l ← readList FontFace.read; return fun t => { t with fontFaces := l }
  | .fontTargets => do let l ← readTexts; return fun t => { t with fontTargets := l }
  | .typeDeclaration => do let s ← readString; return fun t => { t with typeDeclaration := s }

def record : Record Tables where
  name := "struct ConversionTables"
  fields := TableField.all.map fun field => (field.key, readField field)
  optional := true

end Tables

namespace Profile

def record : Record Profile where
  name := "struct ConverterConfig"
  fields :=
    [("names", do
        let names ← Names.record.read Role.defaultName
        return fun p => { p with names := names }),
     ("tables", do
        let tables ← Tables.record.read .default
        return fun p => { p with tables := tables })]
  optional := true

/-- The profile of a document. -/
def decode (text : String) : Except Fault Profile :=
  readDocument (record.read .default) text.toList

end Profile

end Nativize
