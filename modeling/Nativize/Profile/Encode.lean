import Nativize.Json.Document
import Nativize.Profile.Basic

/-!
# Documents of profiles

The document of a profile holds a selection of its fields, those of the names in one object and
those of the tables in another. With every field selected it describes the profile completely.
-/

namespace Nativize

open Json

/-- A choice of the fields of a profile. -/
structure Selection where
  names : Role → Bool
  tables : TableField → Bool

/-- The choice of every field. -/
def Selection.all : Selection := ⟨fun _ => true, fun _ => true⟩

def textChars (text : String) : List Char := Text.quotedChars text.toList

def textsChars (texts : List String) : List Char := listChars (texts.map textChars)

def textMapChars (m : OrderedMap String) : List Char :=
  objectChars (m.entries.map fun e => (e.1, textChars e.2))

def FontFace.chars (face : FontFace) : List Char :=
  objectChars [("family", textChars face.family), ("path", textChars face.path)]

/-- The written value of a field. -/
def Tables.fieldChars (t : Tables) : TableField → List Char
  | .tagMap => textMapChars t.tagMap
  | .propertyRenames => textMapChars t.propertyRenames
  | .allowedProperties => textsChars t.allowedProperties
  | .recognizedComponents => textsChars t.recognizedComponents
  | .referencedIdentifiers => textsChars t.referencedIdentifiers
  | .stylesheetExtensions => textsChars t.stylesheetExtensions
  | .imageExtensions => textsChars t.imageExtensions
  | .assetDirectory => textChars t.assetDirectory
  | .storageMethods => textsChars t.storageMethods
  | .fontFaces => listChars (t.fontFaces.map FontFace.chars)
  | .fontTargets => textsChars t.fontTargets
  | .typeDeclaration => textChars t.typeDeclaration

namespace Profile

/-- The written entries of the selected names. -/
def nameEntries (p : Profile) (s : Selection) : List (String × List Char) :=
  (Role.all.filter s.names).map fun role => (role.key, textChars (p.names role))

/-- The written entries of the selected tables. -/
def tableEntries (p : Profile) (s : Selection) : List (String × List Char) :=
  (TableField.all.filter s.tables).map fun field => (field.key, p.tables.fieldChars field)

/-- The document that holds the selected fields of a profile. -/
def encode (p : Profile) (s : Selection) : String :=
  String.ofList
    (objectChars [("names", objectChars (p.nameEntries s)),
      ("tables", objectChars (p.tableEntries s))])

end Profile

end Nativize
