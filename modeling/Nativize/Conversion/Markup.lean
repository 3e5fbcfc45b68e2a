import Nativize.Conversion.Node
import Nativize.Failure
import Nativize.Profile.Basic
import Nativize.Text.CharClass
import Nativize.Text.UpperCase

/-!
# Markup

An element of the web becomes a component of the platform: its names are replaced together, its
class list becomes a reference to the stylesheet, and its event attributes take the names that the
component knows.
-/

namespace Nativize.Style

/-- The members of a stylesheet that a class list names, in order: its words, each with its first
letter in upper case. -/
def classMembers (classList : String) : List String :=
  (Text.words classList.toList).map fun word => String.ofList (Text.capitalize word)

end Nativize.Style

namespace Nativize.Conversion

open Syntax

/-- The name of an element as it is written. -/
def elementText : Ast → String
  | .node (.markupName text) _ _ => text
  | .node (.reference name) _ _ => name
  | .node (.markupNamespaced space name) _ _ => space ++ ":" ++ name
  | .node (.markupMember property) _ (object :: _) => elementText object ++ "." ++ property
  | .node .thisValue _ _ => "this"
  | _ => ""

/-- Another name for a tag. Only a plain one is replaced. -/
def renameTag (target : String) : Ast → Ast
  | .node (.markupName _) l parts => .node (.markupName target) l parts
  | other => other

/-- The static text of a class list. -/
def classText? : Ast → Option String
  | .node .absent _ _ => some ""
  | .node (.markupString text) _ _ => some text
  | .node .container _ [.node (.string value) _ _] => some value.text
  | .node .container _ [.node (.template quasis) _ []] =>
    some (String.join (quasis.map fun q => q.cooked.getD q.raw))
  | _ => none

/-- The reference to members of the stylesheet: one, or a list of several. -/
def styleReference (names : Names) (members : List String) : Ast :=
  match members with
  | [single] => memberOf (names .stylesBinding) single
  | _ => .of .array (members.map (memberOf (names .stylesBinding)))

/-- An element as far as its attributes depend on it: the name it is known by, and the component
that it was mapped to. -/
structure ElementTarget where
  component : String
  mapped : Option String

/-- The attributes that take the place of one. -/
def convertAttribute (p : Profile) (target : ElementTarget) (t : Ast) : Except Breach (List Ast) :=
  match t with
  | .node .markupAttribute l [.node (.markupName name) nl np, value] =>
    let renamed (role : Role) : Ast :=
      .node .markupAttribute l [.node (.markupName (p.names role)) nl np, value]
    if name = p.names .classAttribute then
      match classText? value with
      | none => .error (.dynamicClass target.component)
      | some text =>
        match Style.classMembers text with
        | [] => .ok []
        | members =>
          .ok [.node .markupAttribute l
            [.node (.markupName (p.names .styleAttribute)) nl np,
             .of .container [styleReference p.names members]]]
    else if name = p.names .clickAttribute &&
        target.mapped = some (p.names .pressableComponent) then
      .ok [renamed .pressAttribute]
    else if name = p.names .changeAttribute &&
        target.mapped = some (p.names .textInputComponent) then
      .ok [renamed .changeTextAttribute]
    else .ok [t]
  | other => .ok [other]

/-- The attributes of an element, up to the first that is refused. -/
def convertAttributes (p : Profile) (target : ElementTarget) :
    List Ast → List Ast × Option Breach
  | [] => ([], none)
  | t :: rest =>
    match convertAttribute p target t with
    | .error b => (t :: rest, some b)
    | .ok ts =>
      let (others, breach) := convertAttributes p target rest
      (ts ++ others, breach)

/-- The names of an element differ. -/
def tagMismatch? (opening closing : Ast) : Option Breach :=
  if closing.isAbsent || elementText closing = elementText opening then none
  else some (.tagMismatch (elementText opening) (elementText closing))

/-- Convert the parts of an element. -/
def convertElement (p : Profile) (parts : List Ast) : List Ast × Option Breach :=
  match parts with
  | [opening, generics, .node gk gl attrs, children, closing] =>
    match tagMismatch? opening closing with
    | some b => (parts, some b)
    | none =>
      let name := elementText opening
      let mapped := p.tables.tagMap.get? name
      let rename (tag : Ast) : Ast := (mapped.map fun target => renameTag target tag).getD tag
      let (attrs', breach) := convertAttributes p ⟨mapped.getD name, mapped⟩ attrs
      ([rename opening, generics, .node gk gl attrs', children, rename closing], breach)
  | other => (other, none)

/-- The tags of all elements, each before those inside it. -/
def tags (t : Ast) : List String :=
  t.nodes.filterMap fun n =>
    match n with
    | .node .element _ (opening :: _) => some (elementText opening)
    | _ => none

end Nativize.Conversion
