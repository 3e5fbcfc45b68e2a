import Nativize.Proofs.Syntax.Parser.Type
import Nativize.Syntax.Parser.Class

/-!
# Functions and classes are well-formed
-/

namespace Nativize.Syntax.Parse

open Std.Do
open Readable (sound)

set_option mvcgen.warning false

variable {rules : Rules} (hr : ∀ n, Gives (rules n))

section Functions

@[spec] theorem gives_directives : Gives (directives rules) := gives_data _

theorem sound_singleParam (name : String) : sound (singleParam name) := by
  simp [singleParam]

theorem sound_markQuiet {t : Ast} (h : sound t) : sound (markQuiet t) := by
  fun_induction markQuiet t <;> simp_all

theorem sound_markInParens {t : Ast} (h : sound t) : sound (markInParens t) := by
  fun_cases markInParens t <;> simp_all

include hr

theorem gives_functionBody : Gives (functionBody rules) := by
  mvcgen [functionBody, hr] with simp [*]

@[spec] theorem gives_functionParts {name : Ast} (facts : FunctionFacts) (ofConstructor : Bool)
    (hname : sound name) : Gives (functionParts rules facts ofConstructor name) := by
  mvcgen [functionParts, hr] with simp [*]

@[spec] theorem gives_functionLike (form : FunctionForm) (isDeclare : Bool) :
    Gives (functionLike rules form isDeclare) := by
  mvcgen [functionLike, hr] with simp [*]

@[spec] theorem gives_arrowBody (isAsync inMiddle : Bool) :
    Gives (arrowBody rules isAsync inMiddle) := by
  mvcgen [arrowBody, hr] with simp [*]

@[spec] theorem gives_arrowRest {generics ps result : Ast} (isAsync inMiddle : Bool)
    (hgenerics : sound generics) (hps : sound ps) (hresult : sound result) :
    Gives (arrowRest rules isAsync inMiddle generics ps result) := by
  mvcgen [arrowRest, hr] with simp_all

@[spec] theorem gives_parenthesizedArrow (inMiddle : Bool) :
    Gives (parenthesizedArrow rules inMiddle) := by
  mvcgen [parenthesizedArrow, hr] with simp_all

@[spec] theorem gives_arrow? (inMiddle : Bool) : Gives (arrow? rules inMiddle) := by
  mvcgen [arrow?, hr] with simp [*]

@[spec] theorem gives_asyncSimpleArrow? (inMiddle : Bool) :
    Gives (asyncSimpleArrow? rules inMiddle) := by
  mvcgen [asyncSimpleArrow?, hr] with simp [*, sound_singleParam]

end Functions

section Classes

@[spec] theorem gives_memberModifiers : Gives memberModifiers := gives_data _

include hr

@[spec] theorem gives_heritage : Gives (heritage rules) := by
  mvcgen [heritage, hr] with simp [*]

@[spec] theorem gives_memberKey (facts : MemberFacts) : Gives (memberKey rules facts) := by
  mvcgen [memberKey, hr] with simp [*]

@[spec] theorem gives_methodRest {marks key : Ast} (m : MemberModifiers) (isGenerator : Bool)
    (hmarks : sound marks) (hkey : sound key) :
    Gives (methodRest rules m isGenerator marks key) := by
  mvcgen [methodRest, hr] with simp [*]

@[spec] theorem gives_fieldRest {marks key : Ast} (m : MemberModifiers) (hmarks : sound marks)
    (hkey : sound key) : Gives (fieldRest rules m marks key) := by
  mvcgen [fieldRest, hr] with (split <;> simp [*])

@[spec] theorem gives_keyedClassMember {marks : Ast} (m : MemberModifiers) (hmarks : sound marks) :
    Gives (keyedClassMember rules m marks) := by
  mvcgen [keyedClassMember, hr] with simp_all

@[spec] theorem gives_staticBlock : Gives (staticBlock rules) := by
  mvcgen [staticBlock, hr] with simp [*]

@[spec] theorem gives_classMember : Gives (classMember rules) := by
  mvcgen [classMember, hr] with simp [*]

@[spec] theorem gives_classBody : Gives (classBody rules) := by
  mvcgen [classBody, hr]

@[spec] theorem gives_classLike {marks : Ast} (facts : ClassFacts) (hmarks : sound marks) :
    Gives (classLike rules facts marks) := by
  mvcgen [classLike, hr] with simp_all

end Classes

end Nativize.Syntax.Parse
