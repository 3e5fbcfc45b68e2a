import Nativize.Proofs.Syntax.Parser.Basic

/-!
# Patterns and types are well-formed
-/

namespace Nativize.Syntax.Parse

open Std.Do
open Readable (sound)

set_option mvcgen.warning false

variable {rules : Rules} (hr : ∀ n, Gives (rules n))

section Patterns

include hr

@[spec] theorem gives_typeAnnotation : Gives ( typeAnnotation rules) := by
  mvcgen [ typeAnnotation, hr] with simp

@[spec] theorem gives_initializer : Gives (initializer rules) := by
  mvcgen [initializer, hr] with simp

@[spec] theorem gives_propertyKey : Gives (propertyKey rules) := by
  mvcgen [propertyKey, hr] with simp [*]

@[spec] theorem gives_withDefault {pattern : Ast} (h : sound pattern) :
    Gives (withDefault rules pattern) := by
  mvcgen [withDefault, hr] with simp [*]

@[spec] theorem gives_patternElement : Gives (patternElement rules) := by
  mvcgen [patternElement, hr] with simp [*]

omit hr in
@[spec] theorem gives_endsList (close : String) : Gives (endsList close) := gives_data _

@[spec] theorem gives_restElement (close : String) : Gives (restElement rules close) := by
  mvcgen [restElement, hr] with simp [*]

@[spec] theorem gives_patternProperty : Gives (patternProperty rules) := by
  mvcgen [patternProperty, hr] with simp_all

@[spec] theorem gives_patternListItem : Gives (patternListItem rules) := by
  mvcgen [patternListItem, hr]

theorem gives_pattern : Gives (pattern rules) := by
  mvcgen [pattern, hr] with simp [*]

@[spec] theorem gives_decorators : Gives (decorators rules) := by
  mvcgen [decorators, hr] with simp [*]

omit hr in
@[spec] theorem gives_paramModifiers (ofConstructor : Bool) :
    Gives (paramModifiers ofConstructor) :=
  gives_data _

@[spec] theorem gives_param (ofConstructor : Bool) : Gives (param rules ofConstructor) := by
  mvcgen [param, hr] with simp [*]

@[spec] theorem gives_params (ofConstructor : Bool) : Gives (params rules ofConstructor) := by
  mvcgen [params, hr] with simp +zetaDelta [*]

end Patterns

section Types

omit hr in
@[spec] theorem gives_entityName : Gives entityName := by
  mvcgen [entityName] with simp [*]

omit hr in
@[spec] theorem gives_memberEnd : Gives memberEnd := gives_data _

omit hr in
@[spec] theorem gives_atIndexSignature : Gives atIndexSignature := gives_data _

omit hr in
@[spec] theorem gives_mappedSign (isHere : Parse Bool) : Gives (mappedSign isHere) := gives_data _

omit hr in
@[spec] theorem gives_atMappedType : Gives atMappedType := gives_data _

omit hr in
@[spec] theorem gives_atFunctionType : Gives (atFunctionType rules) := gives_data _

instance : Readable TemplateParts := ⟨fun read => sound read.items⟩

omit hr in
@[simp] theorem sound_templateParts {read : TemplateParts} :
    sound read ↔ sound read.items := Iff.rfl

omit hr in
@[spec] theorem gives_templatePiece {read : TemplateParts} {item : Option Ast} (hread : sound read)
    (hitem : sound item) : Gives (templatePiece read item) := by
  mvcgen [templatePiece] with simp_all

omit hr in
@[spec] theorem gives_templateParts {item : Parse Ast} (h : Gives item) :
    Gives (templateParts item) := by
  mvcgen [templateParts, h] with simp [*]

include hr

@[spec] theorem gives_typeParam : Gives (typeParam rules) := by
  mvcgen [typeParam, hr] with simp [*]

@[spec] theorem gives_typeParams? : Gives (typeParams? rules) := by
  mvcgen [typeParams?, hr] with simp [*]

@[spec] theorem gives_typeArgs : Gives (typeArgs rules) := by
  mvcgen [typeArgs, hr] with simp [*]

@[spec] theorem gives_typeArgs? : Gives (typeArgs? rules) := by
  mvcgen [typeArgs?, hr] with simp [*]

@[spec] theorem gives_resultType : Gives (resultType rules) := by
  mvcgen [resultType, hr] with simp [*]

@[spec] theorem gives_resultAnnotation : Gives ( resultAnnotation rules) := by
  mvcgen [ resultAnnotation, hr] with simp [*]

@[spec] theorem gives_indexSignature (isReadonly : Bool) :
    Gives (indexSignature rules isReadonly) := by
  mvcgen [indexSignature, hr] with simp [*]

@[spec] theorem gives_signatureParts : Gives (signatureParts rules) := by
  mvcgen [signatureParts, hr] with simp [*]

@[spec] theorem gives_keyedMember (isReadonly : Bool) : Gives (keyedMember rules isReadonly) := by
  mvcgen [keyedMember, hr] with simp_all

theorem gives_typeMember : Gives (typeMember rules) := by
  mvcgen [typeMember, hr] with simp [*]

@[spec] theorem gives_typeMembers : Gives (typeMembers rules) := by
  mvcgen [typeMembers, hr]

@[spec] theorem gives_mappedType : Gives (mappedType rules) := by
  mvcgen [mappedType, hr] with simp [*]

@[spec] theorem gives_tupleElementType : Gives (tupleElementType rules) := by
  mvcgen [tupleElementType, hr] with simp_all

@[spec] theorem gives_tupleElement : Gives (tupleElement rules) := by
  mvcgen [tupleElement, hr] with simp [*]

@[spec] theorem gives_tupleType : Gives (tupleType rules) := by
  mvcgen [tupleType, hr] with simp [*]

@[spec] theorem gives_importTypeParts : Gives (importTypeParts rules) := by
  mvcgen [importTypeParts, hr] with simp [*]

@[spec] theorem gives_assertedPredicate : Gives (assertedPredicate rules) := by
  mvcgen [assertedPredicate, hr] with simp [*]

@[spec] theorem gives_questionedType : Gives (questionedType rules) := by
  mvcgen [questionedType, hr] with simp [*]

@[spec] theorem gives_receiverType : Gives (receiverType rules) := by
  mvcgen [receiverType, hr] with simp [*]

@[spec] theorem gives_primaryType : Gives (primaryType rules) := by
  mvcgen [primaryType, hr] with simp_all

@[spec] theorem gives_suffixedType : Gives (suffixedType rules) := by
  mvcgen [suffixedType, hr] with simp [*]

@[spec] theorem gives_inferType : Gives (inferType rules) := by
  mvcgen [inferType, hr] with simp [*]

theorem gives_operatorType : Gives (operatorType rules) := by
  mvcgen [operatorType, hr] with simp [*]

@[spec] theorem gives_functionType : Gives (functionType rules) := by
  mvcgen [functionType, hr] with simp +zetaDelta [*]

omit hr in
@[spec] theorem gives_joinedTypes {op : String} {kind : Kind} {item : Parse Ast}
    (hkind : kind.isInner = true) (h : Gives item) : Gives (joinedTypes op kind item) := by
  have hof (parts : List Ast) : sound (Ast.of kind parts) ↔ sound parts := sound_of hkind
  clear hkind
  mvcgen [joinedTypes, h] with simp_all

@[spec] theorem gives_unionType : Gives (unionType rules) := by
  mvcgen [unionType, hr] with simp

theorem gives_type : Gives (type rules) := by
  mvcgen [type, hr] with simp [*]

end Types

end Nativize.Syntax.Parse
