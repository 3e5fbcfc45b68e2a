import Nativize.Proofs.Syntax.Parser.Function
import Nativize.Syntax.Parser.Expression

/-!
# Markup and expressions are well-formed

The name of an element tells its kind, and an element closes as it opened. What is read as an
expression and then understood as a target keeps the parts that it had.
-/

namespace Nativize.Syntax

open Std.Do
open Readable (sound)

set_option mvcgen.warning false

namespace Ast

theorem sound_simpleTarget? {t : Ast} (h : sound t) : sound t.simpleTarget? := by
  fun_induction simpleTarget? t <;> simp_all

theorem sound_targets :
    (∀ t : Ast, sound t → sound t.target?) ∧
      (∀ ts : List Ast, sound ts → sound (elementTargets? ts)) ∧
      (∀ t : Ast, sound t → sound t.elementTarget?) ∧
      (∀ ts : List Ast, sound ts → sound (propertyTargets? ts)) := by
  apply Ast.target?.mutual_induct
  all_goals intros
  all_goals simp_all [target?, elementTargets?, elementTarget?, propertyTargets?,
    sound_simpleTarget?]
  case case12 | case16 => split <;> simp_all
  case case13 hhead hrest _ | case20 hhead hrest _ =>
    exact sound_bind hhead fun _ ht => sound_bind hrest fun _ hts => by simp [*]

end Ast

namespace Parse

variable {rules : Rules} (hr : ∀ n, Gives (rules n))

section Rounds

/-! A loop whose step tells more about the state it leaves. -/

variable {α : Type} {I : α → ParseState → Prop} {Q : α → Prop} {step : α → Parse (Option α)}

theorem iterateFor_invariant
    (h : ∀ x, ⦃fun s => ⌜I x s⌝⦄ step x ⦃⇓? r s => ⌜r.elim (Q x) (I · s)⌝⦄) (fuel : Nat) (x : α) :
    ⦃fun s => ⌜I x s⌝⦄ iterateFor step fuel x ⦃⇓? y => ⌜Q y⌝⦄ := by
  induction fuel generalizing x with
  | zero => exact fun _ _ => trivial
  | succ fuel ih => mvcgen [iterateFor, h, ih]

theorem iterate_invariant
    (h : ∀ x, ⦃fun s => ⌜I x s⌝⦄ step x ⦃⇓? r s => ⌜r.elim (Q x) (I · s)⌝⦄) (x : α) :
    ⦃fun s => ⌜I x s⌝⦄ iterate x step ⦃⇓? y => ⌜Q y⌝⦄ := by
  have hrounds := iterateFor_invariant h
  mvcgen [iterate, hrounds, -gives_iterate]

end Rounds

section Markup

@[spec] theorem gives_markupWord : Gives markupWord := gives_data _

@[spec] theorem gives_goTo (sign : String) (text : List Char) :
    Gives (goTo sign text) := gives_data _

theorem sound_tagReference (name : String) : sound (tagReference name) := by
  simp [tagReference, apply_ite sound]

/-- What is read as the name of an element. -/
def IsTag (t : Ast) : Prop := sound t ∧ t.isTagName

/-- The current token is the sign. -/
def At (p : String) (s : ParseState) : Prop := s.token.lexeme = .punct p




theorem isTag_namespaced (space name : String) : IsTag (.leaf (.markupNamespaced space name)) :=
  ⟨by simp, rfl⟩

theorem isTag_member {object : Ast} {property : String} (h : sound object) :
    IsTag (.of (.markupMember property) [object]) :=
  ⟨by simp [h], rfl⟩

/-- A single word is a plain name or that of a variable. -/
theorem isTag_word (name : String) :
    IsTag (if name != "this" && isPlainTag name then .leaf (.markupName name)
      else tagReference name) := by
  refine ⟨sound_ite (by simp) (sound_tagReference name), ?_⟩
  by_cases hthis : name = "this"
  · subst hthis
    rfl
  · cases hplain : isPlainTag name <;>
      simp [hthis, tagReference, Ast.isTagName, Ast.leaf, hplain]

@[spec] theorem gives_elementName : ⦃⌜True⌝⦄ elementName ⦃⇓? t => ⌜IsTag t⌝⦄ := by
  have hpath := @iterate_invariant Ast (fun t s => sound t ∧ (IsTag t ∨ At "." s)) IsTag
  -- The signs are read here with the state they leave: a path has a point behind its first word.
  mvcgen [elementName, eat, isPunct, lexeme, hpath, -gives_eat, -gives_isPunct, -gives_lexeme,
    -gives_iterate]
  all_goals clear hpath
  case vc1 => exact isTag_namespaced _ _
  case vc9 hobject _ _ _ _ _ _ _ _ _ _ _ =>
    exact ⟨(isTag_member hobject.1).1, .inl (isTag_member hobject.1)⟩
  case vc12 => simp_all [At]
  case vc13 => simp_all [At, sound_tagReference]
  case vc14 => exact isTag_word _
theorem ensure_holds (b : Bool) : ⦃⌜True⌝⦄ ensure b ⦃⇓? _ => ⌜b = true⌝⦄ := by
  cases b with
  | true => mvcgen [ensure, -gives_ensure]
  | false => exact fun _ _ => trivial

section Elements

variable {opening generics closing : Ast} {attributes children : List Ast}

theorem sound_element (hopening : IsTag opening)
    (hclosing : closing.isAbsent ∨ sameName opening closing)
    (h : sound [opening, generics, .of .group attributes, .of .group children, closing]) :
    sound (Ast.of .element
      [opening, generics, .of .group attributes, .of .group children, closing]) :=
  Ast.wellFormed_node.mpr ⟨⟨fun _ => .mk _ _ _ _ _ hopening.2 hclosing, nofun⟩, h⟩

theorem sound_emptyElement (hopening : IsTag opening) (hgenerics : sound generics)
    (hattributes : sound attributes) :
    sound (Ast.of .element [opening, generics, .of .group attributes, .of .group [], .absent]) :=
  sound_element hopening (.inl rfl) (by simp [hopening.1, *])

theorem sound_closedElement (hopening : IsTag opening) (hgenerics : sound generics)
    (hattributes : sound attributes) (hchildren : sound children) (hclosing : IsTag closing)
    (hsame : sameName opening closing = true) :
    sound (Ast.of .element
      [opening, generics, .of .group attributes, .of .group children, closing]) :=
  sound_element hopening (.inr hsame) (by simp [hopening.1, hclosing.1, *])

end Elements

include hr

@[spec] theorem gives_attributeContainer : Gives (attributeContainer rules) := by
  mvcgen [attributeContainer, hr] with simp [*]

@[spec] theorem gives_attributeValue : Gives (attributeValue rules) := by
  mvcgen [attributeValue, hr] with simp [*]

@[spec] theorem gives_attributeItem : Gives (attributeItem rules) := by
  mvcgen [attributeItem, hr] with simp [*]

@[spec] theorem gives_attributes : Gives (attributes rules) := by
  mvcgen [attributes, hr] with simp [*]

@[spec] theorem gives_childContainer : Gives (childContainer rules) := by
  mvcgen [childContainer, hr] with simp [*]

@[spec] theorem gives_child? : Gives (child? rules) := by
  mvcgen [child?, hr] with simp [*]

theorem gives_element : Gives (element rules) := by
  mvcgen [element, hr, ensure_holds, -gives_ensure] with
    simp [sound_emptyElement, sound_closedElement, *]

end Markup

section Expressions

theorem sound_markCall {t : Ast} (h : sound t) : sound (markCall t) := by
  fun_cases markCall t <;> simp_all

theorem sound_markPure {t : Ast} (h : sound t) : sound (markPure t) := by
  fun_induction markPure t <;> simp_all [sound_markCall]

@[spec] theorem gives_atTemplate : Gives atTemplate := gives_data _

@[spec] theorem gives_operator? : Gives operator? := gives_data _

@[spec] theorem gives_simpleTarget {e : Ast} (h : sound e) : Gives (simpleTarget e) := by
  have htarget := Ast.sound_simpleTarget? h
  mvcgen [simpleTarget] with simp_all

@[spec] theorem gives_targetOf {e : Ast} (op : String) (h : sound e) : Gives (targetOf op e) := by
  have htarget : sound (if op == "=" then e.target? else e.simpleTarget?) :=
    sound_ite (Ast.sound_targets.1 e h) (Ast.sound_simpleTarget? h)
  mvcgen [targetOf] with simp_all

@[spec] theorem gives_memberAfterPoint {object : Ast} (optional : Bool) (h : sound object) :
    Gives (memberAfterPoint object optional) := by
  mvcgen [memberAfterPoint] with simp [*]

@[spec] theorem gives_operation {left right : Ast} (op : String) (leftIsOpen rightIsOpen : Bool)
    (hleft : sound left) (hright : sound right) :
    Gives (operation op leftIsOpen rightIsOpen left right) := by
  mvcgen [operation] with simp_all

instance : Readable Chain := ⟨fun read => sound read.expr⟩

@[simp] theorem sound_chain {read : Chain} : sound read ↔ sound read.expr := Iff.rfl

include hr

@[spec] theorem gives_argument : Gives (argument rules) := by
  mvcgen [argument, hr] with simp [*]

@[spec] theorem gives_arguments : Gives (arguments rules) := by
  mvcgen [arguments, hr] with simp [*]

@[spec] theorem gives_template (isTagged : Bool) : Gives (template rules isTagged) := by
  mvcgen [template, hr] with simp_all

@[spec] theorem gives_spreadItem : Gives (spreadItem rules) := by
  mvcgen [spreadItem, hr] with simp [*]

@[spec] theorem gives_property : Gives (property rules) := by
  mvcgen [property, hr] with simp_all +zetaDelta

@[spec] theorem gives_objectLiteral : Gives (objectLiteral rules) := by
  mvcgen [objectLiteral, hr] with simp [*]

@[spec] theorem gives_arrayLiteral : Gives (arrayLiteral rules) := by
  mvcgen [arrayLiteral, hr] with simp [*]

@[spec] theorem gives_parenthesized : Gives (parenthesized rules) := by
  mvcgen [parenthesized, hr] with simp [sound_markInParens, *]

@[spec] theorem gives_importExpression : Gives (importExpression rules) := by
  mvcgen [importExpression, hr] with simp_all

omit hr in
@[spec] theorem gives_regex : Gives primary.regex := by
  mvcgen [primary.regex] with simp

@[spec] theorem gives_primary : Gives (primary rules) := by
  mvcgen [primary, hr] with simp

@[spec] theorem gives_indexAfter {object : Ast} (optional : Bool) (h : sound object) :
    Gives (indexAfter rules object optional) := by
  mvcgen [indexAfter, hr] with simp [*]

@[spec] theorem gives_callAfter {callee typeArgs : Ast} (optional : Bool) (hcallee : sound callee)
    (hargs : sound typeArgs) : Gives (callAfter rules callee typeArgs optional) := by
  mvcgen [callAfter, hr] with simp_all

@[spec] theorem gives_optionalStep {object : Ast} (h : sound object) :
    Gives (optionalStep rules object) := by
  mvcgen [optionalStep, hr] with simp [*]

@[spec] theorem gives_genericStep {read : Chain} (allowCall : Bool) (h : sound read) :
    Gives (genericStep rules allowCall read) := by
  mvcgen [genericStep, hr] with simp_all

@[spec] theorem gives_chainStep {read : Chain} (allowCall : Bool) (h : sound read) :
    Gives (chainStep rules allowCall read) := by
  mvcgen [chainStep, hr] with simp_all

@[spec] theorem gives_newExpression : Gives (newExpression rules) := by
  mvcgen [newExpression, hr]
  all_goals simp_all
  all_goals split <;> simp_all

@[spec] theorem gives_chainHead : Gives (chainHead rules) := by
  mvcgen [chainHead, hr]

theorem gives_constructor : Gives (constructor rules) := by
  mvcgen [constructor, hr] with simp_all

theorem gives_leftHandSide : Gives (leftHandSide rules) := by
  mvcgen [leftHandSide, hr] with simp_all

@[spec] theorem gives_operand : Gives (operand rules) := by
  mvcgen [operand, hr] with simp [sound_markPure, *]

@[spec] theorem gives_counted : Gives (unary.counted rules) := by
  mvcgen [unary.counted, hr] with simp [*]

theorem gives_unary : Gives (unary rules) := by
  mvcgen [unary, hr] with simp [*]

theorem gives_binary (level : Nat) : Gives (binary rules level) := by
  mvcgen [binary, hr] with simp [*]

@[spec] theorem gives_yieldRest : Gives (yieldRest rules) := by
  mvcgen [yieldRest, hr] with simp [*]

@[spec] theorem gives_bareAssignment (inMiddle : Bool) : Gives (bareAssignment rules inMiddle) := by
  mvcgen [bareAssignment, hr] with simp_all [sound_singleParam]

theorem gives_assignment (inMiddle : Bool) : Gives (assignment rules inMiddle) := by
  mvcgen [assignment, hr]
  rename_i t _ _ e _ _ he
  have hmarked : sound (if t.isPure then markPure e else e) := sound_ite (sound_markPure he) he
  exact sound_ite (sound_markQuiet hmarked) hmarked

theorem gives_expression : Gives (expression rules) := by
  mvcgen [expression, hr] with simp_all

theorem gives_classExpression : Gives (classExpression rules) := by
  mvcgen [classExpression, hr] with simp

end Expressions

end Parse

end Nativize.Syntax
