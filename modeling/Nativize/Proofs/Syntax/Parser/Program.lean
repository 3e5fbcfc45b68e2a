import Nativize.Proofs.Syntax.Parser.Expression
import Nativize.Syntax.Parser.Grammar

/-!
# Programs are well-formed

Statements and module items are sound when the rules they refer to are, so by induction on its
depth the grammar is. Main statement: the tree of every program that is read is well-formed.
-/

namespace Nativize.Syntax

open Std.Do
open Readable (sound)

set_option mvcgen.warning false

namespace Parse

variable {rules : Rules} (hr : ∀ n, Gives (rules n))

section Statements

/-- No leaf and no element has three parts, so any other three fit. -/
theorem sound_threeParts {k : Kind} {l : List Comment} {a b c c' : Ast}
    (h : sound (Ast.node k l [a, b, c])) (hc : sound c → sound c') :
    sound (Ast.node k l [a, b, c']) := by
  obtain ⟨⟨helement, hleaf⟩, hparts⟩ := Ast.wellFormed_node.mp h
  have hparts' : sound a ∧ sound b ∧ sound c := by simpa [sound] using hparts
  refine Ast.wellFormed_node.mpr ⟨⟨fun hk => ?_, fun hk => ?_⟩, ?_⟩
  · cases helement hk
  · cases hleaf hk
  · change sound [a, b, c']
    simp [hparts', hc]

theorem sound_markQuietDeclaration {t : Ast} (h : sound t) : sound (markQuietDeclaration t) := by
  fun_cases markQuietDeclaration t
  case case1 => simp_all
  case case2 =>
    rw [sound_node rfl, sound_cons] at h ⊢
    exact ⟨sound_threeParts h.1 sound_markQuiet, h.2⟩
  case case3 => exact h

theorem sound_markQuietStatement {t : Ast} (h : sound t) : sound (markQuietStatement t) := by
  fun_cases markQuietStatement t <;> simp_all [sound_markQuiet, sound_markQuietDeclaration]

@[spec] theorem gives_labelName? : Gives labelName? := gives_data _

@[spec] theorem gives_declaredModule (keyword : String) : Gives (declaredModule keyword) := by
  mvcgen [declaredModule] with simp_all

include hr

@[spec] theorem gives_declarator (keyword : String) (use : VariableUse) (isAmbient : Bool) :
    Gives (declarator rules keyword use isAmbient) := by
  mvcgen [declarator, hr] with simp [*]

@[spec] theorem gives_variableDecl (use : VariableUse) (isDeclare : Bool) :
    Gives (variableDecl rules use isDeclare) := by
  mvcgen [variableDecl, hr] with simp [*]

@[spec] theorem gives_substatement : Gives (substatement rules) := by
  mvcgen [substatement, hr] with simp [*]

@[spec] theorem gives_condition : Gives (condition rules) := by
  mvcgen [condition, hr]

theorem gives_block : Gives (block rules) := by
  mvcgen [block, hr] with simp [*]

@[spec] theorem gives_ifStatement : Gives (ifStatement rules) := by
  mvcgen [ifStatement, hr] with simp [*]

@[spec] theorem gives_eachLoop {left : Ast} (isAwait : Bool) (h : sound left) :
    Gives (eachLoop rules isAwait left) := by
  mvcgen [eachLoop, hr] with simp [*]

@[spec] theorem gives_countedLoop {start : Ast} (h : sound start) :
    Gives (countedLoop rules start) := by
  mvcgen [countedLoop, hr] with simp [*]

@[spec] theorem gives_forStatement : Gives (forStatement rules) := by
  mvcgen [forStatement, hr] with simp [*]

@[spec] theorem gives_whileStatement : Gives (whileStatement rules) := by
  mvcgen [whileStatement, hr] with simp [*]

@[spec] theorem gives_doStatement : Gives (doStatement rules) := by
  mvcgen [doStatement, hr] with simp [*]

@[spec] theorem gives_switchCase : Gives (switchCase rules) := by
  mvcgen [switchCase, hr] with simp [*]

@[spec] theorem gives_switchStatement : Gives (switchStatement rules) := by
  mvcgen [switchStatement, hr] with simp [*]

@[spec] theorem gives_handler : Gives (handler rules) := by
  mvcgen [handler, hr] with simp [*]

@[spec] theorem gives_tryStatement : Gives (tryStatement rules) := by
  mvcgen [tryStatement, hr] with simp [*]

@[spec] theorem gives_returnStatement : Gives (returnStatement rules) := by
  mvcgen [returnStatement, hr] with simp [*]

@[spec] theorem gives_throwStatement : Gives (throwStatement rules) := by
  mvcgen [throwStatement, hr] with simp [*]

@[spec] theorem gives_typeAlias (isDeclare : Bool) : Gives (typeAlias rules isDeclare) := by
  mvcgen [typeAlias, hr] with simp [*]

@[spec] theorem gives_baseType : Gives (baseType rules) := by
  mvcgen [baseType, hr] with simp_all

@[spec] theorem gives_interfaceDecl (isDeclare : Bool) : Gives (interfaceDecl rules isDeclare) := by
  mvcgen [interfaceDecl, hr] with simp [*]

@[spec] theorem gives_enumMember : Gives (enumMember rules) := by
  mvcgen [enumMember, hr] with simp_all

@[spec] theorem gives_enumDecl (isConst isDeclare : Bool) :
    Gives (enumDecl rules isConst isDeclare) := by
  mvcgen [enumDecl, hr] with simp [*]

@[spec] theorem gives_moduleBody : Gives (moduleBody rules) := by
  mvcgen [moduleBody, hr] with simp [*]

@[spec] theorem gives_moduleDecl (isDeclare : Bool) : Gives (moduleDecl rules isDeclare) := by
  mvcgen [moduleDecl, hr] with simp_all

@[spec] theorem gives_classDecl {marks : Ast} (isDeclare : Bool) (h : sound marks) :
    Gives (classDecl rules marks isDeclare) := by
  mvcgen [classDecl, hr] with simp [*]

@[spec] theorem gives_functionDecl (isDeclare : Bool) : Gives (functionDecl rules isDeclare) := by
  mvcgen [functionDecl, hr]

@[spec] theorem gives_variableStatement (isDeclare : Bool) :
    Gives (declaration?.variableStatement rules isDeclare) := by
  mvcgen [declaration?.variableStatement, hr] with simp [*]

@[spec] theorem gives_declaration? (isDeclare : Bool) : Gives (declaration? rules isDeclare) := by
  mvcgen [declaration?, hr] with simp [*]

@[spec] theorem gives_declared? : Gives (declared? rules) := by
  mvcgen [declared?, hr] with simp_all

@[spec] theorem gives_expressionOrLabeled : Gives (expressionOrLabeled rules) := by
  mvcgen [expressionOrLabeled, hr] with simp [*]

@[spec] theorem gives_bareStatement : Gives (bareStatement rules) := by
  mvcgen [bareStatement, hr] with simp_all

theorem gives_statement : Gives (statement rules) := by
  mvcgen [statement, hr] with simp [sound_markQuietStatement, *]

end Statements

section Modules

@[spec] theorem gives_moduleName : Gives moduleName := gives_data _

@[spec] theorem gives_moduleSource : Gives moduleSource := gives_data _

@[spec] theorem gives_moduleAttributes? : Gives moduleAttributes? := gives_data _

@[spec] theorem gives_specifier : Gives specifier := gives_data _

@[spec] theorem gives_importBindings (ofTypes : Bool) :
    Gives (importBindings ofTypes) := gives_data _

@[spec] theorem gives_exportSource? : Gives exportSource? := gives_data _

theorem sound_tree (n : ListedName) : sound n.tree := by
  unfold ListedName.tree
  split <;> simp

@[spec] theorem gives_reference (n : ListedName) : Gives n.reference := by
  mvcgen [ListedName.reference] with simp

@[spec] theorem gives_moduleReference : Gives moduleReference := by
  mvcgen [moduleReference] with simp

@[spec] theorem gives_importEquals (typeOnly : Bool) : Gives (importEquals typeOnly) := by
  mvcgen [importEquals] with simp [*]

@[spec] theorem gives_importDeclaration : Gives importDeclaration := by
  mvcgen [importDeclaration] with simp [*]

@[spec] theorem gives_exportList (typeOnly : Bool) : Gives (exportList typeOnly) := by
  mvcgen [exportList] with simp [sound_tree, *]

@[spec] theorem gives_exportAll (typeOnly : Bool) : Gives (exportAll typeOnly) := by
  mvcgen [exportAll] with simp

include hr

@[spec] theorem gives_exportDefault : Gives (exportDefault rules) := by
  mvcgen [exportDefault, hr] with simp +zetaDelta [sound_markQuietDeclaration, *]

@[spec] theorem gives_exportDeclaration : Gives (exportDeclaration rules) := by
  mvcgen [exportDeclaration, hr] with simp_all [sound_markQuietDeclaration]

theorem gives_decorated : Gives (decorated rules) := by
  mvcgen [decorated, hr] with simp [*]

theorem gives_moduleItem : Gives (moduleItem rules) := by
  mvcgen [moduleItem, hr]

end Modules

end Parse

theorem gives_rule {rules : Rules} (hr : ∀ n, Parse.Gives (rules n)) (n : Nonterminal) :
    Parse.Gives (rule rules n) := by
  cases n with
  | expression => exact Parse.gives_expression hr
  | assignment => exact Parse.gives_assignment hr false
  | middle => exact Parse.gives_assignment hr true
  | binary level => exact Parse.gives_binary hr level
  | unary => exact Parse.gives_unary hr
  | leftHandSide => exact Parse.gives_leftHandSide hr
  | constructor => exact Parse.gives_constructor hr
  | statement => exact Parse.gives_statement hr
  | block => exact Parse.gives_block hr
  | body => exact Parse.gives_functionBody hr
  | pattern => exact Parse.gives_pattern hr
  | type => exact Parse.gives_type hr
  | operatorType => exact Parse.gives_operatorType hr
  | primaryType => exact Parse.gives_primaryType hr
  | typeMember => exact Parse.gives_typeMember hr
  | element => exact Parse.gives_element hr
  | classExpression => exact Parse.gives_classExpression hr
  | decorated => exact Parse.gives_decorated hr
  | moduleItem => exact Parse.gives_moduleItem hr

theorem gives_grammar (depth : Nat) (n : Nonterminal) : Parse.Gives (grammar depth n) := by
  induction depth generalizing n with
  | zero => exact Parse.gives_failure
  | succ depth ih => exact gives_rule ih n

theorem program_gives {rules : Rules} (hr : ∀ n, Parse.Gives (rules n))
    (firstLine : Option String) :
    ⦃⌜True⌝⦄ program rules firstLine ⦃⇓? t => ⌜t.WellFormed ∧ t.isProgram⌝⦄ := by
  mvcgen [program, hr]
  case vc3 hitems _ _ _ => exact ⟨(sound_of rfl).mpr hitems, rfl⟩
  all_goals simp [*]

/-- The tree of a text is a well-formed program. -/
theorem parseProgram_wellFormed {text : List Char} {t : Ast} (h : parseProgram text = some t) :
    t.WellFormed ∧ t.isProgram := by
  simp only [parseProgram] at h
  split at h
  · next hread =>
    split at h
    · cases h
    · cases h
      exact Parse.reads_iff.mp (program_gives (gives_grammar _) _) _ _ _ hread
  · cases h

end Nativize.Syntax
