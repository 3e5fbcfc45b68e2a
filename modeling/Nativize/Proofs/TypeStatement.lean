import Nativize.Conversion.Template
import Nativize.Proofs.Syntax.Parser.Program

/-!
# Statements that declare types

A program that is read names every type that it declares, so a statement is an interface or an alias
exactly when the name of a type is found in it. The parsers of statements are gone through for the
nodes that they give; what they read before does not matter. Main statement: `isSome_declaredType?`.
-/

namespace Nativize.Syntax

namespace Kind

/-- The node is an interface or an alias. -/
def isTypeDecl : Kind → Bool
  | .interfaceDecl _ => true
  | .typeAlias _ => true
  | _ => false

def isNamedExport : Kind → Bool
  | .exportNamed .. => true
  | _ => false

def boundName? : Kind → Option String
  | .binding n => some n
  | _ => none

@[simp] theorem isTypeDecl_withoutComments (k : Kind) :
    k.withoutComments.isTypeDecl = k.isTypeDecl := by
  cases k <;> rfl

@[simp] theorem isNamedExport_withoutComments (k : Kind) :
    k.withoutComments.isNamedExport = k.isNamedExport := by
  cases k <;> rfl

@[simp] theorem boundName?_withoutComments (k : Kind) :
    k.withoutComments.boundName? = k.boundName? := by
  cases k <;> rfl

end Kind

namespace Ast

@[simp] theorem kind_withoutComments (t : Ast) :
    t.withoutComments.kind = t.kind.withoutComments := by
  cases t
  rfl

theorem part_withoutComments (t : Ast) (i : Nat) :
    t.withoutComments.part i = (t.part i).withoutComments := by
  obtain ⟨k, l, ps⟩ := t
  simp only [part, withoutComments, mapKinds, parts, mapKindsOf_eq, List.getElem?_map]
  cases ps[i]? <;> rfl

end Ast

end Nativize.Syntax

namespace Nativize.Conversion

open Syntax Parse

/-- What a statement declares: itself, or what it exports by name. -/
def declarationOf (s : Ast) : Ast := if s.kind.isNamedExport then s.part 0 else s

/-- The statement is an interface or an alias, bare or in a named export. -/
def isTypeStatement (s : Ast) : Bool := (declarationOf s).kind.isTypeDecl

/-- The statement names the type that it declares, if it does declare one. -/
def NamesType (s : Ast) : Prop :=
  isTypeStatement s = true → ((declarationOf s).part 0).kind.boundName?.isSome = true

/-- The statement is no named export, and it names the type that it declares. -/
structure IsBare (s : Ast) : Prop where
  bare : s.kind.isNamedExport = false
  namesType : NamesType s

section Names

variable {s d : Ast}

theorem declaredType?_eq (s : Ast) : declaredType? s =
    if isTypeStatement s then ((declarationOf s).part 0).kind.boundName? else none := by
  obtain ⟨k, l, ps⟩ := s
  cases k with
  | interfaceDecl | typeAlias =>
    match ps with
    | [] => rfl
    | .node k _ _ :: _ => cases k <;> rfl
  | exportNamed =>
    match ps with
    | [] => rfl
    | .node k _ ps :: _ =>
      cases k with
      | interfaceDecl | typeAlias =>
        match ps with
        | [] => rfl
        | .node k _ _ :: _ => cases k <;> rfl
      | _ => rfl
  | _ => rfl

/-- Where the type is named, its name is found exactly in the statements that are to declare one. -/
theorem NamesType.isSome_eq (h : NamesType s) : (declaredType? s).isSome = isTypeStatement s := by
  rw [declaredType?_eq]
  cases htype : isTypeStatement s with
  | true => exact h htype
  | false => rfl

theorem namesType_of_not_isTypeStatement (h : isTypeStatement s = false) : NamesType s := by
  simp [NamesType, h]

theorem namesType_withoutComments (h : NamesType s) : NamesType s.withoutComments := by
  have hdeclaration : declarationOf s.withoutComments = (declarationOf s).withoutComments := by
    simp only [declarationOf, Ast.kind_withoutComments, Kind.isNamedExport_withoutComments,
      Ast.part_withoutComments]
    split <;> rfl
  simpa [NamesType, isTypeStatement, hdeclaration, Ast.part_withoutComments] using h

theorem NamesType.withLead (h : NamesType s) (comments : List Comment) :
    NamesType (s.withLead comments) := by
  obtain ⟨k, l, ps⟩ := s
  cases hk : k.isNamedExport <;>
    simpa [NamesType, isTypeStatement, declarationOf, Ast.withLead, Ast.kind, Ast.part, Ast.parts,
      hk] using h

/-- An exported declaration names the type that the declaration names. -/
theorem IsBare.namesType_export (h : IsBare d) (source : Option ExportSource) (typeOnly : Bool)
    (l : List Comment) : NamesType (.node (.exportNamed source typeOnly) l [d]) := by
  have hd := h.namesType
  rw [NamesType, isTypeStatement, declarationOf, h.bare] at hd
  exact hd

end Names

/-! ## What is read last -/

/-- Whatever the parser reads has the property. -/
def Yields {α : Type} (property : α → Prop) (m : Parse α) : Prop :=
  ∀ s x s', m s = some (x, s') → property x

section Laws

variable {α β : Type} {property : α → Prop} {other : β → Prop}

theorem yields_pure {x : α} (h : property x) : Yields property (pure x : Parse α) := by
  intro s y s' hy
  obtain ⟨rfl, -⟩ := Prod.mk.inj (Option.some.inj hy)
  exact h

theorem yields_failure : Yields property (failure : Parse α) := by
  intro s y s' hy
  cases show (none : Option (α × ParseState)) = some (y, s') from hy

theorem Yields.bind {m : Parse β} {f : β → Parse α} (hm : Yields other m)
    (hf : ∀ x, other x → Yields property (f x)) : Yields property (m >>= f) := by
  intro s y s' hy
  obtain ⟨⟨x, s₁⟩, hx, hy⟩ := Option.bind_eq_some_iff.mp hy
  exact hf x (hm s x s₁ hx) s₁ y s' hy

/-- What is read before does not matter where the rest has the property in any case. -/
theorem yields_bind {m : Parse β} {f : β → Parse α} (hf : ∀ x, Yields property (f x)) :
    Yields property (m >>= f) :=
  have hm : Yields (fun _ => True) m := fun _ _ _ _ => trivial
  hm.bind fun x _ => hf x

theorem Yields.mono {m : Parse α} {weaker : α → Prop} (h : Yields property m)
    (hweaker : ∀ x, property x → weaker x) : Yields weaker m :=
  fun s x s' hx => hweaker x (h s x s' hx)

theorem yields_ite {c : Prop} [Decidable c] {m m' : Parse α} (h : Yields property m)
    (h' : Yields property m') : Yields property (if c then m else m') := by
  split
  · exact h
  · exact h'

theorem Yields.within {m : Parse α} (h : Yields property m) (f : Context → Context) :
    Yields property (within f m) := by
  unfold Parse.within
  exact yields_bind fun _ => yields_bind fun _ => h.bind fun x hx => yields_bind fun _ =>
    yields_pure hx

theorem Yields.attempt {m : Parse α} (h : Yields property m) :
    Yields (fun o => ∀ x ∈ o, property x) (attempt m) := by
  intro s o s' ho x hx
  unfold Parse.attempt at ho
  split at ho
  · next y t hm =>
    obtain ⟨rfl, -⟩ := Prod.mk.inj (Option.some.inj ho)
    obtain rfl := Option.some.inj hx
    exact h s y t hm
  · obtain ⟨rfl, -⟩ := Prod.mk.inj (Option.some.inj ho)
    cases hx

theorem yields_many {step : Parse (Option α)} (h : Yields (fun o => ∀ x ∈ o, property x) step) :
    Yields (fun xs => ∀ x ∈ xs, property x) (many step) := by
  have hrounds (fuel : Nat) : Yields (fun xs => ∀ x ∈ xs, property x) (repeatFor step fuel) := by
    induction fuel with
    | zero => exact yields_failure
    | succ fuel ih =>
      unfold repeatFor
      refine h.bind fun o ho => ?_
      split
      · exact yields_pure (by simp)
      · next x => exact ih.bind fun xs hxs => yields_pure (List.forall_mem_cons.mpr ⟨ho x rfl, hxs⟩)
  unfold many
  exact yields_bind fun _ => hrounds _

end Laws

/-!
## Statements

Each proof follows its parser to the nodes that it returns: what is read before is passed over, and
where the parser branches both sides are followed.
-/

section Statements

variable {rules : Rules} (isDeclare : Bool)

theorem yields_bindingName : Yields (fun t => ∃ name, t = .leaf (.binding name)) bindingName := by
  unfold bindingName
  exact yields_bind fun name => yields_pure ⟨name, rfl⟩

theorem yields_typeAlias : Yields IsBare (typeAlias rules isDeclare) := by
  unfold typeAlias
  refine yields_bind fun _ => yields_bindingName.bind ?_
  rintro _ ⟨name, rfl⟩
  repeat refine yields_bind fun _ => ?_
  exact yields_pure ⟨rfl, fun _ => rfl⟩

theorem yields_interfaceDecl : Yields IsBare (interfaceDecl rules isDeclare) := by
  unfold interfaceDecl
  refine yields_bind fun _ => yields_bindingName.bind ?_
  rintro _ ⟨name, rfl⟩
  dsimp only
  repeat' first
    | exact yields_pure ⟨rfl, fun _ => rfl⟩ | refine yields_bind fun _ => ?_
    | refine yields_ite ?_ ?_

theorem yields_block : Yields IsBare (block rules) := by
  unfold block
  repeat' first | exact yields_pure ⟨rfl, nofun⟩ | refine yields_bind fun _ => ?_

theorem yields_ifStatement : Yields IsBare (ifStatement rules) := by
  unfold ifStatement
  dsimp only
  repeat' first | exact yields_pure ⟨rfl, nofun⟩ | refine yields_bind fun _ => ?_ | split

theorem yields_eachLoop (isAwait : Bool) (left : Ast) :
    Yields IsBare (eachLoop rules isAwait left) := by
  unfold eachLoop
  repeat' first | exact yields_pure ⟨rfl, nofun⟩ | refine yields_bind fun _ => ?_ | split

theorem yields_countedLoop (start : Ast) : Yields IsBare (countedLoop rules start) := by
  unfold countedLoop
  dsimp only
  repeat' first | exact yields_pure ⟨rfl, nofun⟩ | refine yields_bind fun _ => ?_ | split

theorem yields_forStatement : Yields IsBare (forStatement rules) := by
  unfold forStatement
  dsimp only
  repeat' first
    | with_reducible exact yields_countedLoop _ | with_reducible exact yields_eachLoop _ _
    | refine yields_bind fun _ => ?_ | split

theorem yields_whileStatement : Yields IsBare (whileStatement rules) := by
  unfold whileStatement
  repeat' first | exact yields_pure ⟨rfl, nofun⟩ | refine yields_bind fun _ => ?_

theorem yields_doStatement : Yields IsBare (doStatement rules) := by
  unfold doStatement
  repeat' first | exact yields_pure ⟨rfl, nofun⟩ | refine yields_bind fun _ => ?_

theorem yields_switchStatement : Yields IsBare (switchStatement rules) := by
  unfold switchStatement
  repeat' first | exact yields_pure ⟨rfl, nofun⟩ | refine yields_bind fun _ => ?_

theorem yields_tryStatement : Yields IsBare (tryStatement rules) := by
  unfold tryStatement
  dsimp only
  repeat' first | exact yields_pure ⟨rfl, nofun⟩ | refine yields_bind fun _ => ?_ | split

theorem yields_returnStatement : Yields IsBare (returnStatement rules) := by
  unfold returnStatement
  dsimp only
  repeat' first | exact yields_pure ⟨rfl, nofun⟩ | refine yields_bind fun _ => ?_ | split

theorem yields_throwStatement : Yields IsBare (throwStatement rules) := by
  unfold throwStatement
  repeat' first | exact yields_pure ⟨rfl, nofun⟩ | refine yields_bind fun _ => ?_

theorem yields_expressionOrLabeled : Yields IsBare (expressionOrLabeled rules) := by
  unfold expressionOrLabeled
  repeat' first | exact yields_pure ⟨rfl, nofun⟩ | refine yields_bind fun _ => ?_ | split

/-! ## Declarations -/

theorem yields_enumDecl (isConst : Bool) : Yields IsBare (enumDecl rules isConst isDeclare) := by
  unfold enumDecl
  repeat' first | exact yields_pure ⟨rfl, nofun⟩ | refine yields_bind fun _ => ?_

theorem yields_moduleDecl : Yields IsBare (moduleDecl rules isDeclare) := by
  unfold moduleDecl
  repeat' first | exact yields_pure ⟨rfl, nofun⟩ | refine yields_bind fun _ => ?_ | split

theorem yields_classLike (facts : ClassFacts) (marks : Ast) :
    Yields IsBare (classLike rules facts marks) := by
  unfold classLike
  dsimp only
  repeat' first | exact yields_pure ⟨rfl, nofun⟩ | refine yields_bind fun _ => ?_ | split

theorem yields_classDecl (marks : Ast) : Yields IsBare (classDecl rules marks isDeclare) := by
  unfold classDecl
  exact yields_bind fun _ => yields_classLike _ marks

theorem yields_functionParts (facts : FunctionFacts) (ofConstructor : Bool) (name : Ast) :
    Yields IsBare (functionParts rules facts ofConstructor name) := by
  unfold functionParts
  refine Yields.within ?_ _
  repeat' first
    | exact yields_pure ⟨rfl, nofun⟩ | refine yields_bind fun _ => ?_ | refine yields_ite ?_ ?_

theorem yields_functionLike (form : FunctionForm) :
    Yields IsBare (functionLike rules form isDeclare) := by
  unfold functionLike
  exact yields_bind fun _ => yields_bind fun _ => yields_bind fun _ => yields_bind fun _ =>
    yields_functionParts _ _ _

theorem yields_functionDecl : Yields IsBare (functionDecl rules isDeclare) := by
  unfold functionDecl
  exact (yields_functionLike isDeclare _).bind fun _ hf => yields_bind fun _ => yields_pure hf

theorem yields_variableDecl (use : VariableUse) :
    Yields IsBare (variableDecl rules use isDeclare) := by
  unfold variableDecl
  dsimp only
  repeat' first | exact yields_pure ⟨rfl, nofun⟩ | refine yields_bind fun _ => ?_ | split

/-- The declaration that is read, if there is one, is bare. -/
abbrev MaybeBare (d? : Option Ast) : Prop := ∀ d ∈ d?, IsBare d

theorem maybeBare_none : MaybeBare none := nofun

theorem maybeBare_some {d : Ast} (h : IsBare d) : MaybeBare (some d) := by
  rintro _ ⟨⟩
  exact h

/-- One of the parsers of declarations, where it applies. -/
theorem Yields.maybe {m : Parse Ast} (h : Yields IsBare m) :
    Yields MaybeBare (do return some (← m)) :=
  h.bind fun _ hd => yields_pure (maybeBare_some hd)

theorem yields_variableStatement :
    Yields MaybeBare (declaration?.variableStatement rules isDeclare) := by
  unfold declaration?.variableStatement
  refine yields_bind fun _ => ?_
  split
  · exact (yields_variableDecl isDeclare _).bind fun _ hd => yields_bind fun _ =>
      yields_pure (maybeBare_some hd)
  · exact yields_pure maybeBare_none

theorem yields_declaration? : Yields MaybeBare (declaration? rules isDeclare) := by
  have hnone : Yields MaybeBare (pure none : Parse (Option Ast)) := yields_pure maybeBare_none
  have hfunction : Yields MaybeBare (do return some (← functionDecl rules isDeclare)) :=
    (yields_functionDecl isDeclare).maybe
  have hclass : Yields MaybeBare (do return some (← classDecl rules (.of .group []) isDeclare)) :=
    (yields_classDecl isDeclare _).maybe
  have hmodule : Yields MaybeBare (do return some (← moduleDecl rules isDeclare)) :=
    (yields_moduleDecl isDeclare).maybe
  have hvariables : Yields MaybeBare (declaration?.variableStatement rules isDeclare) :=
    yields_variableStatement isDeclare
  unfold declaration?
  refine yields_bind fun t => ?_
  dsimp only
  split
  · exact hfunction
  · exact yields_ite hfunction hnone
  · exact hclass
  · exact yields_ite hclass hnone
  · exact (yields_enumDecl isDeclare false).maybe
  · exact yields_ite ((yields_typeAlias isDeclare).maybe) hnone
  · exact yields_ite ((yields_interfaceDecl isDeclare).maybe) hnone
  · exact yields_ite hmodule hnone
  · exact yields_ite hmodule hnone
  · exact yields_ite hmodule hnone
  · exact yields_ite (yields_bind fun _ => (yields_enumDecl isDeclare true).maybe) hvariables
  · exact hvariables

theorem yields_declared? : Yields MaybeBare (declared? rules) := by
  unfold declared?
  refine yields_bind fun t => ?_
  refine yields_ite (yields_bind fun _ => ?_).attempt (yields_pure maybeBare_none)
  refine ((yields_declaration? true).within _).bind fun d? hd => ?_
  split
  · exact yields_pure (hd _ rfl)
  · exact yields_failure

end Statements


/-! ## Modules -/

section Quiet

/-- Marks for functions do not reach declarations of types. -/
theorem markQuietDeclaration_cases (d : Ast) :
    markQuietDeclaration d = d ∨ IsBare (markQuietDeclaration d) := by
  fun_cases markQuietDeclaration d with
  | case1 => exact .inr ⟨rfl, namesType_of_not_isTypeStatement rfl⟩
  | case2 => exact .inr ⟨rfl, namesType_of_not_isTypeStatement rfl⟩
  | case3 => exact .inl rfl

theorem IsBare.markQuietDeclaration {d : Ast} (h : IsBare d) : IsBare (markQuietDeclaration d) := by
  rcases markQuietDeclaration_cases d with heq | hbare
  · rwa [heq]
  · exact hbare

theorem NamesType.markQuietStatement {s : Ast} (h : NamesType s) :
    NamesType (markQuietStatement s) := by
  fun_cases Parse.markQuietStatement s with
  | case1 source typeOnly l d =>
    rcases markQuietDeclaration_cases d with heq | hbare
    · rwa [heq]
    · exact hbare.namesType_export source typeOnly l
  | case2 => exact namesType_of_not_isTypeStatement rfl
  | case3 =>
    rcases markQuietDeclaration_cases s with heq | hbare
    · rwa [heq]
    · exact hbare.namesType

end Quiet

section Modules

variable {rules : Rules}

theorem yields_importEquals (typeOnly : Bool) : Yields IsBare (importEquals typeOnly) := by
  unfold importEquals
  repeat' first | exact yields_pure ⟨rfl, nofun⟩ | refine yields_bind fun _ => ?_

theorem yields_importDeclaration : Yields IsBare importDeclaration := by
  unfold importDeclaration
  dsimp only
  refine yields_bind fun _ => yields_bind fun l => ?_
  split
  · repeat' first | exact yields_pure ⟨rfl, nofun⟩ | refine yields_bind fun _ => ?_
  · repeat' first
      | exact yields_pure ⟨rfl, nofun⟩ | exact yields_importEquals _
      | refine yields_bind fun _ => ?_
      | refine yields_ite ?_ ?_

theorem yields_exportList (typeOnly : Bool) : Yields NamesType (exportList typeOnly) := by
  unfold exportList
  repeat' first | exact yields_pure nofun | refine yields_bind fun _ => ?_

theorem yields_exportAll (typeOnly : Bool) : Yields NamesType (exportAll typeOnly) := by
  unfold exportAll
  dsimp only
  repeat' first
    | exact yields_pure nofun | exact yields_failure | refine yields_bind fun _ => ?_
    | refine yields_ite ?_ ?_ | split

theorem yields_exportDefault : Yields NamesType (exportDefault rules) := by
  unfold exportDefault
  dsimp only
  repeat' first | exact yields_pure nofun | refine yields_bind fun _ => ?_ | refine yields_ite ?_ ?_

theorem yields_exportDeclaration : Yields NamesType (exportDeclaration rules) := by
  unfold exportDeclaration
  dsimp only
  refine yields_bind fun _ => yields_bind fun t => ?_
  have hexport {d : Ast} (hd : IsBare d) : NamesType (.of (.exportNamed none false)
      [if t.isQuiet = true then markQuietDeclaration d else d]) := by
    split
    · exact hd.markQuietDeclaration.namesType_export none false []
    · exact hd.namesType_export none false []
  refine yields_ite (yields_exportAll false) (yields_ite (yields_exportList false) ?_)
  refine yields_bind fun _ =>
    yields_ite (yields_bind fun _ => yields_bind fun _ => yields_pure nofun) ?_
  refine yields_bind fun _ => yields_ite yields_exportDefault (yields_ite ?_ ?_)
  · repeat refine yields_bind fun _ => ?_
    exact yields_pure nofun
  refine yields_ite (yields_bind fun _ => yields_exportList true) ?_
  refine yields_ite (yields_bind fun _ => yields_exportAll true) (yields_ite ?_ (yields_ite ?_ ?_))
  · refine yields_importDeclaration.bind fun d hd => ?_
    split
    · exact yields_pure (hd.namesType_export none false [])
    · exact yields_failure
  · exact yields_bind fun _ => yields_bind fun _ => (yields_classDecl _ _).bind fun d hd =>
      yields_pure (hd.namesType_export none false [])
  · refine yields_bind fun _ => yields_declared?.bind fun d? hd => ?_
    split
    · exact (yields_pure (hd _ rfl)).bind fun _ hd => yields_pure (hexport hd)
    · refine (yields_declaration? false).bind fun d? hd => ?_
      split
      · exact yields_pure (hexport (hd _ rfl))
      · exact yields_failure

theorem yields_decorated : Yields NamesType (decorated rules) := by
  unfold decorated
  refine yields_bind fun _ => yields_bind fun _ => yields_bind fun _ => yields_bind fun _ => ?_
  refine yields_ite (yields_bind fun _ => yields_ite ?_ ?_) ?_
  · exact yields_bind fun _ => yields_pure nofun
  · exact yields_bind fun _ => (yields_classDecl _ _).bind fun _ hd =>
      yields_pure (hd.namesType_export _ _ _)
  · exact yields_bind fun _ => (yields_classDecl _ _).bind fun _ hd =>
      yields_pure (hd.namesType.withLead _)

theorem yields_moduleItem : Yields NamesType (moduleItem rules) := by
  unfold moduleItem
  exact yields_bind fun _ =>
    yields_ite (yields_importDeclaration.mono fun _ h => h.namesType) yields_exportDeclaration

theorem yields_bareStatement (hblock : Yields NamesType (rules .block))
    (hitem : Yields NamesType (rules .moduleItem)) : Yields NamesType (bareStatement rules) := by
  have bare {m : Parse Ast} (h : Yields IsBare m) : Yields NamesType m :=
    h.mono fun _ h => h.namesType
  unfold bareStatement
  refine yields_bind fun l => ?_
  split
  · exact hblock
  · exact yields_bind fun _ => yields_pure nofun
  · exact hitem
  · exact bare yields_ifStatement
  · exact bare yields_forStatement
  · exact bare yields_whileStatement
  · exact bare yields_doStatement
  · exact bare yields_switchStatement
  · exact bare yields_tryStatement
  · exact bare yields_returnStatement
  · exact bare yields_throwStatement
  · exact yields_bind fun _ => yields_bind fun _ => yields_bind fun _ => yields_pure nofun
  · exact yields_bind fun _ => yields_bind fun _ => yields_bind fun _ => yields_pure nofun
  · exact yields_bind fun _ => yields_bind fun _ => yields_pure nofun
  · exact yields_bind fun _ => yields_bind fun _ => yields_bind fun _ => yields_pure nofun
  · exact yields_bind fun _ => yields_bind fun _ =>
      yields_ite (bare yields_expressionOrLabeled) hitem
  · refine yields_declared?.bind fun d? hd => ?_
    split
    · exact yields_pure (hd _ rfl).namesType
    · refine (yields_declaration? false).bind fun d? hd => ?_
      split
      · exact yields_pure (hd _ rfl).namesType
      · exact bare yields_expressionOrLabeled

theorem yields_statement (hblock : Yields NamesType (rules .block))
    (hitem : Yields NamesType (rules .moduleItem))
    (hdecorated : Yields NamesType (rules .decorated)) :
    Yields NamesType (statement rules) := by
  unfold statement
  dsimp only
  refine yields_bind fun t => ?_
  have hquiet {s : Ast} (hs : NamesType s) :
      NamesType (if t.isQuiet = true then markQuietStatement s else s) := by
    split
    · exact hs.markQuietStatement
    · exact hs
  refine yields_ite (hdecorated.bind fun _ hs => yields_pure (hquiet hs)) ?_
  exact (yields_bareStatement hblock hitem).bind fun _ hs => yields_pure (hquiet (hs.withLead _))

end Modules

/-! ## Programs -/

theorem yields_grammar_statement (depth : Nat) : Yields NamesType (grammar depth .statement) := by
  -- one level down are the rules that a statement refers to, which the grammar may be too shallow
  -- for
  match depth with
  | 0 => exact yields_failure
  | 1 => exact yields_statement yields_failure yields_failure yields_failure
  | depth + 2 =>
    exact yields_statement (yields_block.mono fun _ h => h.namesType) yields_moduleItem
      yields_decorated

theorem yields_program (depth : Nat) (firstLine : Option String) :
    Yields (fun t => ∀ s ∈ statements t, NamesType s) (program (grammar depth) firstLine) := by
  unfold program
  refine yields_bind fun _ => Yields.bind (yields_many ?_) fun items hitems =>
    yields_bind fun _ => yields_pure hitems
  refine yields_bind fun _ => yields_ite (yields_pure (by simp)) ?_
  refine (yields_grammar_statement depth).bind fun s hs => yields_pure ?_
  rintro _ ⟨⟩
  exact hs

theorem namesType_of_parseProgram {text : List Char} {t : Ast} (h : parseProgram text = some t) :
    ∀ s ∈ statements t, NamesType s := by
  simp only [parseProgram] at h
  split at h
  · next hread =>
    split at h
    · cases h
    · cases h
      exact yields_program _ _ _ _ _ hread
  · cases h

theorem statements_withoutComments (t : Ast) :
    statements t.withoutComments = (statements t).map Ast.withoutComments := by
  obtain ⟨k, l, ps⟩ := t
  cases k with
  | program => exact Ast.mapKindsOf_eq _ ps
  | _ => rfl

/-- In the statements of a template the name of a type is found exactly where a type is declared. -/
theorem isSome_declaredType? {text : String} {types : List Ast}
    (h : templateStatements text = .ok types)
    {s : Ast} (hs : s ∈ types) : (declaredType? s).isSome = isTypeStatement s := by
  unfold templateStatements at h
  split at h
  · next t hparse =>
    cases h
    rw [statements_withoutComments, List.mem_map] at hs
    obtain ⟨s, hs, rfl⟩ := hs
    exact (namesType_withoutComments (namesType_of_parseProgram hparse s hs)).isSome_eq
  · cases h

end Nativize.Conversion
