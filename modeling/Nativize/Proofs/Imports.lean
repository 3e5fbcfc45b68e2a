import Nativize.Conversion.Imports
import Nativize.Proofs.Pass

/-!
# Conversion of imports

What a conversion of the imports does to the statements of a program, one by one.
-/

namespace Nativize.Conversion

open Syntax

/-- What the conversion of imports makes of a statement. -/
def convertStatement? (p : Profile) : Ast → Option Ast
  | .node (.importDecl d) l parts =>
    match convertImport p d with
    | .ok (.keep d') => some (.node (.importDecl d') l parts)
    | _ => none
  | s => some s

/-- The statement is no import that is refused. -/
def isAcceptable (p : Profile) : Ast → Bool
  | .node (.importDecl d) _ _ => (convertImport p d).isOk
  | _ => true

section Statements

variable (p : Profile) (d : ImportDecl) (l : List Comment) (parts : List Ast)

@[simp] theorem isAcceptable_import :
    isAcceptable p (.node (.importDecl d) l parts) = (convertImport p d).isOk := rfl

theorem isAcceptable_of_isNone {s : Ast} (h : importOf? s = none) : isAcceptable p s = true := by
  unfold isAcceptable
  split
  · cases h
  · rfl

theorem convertStatement?_of_isNone {s : Ast} (h : importOf? s = none) :
    convertStatement? p s = some s := by
  unfold convertStatement?
  split
  · cases h
  · rfl

end Statements

theorem importOf?_eq_none {s : Ast} (h : ∀ d l parts, s ≠ .node (.importDecl d) l parts) :
    importOf? s = none := by
  unfold importOf?
  split
  · exact absurd rfl (h _ _ _)
  · rfl

/-- An import among the statements is refused, or none is and each is converted on its own. -/
theorem importSteps_spec (p : Profile) (parts : List Ast) :
    ((importSteps p parts).2 = none ↔ ∀ s ∈ parts, isAcceptable p s) ∧
      ((∀ s ∈ parts, isAcceptable p s) →
        ((importSteps p parts).1.filter fun s => s.removes ≠ some true).map (·.statement) =
          parts.filterMap (convertStatement? p)) := by
  fun_induction importSteps p parts with
  | case1 => simp
  | case2 d l parts rest b h => simp [h, Except.isOk, Except.toBool]
  | case3 d l parts rest steps breach hrest d' h ih =>
    simp_all [convertStatement?, Except.isOk, Except.toBool]
  | case4 d l parts rest steps breach hrest h ih =>
    simp_all [convertStatement?, Except.isOk, Except.toBool]
  | case5 s rest hs steps breach hrest ih =>
    have hnone := importOf?_eq_none hs
    simp_all [isAcceptable_of_isNone, convertStatement?_of_isNone]

theorem eq_import_of_importOf? {s : Ast} {d : ImportDecl} (h : importOf? s = some d) :
    ∃ l parts, s = .node (.importDecl d) l parts := by
  unfold importOf? at h
  split at h
  · cases h
    exact ⟨_, _, rfl⟩
  · cases h

theorem isOk_of_isAcceptable {p : Profile} {parts : List Ast} (h : ∀ s ∈ parts, isAcceptable p s)
    {d : ImportDecl} (hd : d ∈ parts.filterMap importOf?) : (convertImport p d).isOk = true := by
  obtain ⟨s, hs, himport⟩ := List.mem_filterMap.mp hd
  obtain ⟨l, ps, rfl⟩ := eq_import_of_importOf? himport
  exact h _ hs

theorem exists_action_of_isAcceptable {p : Profile} {parts : List Ast}
    (h : ∀ s ∈ parts, isAcceptable p s) {d : ImportDecl} (hd : d ∈ parts.filterMap importOf?) :
    ∃ action, convertImport p d = .ok action := by
  have hok := isOk_of_isAcceptable h hd
  cases hconvert : convertImport p d with
  | ok action => exact ⟨action, rfl⟩
  | error b =>
    rw [hconvert] at hok
    cases hok

/-- The names that an import binds. -/
def localNames (d : ImportDecl) : List String := (d.specifiers.getD []).map (·.localName)

/-- What an import becomes where it is kept. -/
def keptImport? (p : Profile) (d : ImportDecl) : Option ImportDecl :=
  match convertImport p d with
  | .ok (.keep d') => some d'
  | _ => none

theorem keptImport?_eq_some_iff {p : Profile} {d d' : ImportDecl} :
    keptImport? p d = some d' ↔ convertImport p d = .ok (.keep d') := by
  unfold keptImport?
  split <;> simp_all

theorem imports_convertStatement? (p : Profile) (parts : List Ast) :
    (parts.filterMap (convertStatement? p)).filterMap importOf? =
      (parts.filterMap importOf?).filterMap (keptImport? p) := by
  rw [List.filterMap_filterMap, List.filterMap_filterMap]
  refine congrArg (List.filterMap · parts) (funext fun s => ?_)
  fun_cases convertStatement? p s with
  | case1 d l ps d' h => simp [importOf?, keptImport?, h]
  | case2 d l ps h =>
    cases hkept : keptImport? p d with
    | none => simp [importOf?, hkept]
    | some d' => exact absurd (keptImport?_eq_some_iff.mp hkept) (h d')
  | case3 _ h => simp [importOf?_eq_none h]

/-- What is not found in imports is the same when they are converted. -/
theorem flatMap_convertStatement? {α : Type} {g : Ast → List α} (p : Profile) {parts : List Ast}
    (himport : ∀ d l ps, .node (.importDecl d) l ps ∈ parts →
      ∀ d', g (.node (.importDecl d') l ps) = []) :
    (parts.filterMap (convertStatement? p)).flatMap g = parts.flatMap g := by
  induction parts with
  | nil => rfl
  | cons s rest ih =>
    have hrest := ih fun d l ps hs => himport d l ps (List.mem_cons_of_mem _ hs)
    have hfirst (d : ImportDecl) (l : List Comment) (ps : List Ast)
        (hs : s = .node (.importDecl d) l ps) (d' : ImportDecl) :=
      himport d l ps (hs ▸ List.mem_cons_self) d'
    rw [List.flatMap_cons, ← hrest, List.filterMap_cons]
    fun_cases convertStatement? p s with
    | case1 d l ps d' h => simp [hfirst d l ps rfl]
    | case2 d l ps h => simp [hfirst d l ps rfl]
    | case3 h => rfl

/-- Why an import is refused. -/
def refusal? (p : Profile) (d : ImportDecl) : Option Breach :=
  match convertImport p d with
  | .error b => some b
  | .ok _ => none

/-- The first import that is refused decides. -/
theorem breach_importSteps (p : Profile) (parts : List Ast) :
    (importSteps p parts).2 = (parts.filterMap importOf?).findSome? (refusal? p) := by
  fun_induction importSteps p parts with
  | case1 => rfl
  | case2 d l ps rest b h => simp [importOf?, refusal?, h]
  | case3 d l ps rest steps breach hrest d' h ih =>
    rw [hrest] at ih
    simpa [importOf?, refusal?, h] using ih
  | case4 d l ps rest steps breach hrest h ih =>
    rw [hrest] at ih
    simpa [importOf?, refusal?, h] using ih
  | case5 s rest hs steps breach hrest ih =>
    rw [hrest] at ih
    simpa [importOf?_eq_none hs] using ih

/-- An import has the same parts after the decision about it. -/
theorem flatMap_importSteps {α : Type} {g : Ast → List α} (p : Profile)
    (himport : ∀ d d' l ps, g (.node (.importDecl d) l ps) = g (.node (.importDecl d') l ps))
    (parts : List Ast) :
    ((importSteps p parts).1.map (·.statement)).flatMap g = parts.flatMap g := by
  fun_induction importSteps p parts with
  | case1 => rfl
  | case2 d l ps rest b h => simp [Function.comp_def]
  | case3 d l ps rest steps breach hrest d' h ih =>
    rw [hrest] at ih
    simpa [himport d' d] using ih
  | case4 d l ps rest steps breach hrest h ih =>
    rw [hrest] at ih
    simpa using ih
  | case5 s rest hs steps breach hrest ih =>
    rw [hrest] at ih
    simpa using ih

/-- A conversion of imports fails when one is refused. -/
theorem convertImports_error {p : Profile} {t : Ast} {b : Breach}
    (h : (importSteps p (statements t)).2 = some b) :
    (convertImports p).apply t = (.error (.structural b),
      withStatements t ((importSteps p (statements t)).1.map (·.statement))) := by
  unfold convertImports
  simp [h]

/-- A conversion of imports succeeds when none is refused. -/
theorem convertImports_apply {p : Profile} {t : Ast} (h : ∀ s ∈ statements t, isAcceptable p s) :
    ∃ removed, (convertImports p).apply t =
      (.ok removed, withStatements t ((statements t).filterMap (convertStatement? p))) := by
  obtain ⟨hbreach, hkept⟩ := importSteps_spec p (statements t)
  unfold convertImports
  simp only [Pass.apply_bind, Pass.apply_getStatements, Pass.apply_setStatements,
    hbreach.mpr h, Pass.apply_check_none, Pass.apply_pure, hkept h, withStatements_withStatements]
  exact ⟨_, rfl⟩

theorem convertImports_ok {p : Profile} {t t' : Ast} {removed : Nat}
    (h : (convertImports p).apply t = (.ok removed, t')) :
    (∀ s ∈ statements t, isAcceptable p s) ∧
      t' = withStatements t ((statements t).filterMap (convertStatement? p)) := by
  obtain ⟨hbreach, -⟩ := importSteps_spec p (statements t)
  have hall : ∀ s ∈ statements t, isAcceptable p s := by
    refine hbreach.mp ?_
    unfold convertImports at h
    simp only [Pass.apply_bind, Pass.apply_getStatements, Pass.apply_setStatements] at h
    cases hb : (importSteps p (statements t)).2 with
    | none => rfl
    | some b => simp [hb] at h
  obtain ⟨_, happly⟩ := convertImports_apply hall
  rw [happly] at h
  exact ⟨hall, (Prod.mk.inj h).2.symm⟩

end Nativize.Conversion
