import Mathlib.Data.List.Forall2
import Nativize.Proofs.ImportRules
import Nativize.Proofs.Syntax.Parser.Program

/-!
# Runs of the conversion of imports

A conversion of the imports works on the statements of a program in place: it takes some imports
away and replaces others. Main statement: for the default profile, which statements go, what the
others become, and that two runs are enough. The first run may leave an image in the asset directory
itself, the second moves it to where it stays.
-/

namespace Nativize.Conversion

open Syntax

/-! ## One run -/

/-- The statement is an import that goes: it brings a stylesheet, from neither the base module nor
the web router. -/
def isDropped (p : Profile) (s : Ast) : Bool :=
  match importOf? s with
  | some d => d.source.text ≠ p.names .baseModule && d.source.text ≠ p.names .webRouterModule &&
      p.tables.isStylesheet d.source.text
  | none => false

/-- What becomes of a statement that stays: an import is converted by the rule that fits it, and any
other statement is the same. -/
inductive Survives (p : Profile) : Ast → Ast → Prop
  | imported {d d' : ImportDecl} (l : List Comment) (parts : List Ast)
      (h : ImportRule p d (.keep d')) :
      Survives p (.node (.importDecl d) l parts) (.node (.importDecl d') l parts)
  | other {s : Ast} (h : importOf? s = none) : Survives p s s

section Run

variable {p : Profile}

theorem isDropped_import (d : ImportDecl) (l : List Comment) (parts : List Ast) :
    isDropped p (.node (.importDecl d) l parts) = true ↔ convertImport p d = .ok .remove := by
  simp only [isDropped, importOf?, Bool.and_eq_true, decide_eq_true_eq]
  constructor
  · rintro ⟨⟨hbase, hrouter⟩, hstylesheet⟩
    simp [convertImport, hbase, hrouter, hstylesheet]
  · intro h
    have hbase : d.source.text ≠ p.names .baseModule := by
      intro hbase
      simp [convertImport, hbase] at h
    cases importRule_of_ok h with
    | stylesheet hrouter hstylesheet => exact ⟨⟨hbase, hrouter⟩, hstylesheet⟩

theorem isDropped_of_isNone {s : Ast} (h : importOf? s = none) : isDropped p s = false := by
  simp [isDropped, h]

/-- Where no import is refused, the statements that are not dropped stay in order. -/
theorem forall₂_convertStatement? {parts : List Ast} (h : ∀ s ∈ parts, isAcceptable p s) :
    List.Forall₂ (Survives p) (parts.filter fun s => !isDropped p s)
      (parts.filterMap (convertStatement? p)) := by
  induction parts with
  | nil => exact .nil
  | cons s rest ih =>
    obtain ⟨hs, hrest⟩ := List.forall_mem_cons.mp h
    have hrest := ih hrest
    cases hd : importOf? s with
    | none =>
      rw [List.filter_cons_of_pos (by simp [isDropped_of_isNone hd]), List.filterMap_cons,
        convertStatement?_of_isNone p hd]
      exact .cons (.other hd) hrest
    | some d =>
      obtain ⟨l, ps, rfl⟩ := eq_import_of_importOf? hd
      have hdropped := isDropped_import (p := p) d l ps
      rw [isAcceptable_import] at hs
      cases hconvert : convertImport p d with
      | error b =>
        rw [hconvert] at hs
        cases hs
      | ok action =>
        rw [hconvert] at hdropped
        cases action with
        | remove =>
          rw [List.filter_cons_of_neg (by simp [hdropped]), List.filterMap_cons]
          simpa [convertStatement?, hconvert] using hrest
        | keep d' =>
          rw [List.filter_cons_of_pos (by simpa using hdropped), List.filterMap_cons]
          simpa [convertStatement?, hconvert] using
            List.Forall₂.cons (.imported l ps (importRule_of_ok hconvert)) hrest

theorem length_importSteps (parts : List Ast) :
    (importSteps p parts).1.length = parts.length := by
  fun_induction importSteps p parts <;> simp_all

/-- A conversion counts the statements that it takes away. -/
theorem removed_convertImports {t t' : Ast} {removed : Nat}
    (h : (convertImports p).apply t = (.ok removed, t')) :
    removed = (statements t).length - ((statements t).filterMap (convertStatement? p)).length := by
  obtain ⟨hacceptable, -⟩ := convertImports_ok h
  obtain ⟨hbreach, hkept⟩ := importSteps_spec p (statements t)
  unfold convertImports at h
  simp only [Pass.apply_bind, Pass.apply_getStatements, Pass.apply_setStatements,
    hbreach.mpr hacceptable, Pass.apply_check_none, Pass.apply_pure] at h
  rw [← Except.ok.inj (Prod.mk.inj h).1, ← hkept hacceptable, List.length_map,
    length_importSteps]

theorem removed_eq_countP {t t' : Ast} {removed : Nat}
    (h : (convertImports p).apply t = (.ok removed, t')) :
    removed = (statements t).countP (isDropped p) := by
  have hlength := (forall₂_convertStatement? (convertImports_ok h).1).length_eq
  have hsplit := List.length_eq_countP_add_countP (isDropped p) (l := statements t)
  rw [removed_convertImports h, ← hlength, ← List.countP_eq_length_filter]
  simp at hsplit ⊢
  omega

theorem isAcceptable_of_isSome {s : Ast} (h : (convertStatement? p s).isSome = true) :
    isAcceptable p s = true := by
  revert h
  fun_cases convertStatement? p s with
  | case1 d l parts d' hkeep => simp [hkeep, Except.isOk, Except.toBool]
  | case2 d l parts hkeep => simp
  | case3 _ hother => exact fun _ => isAcceptable_of_isNone p (importOf?_eq_none hother)

/-- A conversion that takes no statement away. -/
theorem convertImports_of_isSome {t : Ast}
    (h : ∀ s ∈ statements t, (convertStatement? p s).isSome = true) :
    (convertImports p).apply t =
      (.ok 0, withStatements t ((statements t).filterMap (convertStatement? p))) := by
  obtain ⟨removed, happly⟩ := convertImports_apply fun s hs => isAcceptable_of_isSome (h s hs)
  have hlength : ((statements t).filterMap (convertStatement? p)).length = (statements t).length :=
    List.filterMap_length_eq_length.mpr h
  rw [happly, removed_convertImports happly, hlength, Nat.sub_self]

theorem convertImports_eq_self {t : Ast}
    (h : ∀ s ∈ statements t, convertStatement? p s = some s) :
    (convertImports p).apply t = (.ok 0, t) := by
  rw [convertImports_of_isSome fun s hs => by rw [h s hs]; rfl, List.filterMap_congr h,
    List.filterMap_some, withStatements_statements]

end Run

/-! ## Later runs -/

namespace Sorted

variable {p : Profile} (hp : Sorted p)

include hp

/-- An import that was converted twice is kept as it is. -/
theorem exists_keep_twice {d d' : ImportDecl} (h : convertImport p d = .ok (.keep d')) :
    ∃ d'', convertImport p d' = .ok (.keep d'') ∧ convertImport p d'' = .ok (.keep d'') := by
  obtain ⟨d'', hagain⟩ := hp.exists_keep h
  refine ⟨d'', hagain, (hp.convertImport_eq_keep_iff hagain).mpr fun himage => ?_⟩
  -- An image that was moved is in a directory.
  rw [hp.isImage_keep h] at himage
  rw [hp.convertImport_image himage, convertImage] at h
  split at h
  · cases h
  · cases h
    simp

theorem exists_convertStatement?_twice {s s' : Ast} (h : convertStatement? p s = some s') :
    ∃ s'', convertStatement? p s' = some s'' ∧ convertStatement? p s'' = some s'' := by
  revert h
  fun_cases convertStatement? p s with
  | case1 d l parts d' hkeep =>
    intro h
    cases h
    obtain ⟨d'', hagain, hstays⟩ := hp.exists_keep_twice hkeep
    exact ⟨.node (.importDecl d'') l parts, by simp [convertStatement?, hagain],
      by simp [convertStatement?, hstays]⟩
  | case2 d l parts hkeep =>
    intro h
    cases h
  | case3 _ hother =>
    intro h
    cases h
    have hsame := convertStatement?_of_isNone p (importOf?_eq_none hother)
    exact ⟨s, hsame, hsame⟩

/-- A second run takes no statement away, and a third changes nothing. -/
theorem convertImports_twice {t t' : Ast} {removed : Nat} (hprogram : t.isProgram = true)
    (h : (convertImports p).apply t = (.ok removed, t')) :
    ∃ t'', (convertImports p).apply t' = (.ok 0, t'') ∧
      (convertImports p).apply t'' = (.ok 0, t'') := by
  obtain ⟨-, rfl⟩ := convertImports_ok h
  obtain ⟨hashbang, directives, c, l, parts, rfl⟩ := Ast.isProgram_iff.mp hprogram
  simp only [statements_program, withStatements_program]
  have hsecond : ∀ s' ∈ parts.filterMap (convertStatement? p), ∃ s'',
      convertStatement? p s' = some s'' ∧ convertStatement? p s'' = some s'' := by
    intro s' hs'
    obtain ⟨s, -, hs⟩ := List.mem_filterMap.mp hs'
    exact hp.exists_convertStatement?_twice hs
  have hthird : ∀ s'' ∈ (parts.filterMap (convertStatement? p)).filterMap (convertStatement? p),
      convertStatement? p s'' = some s'' := by
    intro s'' hs''
    obtain ⟨s', hs', heq⟩ := List.mem_filterMap.mp hs''
    obtain ⟨_, heq', hstays⟩ := hsecond s' hs'
    rw [heq] at heq'
    cases heq'
    exact hstays
  refine ⟨_, convertImports_of_isSome fun s' hs' => ?_, convertImports_eq_self hthird⟩
  obtain ⟨_, heq, -⟩ := hsecond s' hs'
  simp [heq]

end Sorted

/-- For the default profile and a program whose imports can be converted: the imports of stylesheets
go and are counted, every other statement stays in its place, and only imports are changed. A second
run takes nothing away, and a third leaves the program as the second did. -/
theorem imports_converted_in_place {t t' : Ast} {removed : Nat} (hprogram : t.isProgram = true)
    (h : (convertImports .default).apply t = (.ok removed, t')) :
    t' = withStatements t (statements t') ∧
    List.Forall₂ (Survives .default) ((statements t).filter fun s => !isDropped .default s)
      (statements t') ∧
    removed = (statements t).countP (isDropped .default) ∧
    ∃ t'', (convertImports .default).apply t' = (.ok 0, t'') ∧
      (convertImports .default).apply t'' = (.ok 0, t'') := by
  obtain ⟨hacceptable, rfl⟩ := convertImports_ok h
  have hstatements : statements (withStatements t
      ((statements t).filterMap (convertStatement? .default))) =
        (statements t).filterMap (convertStatement? .default) := by
    obtain ⟨hashbang, directives, c, l, parts, rfl⟩ := Ast.isProgram_iff.mp hprogram
    rfl
  refine ⟨by rw [hstatements], ?_, removed_eq_countP h,
    sorted_default.convertImports_twice hprogram h⟩
  rw [hstatements]
  exact forall₂_convertStatement? hacceptable

/-- Imports between other statements, among them one of an image without a directory. -/
def importingStatements : List Char :=
  ("import 'a.css'; f(); import logo, * as all from 'b.png'; import 'react-native'; " ++
    "import 'c.css'; g(); import \x7b useNavigate \x7d from 'react-router-dom';").toList

theorem imports_converted_in_importingStatements : ∃ t t' t'',
    parseProgram importingStatements = some t ∧ (statements t).length = 7 ∧
    (convertImports .default).apply t = (.ok 2, t') ∧ t' = withStatements t (statements t') ∧
    List.Forall₂ (Survives .default) ((statements t).filter fun s => !isDropped .default s)
      (statements t') ∧
    (statements t).countP (isDropped .default) = 2 ∧
    (convertImports .default).apply t' = (.ok 0, t'') ∧
    (convertImports .default).apply t'' = (.ok 0, t'') := by
  have hrun : ∃ t ∈ parseProgram importingStatements, (statements t).length = 7 ∧
      ((convertImports .default).apply t).1 = .ok 2 := by
    decide +kernel
  obtain ⟨t, hparse, hlength, hok⟩ := hrun
  obtain ⟨-, hprogram⟩ := parseProgram_wellFormed hparse
  obtain ⟨hframe, hsurvive, hcount, t'', hsecond, hthird⟩ :=
    imports_converted_in_place hprogram (Prod.ext hok rfl)
  exact ⟨t, _, t'', hparse, hlength, Prod.ext hok rfl, hframe, hsurvive, hcount.symm,
    hsecond, hthird⟩

end Nativize.Conversion
