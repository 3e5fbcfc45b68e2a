import Nativize.Conversion.Usage
import Nativize.Proofs.Imports
import Nativize.Proofs.Template

/-!
# Imports that are provided

A conversion sees to it that a program imports certain things: it completes the first import that
can provide them, and adds one where there is none. Main statements: `Provision.provide` finds its
own result, and provisions of different modules do not get into each other's way.
-/

namespace Nativize.Conversion

open Syntax

/-! ## The first import that satisfies a test -/

theorem imports_cons (d : ImportDecl) (l : List Comment) (ps rest : List Ast) :
    (.node (.importDecl d) l ps :: rest : List Ast).filterMap importOf? =
      d :: rest.filterMap importOf? := rfl

/-- Either no import satisfies the test, or the first that does is changed. -/
theorem mapImport?_cases (test : ImportDecl → Bool) (change : ImportDecl → ImportDecl)
    (parts : List Ast) :
    (mapImport? test change parts = none ∧ (parts.filterMap importOf?).find? test = none) ∨
      ∃ before d l ps after, parts = before ++ .node (.importDecl d) l ps :: after ∧ test d = true ∧
        (before.filterMap importOf?).find? test = none ∧
        mapImport? test change parts =
          some (before ++ .node (.importDecl (change d)) l ps :: after) := by
  fun_induction mapImport? test change parts with
  | case1 => exact .inl ⟨rfl, rfl⟩
  | case2 d l ps rest h => exact .inr ⟨[], d, l, ps, rest, rfl, h, rfl, rfl⟩
  | case3 d l ps rest h ih =>
    rcases ih with ⟨hnone, hfind⟩ | ⟨before, d', l', ps', after, rfl, htest, hbefore, hsome⟩
    · exact .inl ⟨by rw [hnone]; rfl, by
        rw [imports_cons, List.find?_cons_of_neg h, hfind]⟩
    · refine .inr ⟨.node (.importDecl d) l ps :: before, d', l', ps', after, rfl, htest, ?_, ?_⟩
      · rw [imports_cons, List.find?_cons_of_neg h, hbefore]
      · rw [hsome]
        rfl
  | case4 s rest hs ih =>
    have hnot := importOf?_eq_none hs
    rcases ih with ⟨hnone, hfind⟩ | ⟨before, d, l, ps, after, rfl, htest, hbefore, hsome⟩
    · exact .inl ⟨by rw [hnone]; rfl, by rw [List.filterMap_cons_none hnot, hfind]⟩
    · refine .inr ⟨s :: before, d, l, ps, after, rfl, htest, ?_, ?_⟩
      · rw [List.filterMap_cons_none hnot, hbefore]
      · rw [hsome]
        rfl

theorem find?_imports_append {test : ImportDecl → Bool} {before : List Ast}
    (hbefore : (before.filterMap importOf?).find? test = none) {d : ImportDecl}
    (htest : test d = true) (l : List Comment) (ps after : List Ast) :
    ((before ++ .node (.importDecl d) l ps :: after).filterMap importOf?).find? test = some d := by
  rw [List.filterMap_append, List.find?_append, hbefore, imports_cons,
    List.find?_cons_of_pos htest]
  rfl

/-- Only the change of the first import that satisfies the test matters. -/
theorem mapImport?_congr {test : ImportDecl → Bool} {change other : ImportDecl → ImportDecl}
    {parts : List Ast}
    (h : ∀ d, (parts.filterMap importOf?).find? test = some d → change d = other d) :
    mapImport? test change parts = mapImport? test other parts := by
  fun_induction mapImport? test change parts with
  | case1 => rfl
  | case2 d l ps rest htest =>
    rw [mapImport?, if_pos htest, h d (List.find?_cons_of_pos htest)]
  | case3 d l ps rest htest ih =>
    rw [imports_cons, List.find?_cons_of_neg htest] at h
    rw [mapImport?, if_neg htest, ih h]
  | case4 s rest hs ih =>
    rw [List.filterMap_cons_none (importOf?_eq_none hs)] at h
    rw [mapImport?, ih h]
    exact hs

/-! ## Provisions -/

/-- Something that a program is to import from a module. -/
structure Provision where
  module : String
  /-- The import can provide it. -/
  fits : ImportDecl → Bool
  /-- The import with all that is to be provided. -/
  complete : ImportDecl → ImportDecl
  /-- The import that is added where none can provide it. -/
  fresh : ImportDecl
  source_of_fits {d : ImportDecl} (h : fits d = true) : d.source.text = module
  source_complete (d : ImportDecl) : (complete d).source = d.source
  fits_complete {d : ImportDecl} (h : fits d = true) : fits (complete d) = true
  complete_complete (d : ImportDecl) : complete (complete d) = complete d
  fits_fresh : fits fresh = true
  complete_fresh : complete fresh = fresh

namespace Provision

/-- Complete the first import that can provide it, or add one. -/
def provide (r : Provision) (parts : List Ast) : List Ast :=
  (mapImport? r.fits r.complete parts).getD (.leaf (.importDecl r.fresh) :: parts)

/-- The first import that can provide it does. -/
def IsProvided (r : Provision) (parts : List Ast) : Prop :=
  ∃ d, (parts.filterMap importOf?).find? r.fits = some d ∧ r.complete d = d

section Laws

variable {β : Type} (r : Provision) (parts : List Ast)

theorem provide_cases :
    ((parts.filterMap importOf?).find? r.fits = none ∧
      r.provide parts = .leaf (.importDecl r.fresh) :: parts) ∨
    ∃ before d l ps after, parts = before ++ .node (.importDecl d) l ps :: after ∧ r.fits d = true ∧
      (before.filterMap importOf?).find? r.fits = none ∧
      r.provide parts = before ++ .node (.importDecl (r.complete d)) l ps :: after := by
  rcases mapImport?_cases r.fits r.complete parts with
    ⟨hnone, hfind⟩ | ⟨before, d, l, ps, after, hparts, hfits, hbefore, hsome⟩
  · exact .inl ⟨hfind, by simp [provide, hnone]⟩
  · exact .inr ⟨before, d, l, ps, after, hparts, hfits, hbefore, by simp [provide, hsome]⟩

/-- After a provision it is provided. -/
theorem isProvided_provide : r.IsProvided (r.provide parts) := by
  rcases r.provide_cases parts with ⟨-, h⟩ | ⟨before, d, l, ps, after, rfl, hfits, hbefore, h⟩
  · refine ⟨r.fresh, ?_, r.complete_fresh⟩
    rw [h, Ast.leaf, imports_cons, List.find?_cons_of_pos r.fits_fresh]
  · exact ⟨r.complete d, h ▸ find?_imports_append hbefore (r.fits_complete hfits) l ps after,
      r.complete_complete d⟩

variable {r parts}

/-- What is provided already is not provided again. -/
theorem IsProvided.provide_eq (h : r.IsProvided parts) : r.provide parts = parts := by
  obtain ⟨d, hfind, hcomplete⟩ := h
  rcases r.provide_cases parts with ⟨hnone, -⟩ | ⟨before, d', l, ps, after, rfl, hfits, hbefore, h⟩
  · rw [hnone] at hfind
    cases hfind
  · rw [find?_imports_append hbefore hfits] at hfind
    obtain rfl := Option.some.inj hfind
    rw [h, hcomplete]

theorem provide_of_find?_eq_none (h : (parts.filterMap importOf?).find? r.fits = none) :
    r.provide parts = .leaf (.importDecl r.fresh) :: parts := by
  rcases r.provide_cases parts with ⟨-, hprovide⟩ |
    ⟨before, d, l, ps, after, rfl, hfits, hbefore, -⟩
  · exact hprovide
  · rw [find?_imports_append hbefore hfits] at h
    cases h

/-- A function of the statements that does not tell the added import, and does not tell a completed
one from what it was, is not changed. -/
theorem flatMap_provide {g : Ast → List β}
    (hcomplete : ∀ d l ps, r.fits d = true →
      g (.node (.importDecl (r.complete d)) l ps) = g (.node (.importDecl d) l ps))
    (hfresh : g (.leaf (.importDecl r.fresh)) = []) (parts : List Ast) :
    (r.provide parts).flatMap g = parts.flatMap g := by
  rcases r.provide_cases parts with ⟨-, h⟩ | ⟨before, d, l, ps, after, rfl, hfits, -, h⟩
  · simp [h, hfresh]
  · simp [h, hcomplete d l ps hfits]

theorem filterMap_provide {g : Ast → Option β}
    (hcomplete : ∀ d l ps, r.fits d = true →
      g (.node (.importDecl (r.complete d)) l ps) = g (.node (.importDecl d) l ps))
    (hfresh : g (.leaf (.importDecl r.fresh)) = none) (parts : List Ast) :
    (r.provide parts).filterMap g = parts.filterMap g := by
  rcases r.provide_cases parts with ⟨-, h⟩ | ⟨before, d, l, ps, after, rfl, hfits, -, h⟩
  · rw [h, List.filterMap_cons_none hfresh]
  · simp [h, List.filterMap_cons, hcomplete d l ps hfits]

/-- What holds of the statements holds after a provision when it passes to the completed import and
holds of the added one. -/
theorem forall_provide {property : Ast → Prop}
    (hcomplete : ∀ d l ps, r.fits d = true → property (.node (.importDecl d) l ps) →
      property (.node (.importDecl (r.complete d)) l ps))
    (hfresh : property (.leaf (.importDecl r.fresh))) (h : ∀ s ∈ parts, property s) :
    ∀ s ∈ r.provide parts, property s := by
  rcases r.provide_cases parts with ⟨-, hprovide⟩ |
    ⟨before, d, l, ps, after, rfl, hfits, -, hprovide⟩
  · rw [hprovide]
    exact List.forall_mem_cons.mpr ⟨hfresh, h⟩
  · rw [hprovide]
    simp only [List.forall_mem_append, List.forall_mem_cons] at h ⊢
    exact ⟨h.1, hcomplete d l ps hfits h.2.1, h.2.2⟩

theorem forall_imports_provide {property : ImportDecl → Prop}
    (hcomplete : ∀ d, r.fits d = true → property d → property (r.complete d))
    (hfresh : property r.fresh) (h : ∀ d ∈ parts.filterMap importOf?, property d) :
    ∀ d ∈ (r.provide parts).filterMap importOf?, property d := by
  simp only [List.forall_mem_filterMap] at h ⊢
  refine forall_provide (fun d l ps hfits hd d' hd' => ?_) (fun d hd => ?_) h
  · cases hd'
    exact hcomplete d hfits (hd d rfl)
  · cases hd
    exact hfresh

/-- What a module provides does not depend on what another does. -/
theorem find?_imports_provide (other : Provision) (h : r.module ≠ other.module) (parts : List Ast) :
    ((other.provide parts).filterMap importOf?).find? r.fits =
      (parts.filterMap importOf?).find? r.fits := by
  have hforeign {d : ImportDecl} (hd : d.source.text = other.module) : r.fits d = false := by
    rw [Bool.eq_false_iff]
    exact fun hfits => h ((r.source_of_fits hfits).symm.trans hd)
  simp only [← List.head?_filter, List.filter_filterMap]
  congr 1
  refine filterMap_provide (fun d l ps hd => ?_) ?_ parts
  · have hsource := other.source_of_fits hd
    have hcomplete : (other.complete d).source.text = other.module := by
      rw [other.source_complete, hsource]
    simp [importOf?, Option.filter, hforeign hsource, hforeign hcomplete]
  · simp [importOf?, Ast.leaf, hforeign (other.source_of_fits other.fits_fresh)]

theorem IsProvided.provide (hprovided : r.IsProvided parts) (other : Provision)
    (h : r.module ≠ other.module) : r.IsProvided (other.provide parts) := by
  obtain ⟨d, hfind, hcomplete⟩ := hprovided
  exact ⟨d, (find?_imports_provide other h parts).trans hfind, hcomplete⟩

end Laws

end Provision

/-! ## Named values -/

/-- The names that the import does not bind in braces. -/
def missingNames (names : List String) (d : ImportDecl) : List String :=
  names.filter fun name => !(namedImports d).contains name

/-- The import with all of the names. -/
def withAllNamed (names : List String) (d : ImportDecl) : ImportDecl :=
  if (missingNames names d).isEmpty then d
  else { d with
    specifiers := some (d.specifiers.getD [] ++ (missingNames names d).map namedSpecifier) }

section Named

variable (names : List String) (d : ImportDecl)

theorem namedImports_withAllNamed :
    namedImports (withAllNamed names d) = namedImports d ++ missingNames names d := by
  unfold withAllNamed
  split
  · next h => simp [List.isEmpty_iff.mp h]
  · simp [namedImports, namedSpecifier, ModuleName.text, List.filterMap_map, Function.comp_def]

theorem hasNamespace_withAllNamed : hasNamespace (withAllNamed names d) = hasNamespace d := by
  unfold withAllNamed
  split
  · rfl
  · simp [hasNamespace, namedSpecifier]

theorem source_withAllNamed : (withAllNamed names d).source = d.source := by
  unfold withAllNamed
  split <;> rfl

variable {names d}

theorem withAllNamed_eq_self (h : ∀ n ∈ names, n ∈ namedImports d) : withAllNamed names d = d := by
  have hmissing : missingNames names d = [] := by
    simpa [missingNames] using h
  simp [withAllNamed, hmissing]

theorem mem_namedImports_withAllNamed {n : String} (h : n ∈ names) :
    n ∈ namedImports (withAllNamed names d) := by
  rw [namedImports_withAllNamed, List.mem_append]
  by_cases hn : n ∈ namedImports d
  · exact .inl hn
  · exact .inr (by simpa [missingNames] using ⟨h, hn⟩)

end Named

/-- Named values of a module. -/
def Provision.named (module : String) (names : List String) : Provision where
  module := module
  fits := canImport module
  complete := withAllNamed names
  fresh := ⟨some (names.map namedSpecifier), ⟨module, false⟩, false, none, none⟩
  source_of_fits h := by
    simp only [canImport, Bool.and_eq_true, decide_eq_true_eq] at h
    exact h.1
  source_complete := source_withAllNamed names
  fits_complete {d} h := by
    simpa [canImport, source_withAllNamed, hasNamespace_withAllNamed] using h
  complete_complete d := withAllNamed_eq_self fun _ hn => mem_namedImports_withAllNamed hn
  fits_fresh := by simp [canImport, hasNamespace, namedSpecifier]
  complete_fresh := withAllNamed_eq_self fun n hn => by
    simpa [namedImports, namedSpecifier, ModuleName.text] using hn

/-- A whole module under a name. -/
def Provision.whole (module name : String) : Provision where
  module := module
  fits := bindsModule name module
  complete := id
  fresh := ⟨some [.byNamespace name], ⟨module, false⟩, false, none, none⟩
  source_of_fits h := by
    simp only [bindsModule, Bool.and_eq_true, decide_eq_true_eq] at h
    exact h.1
  source_complete _ := rfl
  fits_complete h := h
  complete_complete _ := rfl
  fits_fresh := by simp [bindsModule]
  complete_fresh := rfl

/-! ## Passes that provide imports -/

/-- The hook that loads fonts. -/
def fontProvision (names : Names) : Provision := .named (names .fontModule) [names .fontHook]

/-- The secure store. -/
def storeProvision (names : Names) : Provision :=
  .whole (names .secureStoreModule) (names .secureStoreNamespace)

/-- Names of the platform. -/
def platformProvision (names : Names) (used : List String) : Provision :=
  .named (names .platformUiModule) used

theorem complete_platformProvision (names : Names) (used : List String) :
    (platformProvision names used).complete = withAllNamed used := rfl

theorem specifiers_fresh_platformProvision (names : Names) (used : List String) :
    (platformProvision names used).fresh.specifiers = some (used.map namedSpecifier) := rfl

theorem namedImports_fresh_platformProvision (names : Names) (used : List String) :
    namedImports (platformProvision names used).fresh = used := by
  simp [platformProvision, Provision.named, namedImports, namedSpecifier, ModuleName.text,
    List.filterMap_map, Function.comp_def]

theorem withNamed_eq (name : String) : withNamed name = withAllNamed [name] := by
  funext d
  by_cases h : name ∈ namedImports d
  · rw [withAllNamed_eq_self (by simpa using h)]
    simp [withNamed, h]
  · simp [withNamed, withAllNamed, missingNames, addSpecifier, h]

theorem any_bindsModule (names : Names) (imports : List ImportDecl) :
    imports.any (bindsModule (names .secureStoreNamespace) (names .secureStoreModule)) =
      (imports.find? (storeProvision names).fits).isSome := by
  rw [Bool.eq_iff_iff, List.find?_isSome, List.any_eq_true]
  rfl

section Passes

variable {names : Names}

/-- The leading imports are provided one after the other. -/
theorem addLeadingImports_apply
    (hfont : templateStatement (namedImportText [names .fontHook] (names .fontModule)) =
      .ok (.leaf (.importDecl (fontProvision names).fresh)))
    (hstore : templateStatement
      (namespaceImportText (names .secureStoreNamespace) (names .secureStoreModule)) =
        .ok (.leaf (.importDecl (storeProvision names).fresh)))
    (hmodules : names .secureStoreModule ≠ names .fontModule) (hashbang : Option String)
    (directives : List Directive) (c l : List Comment) (parts : List Ast) :
    (addLeadingImports names).apply (.node (.program hashbang directives c) l parts) =
      (.ok (), .node (.program hashbang directives c) l
        ((storeProvision names).provide ((fontProvision names).provide parts))) := by
  have hfonts : (fontProvision names).provide parts =
      (mapImport? (canImport (names .fontModule)) (withNamed (names .fontHook)) parts).getD
        (.leaf (.importDecl (fontProvision names).fresh) :: parts) := by
    rw [withNamed_eq]
    rfl
  have hfind := Provision.find?_imports_provide (r := storeProvision names)
    (fontProvision names) hmodules parts
  unfold addLeadingImports
  simp only [Pass.apply_bind, Pass.apply_getStatements, statements_program, any_bindsModule]
  cases hstored : (parts.filterMap importOf?).find? (storeProvision names).fits with
  | some d =>
    rw [Provision.IsProvided.provide_eq ⟨d, hfind.trans hstored, rfl⟩, hfonts]
    cases mapImport? (canImport (names .fontModule)) (withNamed (names .fontHook)) parts with
    | some changed => simp
    | none => simp [prepend, hfont]
  | none =>
    rw [Provision.provide_of_find?_eq_none (hfind.trans hstored), hfonts]
    cases mapImport? (canImport (names .fontModule)) (withNamed (names .fontHook)) parts with
    | some changed => simp [prepend, hstore]
    | none => simp [prepend, hfont, hstore]

/-- The names that the import for the platform lacks. Where there is no such import they are all. -/
def platformMissing (names : Names) (used : List String) (parts : List Ast) : List String :=
  match (parts.filterMap importOf?).find? (canImport (names .platformUiModule)) with
  | some d => missingNames used d
  | none => used

/-- The names are provided by the platform. -/
theorem addPlatformImports_apply {used : List String} (hused : used ≠ [])
    (hplatform : templateStatement (namedImportText used (names .platformUiModule)) =
      .ok (.leaf (.importDecl (platformProvision names used).fresh))) (hashbang : Option String)
    (directives : List Directive) (c l : List Comment) (parts : List Ast) :
    (addPlatformImports names used).apply (.node (.program hashbang directives c) l parts) =
      (.ok (platformMissing names used parts).length, .node (.program hashbang directives c) l
        ((platformProvision names used).provide parts)) := by
  unfold addPlatformImports platformMissing
  simp only [Pass.apply_bind, Pass.apply_getStatements, statements_program]
  cases hfind : (parts.filterMap importOf?).find? (canImport (names .platformUiModule)) with
  | none =>
    rw [Provision.provide_of_find?_eq_none hfind]
    simp only [hused, List.isEmpty_iff, if_false, prepend, Pass.apply_bind, hplatform,
      Pass.apply_require_ok, Pass.apply_getStatements, Pass.apply_setStatements, Pass.apply_pure,
      statements_program, withStatements_program]
  | some d =>
    have hnames : (used.filter fun name => !(namedImports d).contains name) = missingNames used d :=
      rfl
    simp only [hnames]
    cases hmissing : (missingNames used d).isEmpty with
    | true =>
      have hcomplete : withAllNamed used d = d := by simp [withAllNamed, hmissing]
      rw [Provision.IsProvided.provide_eq ⟨d, hfind, hcomplete⟩, List.isEmpty_iff.mp hmissing]
      rfl
    | false =>
      -- the extension was worked out for the first import that fits, and is made to that import
      have hextend : mapImport? (canImport (names .platformUiModule)) (withAllNamed used) parts =
          mapImport? (canImport (names .platformUiModule)) (fun d' => { d' with
            specifiers :=
              some (d'.specifiers.getD [] ++ (missingNames used d).map namedSpecifier) })
            parts := by
        refine mapImport?_congr fun d' hd' => ?_
        obtain rfl : d = d' := Option.some.inj (hfind.symm.trans hd')
        simp [withAllNamed, hmissing]
      rcases mapImport?_cases (canImport (names .platformUiModule)) (withAllNamed used) parts with
        ⟨-, hnone⟩ | ⟨before, d', l', ps, after, -, -, -, hsome⟩
      · rw [hfind] at hnone
        cases hnone
      · have hprovide : (platformProvision names used).provide parts =
            before ++ .node (.importDecl (withAllNamed used d')) l' ps :: after := by
          simp [Provision.provide, platformProvision, Provision.named, hsome]
        rw [hprovide, if_neg (by simp), ← hextend, hsome]
        rfl

theorem addPlatformImports_nil (t : Ast) : (addPlatformImports names []).apply t = (.ok 0, t) := by
  unfold addPlatformImports
  simp only [Pass.apply_bind, Pass.apply_getStatements]
  cases ((statements t).filterMap importOf?).find? (canImport (names .platformUiModule)) <;> rfl

end Passes

end Nativize.Conversion
