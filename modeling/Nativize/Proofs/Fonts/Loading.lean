import Nativize.Proofs.Fonts.Statement
import Nativize.Proofs.Preamble
import Nativize.Proofs.Sweep.Navigation

/-!
# Loading fonts

Where a conversion puts the statement that loads fonts. Main statement: it is put first in the body
of each function that the profile lists and that lacks it, and nothing else changes.
-/

namespace Nativize.Conversion

open Syntax

/-! ## Functions that load fonts -/

/-- The node declares a function with a body whose name the profile lists, and no declaration of
variables among the statements of the body binds the outcome of the hook. -/
inductive LacksFonts (p : Profile) : Ast → Prop
  | mk {facts : FunctionFacts} {l nl bl : List Comment} {name : String} {ps body : List Ast}
      {generics params result : Ast} {ds : List Directive} {c : List Comment}
      (hform : facts.form = .declaration) (hname : name ∈ p.tables.fontTargets)
      (hfree : ∀ keyword isDeclare dl items,
        .node (.variableDecl keyword isDeclare) dl items ∈ body →
        ∀ d ∈ items, ¬ Binds (p.names .fontsLoadedBinding) (d.part 0)) :
      LacksFonts p (.node (.functionLike facts) l
        [.node (.binding name) nl ps, generics, params, result, .node (.body ds c) bl body])

/-- The second tree is the first with the statement put in front of the body of each function that
lacks it, and with nothing else changed. -/
inductive Loaded (p : Profile) (statement : Ast) : Ast → Ast → Prop
  | function {facts : FunctionFacts} {l c bl : List Comment} {ds : List Directive}
      {parts : List Ast}
      {name generics params result : Ast} {body : List Ast}
      (h : LacksFonts p (.node (.functionLike facts) l parts))
      (hparts : List.Forall₂ (Loaded p statement) parts
        [name, generics, params, result, .node (.body ds c) bl body]) :
      Loaded p statement (.node (.functionLike facts) l parts) (.node (.functionLike facts) l
        [name, generics, params, result, .node (.body ds c) bl (statement :: body)])
  | other {k : Kind} {l : List Comment} {parts parts' : List Ast}
      (h : ¬ LacksFonts p (.node k l parts))
      (hparts : List.Forall₂ (Loaded p statement) parts parts') :
      Loaded p statement (.node k l parts) (.node k l parts')

theorem declaresName_iff {name : String} {body : List Ast} : declaresName name body = true ↔
    ∃ keyword isDeclare l items, .node (.variableDecl keyword isDeclare) l items ∈ body ∧
      ∃ d ∈ items, Binds name (d.part 0) := by
  rw [declaresName, List.any_eq_true]
  simp only [mem_declarators, patternBinds_iff]
  constructor
  · rintro ⟨d, ⟨keyword, isDeclare, l, items, hs, hd⟩, hbinds⟩
    exact ⟨keyword, isDeclare, l, items, hs, d, hd, hbinds⟩
  · rintro ⟨keyword, isDeclare, l, items, hs, d, hd, hbinds⟩
    exact ⟨d, ⟨keyword, isDeclare, l, items, hs, hd⟩, hbinds⟩

section Loading

variable {p : Profile}

theorem needsFonts_iff {facts : FunctionFacts} {name : Ast} {body : List Ast} :
    needsFonts p facts name body = true ↔ facts.form = .declaration ∧
      (∃ n l ps, name = .node (.binding n) l ps ∧ n ∈ p.tables.fontTargets) ∧
      declaresName (p.names .fontsLoadedBinding) body = false := by
  constructor
  · intro h
    unfold needsFonts at h
    split at h
    · next hform =>
      simp only [Bool.and_eq_true, List.contains_iff_mem, Bool.not_eq_true'] at h
      exact ⟨hform, ⟨_, _, _, rfl, h.1⟩, h.2⟩
    · cases h
  · rintro ⟨hform, ⟨n, l, ps, rfl, hn⟩, hfree⟩
    simp [needsFonts, hform, hn, hfree]

theorem isFontTarget_iff_lacksFonts {t : Ast} : isFontTarget p t = true ↔ LacksFonts p t := by
  obtain ⟨k, l, parts⟩ := t
  rw [isFontTarget_iff]
  constructor
  · rintro ⟨facts, name, generics, params, result, ds, c, bl, body, rfl, rfl, hneeds⟩
    obtain ⟨hform, ⟨n, nl, ps, rfl, hn⟩, hfree⟩ := needsFonts_iff.mp hneeds
    refine .mk hform hn fun keyword isDeclare dl items hs d hd hbinds => ?_
    rw [Bool.eq_false_iff] at hfree
    exact hfree (declaresName_iff.mpr ⟨keyword, isDeclare, dl, items, hs, d, hd, hbinds⟩)
  · rintro ⟨hform, hname, hfree⟩
    refine ⟨_, _, _, _, _, _, _, _, _, rfl, rfl,
      needsFonts_iff.mpr ⟨hform, ⟨_, _, _, rfl, hname⟩, ?_⟩⟩
    rw [Bool.eq_false_iff]
    intro hdeclares
    obtain ⟨keyword, isDeclare, dl, items, hs, d, hd, hbinds⟩ := declaresName_iff.mp hdeclares
    exact hfree keyword isDeclare dl items hs d hd hbinds

instance : DecidablePred (LacksFonts p) := fun _ => decidable_of_iff _ isFontTarget_iff_lacksFonts

theorem loaded_withFonts (statement t : Ast) : Loaded p statement t (withFonts p statement t) := by
  induction t using Ast.induct with
  | node k l parts ih =>
    have hparts : List.Forall₂ (Loaded p statement) parts (parts.map (withFonts p statement)) :=
      List.forall₂_map_right_iff.mpr (List.forall₂_same.mpr ih)
    rw [withFonts_node]
    cases htarget : isFontTarget p (.node k l parts) with
    | false =>
      rw [if_neg (by simp)]
      exact .other (fun h => by simp [isFontTarget_iff_lacksFonts.mpr h] at htarget) hparts
    | true =>
      have hlacks := isFontTarget_iff_lacksFonts.mp htarget
      obtain ⟨facts, name, generics, params, result, ds, c, bl, body, rfl, rfl, -⟩ :=
        isFontTarget_iff.mp htarget
      simp only [if_true, List.map_cons, List.map_nil, startWith,
        withFonts_of_kind p statement (k := .body ds c) (by simp)] at hparts ⊢
      exact .function hlacks hparts

theorem all_not_isFontTarget_of_nil (h : p.tables.fontTargets = []) (t : Ast) :
    t.All fun n => isFontTarget p n = false := by
  intro n _
  rw [Bool.eq_false_iff]
  intro htarget
  obtain ⟨-, hname, -⟩ := isFontTarget_iff_lacksFonts.mp htarget
  simp [h] at hname

theorem countP_lacksFonts (t : Ast) : t.nodes.countP (LacksFonts p ·) = targetCount p t :=
  List.countP_congr fun n _ => by rw [decide_eq_true_eq, isFontTarget_iff_lacksFonts]

/-- With the default names fonts are loaded for all faces and in all functions that the profile
lists. -/
theorem addFontLoading_default (hnames : p.names = Role.defaultName) (t : Ast) :
    (addFontLoading p).apply t = (.ok (targetCount p t),
      withFonts p (fontLoader "fontsLoaded" "useFonts" p.tables.fontFaces) t) := by
  by_cases htargets : p.tables.fontTargets = []
  · have hall := all_not_isFontTarget_of_nil htargets t
    have hcount : targetCount p t = 0 := List.countP_eq_zero.mpr fun n hn => by simp [hall n hn]
    rw [hcount, withFonts_eq_self hall]
    simp [addFontLoading, htargets]
  · have hbinding : p.names .fontsLoadedBinding = "fontsLoaded" := by rw [hnames]; rfl
    have hhook : p.names .fontHook = "useFonts" := by rw [hnames]; rfl
    have htemplate := templateStatement_fontText (p := p) (by rw [hbinding]; decide +kernel)
      (by rw [hhook]; decide +kernel)
    rw [hbinding, hhook] at htemplate
    exact addFontLoading_apply htargets htemplate t

end Loading

/-- With the default names, fonts are loaded in each function that the profile lists and that lacks
them, and nothing else changes. The answer is the number of these functions. -/
theorem fonts_loaded_where_lacking {p : Profile} (hnames : p.names = Role.defaultName) (t : Ast) :
    ∃ t', (addFontLoading p).apply t = (.ok (t.nodes.countP (LacksFonts p ·)), t') ∧
      Loaded p (fontLoader "fontsLoaded" "useFonts" p.tables.fontFaces) t t' := by
  refine ⟨_, ?_, loaded_withFonts _ t⟩
  rw [countP_lacksFonts, addFontLoading_default hnames]

/-- A profile with the default names that lists three functions and a face with quotes in its name.
-/
def headingProfile : Profile :=
  { Profile.default with tables := { Tables.default with
      fontTargets := ["App", "Page", "Panel"]
      fontFaces := [⟨"Inter \"Bold\"", "./fonts/inter\nbold.ttf"⟩, ⟨"", ""⟩] } }

/-- A program with a function of the profile inside another, one that binds the outcome in a
pattern, and an expression that is called like one. -/
def nestedFunctions : List Char :=
  ("function App() \x7b const a = () => \x7b function Page() \x7b fontsLoaded; \x7d \x7d; \x7d" ++
    "export default function Panel() \x7b let [\x7b a: [...fontsLoaded] \x7d = b] = c; \x7d" ++
    "const f = function App() \x7b\x7d;").toList

theorem fonts_loaded_in_nestedFunctions : headingProfile.names = Role.defaultName ∧
    ∃ t t', parseProgram nestedFunctions = some t ∧
      (addFontLoading headingProfile).apply t = (.ok 2, t') ∧
      Loaded headingProfile (fontLoader "fontsLoaded" "useFonts" headingProfile.tables.fontFaces)
        t t' := by
  have hrun : ∃ t ∈ parseProgram nestedFunctions, targetCount headingProfile t = 2 := by
    decide +kernel
  obtain ⟨t, hparse, hcount⟩ := hrun
  obtain ⟨t', happly, hloaded⟩ := fonts_loaded_where_lacking (p := headingProfile) rfl t
  rw [countP_lacksFonts, hcount] at happly
  exact ⟨rfl, t, t', hparse, happly, hloaded⟩

end Nativize.Conversion
