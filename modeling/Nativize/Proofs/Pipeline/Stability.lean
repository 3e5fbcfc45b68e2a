import Mathlib.Data.List.Basic
import Nativize.Proofs.ImportRules
import Nativize.Proofs.Pipeline.Completion
import Nativize.Proofs.Sweep.Tables
import Nativize.Proofs.Syntax.Parser.Program

/-!
# Stability of a conversion

A converted program can be converted again. There is nothing left to sweep in it, so a second run
converts its imports and completes it once more. Main statement: the second run changes nothing
exactly when the source binds at most one style table and its images come out of directories.
-/

namespace Nativize.Conversion

open Syntax

/-- The imports of images among the statements. -/
def imageImports (p : Profile) (parts : List Ast) : List ImportDecl :=
  (parts.filterMap importOf?).filter fun d => p.tables.isImage d.source.text

section Images

variable {p : Profile} {parts : List Ast}

theorem Provision.imageImports_provide (r : Provision) (h : p.tables.isImage r.module = false) :
    imageImports p (r.provide parts) = imageImports p parts := by
  simp only [imageImports, List.filter_filterMap]
  refine r.filterMap_provide (fun d l ps hfits => ?_) ?_ parts
  · simp [importOf?, Option.filter, r.source_complete, r.source_of_fits hfits, h]
  · simp [importOf?, Option.filter, Ast.leaf, r.source_of_fits r.fits_fresh, h]

/-- No image is added to a program, and none is changed, when it is completed. -/
theorem Sorted.imageImports_complete (hp : Sorted p) (hreadable : Readable p) :
    imageImports p (complete p parts) = imageImports p parts := by
  have hpreamble :
      imageImports p (withPreamble p parts) = imageImports p ((storeProvision p.names).provide
      ((fontProvision p.names).provide (bindStylesheet p parts))) := by
    rw [imageImports, imports_withPreamble hreadable]
    rfl
  rw [complete, (platformProvision p.names _).imageImports_provide hp.platformImage, hpreamble,
    (storeProvision p.names).imageImports_provide (isImage_of_isForeign hp.store),
    (fontProvision p.names).imageImports_provide (isImage_of_isForeign hp.font), imageImports,
    imports_bindStylesheet]
  rfl

/-- The images of the converted statements are the images of the statements, converted. -/
theorem Sorted.imageImports_convertStatement? (hp : Sorted p) :
    imageImports p (parts.filterMap (convertStatement? p)) =
      (imageImports p parts).filterMap (keptImport? p) := by
  rw [imageImports, imports_convertStatement?, List.filter_filterMap, imageImports,
    List.filterMap_filter]
  refine congrArg (List.filterMap · _) (funext fun d => ?_)
  cases hkept : keptImport? p d with
  | none => simp
  | some d' =>
    have himage := hp.isImage_keep (keptImport?_eq_some_iff.mp hkept)
    simp [Option.filter, himage]

end Images

section Second

variable {p : Profile} {parts : List Ast}

/-- The imports that completion adds or completes are converted to themselves. -/
theorem Sorted.convertImport_provided (hp : Sorted p) (hreadable : Readable p) :
    ∀ r ∈ [fontProvision p.names, storeProvision p.names,
        platformProvision p.names (needs p (withPreamble p parts))],
      ∀ d, d = r.fresh ∨ (∃ d₀, r.fits d₀ = true ∧ d = r.complete d₀) →
        convertImport p d = .ok (.keep d) := by
  have hforeign {r : Provision} (h : isForeign p r.module = true) (d : ImportDecl)
      (hd : d = r.fresh ∨ (∃ d₀, r.fits d₀ = true ∧ d = r.complete d₀)) :
      convertImport p d = .ok (.keep d) := by
    refine convertImport_of_isForeign ?_
    rcases hd with rfl | ⟨d₀, hfits, rfl⟩
    · rw [r.source_of_fits r.fits_fresh, h]
    · rw [r.source_complete, r.source_of_fits hfits, h]
  have hplatform {d : ImportDecl} (hsource : d.source.text = p.names .platformUiModule)
      (hapi : p.names .stylesheetApi ∈ namedImports d) : convertImport p d = .ok (.keep d) := by
    rw [hp.convertImport_platform hsource, withStylesheetApi_eq_self (.inr hapi)]
  have hneeds := api_mem_needs_withPreamble hreadable parts
  simp only [List.forall_mem_cons, List.not_mem_nil, false_imp_iff, implies_true, and_true]
  refine ⟨hforeign hp.font, hforeign hp.store, ?_⟩
  rintro d (rfl | ⟨d₀, hfits, rfl⟩)
  · refine hplatform rfl ?_
    rwa [namedImports_fresh_platformProvision]
  · refine hplatform ?_ ?_
    · rw [Provision.source_complete, Provision.source_of_fits _ hfits]
      rfl
    · rw [complete_platformProvision]
      exact mem_namedImports_withAllNamed hneeds

/-- The imports of a completed program are kept if those of the program are. -/
theorem Sorted.exists_keep_complete (hp : Sorted p) (hreadable : Readable p)
    (h : ∀ d ∈ parts.filterMap importOf?, ∃ d', convertImport p d = .ok (.keep d')) :
    ∀ d ∈ (complete p parts).filterMap importOf?, ∃ d', convertImport p d = .ok (.keep d') := by
  refine forall_imports_complete hreadable (fun r hr => ⟨?_, fun d hfits _ => ?_⟩) h
  · exact ⟨_, hp.convertImport_provided hreadable r hr _ (.inl rfl)⟩
  · exact ⟨_, hp.convertImport_provided hreadable r hr _ (.inr ⟨d, hfits, rfl⟩)⟩

/-- The imports of a completed program are kept as they are if those of the program are. -/
theorem Sorted.keep_complete (hp : Sorted p) (hreadable : Readable p)
    (h : ∀ d ∈ parts.filterMap importOf?, convertImport p d = .ok (.keep d)) :
    ∀ d ∈ (complete p parts).filterMap importOf?, convertImport p d = .ok (.keep d) :=
  forall_imports_complete hreadable (fun r hr =>
    ⟨hp.convertImport_provided hreadable r hr _ (.inl rfl),
      fun d hfits _ => hp.convertImport_provided hreadable r hr _ (.inr ⟨d, hfits, rfl⟩)⟩) h

theorem convertStatement?_eq_some {s : Ast}
    (h : ∀ d, importOf? s = some d → convertImport p d = .ok (.keep d)) :
    convertStatement? p s = some s := by
  unfold convertStatement?
  split
  · next d l ps => simp [h d rfl]
  · rfl

theorem isAcceptable_of_exists_keep {s : Ast}
    (h : ∀ d, importOf? s = some d → ∃ d', convertImport p d = .ok (.keep d')) :
    isAcceptable p s = true := by
  unfold isAcceptable
  split
  · next d l ps =>
    obtain ⟨d', hkeep⟩ := h d rfl
    rw [hkeep]
    rfl
  · rfl

/-- A conversion of a settled program whose imports are kept converts them and completes the
program. -/
theorem Settled.convertAll_apply {t : Ast} (h : Settled p t) (hreadable : Readable p)
    (hprogram : t.isProgram = true)
    (himports : ∀ d ∈ (statements t).filterMap importOf?, ∃ d',
      convertImport p d = .ok (.keep d')) :
    (convertAll p).apply t =
      (.ok (needs p (withPreamble p ((statements t).filterMap (convertStatement? p)))),
        withStatements t (complete p ((statements t).filterMap (convertStatement? p)))) := by
  have hacceptable : ∀ s ∈ statements t, isAcceptable p s = true := fun s hs =>
    isAcceptable_of_exists_keep fun d hd => himports d (List.mem_filterMap.mpr ⟨s, hs, hd⟩)
  obtain ⟨tally, hsweep⟩ := h.combinedSweep_apply hacceptable
  obtain ⟨hashbang, directives, c, l, parts, rfl⟩ := Ast.isProgram_iff.mp hprogram
  exact Conversion.convertAll_apply hreadable hsweep

end Second

/-! ## Stable programs -/

section Stable

variable {p : Profile} {parts : List Ast}

theorem eq_some_of_filterMap_eq_self {α : Type} {f : α → Option α} {l : List α}
    (hsome : ∀ x ∈ l, ∃ y, f x = some y) (h : l.filterMap f = l) : ∀ x ∈ l, f x = some x := by
  induction l with
  | nil => nofun
  | cons x rest ih =>
    obtain ⟨⟨y, hy⟩, hrest⟩ := List.forall_mem_cons.mp hsome
    rw [List.filterMap_cons_some hy] at h
    obtain ⟨rfl, hself⟩ := List.cons.inj h
    exact List.forall_mem_cons.mpr ⟨hy, ih hrest hself⟩

/-- A completed program with converted imports is completed again to itself when no table is bound
in it any more and its images stay where they are. -/
theorem Sorted.complete_eq_self_iff (hp : Sorted p) (hreadable : Readable p)
    (hconverted : ∀ d ∈ parts.filterMap importOf?, ∃ d₀, convertImport p d₀ = .ok (.keep d)) :
    complete p ((complete p parts).filterMap (convertStatement? p)) = complete p parts ↔
      (parts.flatMap topDeclarators).countP (bindsTable (p.names .stylesBinding)) ≤ 1 ∧
        ∀ d ∈ imageImports p parts, convertImport p d = .ok (.keep d) := by
  constructor
  · intro h
    constructor
    · -- Each run takes a table away, so that there is none left.
      have hcount (ts : List Ast) : ((complete p ts).flatMap topDeclarators).countP
          (bindsTable (p.names .stylesBinding)) = (ts.flatMap topDeclarators).countP
            (bindsTable (p.names .stylesBinding)) - 1 := countP_complete hreadable
      have himports : ((complete p parts).filterMap (convertStatement? p)).flatMap topDeclarators =
          (complete p parts).flatMap topDeclarators :=
            flatMap_convertStatement? p fun _ _ _ _ _ => rfl
      have hagain := hcount ((complete p parts).filterMap (convertStatement? p))
      rw [h, himports, hcount parts] at hagain
      omega
    · have himages := congrArg (imageImports p) h
      rw [hp.imageImports_complete hreadable, hp.imageImports_convertStatement?,
        hp.imageImports_complete hreadable] at himages
      have hkept : ∀ d ∈ imageImports p parts, ∃ d', keptImport? p d = some d' := by
        intro d hd
        obtain ⟨d₀, hd₀⟩ := hconverted d (List.mem_filter.mp hd).1
        obtain ⟨d', hd'⟩ := hp.exists_keep hd₀
        exact ⟨d', keptImport?_eq_some_iff.mpr hd'⟩
      exact fun d hd => keptImport?_eq_some_iff.mp (eq_some_of_filterMap_eq_self hkept himages d hd)
  · rintro ⟨htables, himages⟩
    have hsame : ∀ d ∈ parts.filterMap importOf?, convertImport p d = .ok (.keep d) := by
      intro d hd
      cases himage : p.tables.isImage d.source.text with
      | true => exact himages d (List.mem_filter.mpr ⟨hd, himage⟩)
      | false =>
        obtain ⟨d₀, hd₀⟩ := hconverted d hd
        refine (hp.convertImport_eq_keep_iff hd₀).mpr fun himage₀ => ?_
        rw [← hp.isImage_keep hd₀, himage] at himage₀
        cases himage₀
    have hstatements : (complete p parts).filterMap (convertStatement? p) = complete p parts := by
      have hself : ∀ s ∈ complete p parts, convertStatement? p s = some s := fun s hs =>
        convertStatement?_eq_some fun d hd =>
          hp.keep_complete hreadable hsame d (List.mem_filterMap.mpr ⟨s, hs, hd⟩)
      rw [List.filterMap_congr hself, List.filterMap_some]
    rw [hstatements, complete_complete hreadable htables]

theorem Sorted.exists_keep_of_isImage (hp : Sorted p) {d : ImportDecl}
    (himage : p.tables.isImage d.source.text = true) (hok : (convertImport p d).isOk = true) :
    ∃ d', convertImport p d = .ok (.keep d') := by
  rw [hp.convertImport_image himage] at hok ⊢
  cases hd : convertImage p.tables d with
  | error b => rw [hd] at hok; cases hok
  | ok d' => exact ⟨d', rfl⟩

/-- The images of the swept program stay where they are when those of the program come out of
directories. -/
theorem Sorted.keep_images_iff (hp : Sorted p) {t : Ast}
    (hacceptable : ∀ s ∈ statements t, isAcceptable p s) :
    (∀ d ∈ imageImports p (sweptStatements p t), convertImport p d = .ok (.keep d)) ↔
      ∀ d ∈ (statements t).filterMap importOf?, isAsset p d.source.text = true →
        '/' ∈ d.source.text.toList := by
  have hmem {d' : ImportDecl} : d' ∈ imageImports p (sweptStatements p t) ↔
      ∃ d ∈ (statements t).filterMap importOf?, convertImport p d = .ok (.keep d') ∧
        p.tables.isImage d.source.text = true := by
    simp only [imageImports, List.mem_filter, mem_imports_sweptStatements]
    constructor
    · rintro ⟨⟨d, hd, hkeep⟩, himage⟩
      exact ⟨d, hd, hkeep, hp.isImage_keep hkeep ▸ himage⟩
    · rintro ⟨d, hd, hkeep, himage⟩
      exact ⟨⟨d, hd, hkeep⟩, (hp.isImage_keep hkeep).trans himage⟩
  simp only [hp.isAsset_eq]
  constructor
  · intro h d hd himage
    obtain ⟨d', hkeep⟩ := hp.exists_keep_of_isImage himage (isOk_of_isAcceptable hacceptable hd)
    exact (hp.convertImport_eq_keep_iff hkeep).mp (h d' (hmem.mpr ⟨d, hd, hkeep, himage⟩)) himage
  · intro h d' hd'
    obtain ⟨d, hd, hkeep, -⟩ := hmem.mp hd'
    exact (hp.convertImport_eq_keep_iff hkeep).mpr (h d hd)

end Stable

/-- For the default profile a converted program can be converted again, and the second run changes
neither the program nor the list of used names exactly when the source binds at most one style table
and no image that it imports has a path without a slash. -/
theorem converted_program_stable_iff {source : List Char} {t t' : Ast} {used : List String}
    (hparse : parseProgram source = some t)
    (h : (convertAll .default).apply t = (.ok used, t')) :
    ∃ used' t'', (convertAll .default).apply t' = (.ok used', t'') ∧
      (t'' = t' ∧ used' = used ↔
        ((statements t).flatMap topDeclarators).countP (bindsTable "styles") ≤ 1 ∧
          ∀ d ∈ (statements t).filterMap importOf?, isAsset .default d.source.text = true →
            '/' ∈ d.source.text.toList) := by
  obtain ⟨hwell, hprogram⟩ := parseProgram_wellFormed hparse
  obtain ⟨hacceptable, hsettled, rfl, rfl⟩ := convertAll_ok readable_default hwell hprogram h
  have hconverted : ∀ d ∈ (sweptStatements .default t).filterMap importOf?,
      ∃ d₀, convertImport .default d₀ = .ok (.keep d) := by
    intro d hd
    obtain ⟨d₀, -, hkeep⟩ := mem_imports_sweptStatements.mp hd
    exact ⟨d₀, hkeep⟩
  have hkept := sorted_default.exists_keep_complete readable_default fun d hd =>
    let ⟨_, hkeep⟩ := hconverted d hd
    sorted_default.exists_keep hkeep
  have htables :
      ((sweptStatements .default t).flatMap topDeclarators).countP (bindsTable "styles") =
      ((statements t).flatMap topDeclarators).countP (bindsTable "styles") := by
    rw [sweptStatements, topDeclarators_swept _ rfl, List.countP_map]
    exact congrArg (List.countP · _) (funext (bindsTable_rewrite _ rfl _))
  have hname : Profile.default.names .stylesBinding = "styles" := rfl
  have hstable := sorted_default.complete_eq_self_iff readable_default hconverted
  rw [sorted_default.keep_images_iff hacceptable, hname, htables] at hstable
  have hcomplete := settled_complete readable_default hsettled
  obtain ⟨hashbang, directives, c, l, parts, rfl⟩ := Ast.isProgram_iff.mp hprogram
  refine ⟨_, _, (settled_program.mpr hcomplete).convertAll_apply readable_default rfl hkept, ?_⟩
  rw [← hstable]
  simp only [statements_program, withStatements_program]
  constructor
  · rintro ⟨htree, -⟩
    exact (Ast.node.inj htree).2.2
  · intro hself
    refine ⟨by rw [hself], ?_⟩
    -- A completed program needs what it needed with its preamble alone.
    have hneeds (ts : List Ast) : needs .default (complete .default ts) =
        needs .default (withPreamble .default ts) := needs_provide _ _
    rw [← hneeds, hself, hneeds]

/-- A program with a style table and an image out of a directory. -/
def settlingProgram : List Char :=
  "import logo from '../img/logo.png'; const nav = useNavigate();".toList ++
  "export const styles = \x7b box: \x7b width: '10px' \x7d \x7d;".toList ++
  "const page = <div className='box' onClick=\x7b() => nav('/') \x7d><img /></div>;".toList

/-- A program with a second style table and an image that is next to it. -/
def unsettledProgram : List Char :=
  "import logo from 'logo.png'; const styles = \x7b\x7d; ".toList ++
  "export const styles = \x7b box: \x7b width: '10px' \x7d \x7d;".toList

theorem converted_program_stable_settlingProgram :
    (∃ t used t', parseProgram settlingProgram = some t ∧
      (convertAll .default).apply t = (.ok used, t') ∧
      (convertAll .default).apply t' = (.ok used, t')) ∧
    ∃ t used t', parseProgram unsettledProgram = some t ∧
      (convertAll .default).apply t = (.ok used, t') ∧
      ∃ used' t'', (convertAll .default).apply t' = (.ok used', t'') ∧
        ¬(t'' = t' ∧ used' = used) := by
  constructor
  · have hrun : ∃ t ∈ parseProgram settlingProgram,
        ((combinedSweep .default (navigationAliases Role.defaultName t)).apply t).1 =
          .ok ⟨0, 2, 1, 1, 0⟩ ∧
        ((statements t).flatMap topDeclarators).countP (bindsTable "styles") ≤ 1 ∧
          ∀ d ∈ (statements t).filterMap importOf?, isAsset .default d.source.text = true →
            '/' ∈ d.source.text.toList := by
      decide +kernel
    obtain ⟨t, hparse, hsweep, hsettling⟩ := hrun
    obtain ⟨hwell, hprogram⟩ := parseProgram_wellFormed hparse
    have hconvert := convertAll_of_combinedSweep readable_default hwell hprogram hsweep
    obtain ⟨used', t'', hagain, hstable⟩ := converted_program_stable_iff hparse hconvert
    obtain ⟨rfl, rfl⟩ := hstable.mpr hsettling
    exact ⟨t, _, _, hparse, hconvert, hagain⟩
  · have hrun : ∃ t ∈ parseProgram unsettledProgram,
        ((combinedSweep .default (navigationAliases Role.defaultName t)).apply t).1 =
          .ok ⟨0, 0, 0, 0, 0⟩ ∧
        ¬((statements t).flatMap topDeclarators).countP (bindsTable "styles") ≤ 1 := by
      decide +kernel
    obtain ⟨t, hparse, hsweep, htables⟩ := hrun
    obtain ⟨hwell, hprogram⟩ := parseProgram_wellFormed hparse
    have hconvert := convertAll_of_combinedSweep readable_default hwell hprogram hsweep
    obtain ⟨used', t'', hagain, hstable⟩ := converted_program_stable_iff hparse hconvert
    exact ⟨t, _, _, hparse, hconvert, used', t'', hagain, fun hsame => htables (hstable.mp hsame).1⟩

end Nativize.Conversion
