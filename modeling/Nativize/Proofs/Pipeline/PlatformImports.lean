import Nativize.Proofs.ImportRules
import Nativize.Proofs.Pipeline.Completion
import Nativize.Proofs.Syntax.Parser.Program

/-!
# What a converted program imports from the platform

The names that a converted program needs are added to the first import from the platform that can
take them, unless they are there under the name that the platform gives them. Main statement: each
name that is needed is imported, and it is bound as a value under that name when it was before, or
when it is added.
-/

namespace Nativize.Conversion

open Syntax

/-- The specifier binds the name to a value. -/
def bindsValue (name : String) : ImportSpecifier → Bool
  | .byName _ bound typeOnly => bound = name && !typeOnly
  | .byDefault bound | .byNamespace bound => bound = name

/-- The import binds the name to a value of the module. -/
def importsValue (module name : String) (d : ImportDecl) : Bool :=
  d.source.text = module && !d.typeOnly && (d.specifiers.getD []).any (bindsValue name)

section Specifiers

variable {names : List String} {d : ImportDecl} {name : String}

theorem typeOnly_withAllNamed (names : List String) (d : ImportDecl) :
    (withAllNamed names d).typeOnly = d.typeOnly := by
  unfold withAllNamed
  split <;> rfl

/-- An import keeps the specifiers that it has. -/
theorem mem_specifiers_withAllNamed {s : ImportSpecifier} (h : s ∈ d.specifiers.getD []) :
    s ∈ (withAllNamed names d).specifiers.getD [] := by
  unfold withAllNamed
  split
  · exact h
  · exact List.mem_append_left _ h

/-- A name that is missing is added. -/
theorem namedSpecifier_mem_withAllNamed (h : name ∈ names) (hmissing : name ∉ namedImports d) :
    namedSpecifier name ∈ (withAllNamed names d).specifiers.getD [] := by
  have hmem : name ∈ missingNames names d := by simpa [missingNames] using ⟨h, hmissing⟩
  unfold withAllNamed
  split
  · next hempty =>
    rw [List.isEmpty_iff.mp hempty] at hmem
    cases hmem
  · exact List.mem_append_right _ (List.mem_map_of_mem hmem)

theorem importsValue_of_mem {module : String} (hsource : d.source.text = module)
    (htype : d.typeOnly = false) (h : namedSpecifier name ∈ d.specifiers.getD []) :
    importsValue module name d = true := by
  have hany : (d.specifiers.getD []).any (bindsValue name) = true :=
    List.any_eq_true.mpr ⟨_, h, by simp [bindsValue, namedSpecifier]⟩
  simp [importsValue, hsource, htype, hany]

theorem importsValue_withAllNamed {module : String} (h : importsValue module name d = true) :
    importsValue module name (withAllNamed names d) = true := by
  simp only [importsValue, Bool.and_eq_true, List.any_eq_true] at h ⊢
  obtain ⟨⟨hsource, htype⟩, s, hs, hbinds⟩ := h
  refine ⟨⟨?_, ?_⟩, s, mem_specifiers_withAllNamed hs, hbinds⟩
  · rwa [source_withAllNamed]
  · rwa [typeOnly_withAllNamed]

theorem withStylesheetApi_eq {names : Names} (h : hasNamespace d = false) :
    withStylesheetApi names d = withAllNamed [names .stylesheetApi] d := by
  rw [← withNamed_eq]
  simp [withStylesheetApi, withNamed, h]

end Specifiers

/-! ## From the source to the completed program -/

section Programs

variable {p : Profile} {parts : List Ast} {t : Ast}

/-- What holds of an import of the program holds of one after a provision. -/
theorem Provision.exists_imports_provide {r : Provision} {property : ImportDecl → Prop}
    (hcomplete : ∀ d, r.fits d = true → property d → property (r.complete d))
    (h : ∃ d ∈ parts.filterMap importOf?, property d) :
    ∃ d ∈ (r.provide parts).filterMap importOf?, property d := by
  obtain ⟨d, hd, hproperty⟩ := h
  rcases r.provide_cases parts with ⟨-, hprovide⟩ |
    ⟨before, d', l, ps, after, rfl, hfits, -, hprovide⟩
  · exact ⟨d, by rw [hprovide]; exact List.mem_cons_of_mem _ hd, hproperty⟩
  · rw [hprovide]
    simp only [List.filterMap_append, imports_cons, List.mem_append, List.mem_cons] at hd ⊢
    rcases hd with hd | rfl | hd
    · exact ⟨d, .inl hd, hproperty⟩
    · exact ⟨_, .inr (.inl rfl), hcomplete d hfits hproperty⟩
    · exact ⟨d, .inr (.inr hd), hproperty⟩

/-- A value that is bound stays bound when the program is completed. -/
theorem importsValue_complete (hp : Readable p) {module name : String}
    (h : ∃ d ∈ parts.filterMap importOf?, importsValue module name d = true) :
    ∃ d ∈ (complete p parts).filterMap importOf?, importsValue module name d = true := by
  refine Provision.exists_imports_provide (fun d _ hd => ?_) ?_
  · rw [complete_platformProvision]
    exact importsValue_withAllNamed hd
  rw [imports_withPreamble hp]
  refine Provision.exists_imports_provide (fun d _ hd => hd)
    (Provision.exists_imports_provide (fun d _ => importsValue_withAllNamed) ?_)
  rwa [imports_bindStylesheet]

/-- The first import that can take names is not changed by the rest of the completion. -/
theorem find?_imports_withPreamble (hp : Readable p) (parts : List Ast) (used : List String) :
    ((withPreamble p parts).filterMap importOf?).find? (platformProvision p.names used).fits =
      (parts.filterMap importOf?).find? (canImport (p.names .platformUiModule)) := by
  have hother := Provision.find?_imports_provide (r := platformProvision p.names used)
  rw [imports_withPreamble hp, hother (storeProvision p.names) (Ne.symm hp.storePlatform),
    hother (fontProvision p.names) (Ne.symm hp.fontPlatform), imports_bindStylesheet]
  rfl

/-- An import comes from the platform when it did before. -/
theorem Sorted.source_keep (hs : Sorted p) {d d' : ImportDecl}
    (h : convertImport p d = .ok (.keep d')) (hd : d.source.text ≠ p.names .platformUiModule) :
    d'.source.text ≠ p.names .platformUiModule := by
  rcases convertImport_keep h with ⟨rfl, -⟩ | ⟨-, hrouter⟩ | ⟨hplatform, -⟩ | ⟨himage, -⟩
  · exact hd
  · have hforeign := hs.router
    simp only [isForeign, Bool.and_eq_true, decide_eq_true_eq] at hforeign
    rw [hrouter]
    exact hforeign.1.2
  · exact absurd hplatform hd
  · exact ne_of_isImage ((hs.isImage_keep h).trans himage) hs.platformImage

theorem canImport_withStylesheetApi (names : Names) (module : String) (d : ImportDecl) :
    canImport module (withStylesheetApi names d) = canImport module d := by
  cases h : hasNamespace d with
  | true => rw [withStylesheetApi_eq_self (.inl h)]
  | false =>
    rw [withStylesheetApi_eq h]
    simp [canImport, source_withAllNamed, hasNamespace_withAllNamed]

/-- The first import that can take names is the one of the source, with the stylesheet API. -/
theorem Sorted.find?_imports_sweptStatements (hs : Sorted p) (t : Ast) :
    ((sweptStatements p t).filterMap importOf?).find? (canImport (p.names .platformUiModule)) =
      (((statements t).filterMap importOf?).find? (canImport (p.names .platformUiModule))).map
        (withStylesheetApi p.names) := by
  rw [imports_sweptStatements]
  induction (statements t).filterMap importOf? with
  | nil => rfl
  | cons d rest ih =>
    by_cases hd : d.source.text = p.names .platformUiModule
    · have hkept := keptImport?_eq_some_iff.mpr (hs.convertImport_platform hd)
      rw [List.filterMap_cons_some hkept, List.find?_cons, List.find?_cons,
        canImport_withStylesheetApi, ih]
      cases canImport (p.names .platformUiModule) d <;> rfl
    · have hforeign : canImport (p.names .platformUiModule) d = false := by simp [canImport, hd]
      rw [List.find?_cons, hforeign, ← ih]
      cases hkept : keptImport? p d with
      | none => rw [List.filterMap_cons_none hkept]
      | some d' =>
        have hd' := hs.source_keep (keptImport?_eq_some_iff.mp hkept) hd
        rw [List.filterMap_cons_some hkept, List.find?_cons_of_neg (by simp [canImport, hd'])]

/-- An import from the platform is there after a sweep, with what it binds. -/
theorem Sorted.importsValue_sweptStatements (hs : Sorted p) {name : String}
    (h : ∃ d ∈ (statements t).filterMap importOf?,
      importsValue (p.names .platformUiModule) name d = true) :
    ∃ d ∈ (sweptStatements p t).filterMap importOf?,
      importsValue (p.names .platformUiModule) name d = true := by
  obtain ⟨d, hd, hvalue⟩ := h
  have hsource : d.source.text = p.names .platformUiModule := by
    simp only [importsValue, Bool.and_eq_true, decide_eq_true_eq] at hvalue
    exact hvalue.1.1
  refine ⟨_, mem_imports_sweptStatements.mpr ⟨d, hd, hs.convertImport_platform hsource⟩, ?_⟩
  cases hnamespace : hasNamespace d with
  | true => rwa [withStylesheetApi_eq_self (.inl hnamespace)]
  | false =>
    rw [withStylesheetApi_eq hnamespace]
    exact importsValue_withAllNamed hvalue

/-- A name that is added after the stylesheet API is bound as a value. -/
theorem namedSpecifier_mem_completed {names : Names} {used : List String} {d : ImportDecl}
    {name : String}
    (hused : name ∈ used) (hnamespace : hasNamespace d = false) (hmissing : name ∉ namedImports d) :
    namedSpecifier name ∈
      (withAllNamed used (withStylesheetApi names d)).specifiers.getD [] := by
  rw [withStylesheetApi_eq hnamespace]
  by_cases hapi : name ∈ namedImports (withAllNamed [names .stylesheetApi] d)
  · -- Only the stylesheet API can have come between.
    rw [namedImports_withAllNamed, List.mem_append] at hapi
    have hname := List.mem_of_mem_filter (hapi.resolve_left hmissing)
    exact mem_specifiers_withAllNamed (namedSpecifier_mem_withAllNamed hname hmissing)
  · exact namedSpecifier_mem_withAllNamed hused hapi

/-- No value is bound to a name that the import has already. -/
theorem importsValue_withAllNamed_eq {names : List String} {d : ImportDecl} {name : String}
    (h : name ∈ namedImports d) (module : String) :
    importsValue module name (withAllNamed names d) = importsValue module name d := by
  have hmissing : name ∉ missingNames names d := by simp [missingNames, h]
  have hadded : ((missingNames names d).map namedSpecifier).any (bindsValue name) = false := by
    rw [List.any_eq_false]
    intro s hs
    obtain ⟨other, hother, rfl⟩ := List.mem_map.mp hs
    have hne : other ≠ name := fun heq => hmissing (heq ▸ hother)
    simp [bindsValue, namedSpecifier, hne]
  unfold withAllNamed
  split
  · rfl
  · simp [importsValue, hadded]

/-- Where the first import that can take names has a name already, a completed program binds it as a
value when the program does. -/
theorem importsValue_complete_iff (hp : Readable p) {d : ImportDecl} {name : String}
    (hfirst : (parts.filterMap importOf?).find? (canImport (p.names .platformUiModule)) = some d)
    (hname : name ∈ namedImports d) :
    (∃ d ∈ (complete p parts).filterMap importOf?,
        importsValue (p.names .platformUiModule) name d = true) ↔
      ∃ d ∈ parts.filterMap importOf?, importsValue (p.names .platformUiModule) name d = true := by
  refine ⟨fun h => Classical.byContradiction fun hnone => ?_, importsValue_complete hp⟩
  have hforeign {module : String} (hmodule : module ≠ p.names .platformUiModule) {d : ImportDecl}
      (hd : d.source.text = module) : importsValue (p.names .platformUiModule) name d = false := by
    simp [importsValue, hd, hmodule]
  have hparts : ∀ d ∈ parts.filterMap importOf?,
      importsValue (p.names .platformUiModule) name d = false := by
    intro d hd
    rw [Bool.eq_false_iff]
    exact fun hvalue => hnone ⟨d, hd, hvalue⟩
  have hpreamble : ∀ d ∈ (withPreamble p parts).filterMap importOf?,
      importsValue (p.names .platformUiModule) name d = false := by
    rw [imports_withPreamble hp]
    refine Provision.forall_imports_provide (fun d _ hd => hd) (hforeign hp.storePlatform rfl)
      (Provision.forall_imports_provide (fun d hfits _ => ?_) (hforeign hp.fontPlatform rfl) ?_)
    · refine hforeign hp.fontPlatform ?_
      rw [Provision.source_complete, Provision.source_of_fits _ hfits]
      rfl
    · rwa [imports_bindStylesheet]
  obtain ⟨d', hd', hvalue⟩ := h
  rw [complete] at hd'
  rcases (platformProvision p.names (needs p (withPreamble p parts))).provide_cases
      (withPreamble p parts) with
    ⟨hnofit, -⟩ | ⟨before, first, l, ps, after, hsplit, hfits, hbefore, hprovide⟩
  · rw [find?_imports_withPreamble hp, hfirst] at hnofit
    cases hnofit
  · have hfind := find?_imports_append hbefore hfits l ps after
    rw [← hsplit, find?_imports_withPreamble hp, hfirst] at hfind
    obtain rfl := Option.some.inj hfind
    rw [hsplit] at hpreamble
    rw [hprovide] at hd'
    simp only [List.filterMap_append, imports_cons, List.mem_append, List.mem_cons] at hd' hpreamble
    have hfalse : importsValue (p.names .platformUiModule) name d' = false := by
      rcases hd' with hd' | rfl | hd'
      · exact hpreamble d' (.inl hd')
      · rw [complete_platformProvision, importsValue_withAllNamed_eq hname]
        exact hpreamble d (.inr (.inl rfl))
      · exact hpreamble d' (.inr (.inr hd'))
    rw [hfalse] at hvalue
    cases hvalue

/-- What a declarator uses is needed, when no fonts are loaded in it. -/
theorem mem_needs_withPreamble (hp : Readable p) {d : Ast} {name : String}
    (hd : d ∈ (bindStylesheet p parts).flatMap topDeclarators)
    (hfonts : ∀ n ∈ d.nodes, isFontTarget p n = false)
    (hname : name ∈ d.nodes.flatMap (nodeUses p)) : name ∈ needs p (withPreamble p parts) := by
  refine Classical.byContradiction fun hneeds => ?_
  have hmapped : d ∈ (withPreamble p parts).flatMap topDeclarators := by
    rw [topDeclarators_withPreamble hp]
    exact List.mem_map.mpr ⟨d, hd, withFonts_eq_self hfonts⟩
  obtain ⟨n, hn, huses⟩ := List.mem_flatMap.mp hname
  have hnot := all_not_uses hneeds hmapped n hn
  simp [huses] at hnot

/-- The import that the names are added to, or one with all of them. -/
theorem exists_import_complete (hp : Readable p) (hs : Sorted p) (t : Ast) :
    (((statements t).filterMap importOf?).find? (canImport (p.names .platformUiModule)) = none ∧
      (platformProvision p.names (needs p (withPreamble p (sweptStatements p t)))).fresh ∈
        (complete p (sweptStatements p t)).filterMap importOf?) ∨
    ∃ d, ((statements t).filterMap importOf?).find? (canImport (p.names .platformUiModule)) =
      some d ∧
      withAllNamed (needs p (withPreamble p (sweptStatements p t))) (withStylesheetApi p.names d) ∈
        (complete p (sweptStatements p t)).filterMap importOf? := by
  have hfind := (find?_imports_withPreamble hp (sweptStatements p t)
    (needs p (withPreamble p (sweptStatements p t)))).trans (hs.find?_imports_sweptStatements t)
  rcases (platformProvision p.names (needs p (withPreamble p (sweptStatements p t)))).provide_cases
      (withPreamble p (sweptStatements p t)) with
    ⟨hnone, hprovide⟩ | ⟨before, d', l, ps, after, hparts, hfits, hbefore, hprovide⟩
  · refine .inl ⟨Option.map_eq_none_iff.mp (hfind.symm.trans hnone), ?_⟩
    rw [complete, hprovide]
    exact List.mem_cons_self
  · have hfirst := find?_imports_append hbefore hfits l ps after
    rw [← hparts, hfind] at hfirst
    obtain ⟨d, hd, rfl⟩ := Option.map_eq_some_iff.mp hfirst
    refine .inr ⟨d, hd, ?_⟩
    rw [complete, hprovide, List.filterMap_append, imports_cons, complete_platformProvision]
    exact List.mem_append_right _ List.mem_cons_self

section Needed

variable (hp : Readable p) (hs : Sorted p) {name : String}
  (hneeded : name ∈ needs p (withPreamble p (sweptStatements p t)))

include hp hs hneeded

/-- A name that is needed is imported. -/
theorem exists_namedImports_complete : ∃ d ∈ (complete p (sweptStatements p t)).filterMap importOf?,
    d.source.text = p.names .platformUiModule ∧ name ∈ namedImports d := by
  rcases exists_import_complete hp hs t with ⟨-, hmem⟩ | ⟨d, hfind, hmem⟩
  · refine ⟨_, hmem, rfl, ?_⟩
    rwa [namedImports_fresh_platformProvision]
  · refine ⟨_, hmem, ?_, mem_namedImports_withAllNamed hneeded⟩
    have hfits := List.find?_some hfind
    simp only [canImport, Bool.and_eq_true, decide_eq_true_eq] at hfits
    rw [source_withAllNamed, source_withStylesheetApi]
    exact hfits.1

/-- A name that is added is bound as a value. -/
theorem importsValue_complete_of_missing
    (hfirst : ∀ d, ((statements t).filterMap importOf?).find?
      (canImport (p.names .platformUiModule)) = some d →
        d.typeOnly = false ∧ name ∉ namedImports d) :
    ∃ d ∈ (complete p (sweptStatements p t)).filterMap importOf?,
      importsValue (p.names .platformUiModule) name d = true := by
  rcases exists_import_complete hp hs t with ⟨-, hmem⟩ | ⟨d, hfind, hmem⟩
  · refine ⟨_, hmem, importsValue_of_mem rfl rfl ?_⟩
    rw [specifiers_fresh_platformProvision, Option.getD_some]
    exact List.mem_map_of_mem hneeded
  · obtain ⟨htype, hmissing⟩ := hfirst d hfind
    have hfits := List.find?_some hfind
    simp only [canImport, Bool.and_eq_true, decide_eq_true_eq, Bool.not_eq_true'] at hfits
    refine ⟨_, hmem, importsValue_of_mem ?_ ?_
      (namedSpecifier_mem_completed hneeded hfits.2 hmissing)⟩
    · rw [source_withAllNamed, source_withStylesheetApi]
      exact hfits.1
    · rw [typeOnly_withAllNamed, withStylesheetApi_eq hfits.2, typeOnly_withAllNamed, htype]

end Needed

end Programs

/-- For the default profile every name that a converted program needs is imported from the platform.
It is bound there as a value under that name when the source binds it so, and when the first import
of the source that can take names neither has it nor is one of types only. -/
theorem needed_names_imported {source : List Char} {t t' : Ast} {used : List String}
    (hparse : parseProgram source = some t) (h : (convertAll .default).apply t = (.ok used, t'))
    {name : String} (hused : name ∈ used) :
    (∃ d ∈ (statements t').filterMap importOf?,
      d.source.text = "react-native" ∧ name ∈ namedImports d) ∧
    ((∃ d ∈ (statements t).filterMap importOf?, importsValue "react-native" name d = true) ∨
      (∀ d, ((statements t).filterMap importOf?).find? (canImport "react-native") = some d →
        d.typeOnly = false ∧ name ∉ namedImports d) →
      ∃ d ∈ (statements t').filterMap importOf?, importsValue "react-native" name d = true) := by
  obtain ⟨hwell, hprogram⟩ := parseProgram_wellFormed hparse
  obtain ⟨-, -, rfl, rfl⟩ := convertAll_ok readable_default hwell hprogram h
  rw [statements_of_isProgram hprogram]
  refine ⟨exists_namedImports_complete readable_default sorted_default hused, ?_⟩
  rintro (hbefore | hfirst)
  · exact importsValue_complete readable_default
      (sorted_default.importsValue_sweptStatements hbefore)
  · exact importsValue_complete_of_missing readable_default sorted_default hused hfirst

/-- An import from the platform that has one of two components that the program needs. -/
def extendingProgram : List Char :=
  "import \x7b Text \x7d from 'react-native'; const a = <div><span>hi</span></div>;".toList

theorem needed_names_imported_extendingProgram : ∃ t used t',
    parseProgram extendingProgram = some t ∧ (convertAll .default).apply t = (.ok used, t') ∧
    "View" ∈ used ∧ "Text" ∈ used ∧
    (∃ d ∈ (statements t').filterMap importOf?, importsValue "react-native" "View" d = true) ∧
    ∃ d ∈ (statements t').filterMap importOf?, importsValue "react-native" "Text" d = true := by
  have hrun : ∃ t ∈ parseProgram extendingProgram,
      ((combinedSweep .default (navigationAliases Role.defaultName t)).apply t).1 =
        .ok ⟨0, 2, 0, 0, 0⟩ ∧
      (∃ d ∈ (bindStylesheet .default (sweptStatements .default t)).flatMap topDeclarators,
        (∀ n ∈ d.nodes, isFontTarget .default n = false) ∧
        "View" ∈ d.nodes.flatMap (nodeUses .default) ∧
          "Text" ∈ d.nodes.flatMap (nodeUses .default)) ∧
      (∃ d ∈ (statements t).filterMap importOf?, importsValue "react-native" "Text" d = true) ∧
      ∀ d ∈ ((statements t).filterMap importOf?).find? (canImport "react-native"),
        d.typeOnly = false ∧ "View" ∉ namedImports d := by
    decide +kernel
  obtain ⟨t, hparse, hok, ⟨d, hd, hfonts, hview, htext⟩, hbound, hfirst⟩ := hrun
  obtain ⟨hwell, hprogram⟩ := parseProgram_wellFormed hparse
  have hconvert := convertAll_of_combinedSweep readable_default hwell hprogram hok
  have hview := mem_needs_withPreamble readable_default hd hfonts hview
  have htext := mem_needs_withPreamble readable_default hd hfonts htext
  exact ⟨t, _, _, hparse, hconvert, hview, htext,
    (needed_names_imported hparse hconvert hview).2 (.inr hfirst),
    (needed_names_imported hparse hconvert htext).2 (.inl hbound)⟩

/-- A component that is imported under another name. -/
def renamingProgram : List Char :=
  "import \x7b Text as T \x7d from 'react-native'; const a = <span>hi</span>;".toList

/-- A name that is needed is not bound where the source imports it under another. -/
theorem needed_name_unbound_in_renamingProgram : ¬∀ (source : List Char) (t t' : Ast)
    (used : List String) (name : String), parseProgram source = some t →
      (convertAll .default).apply t = (.ok used, t') → name ∈ used →
      ∃ d ∈ (statements t').filterMap importOf?, importsValue "react-native" name d = true := by
  have hrun : ∃ t ∈ parseProgram renamingProgram,
      ((combinedSweep .default (navigationAliases Role.defaultName t)).apply t).1 =
        .ok ⟨0, 1, 0, 0, 0⟩ ∧
      (∃ d ∈ (bindStylesheet .default (sweptStatements .default t)).flatMap topDeclarators,
        (∀ n ∈ d.nodes, isFontTarget .default n = false) ∧
        "Text" ∈ d.nodes.flatMap (nodeUses .default)) ∧
      (∃ d ∈ ((sweptStatements .default t).filterMap importOf?).find? (canImport "react-native"),
        "Text" ∈ namedImports d) ∧
      ∀ d ∈ (sweptStatements .default t).filterMap importOf?,
        importsValue "react-native" "Text" d = false := by
    decide +kernel
  obtain ⟨t, hparse, hok, ⟨d, hd, hfonts, htext⟩, ⟨first, hfirst, hnamed⟩, hunbound⟩ := hrun
  obtain ⟨hwell, hprogram⟩ := parseProgram_wellFormed hparse
  have hconvert := convertAll_of_combinedSweep readable_default hwell hprogram hok
  have hneeded := mem_needs_withPreamble readable_default hd hfonts htext
  intro hall
  have hbound := hall renamingProgram t _ _ "Text" hparse hconvert hneeded
  rw [statements_of_isProgram hprogram] at hbound
  obtain ⟨d', hd', hvalue⟩ := (importsValue_complete_iff readable_default hfirst hnamed).mp hbound
  cases hvalue.symm.trans (hunbound d' hd')

end Nativize.Conversion
