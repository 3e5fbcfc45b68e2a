import Mathlib.Data.List.Perm.Lattice
import Nativize.Proofs.Pipeline.PlatformImports

/-!
# Names that imports bind

A conversion drops some bindings of imports and adds others, and it does not compare the names of
those that it adds with the names that are bound. Main statement: the names that the imports of a
converted program bind are the kept and the introduced ones, and whether they are distinct.
-/

namespace Nativize.Conversion

open Syntax

/-- The names that the imports of a program bind. -/
def importedNames (t : Ast) : List String := ((statements t).filterMap importOf?).flatMap localNames

/-- The specifier takes the navigation hook from its module. -/
def takesHook (names : Names) : ImportSpecifier → Bool
  | .byName imported _ _ => imported.text = names .navigationHook
  | _ => false

/-- The names of an import that stay bound: not that of the navigation hook, none of a stylesheet,
and the first of an image. -/
def keptNames (p : Profile) (d : ImportDecl) : List String :=
  if d.source.text = p.names .webRouterModule then
    ((d.specifiers.getD []).filter fun s => !takesHook p.names s).map (·.localName)
  else if p.tables.isStylesheet d.source.text then []
  else if p.tables.isImage d.source.text then (localNames d).take 1
  else localNames d

/-- The names that the rule for an import adds: the router hook for each navigation hook, and the
stylesheet API to an import from the platform that can take it. -/
def addedNames (p : Profile) (d : ImportDecl) : List String :=
  if d.source.text = p.names .webRouterModule then
    ((d.specifiers.getD []).filter (takesHook p.names)).map fun _ => p.names .routerHook
  else if canImport (p.names .platformUiModule) d then missingNames [p.names .stylesheetApi] d
  else []

/-- The names that imports of a source keep. -/
def survivingNames (p : Profile) (t : Ast) : List String :=
  ((statements t).filterMap importOf?).flatMap (keptNames p)

/-- The names that a conversion adds to the imports of a source, given what is needed from the
platform: those of the rules, the font hook and the secure store where they are not imported, and
what is missing in the first import from the platform that can take names. -/
def introducedNames (p : Profile) (used : List String) (t : Ast) : List String :=
  let imports := (statements t).filterMap importOf?
  imports.flatMap (addedNames p) ++
    (imports.find? (canImport (p.names .fontModule))).elim [p.names .fontHook]
      (missingNames [p.names .fontHook]) ++
    (if imports.any (bindsModule (p.names .secureStoreNamespace) (p.names .secureStoreModule))
      then [] else [p.names .secureStoreNamespace]) ++
    (imports.find? (canImport (p.names .platformUiModule))).elim used fun d =>
      (missingNames used d).filter fun name => name ≠ p.names .stylesheetApi

/-! ## One import -/

section Import

variable {p : Profile} {d d' : ImportDecl}

theorem localNames_withAllNamed (names : List String) (d : ImportDecl) :
    localNames (withAllNamed names d) = localNames d ++ missingNames names d := by
  unfold withAllNamed
  split
  · next h => simp [List.isEmpty_iff.mp h]
  · simp [localNames, namedSpecifier, ImportSpecifier.localName, Function.comp_def]

/-- A router import binds what it did, and the router hook in place of the navigation hook. -/
theorem perm_convertHookSpecifier (names : Names) (specifiers : List ImportSpecifier) :
    ((specifiers.map (convertHookSpecifier names)).map (·.localName)).Perm
      ((specifiers.filter fun s => !takesHook names s).map (·.localName) ++
        (specifiers.filter (takesHook names)).map fun _ => names .routerHook) := by
  induction specifiers with
  | nil => exact .nil
  | cons s rest ih =>
    cases hs : takesHook names s with
    | true =>
      have hlocal : (convertHookSpecifier names s).localName = names .routerHook := by
        cases s <;> simp_all [takesHook, convertHookSpecifier, namedSpecifier,
          ImportSpecifier.localName]
      simp only [List.map_cons, hlocal, List.filter_cons, hs, Bool.not_true, Bool.false_eq_true,
        if_false, if_true]
      exact (ih.cons _).trans List.perm_middle.symm
    | false =>
      have hsame : convertHookSpecifier names s = s := by
        cases s <;> simp_all [takesHook, convertHookSpecifier]
      simp only [List.map_cons, hsame, List.filter_cons, hs, Bool.not_false, if_true,
        Bool.false_eq_true, if_false, List.cons_append]
      exact ih.cons _

/-- An import that no rule changes keeps its names. -/
theorem names_of_isForeign (h : isForeign p d.source.text = true) :
    keptNames p d = localNames d ∧ addedNames p d = [] := by
  simp only [isForeign, Bool.and_eq_true, Bool.not_eq_true', decide_eq_true_eq] at h
  obtain ⟨⟨⟨hrouter, hstylesheet⟩, hplatform⟩, himage⟩ := h
  simp [keptNames, addedNames, canImport, hrouter, hstylesheet, hplatform, himage]

theorem names_of_router (h : d.source.text = p.names .webRouterModule) :
    keptNames p d = ((d.specifiers.getD []).filter fun s => !takesHook p.names s).map
      (·.localName) ∧
      addedNames p d =
        ((d.specifiers.getD []).filter (takesHook p.names)).map fun _ => p.names .routerHook := by
  simp [keptNames, addedNames, h]

theorem localNames_withStylesheetApi (h : d.source.text = p.names .platformUiModule) :
    localNames (withStylesheetApi p.names d) = localNames d ++
      if canImport (p.names .platformUiModule) d then missingNames [p.names .stylesheetApi] d
      else [] := by
  cases hnamespace : hasNamespace d with
  | true => simp [withStylesheetApi_eq_self (.inl hnamespace), canImport, hnamespace]
  | false =>
    rw [withStylesheetApi_eq hnamespace, localNames_withAllNamed]
    simp [canImport, hnamespace, h]

theorem names_of_isAsset (h : isAsset p d.source.text = true) :
    keptNames p d = (localNames d).take 1 ∧ addedNames p d = [] := by
  simp only [isAsset, Bool.and_eq_true, Bool.not_eq_true', decide_eq_true_eq] at h
  obtain ⟨⟨⟨⟨-, hrouter⟩, hstylesheet⟩, hplatform⟩, himage⟩ := h
  simp [keptNames, addedNames, canImport, hrouter, hstylesheet, hplatform, himage]

theorem Sorted.names_of_platform (hs : Sorted p) (h : d.source.text = p.names .platformUiModule) :
    keptNames p d = localNames d ∧ addedNames p d =
      if canImport (p.names .platformUiModule) d then missingNames [p.names .stylesheetApi] d
      else [] := by
  simp [keptNames, addedNames, h, hs.platformRouter, hs.platformStylesheet, hs.platformImage]

/-- An import that is kept binds the kept and the added names. -/
theorem Sorted.perm_localNames_keep (hs : Sorted p) (h : convertImport p d = .ok (.keep d')) :
    (localNames d').Perm (keptNames p d ++ addedNames p d) := by
  cases importRule_of_ok h with
  | base hbase =>
    obtain ⟨hkept, hadded⟩ := names_of_isForeign (hbase ▸ hs.base)
    rw [hkept, hadded, List.append_nil]
  | router hrouter =>
    obtain ⟨hkept, hadded⟩ := names_of_router hrouter
    have hspecifiers : (d.specifiers.map (·.map (convertHookSpecifier p.names))).getD [] =
        (d.specifiers.getD []).map (convertHookSpecifier p.names) := by
      cases d.specifiers <;> rfl
    rw [hkept, hadded, localNames, hspecifiers]
    exact perm_convertHookSpecifier p.names _
  | platform hplatform =>
    obtain ⟨hkept, hadded⟩ := hs.names_of_platform hplatform
    rw [localNames_withStylesheetApi hplatform, hkept, hadded]
  | image hasset hspecifiers =>
    obtain ⟨hkept, hadded⟩ := names_of_isAsset hasset
    simp [hkept, hadded, localNames, hspecifiers, ImportSpecifier.localName]
  | foreign hforeign =>
    obtain ⟨hkept, hadded⟩ := names_of_isForeign hforeign
    rw [hkept, hadded, List.append_nil]

/-- An import that is removed keeps and adds no names. -/
theorem Sorted.names_of_remove (hs : Sorted p) (h : convertImport p d = .ok .remove) :
    keptNames p d = [] ∧ addedNames p d = [] := by
  cases importRule_of_ok h with
  | stylesheet hrouter hstylesheet =>
    have hplatform : d.source.text ≠ p.names .platformUiModule := by
      intro heq
      rw [heq, hs.platformStylesheet] at hstylesheet
      cases hstylesheet
    simp [keptNames, addedNames, canImport, hrouter, hstylesheet, hplatform]

/-- The kept names are among those that the import binds. -/
theorem sublist_keptNames (p : Profile) (d : ImportDecl) :
    (keptNames p d).Sublist (localNames d) := by
  unfold keptNames
  split
  · exact List.filter_sublist.map _
  · split
    · exact List.nil_sublist _
    · split
      · exact List.take_sublist 1 _
      · exact List.Sublist.refl _

end Import

/-! ## Imports of a swept program -/

section Swept

variable {p : Profile} {imports : List ImportDecl}

theorem Sorted.perm_names_keptImport? (hs : Sorted p)
    (h : ∀ d ∈ imports, ∃ action, convertImport p d = .ok action) :
    ((imports.filterMap (keptImport? p)).flatMap localNames).Perm
      (imports.flatMap (keptNames p) ++ imports.flatMap (addedNames p)) := by
  refine List.Perm.trans ?_ (List.flatMap_append_perm imports (keptNames p) (addedNames p)).symm
  induction imports with
  | nil => exact .nil
  | cons d rest ih =>
    obtain ⟨⟨action, haction⟩, hrest⟩ := List.forall_mem_cons.mp h
    cases action with
    | keep d' =>
      rw [List.filterMap_cons_some (keptImport?_eq_some_iff.mpr haction), List.flatMap_cons,
        List.flatMap_cons]
      exact (hs.perm_localNames_keep haction).append (ih hrest)
    | remove =>
      have hnone : keptImport? p d = none := by simp [keptImport?, haction]
      obtain ⟨hkept, hadded⟩ := hs.names_of_remove haction
      rw [List.filterMap_cons_none hnone, List.flatMap_cons, hkept, hadded]
      exact ih hrest

/-- What is looked for in imports from a module that no rule touches is found as in the source. -/
theorem Sorted.find?_keptImport? (hs : Sorted p) {module : String}
    (hforeign : isForeign p module = true) (hrouter : module ≠ p.names .platformRouterModule)
    {test : ImportDecl → Bool} (htest : ∀ d, test d = true → d.source.text = module)
    (imports : List ImportDecl) :
    (imports.filterMap (keptImport? p)).find? test = imports.find? test := by
  induction imports with
  | nil => rfl
  | cons d rest ih =>
    by_cases hd : d.source.text = module
    · have hkept := keptImport?_eq_some_iff.mpr
        (convertImport_of_isForeign (p := p) (d := d) (by rw [hd, hforeign]))
      rw [List.filterMap_cons_some hkept, List.find?_cons, List.find?_cons, ih]
    · rw [List.find?_cons_of_neg (mt (htest d) hd), ← ih]
      cases hkept : keptImport? p d with
      | none => rw [List.filterMap_cons_none hkept]
      | some d' =>
        have hkeep := keptImport?_eq_some_iff.mp hkept
        have hd' : d'.source.text ≠ module := by
          rcases convertImport_keep hkeep with ⟨rfl, -⟩ | ⟨-, hsource⟩ | ⟨-, rfl⟩ | ⟨himage, -⟩
          · exact hd
          · rw [hsource]
            exact hrouter.symm
          · rwa [source_withStylesheetApi]
          · exact ne_of_isImage ((hs.isImage_keep hkeep).trans himage)
              (isImage_of_isForeign hforeign)
        rw [List.filterMap_cons_some hkept, List.find?_cons_of_neg (mt (htest d') hd')]

end Swept

/-! ## Imports of a completed program -/

section Completed

variable {p : Profile} {parts : List Ast}

/-- A provision adds the names of a new import, or those that an import is completed with. -/
theorem Provision.perm_localNames_provide (r : Provision) (added : ImportDecl → List String)
    (hadded : ∀ d, localNames (r.complete d) = localNames d ++ added d) (parts : List Ast) :
    (((r.provide parts).filterMap importOf?).flatMap localNames).Perm
      ((parts.filterMap importOf?).flatMap localNames ++
        ((parts.filterMap importOf?).find? r.fits).elim (localNames r.fresh) added) := by
  rcases r.provide_cases parts with ⟨hnone, h⟩ | ⟨before, d, l, ps, after, rfl, hfits, hbefore, h⟩
  · rw [hnone, h]
    exact List.perm_append_comm
  · rw [find?_imports_append hbefore hfits, h]
    simp only [List.filterMap_append, imports_cons, List.flatMap_append, List.flatMap_cons, hadded,
      Option.elim, List.append_assoc]
    exact (List.perm_append_comm.append_left _).append_left _

theorem localNames_named (module : String) (names : List String) :
    localNames (Provision.named module names).fresh = names := by
  simp [Provision.named, localNames, namedSpecifier, ImportSpecifier.localName, Function.comp_def]

theorem missingNames_withStylesheetApi {names : Names} {d : ImportDecl} (h : hasNamespace d = false)
    (used : List String) :
    missingNames used (withStylesheetApi names d) =
      (missingNames used d).filter fun name => name ≠ names .stylesheetApi := by
  rw [withStylesheetApi_eq h]
  unfold missingNames
  rw [namedImports_withAllNamed, List.filter_filter]
  refine List.filter_congr fun name _ => ?_
  by_cases hname : name = names .stylesheetApi
  · subst hname
    by_cases hapi : names .stylesheetApi ∈ namedImports d <;> simp [missingNames, hapi]
  · simp [missingNames, hname]

theorem elim_find?_store (names : Names) (imports : List ImportDecl) :
    (imports.find? (storeProvision names).fits).elim (localNames (storeProvision names).fresh)
        (fun _ => []) =
      if imports.any (bindsModule (names .secureStoreNamespace) (names .secureStoreModule)) then []
      else [names .secureStoreNamespace] := by
  rw [any_bindsModule]
  cases imports.find? (storeProvision names).fits <;> rfl

variable {t : Ast} (hp : Readable p) (hs : Sorted p)

include hp hs

/-- What the first import from the platform that can take names is completed with. -/
theorem elim_find?_withPreamble (used : List String) :
    (((withPreamble p (sweptStatements p t)).filterMap importOf?).find?
        (platformProvision p.names used).fits).elim used (missingNames used) =
      (((statements t).filterMap importOf?).find? (canImport (p.names .platformUiModule))).elim used
        fun d => (missingNames used d).filter fun name => name ≠ p.names .stylesheetApi := by
  rw [find?_imports_withPreamble hp, hs.find?_imports_sweptStatements]
  cases hfind :
    ((statements t).filterMap importOf?).find? (canImport (p.names .platformUiModule)) with
  | none => rfl
  | some d =>
    have hfits := List.find?_some hfind
    simp only [canImport, Bool.and_eq_true, Bool.not_eq_true'] at hfits
    exact missingNames_withStylesheetApi hfits.2 used

variable (hfont : p.names .fontModule ≠ p.names .platformRouterModule)
  (hstore : p.names .secureStoreModule ≠ p.names .platformRouterModule)

include hfont hstore

/-- The names that the imports of a converted program bind are those that survive and those that are
introduced. -/
theorem perm_importedNames_complete
    (haccepts : ∀ d ∈ (statements t).filterMap importOf?, ∃ action,
      convertImport p d = .ok action) :
    (((complete p (sweptStatements p t)).filterMap importOf?).flatMap localNames).Perm
      (survivingNames p t ++
        introducedNames p (needs p (withPreamble p (sweptStatements p t))) t) := by
  have hfind {module : String} {test : ImportDecl → Bool} (hforeign : isForeign p module = true)
      (hmodule : module ≠ p.names .platformRouterModule)
      (htest : ∀ d, test d = true → d.source.text = module) :
      ((bindStylesheet p (sweptStatements p t)).filterMap importOf?).find? test =
        ((statements t).filterMap importOf?).find? test := by
    rw [imports_bindStylesheet, imports_sweptStatements,
      hs.find?_keptImport? hforeign hmodule htest]
  have hsource := hs.perm_names_keptImport? haccepts
  rw [← imports_sweptStatements, ← imports_bindStylesheet (p := p)] at hsource
  have hfontNames := (fontProvision p.names).perm_localNames_provide _
    (localNames_withAllNamed _) (bindStylesheet p (sweptStatements p t))
  rw [hfind hs.font hfont fun d => (fontProvision p.names).source_of_fits] at hfontNames
  have hstoreNames := (storeProvision p.names).perm_localNames_provide (fun _ => [])
    (fun d => (List.append_nil _).symm)
    ((fontProvision p.names).provide (bindStylesheet p (sweptStatements p t)))
  rw [Provision.find?_imports_provide _ (Ne.symm hp.fontStore),
    hfind hs.store hstore fun d => (storeProvision p.names).source_of_fits] at hstoreNames
  have hplatformNames := (platformProvision p.names
    (needs p (withPreamble p (sweptStatements p t)))).perm_localNames_provide
      (missingNames (needs p (withPreamble p (sweptStatements p t))))
    (by rw [complete_platformProvision]; exact localNames_withAllNamed _)
    (withPreamble p (sweptStatements p t))
  rw [show localNames (platformProvision p.names _).fresh = _ from localNames_named _ _,
    elim_find?_withPreamble hp hs, imports_withPreamble hp] at hplatformNames
  rw [show localNames (fontProvision p.names).fresh = _ from localNames_named _ _] at hfontNames
  rw [elim_find?_store] at hstoreNames
  refine (hplatformNames.trans ((hstoreNames.trans
    ((hfontNames.trans (hsource.append_right _)).append_right _)).append_right _)).trans ?_
  simp only [survivingNames, introducedNames, List.append_assoc]
  exact .refl _

end Completed

theorem perm_importedNames_convertAll {source : List Char} {t t' : Ast} {used : List String}
    (hparse : parseProgram source = some t) (h : (convertAll .default).apply t = (.ok used, t')) :
    (importedNames t').Perm (survivingNames .default t ++ introducedNames .default used t) := by
  obtain ⟨hwell, hprogram⟩ := parseProgram_wellFormed hparse
  obtain ⟨hacceptable, -, rfl, rfl⟩ := convertAll_ok readable_default hwell hprogram h
  rw [importedNames, statements_of_isProgram hprogram]
  exact perm_importedNames_complete readable_default sorted_default (by decide) (by decide)
    fun d hd => exists_action_of_isAcceptable hacceptable hd

/-- Where the imports of a source bind distinct names, those of the converted program bind the names
that survive and those that are introduced. They are distinct exactly when the introduced ones are,
and none of these survives. -/
theorem imported_names_distinct_iff {source : List Char} {t t' : Ast} {used : List String}
    (hparse : parseProgram source = some t) (h : (convertAll .default).apply t = (.ok used, t'))
    (hdistinct : (importedNames t).Nodup) :
    (importedNames t').Perm (survivingNames .default t ++ introducedNames .default used t) ∧
      ((importedNames t').Nodup ↔ (introducedNames .default used t).Nodup ∧
        ∀ name ∈ introducedNames .default used t, name ∉ survivingNames .default t) := by
  have hperm := perm_importedNames_convertAll hparse h
  have hsurviving : (survivingNames .default t).Nodup :=
    hdistinct.sublist (List.Sublist.flatMap_right _ fun d _ => sublist_keptNames .default d)
  refine ⟨hperm, ?_⟩
  rw [hperm.nodup_iff, List.nodup_append]
  grind

/-- Imports of each kind: the router with its hook, a stylesheet, an image and the platform. -/
def importingProgram : List Char :=
  ("import \x7b useNavigate as go, Link \x7d from 'react-router-dom'; " ++
    "import css from './a.css'; import logo, \x7b size \x7d from './img/logo.png'; " ++
    "import \x7b Text \x7d from 'react-native'; const a = <div />;").toList

theorem imported_names_distinct_iff_importingProgram : ∃ t used t',
    parseProgram importingProgram = some t ∧ (convertAll .default).apply t = (.ok used, t') ∧
    importedNames t = ["go", "Link", "css", "logo", "size", "Text"] ∧
    (importedNames t').Perm (["Link", "logo", "Text"] ++ introducedNames .default used t) ∧
    "useRouter" ∈ importedNames t' ∧
    ((importedNames t').Nodup ↔ (introducedNames .default used t).Nodup ∧
      ∀ name ∈ introducedNames .default used t, name ∉ ["Link", "logo", "Text"]) := by
  have hrun : ∃ t ∈ parseProgram importingProgram,
      ((combinedSweep .default (navigationAliases Role.defaultName t)).apply t).1 =
        .ok ⟨1, 1, 0, 0, 0⟩ ∧
      importedNames t = ["go", "Link", "css", "logo", "size", "Text"] ∧
      survivingNames .default t = ["Link", "logo", "Text"] ∧
      "useRouter" ∈ ((statements t).filterMap importOf?).flatMap (addedNames .default) := by
    decide +kernel
  obtain ⟨t, hparse, hok, hnames, hsurviving, hrouter⟩ := hrun
  obtain ⟨hwell, hprogram⟩ := parseProgram_wellFormed hparse
  have hconvert := convertAll_of_combinedSweep readable_default hwell hprogram hok
  have hdistinct : (importedNames t).Nodup := by
    rw [hnames]
    decide
  obtain ⟨hperm, hiff⟩ := imported_names_distinct_iff hparse hconvert hdistinct
  rw [hsurviving] at hperm hiff
  refine ⟨t, _, _, hparse, hconvert, hnames, hperm, hperm.mem_iff.mpr ?_, hiff⟩
  simp only [introducedNames, List.mem_append]
  exact .inr (.inl (.inl (.inl hrouter)))

/-- A component of a program's own with the name of one of the platform. -/
def shadowingProgram : List Char :=
  "import View from './view'; const a = <div />;".toList

/-- A name is bound twice where the source imports another component under it. -/
theorem imported_name_twice_in_shadowingProgram : ¬∀ (source : List Char) (t t' : Ast)
    (used : List String), parseProgram source = some t → (importedNames t).Nodup →
      (convertAll .default).apply t = (.ok used, t') → (importedNames t').Nodup := by
  have hrun : ∃ t ∈ parseProgram shadowingProgram,
      ((combinedSweep .default (navigationAliases Role.defaultName t)).apply t).1 =
        .ok ⟨0, 1, 0, 0, 0⟩ ∧
      (∃ d ∈ (bindStylesheet .default (sweptStatements .default t)).flatMap topDeclarators,
        (∀ n ∈ d.nodes, isFontTarget .default n = false) ∧
        "View" ∈ d.nodes.flatMap (nodeUses .default)) ∧
      (importedNames t).Nodup ∧ "View" ∈ survivingNames .default t ∧
      ((statements t).filterMap importOf?).find?
        (canImport (Role.defaultName .platformUiModule)) = none := by
    decide +kernel
  obtain ⟨t, hparse, hok, ⟨d, hd, hfonts, hview⟩, hdistinct, hsurvives, hnone⟩ := hrun
  obtain ⟨hwell, hprogram⟩ := parseProgram_wellFormed hparse
  have hconvert := convertAll_of_combinedSweep readable_default hwell hprogram hok
  have hneeded := mem_needs_withPreamble readable_default hd hfonts hview
  have hintroduced : "View" ∈ introducedNames .default
      (needs .default (withPreamble .default (sweptStatements .default t))) t := by
    refine List.mem_append_right _ ?_
    exact hnone ▸ hneeded
  intro hall
  have hnodup := hall shadowingProgram t _ _ hparse hdistinct hconvert
  rw [(perm_importedNames_convertAll hparse hconvert).nodup_iff, List.nodup_append] at hnodup
  exact hnodup.2.2 _ hsurvives _ hintroduced rfl

end Nativize.Conversion
