import Nativize.Proofs.Provision
import Nativize.Proofs.Syntax.WellFormed
import Mathlib.Data.List.Nodup

/-!
# Names reconciled with an import

The names that a program uses go to the first import of the platform that can take them, or to a new
one. Main statement: each name that is missing there is added once and in order, nothing else
changes, and nothing is missing afterwards.
-/

namespace Nativize.Conversion

open Syntax

/-- The import is of the module, and does not bind it as a whole. -/
def TakesNames (module : String) (d : ImportDecl) : Prop :=
  d.source.text = module ∧ ∀ name, .byNamespace name ∉ d.specifiers.getD []

theorem canImport_iff {module : String} {d : ImportDecl} :
    canImport module d = true ↔ TakesNames module d := by
  have hnamespace : hasNamespace d = true ↔ ∃ name, .byNamespace name ∈ d.specifiers.getD [] := by
    simp only [hasNamespace, List.any_eq_true]
    constructor
    · rintro ⟨s, hs, h⟩
      cases s with
      | byNamespace name => exact ⟨name, hs⟩
      | byName | byDefault => cases h
    · rintro ⟨name, h⟩
      exact ⟨_, h, rfl⟩
  rw [canImport, Bool.and_eq_true, decide_eq_true_eq, Bool.not_eq_true', Bool.eq_false_iff, ne_eq,
    hnamespace, not_exists]
  rfl

instance (module : String) : DecidablePred (TakesNames module) := fun _ =>
  decidable_of_iff _ canImport_iff

/-- The statements hold no import that takes names. -/
def NoneTakes (module : String) (parts : List Ast) : Prop :=
  ∀ d ∈ parts.filterMap importOf?, ¬ TakesNames module d

/-- The names in the braces of the first import that takes names. -/
def takenNames (module : String) (parts : List Ast) : List String :=
  (((parts.filterMap importOf?).find? (TakesNames module ·)).map namedImports).getD []

/-- How statements become those that import the names in use, and which names are added. -/
inductive Reconciled (module : String) (used : List String) :
    List Ast → List Ast → List String → Prop
  /-- No name is used, and no import takes names. -/
  | unused {parts : List Ast} (hnone : NoneTakes module parts) (hused : used = []) :
    Reconciled module used parts parts []
  /-- No import takes names, and a new one comes first. -/
  | created {parts : List Ast} (hnone : NoneTakes module parts) (hused : used ≠ []) :
    Reconciled module used parts
      (.leaf (.importDecl ⟨some (used.map namedSpecifier), ⟨module, false⟩, false, none, none⟩) ::
        parts) used
  /-- The first import that takes names has them all. -/
  | complete {before after : List Ast} {d : ImportDecl} {l : List Comment} {ps : List Ast}
    (hbefore : NoneTakes module before) (htakes : TakesNames module d)
    (hall : ∀ n ∈ used, n ∈ namedImports d) :
    Reconciled module used (before ++ .node (.importDecl d) l ps :: after)
      (before ++ .node (.importDecl d) l ps :: after) []
  /-- The first import that takes names is given those that it lacks. -/
  | extended {before after : List Ast} {d : ImportDecl} {l : List Comment} {ps : List Ast}
    {added : List String} (hbefore : NoneTakes module before) (htakes : TakesNames module d)
    (hadded : added = used.filter (· ∉ namedImports d)) (hne : added ≠ []) :
    Reconciled module used (before ++ .node (.importDecl d) l ps :: after)
      (before ++ .node (.importDecl { d with
        specifiers :=
          some (d.specifiers.getD [] ++ added.map namedSpecifier) }) l ps :: after) added

section Laws

variable {module : String} {names : Names} {used added : List String}
  {parts parts' before : List Ast}

theorem noneTakes_iff :
    NoneTakes module parts ↔ (parts.filterMap importOf?).find? (canImport module) = none := by
  simp only [NoneTakes, List.find?_eq_none, canImport_iff]

theorem takenNames_eq (module : String) (parts : List Ast) : takenNames module parts =
    (((parts.filterMap importOf?).find? (canImport module)).map namedImports).getD [] := by
  have htakes : (fun d => decide (TakesNames module d)) = canImport module := by
    funext d
    rw [Bool.eq_iff_iff, decide_eq_true_eq, canImport_iff]
  rw [takenNames, htakes]

theorem takenNames_of_noneTakes (h : NoneTakes module parts) : takenNames module parts = [] := by
  rw [takenNames_eq, noneTakes_iff.mp h]
  rfl

theorem takenNames_append (hbefore : NoneTakes module before) {d : ImportDecl}
    (htakes : TakesNames module d)
    (l : List Comment) (ps after : List Ast) :
    takenNames module (before ++ .node (.importDecl d) l ps :: after) = namedImports d := by
  rw [takenNames_eq, find?_imports_append (noneTakes_iff.mp hbefore) (canImport_iff.mpr htakes)]
  rfl

/-- The import with more named values takes names as before. -/
theorem TakesNames.extend {d : ImportDecl} (h : TakesNames module d) (added : List String) :
    TakesNames module
      { d with specifiers := some (d.specifiers.getD [] ++ added.map namedSpecifier) } := by
  refine ⟨h.1, fun name => ?_⟩
  simp [h.2 name, namedSpecifier]

theorem namedImports_extend (d : ImportDecl) (added : List String) :
    namedImports { d with specifiers := some (d.specifiers.getD [] ++ added.map namedSpecifier) } =
      namedImports d ++ added := by
  simp [namedImports, namedSpecifier, ModuleName.text, List.filterMap_map, Function.comp_def]

/-- The names in the braces afterwards are those before and the added ones. -/
theorem Reconciled.takenNames_eq_append (h : Reconciled module used parts parts' added) :
    takenNames module parts' = takenNames module parts ++ added := by
  cases h with
  | unused => simp
  | created hnone hused =>
    have htakes : TakesNames module
        ⟨some (used.map namedSpecifier), ⟨module, false⟩, false, none, none⟩ := by
      simp [TakesNames, namedSpecifier]
    have hfront : NoneTakes module [] := by simp [NoneTakes]
    have hfirst := takenNames_append hfront htakes [] [] parts
    rw [takenNames_of_noneTakes hnone, List.nil_append]
    refine hfirst.trans ?_
    simp [namedImports, namedSpecifier, ModuleName.text, List.filterMap_map, Function.comp_def]
  | complete => simp
  | extended hbefore htakes =>
    rw [takenNames_append hbefore (htakes.extend added), takenNames_append hbefore htakes,
      namedImports_extend]

/-- The added names are among those in use, and none of them was there before. -/
theorem Reconciled.added_spec (h : Reconciled module used parts parts' added) :
    added.Sublist used ∧ ∀ n ∈ added, n ∉ takenNames module parts := by
  cases h with
  | unused | complete => simp
  | created hnone hused => simp [takenNames_of_noneTakes hnone]
  | extended hbefore htakes hadded hne =>
    subst hadded
    rw [takenNames_append hbefore htakes]
    exact ⟨List.filter_sublist, fun n hn => by simpa using (List.mem_filter.mp hn).2⟩

/-- No name is there more often than before, except that a missing one is there once. -/
theorem Reconciled.count_takenNames_le (h : Reconciled module used parts parts' added)
    (hused : used.Nodup)
    (n : String) :
    (takenNames module parts').count n ≤ max 1 ((takenNames module parts).count n) := by
  obtain ⟨hsublist, hfresh⟩ := h.added_spec
  rw [h.takenNames_eq_append, List.count_append]
  by_cases hn : n ∈ added
  · have hbefore : (takenNames module parts).count n = 0 := List.count_eq_zero.mpr (hfresh n hn)
    have honce : added.count n ≤ 1 := List.nodup_iff_count_le_one.mp (hsublist.nodup hused) n
    omega
  · have hnone : added.count n = 0 := List.count_eq_zero.mpr hn
    omega

/-- A provision of names for the platform reconciles them. -/
theorem reconciled_provide (names : Names) (hused : used ≠ []) (parts : List Ast) :
    Reconciled (names .platformUiModule) used parts ((platformProvision names used).provide parts)
      (platformMissing names used parts) := by
  unfold platformMissing
  rcases (platformProvision names used).provide_cases parts with
    ⟨hfind, h⟩ | ⟨before, d, l, ps, after, rfl, hfits, hbefore, h⟩
  · rw [h, show (parts.filterMap importOf?).find? (canImport (names .platformUiModule)) =
      none from hfind]
    exact .created (noneTakes_iff.mpr hfind) hused
  · have htakes := canImport_iff.mp hfits
    have hnone := noneTakes_iff.mpr hbefore
    have hmissing : missingNames used d = used.filter (· ∉ namedImports d) := by simp [missingNames]
    rw [h, find?_imports_append (noneTakes_iff.mp hnone) hfits]
    by_cases hnil : missingNames used d = []
    · have hall : ∀ n ∈ used, n ∈ namedImports d := by simpa [hmissing] using hnil
      have hcomplete : (platformProvision names used).complete d = d := withAllNamed_eq_self hall
      rw [hcomplete]
      simp only [hnil]
      exact .complete hnone htakes hall
    · have hcomplete : (platformProvision names used).complete d = { d with
          specifiers :=
            some (d.specifiers.getD [] ++ (missingNames used d).map namedSpecifier) } := by
        simp [complete_platformProvision, withAllNamed, hnil]
      rw [hcomplete]
      exact .extended hnone htakes hmissing hnil

theorem reconciled_nil (module : String) (parts : List Ast) :
    Reconciled module [] parts parts [] := by
  rcases mapImport?_cases (canImport module) id parts with
    ⟨-, hfind⟩ | ⟨before, d, l, ps, after, rfl, hfits, hbefore, -⟩
  · exact .unused (noneTakes_iff.mpr hfind) rfl
  · exact .complete (noneTakes_iff.mpr hbefore) (canImport_iff.mp hfits) (by simp)

/-- Nothing is missing where the names are provided. -/
theorem platformMissing_of_isProvided (h : (platformProvision names used).IsProvided parts) :
    platformMissing names used parts = [] := by
  obtain ⟨d, hfind, hcomplete⟩ := h
  have happend := namedImports_withAllNamed used d
  rw [show withAllNamed used d = d from hcomplete, List.self_eq_append_right] at happend
  rw [platformMissing,
    show (parts.filterMap importOf?).find? (canImport (names .platformUiModule)) = some d
    from hfind]
  exact happend

end Laws

/-- Distinct names that can be imported are reconciled with the imports of the platform. No name
gets into the braces twice, and the second time nothing is left to do. -/
theorem platform_imports_reconciled {t : Ast} (hprogram : t.isProgram = true) {used : List String}
    (hused : used.Nodup) (hnames : ∀ n ∈ used, Parse.isImportName n = true) :
    ∃ parts added,
      (addPlatformImports Role.defaultName used).apply t =
        (.ok added.length, withStatements t parts) ∧
      Reconciled "react-native" used (statements t) parts added ∧
      (∀ n, (takenNames "react-native" parts).count n ≤
        max 1 ((takenNames "react-native" (statements t)).count n)) ∧
      (addPlatformImports Role.defaultName used).apply (withStatements t parts) =
        (.ok 0, withStatements t parts) := by
  obtain ⟨hashbang, directives, c, l, parts, rfl⟩ := Ast.isProgram_iff.mp hprogram
  simp only [statements_program, withStatements_program]
  by_cases hnil : used = []
  · subst hnil
    have hreconciled := reconciled_nil "react-native" parts
    exact ⟨parts, [], addPlatformImports_nil _, hreconciled, hreconciled.count_takenNames_le hused,
      addPlatformImports_nil _⟩
  · have htemplate : templateStatement (namedImportText used (Role.defaultName .platformUiModule)) =
        .ok (.leaf (.importDecl (platformProvision Role.defaultName used).fresh)) :=
      templateStatement_namedImportText hnil hnames "react-native"
    have happly := addPlatformImports_apply hnil htemplate hashbang directives c l
    have hreconciled := reconciled_provide Role.defaultName hnil parts
    refine ⟨_, _, happly parts, hreconciled, hreconciled.count_takenNames_le hused, ?_⟩
    have hprovided := (platformProvision Role.defaultName used).isProvided_provide parts
    rw [happly, platformMissing_of_isProvided hprovided, hprovided.provide_eq]
    rfl

/-- A program that imports the platform as a whole, then with a default binding and one name twice,
and then once more. -/
def mixedImports : List Char :=
  ("import 'react-native/setup'; import * as RN from 'react-native';" ++
    "import Native, \x7b View as Pane, View \x7d from 'react-native';" ++
    "import \x7b Text \x7d from 'react-native'; f(Pane);").toList

theorem platform_imports_reconciled_mixedImports : ["Text", "View", "type", "größe"].Nodup ∧
    (∀ n ∈ ["Text", "View", "type", "größe"], Parse.isImportName n = true) ∧
    ∃ t parts added, parseProgram mixedImports = some t ∧ t.isProgram = true ∧
      (addPlatformImports Role.defaultName ["Text", "View", "type", "größe"]).apply t =
        (.ok 3, withStatements t parts) ∧
      Reconciled "react-native" ["Text", "View", "type", "größe"] (statements t) parts added ∧
      (∀ n, (takenNames "react-native" parts).count n ≤
        max 1 ((takenNames "react-native" (statements t)).count n)) ∧
      (addPlatformImports Role.defaultName ["Text", "View", "type", "größe"]).apply
        (withStatements t parts) =
        (.ok 0, withStatements t parts) := by
  have hnames : ∀ n ∈ ["Text", "View", "type", "größe"], Parse.isImportName n = true := by
    decide +kernel
  have hused : ["Text", "View", "type", "größe"].Nodup := by decide
  have hrun : ∃ t ∈ parseProgram mixedImports, t.isProgram = true ∧
      ((addPlatformImports Role.defaultName ["Text", "View", "type", "größe"]).apply t).1.toOption =
        some 3 := by decide +kernel
  obtain ⟨t, hparse, hprogram, hcount⟩ := hrun
  obtain ⟨parts, added, happly, hreconciled, htaken, hagain⟩ :=
    platform_imports_reconciled hprogram hused hnames
  have hadded : added.length = 3 := by simpa [happly, Except.toOption] using hcount
  exact ⟨hused, hnames, t, parts, added, hparse, hprogram, hadded ▸ happly, hreconciled, htaken,
    hagain⟩

end Nativize.Conversion
