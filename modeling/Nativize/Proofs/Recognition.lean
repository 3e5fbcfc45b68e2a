import Nativize.Proofs.Fonts.Loading
import Nativize.Proofs.Pipeline.Templates
import Nativize.Proofs.TypeStatement

/-!
# Additions are recognised

What a conversion adds to a program is looked for before it is added. Main statement: imports, fonts
and declarations of types that were added are found again, so that only the statements among the
declarations that declare no type are added twice.
-/

namespace Nativize.Conversion

open Syntax

/-! ## Imports -/

/-- After the leading imports were added the program has them, and they are not added again. -/
theorem addLeadingImports_again {names : Names} (hnames : names = Role.defaultName) {t : Ast}
    (hprogram : t.isProgram = true) :
    ∃ t₁, (addLeadingImports names).apply t = (.ok (), t₁) ∧
      (fontProvision names).IsProvided (statements t₁) ∧
      (storeProvision names).IsProvided (statements t₁) ∧
      (addLeadingImports names).apply t₁ = (.ok (), t₁) := by
  subst hnames
  obtain ⟨hashbang, directives, c, l, parts, rfl⟩ := Ast.isProgram_iff.mp hprogram
  have htemplate : templateStatement
      (namedImportText [Role.defaultName .fontHook] (Role.defaultName .fontModule)) =
        .ok (.leaf (.importDecl (fontProvision Role.defaultName).fresh)) :=
          readable_default.fontImport
  have happly := addLeadingImports_apply htemplate readable_default.storeImport
    readable_default.fontStore.symm hashbang directives c l
  have hfont := ((fontProvision Role.defaultName).isProvided_provide parts).provide
    (storeProvision Role.defaultName) readable_default.fontStore
  have hstore := (storeProvision Role.defaultName).isProvided_provide
    ((fontProvision Role.defaultName).provide parts)
  refine ⟨_, happly parts, hfont, hstore, ?_⟩
  rw [happly, hfont.provide_eq, hstore.provide_eq]

/-! ## Fonts -/

section Fonts

variable {p : Profile}

theorem all_fontLoader (binding hook : String) (faces : List FontFace) :
    (fontLoader binding hook faces).All fun n => isFontTarget p n = false := by
  simp [fontLoader, faceProperty, Parse.callOf, Ast.of, Ast.leaf, Ast.absent, Ast.all_node,
    isFontTarget]

/-- After the fonts were loaded no function lacks them, and they are not loaded again. -/
theorem addFontLoading_again (hnames : p.names = Role.defaultName) (t : Ast) :
    ∃ count t₁, (addFontLoading p).apply t = (.ok count, t₁) ∧ (∀ n ∈ t₁.nodes, ¬ LacksFonts p n) ∧
      (addFontLoading p).apply t₁ = (.ok 0, t₁) := by
  have hdeclares : declaresName (p.names .fontsLoadedBinding)
      [fontLoader "fontsLoaded" "useFonts" p.tables.fontFaces] = true := by
    rw [hnames]
    rfl
  have hstatement := all_fontLoader (p := p) "fontsLoaded" "useFonts" p.tables.fontFaces
  refine ⟨_, _, addFontLoading_default hnames t, fun n hn hlacks => ?_, ?_⟩
  · have hnot : isFontTarget p n = false :=
      all_not_isFontTarget_withFonts hdeclares hstatement t n hn
    rw [isFontTarget_iff_lacksFonts.mpr hlacks] at hnot
    cases hnot
  · rw [addFontLoading_default hnames, targetCount_withFonts hdeclares hstatement,
      withFonts_withFonts hdeclares hstatement]

end Fonts

/-! ## Types -/

section Types

variable {types parts : List Ast}

/-- The second list is the first with statements put in behind the last import, or first of all
where there is none. -/
def AddedBehindImports (added parts parts' : List Ast) : Prop :=
  ∃ before after, parts = before ++ after ∧ parts' = before ++ added ++ after ∧
    (∀ s ∈ before.getLast?, (importOf? s).isSome = true) ∧ ∀ s ∈ after, importOf? s = none

theorem splitAtImports_spec (parts : List Ast) :
    (∀ s ∈ (splitAtImports parts).1.getLast?, (importOf? s).isSome = true) ∧
      ∀ s ∈ (splitAtImports parts).2, importOf? s = none := by
  induction parts with
  | nil => simp [splitAtImports]
  | cons s rest ih =>
    rw [splitAtImports]
    dsimp only
    split
    · next h =>
      simp only [Bool.and_eq_true, Option.isNone_iff_eq_none] at h
      exact ⟨by simp, List.forall_mem_cons.mpr ⟨h.2, ih.2⟩⟩
    · next h =>
      refine ⟨?_, ih.2⟩
      cases hbefore : (splitAtImports rest).1 with
      | nil => simpa [hbefore, Option.isSome_iff_ne_none] using h
      | cons first before =>
        rw [List.getLast?_cons_cons, ← hbefore]
        exact ih.1

/-- The second time only the statements are missing that declare no type. -/
theorem missingTypes_declareTypes : missingTypes types (declareTypes types parts) =
    types.filter fun s => (declaredType? s).isNone := by
  refine List.filter_congr fun s hs => ?_
  cases hname : declaredType? s with
  | none => rfl
  | some name =>
    have hmem : name ∈ (declareTypes types parts).filterMap declaredType? :=
      mem_declaredTypes hs hname
    simpa using hmem

variable {tables : Tables}

theorem templateStatements_blank : templateStatements (String.ofList []) = .ok [] := by
  have hparse : parseProgram [] = some (.node (.program none [] []) [] []) := by decide +kernel
  rw [templateStatements, String.toList_ofList, hparse]
  rfl

theorem addTypeDeclaration_blank (htext : trim tables.typeDeclaration.toList = []) (t : Ast) :
    (addTypeDeclaration tables).apply t = (.ok 0, t) := by
  simp [addTypeDeclaration, htext]

/-- A declaration of types that succeeds adds the statements of the template that are missing. -/
theorem addTypeDeclaration_ok {count : Nat} {t t₁ : Ast} (hprogram : t.isProgram = true)
    (h : (addTypeDeclaration tables).apply t = (.ok count, t₁)) :
    ∃ types, templateStatements (String.ofList (trim tables.typeDeclaration.toList)) = .ok types ∧
      t₁ = withStatements t (declareTypes types (statements t)) ∧
      ∀ parts, (addTypeDeclaration tables).apply (withStatements t parts) =
        (.ok (missingTypes types parts).length, withStatements t (declareTypes types parts)) := by
  obtain ⟨hashbang, directives, c, l, parts, rfl⟩ := Ast.isProgram_iff.mp hprogram
  by_cases htext : trim tables.typeDeclaration.toList = []
  · have happly := addTypeDeclaration_blank htext
    rw [happly] at h
    cases h
    have hnone (parts : List Ast) : declareTypes [] parts = parts := declareTypes_eq_self (by simp)
    refine ⟨[], htext ▸ templateStatements_blank, ?_, fun parts' => ?_⟩
    · rw [hnone]
      rfl
    · rw [happly, hnone]
      rfl
  · cases htypes : templateStatements (String.ofList (trim tables.typeDeclaration.toList)) with
    | error fault =>
      simp [addTypeDeclaration, htext, htypes] at h
    | ok types =>
      have happly := addTypeDeclaration_apply htext htypes hashbang directives c l
      rw [happly] at h
      cases h
      exact ⟨types, rfl, rfl, happly⟩

theorem addedBehindImports_declareTypes (types parts : List Ast) :
    AddedBehindImports (missingTypes types parts) parts (declareTypes types parts) :=
  ⟨_, _, (splitAtImports_append parts).symm, rfl, splitAtImports_spec parts⟩

/-- After a declaration of types that succeeds, another one adds the statements that declare no
type. -/
theorem addTypeDeclaration_again {count : Nat} {t t₁ : Ast} (hprogram : t.isProgram = true)
    (h : (addTypeDeclaration tables).apply t = (.ok count, t₁)) :
    ∃ types parts, templateStatements (String.ofList (trim tables.typeDeclaration.toList)) =
      .ok types ∧
      AddedBehindImports (types.filter fun s => !isTypeStatement s) (statements t₁) parts ∧
      (addTypeDeclaration tables).apply t₁ =
        (.ok (types.filter fun s => !isTypeStatement s).length, withStatements t₁ parts) := by
  obtain ⟨types, htypes, rfl, happly⟩ := addTypeDeclaration_ok hprogram h
  obtain ⟨hashbang, directives, c, l, parts, rfl⟩ := Ast.isProgram_iff.mp hprogram
  simp only [statements_program, withStatements_program] at happly ⊢
  have hothers : (types.filter fun s => !isTypeStatement s) =
      missingTypes types (declareTypes types parts) := by
    rw [missingTypes_declareTypes]
    refine List.filter_congr fun s hs => ?_
    rw [← isSome_declaredType? htypes hs, Option.not_isSome]
  refine ⟨types, declareTypes types (declareTypes types parts), htypes, ?_, ?_⟩
  · rw [hothers]
    exact addedBehindImports_declareTypes types _
  · rw [hothers]
    exact happly _

/-- The default text declares types only. -/
theorem addTypeDeclaration_default (htext : tables.typeDeclaration = Tables.defaultTypeDeclaration)
    {t : Ast}
    (hprogram : t.isProgram = true) :
    ∃ count t₁, (addTypeDeclaration tables).apply t = (.ok count, t₁) ∧
      (addTypeDeclaration tables).apply t₁ = (.ok 0, t₁) := by
  obtain ⟨htypes, hall⟩ := typeStatements_default
  rw [← htext] at htypes
  obtain ⟨hashbang, directives, c, l, parts, rfl⟩ := Ast.isProgram_iff.mp hprogram
  have happly := addTypeDeclaration_apply (htext ▸ types_default.1) htypes hashbang directives c l
  have hmissing :
      missingTypes (typeStatements .default) (declareTypes (typeStatements .default) parts) =
      [] := by
    rw [missingTypes_declareTypes, List.filter_eq_nil_iff]
    intro s hs
    have htype := hall s hs
    simp only [isTypeDeclaration, Bool.and_eq_true, Option.isSome_iff_ne_none] at htype
    simpa using htype.1.1.1
  refine ⟨_, _, happly parts, ?_⟩
  rw [happly, declareTypes.eq_def _ (declareTypes _ _), hmissing, List.append_nil,
    splitAtImports_append]
  rfl

end Types

/-! ## All additions -/

/-- With the default names, a second run of each addition finds what the first one added. Only
statements of the template for types that declare no type are added again. -/
theorem additions_recognised {p : Profile} (hnames : p.names = Role.defaultName) {t : Ast}
    (hprogram : t.isProgram = true) :
    (∃ t₁, (addLeadingImports p.names).apply t = (.ok (), t₁) ∧
      (fontProvision p.names).IsProvided (statements t₁) ∧
      (storeProvision p.names).IsProvided (statements t₁) ∧
      (addLeadingImports p.names).apply t₁ = (.ok (), t₁)) ∧
    (∃ count t₁, (addFontLoading p).apply t = (.ok count, t₁) ∧ (∀ n ∈ t₁.nodes, ¬ LacksFonts p n) ∧
      (addFontLoading p).apply t₁ = (.ok 0, t₁)) ∧
    (∀ count t₁, (addTypeDeclaration p.tables).apply t = (.ok count, t₁) →
      ∃ types parts, templateStatements (String.ofList (trim p.tables.typeDeclaration.toList)) =
        .ok types ∧
        AddedBehindImports (types.filter fun s => !isTypeStatement s) (statements t₁) parts ∧
        (addTypeDeclaration p.tables).apply t₁ =
          (.ok (types.filter fun s => !isTypeStatement s).length, withStatements t₁ parts)) ∧
    (p.tables.typeDeclaration = Tables.defaultTypeDeclaration →
      ∃ count t₁, (addTypeDeclaration p.tables).apply t = (.ok count, t₁) ∧
        (addTypeDeclaration p.tables).apply t₁ = (.ok 0, t₁)) :=
  ⟨addLeadingImports_again hnames hprogram, addFontLoading_again hnames t,
    fun _ _ h => addTypeDeclaration_again hprogram h,
    fun htext => addTypeDeclaration_default htext hprogram⟩

/-- A profile with the default names whose template holds an import and a call beside two types. -/
def mixedTypesProfile : Profile :=
  { Profile.default with tables := { Tables.default with
      typeDeclaration := " import 'a'; export interface P \x7b\x7d type Id = P; f() " } }

/-- A program with one of the types, an import that cannot take the hook, and a function whose fonts
are loaded inside another. -/
def lookAlikes : List Char :=
  ("import * as F from 'expo-font'; export type Id = A;" ++
    "function Balance() \x7b function Balance() \x7b let [fontsLoaded] = f; \x7d \x7d").toList

theorem additions_recognised_lookAlikes : mixedTypesProfile.names = Role.defaultName ∧
    ∃ t, parseProgram lookAlikes = some t ∧ t.isProgram = true ∧
      (∃ t₁, (addLeadingImports mixedTypesProfile.names).apply t = (.ok (), t₁) ∧
        (addLeadingImports mixedTypesProfile.names).apply t₁ = (.ok (), t₁)) ∧
      (∃ t₁, (addFontLoading mixedTypesProfile).apply t = (.ok 1, t₁) ∧
        (addFontLoading mixedTypesProfile).apply t₁ = (.ok 0, t₁)) ∧
      ∃ (t₁ : Ast) (types parts : List Ast),
        (addTypeDeclaration mixedTypesProfile.tables).apply t = (.ok 3, t₁) ∧
        templateStatements (String.ofList (trim mixedTypesProfile.tables.typeDeclaration.toList)) =
          .ok types ∧
        AddedBehindImports (types.filter fun s => !isTypeStatement s) (statements t₁) parts ∧
        (addTypeDeclaration mixedTypesProfile.tables).apply t₁ =
          (.ok 2, withStatements t₁ parts) := by
  have hrun :
      ∃ t ∈ parseProgram lookAlikes, t.isProgram = true ∧ targetCount mixedTypesProfile t = 1 ∧
      ((addTypeDeclaration mixedTypesProfile.tables).apply t).1.toOption = some 3 ∧
      ((addTypeDeclaration mixedTypesProfile.tables).apply
        ((addTypeDeclaration mixedTypesProfile.tables).apply t).2).1.toOption = some 2 := by
    decide +kernel
  obtain ⟨t, hparse, hprogram, htargets, hfirst, hsecond⟩ := hrun
  obtain ⟨⟨t₁, himports, -, -, himports'⟩, ⟨count, t₂, hfonts, -, hfonts'⟩, htypes, -⟩ :=
    additions_recognised (p := mixedTypesProfile) rfl hprogram
  have hcount : count = 1 := by
    rw [addFontLoading_default rfl, htargets] at hfonts
    exact (Except.ok.inj (Prod.mk.inj hfonts).1).symm
  have hok {r : Except Failure Nat} {n : Nat} (h : r.toOption = some n) : r = .ok n := by
    cases r <;> simp_all [Except.toOption]
  have hdeclared := Pass.apply_eq_of_ok (hok hfirst)
  obtain ⟨types, parts, htemplate, hadded, hagain⟩ := htypes 3 _ hdeclared
  have hothers : (types.filter fun s => !isTypeStatement s).length = 2 := by
    simpa [hagain, Except.toOption] using hsecond
  exact ⟨rfl, t, hparse, hprogram, ⟨t₁, himports, himports'⟩, ⟨t₂, hcount ▸ hfonts, hfonts'⟩,
    _, types, parts, hdeclared, htemplate, hadded, hothers ▸ hagain⟩

end Nativize.Conversion
