import Nativize.Proofs.Pipeline.Templates
import Nativize.Proofs.Syntax.Parser.Program

/-!
# Declarations of the name for styles

A stylesheet is bound in the place of a style table, and it is added to a program that binds neither
a style table nor a stylesheet to the name for styles. What else the program may have declared under
that name is not looked at. Main statement: how often a program declares the name afterwards.
-/

namespace Nativize.Conversion

open Syntax

mutual

/-- The names that a pattern binds, in order. -/
def patternNames : Ast → List String
  | .node (.binding name) _ _ => [name]
  | .node .objectPattern _ parts => patternNamesOf parts
  | .node .arrayPattern _ parts => patternNamesOf parts
  | .node (.patternProperty _ _) _ [_, value] => patternNames value
  | .node .rest _ (pattern :: _) => patternNames pattern
  | .node .defaulted _ (pattern :: _) => patternNames pattern
  | _ => []

def patternNamesOf : List Ast → List String
  | [] => []
  | t :: rest => patternNames t ++ patternNamesOf rest

end

/-- The names that a declaration of variables, a function or a class declares. -/
def declarationNames : Ast → List String
  | .node (.variableDecl ..) _ items => items.flatMap fun d => patternNames (d.part 0)
  | .node (.functionLike facts) _ (name :: _) =>
    if facts.form = .expression then [] else patternNames name
  | .node (.classLike facts) _ (_ :: name :: _) =>
    if facts.isDeclaration then patternNames name else []
  | _ => []

/-- The names that a statement of a program declares: by the bindings of an import, or by a
declaration, exported or not. -/
def declaredNames : Ast → List String
  | .node (.importDecl d) _ _ => localNames d
  | .node (.exportNamed ..) _ (declaration :: _) => declarationNames declaration
  | .node .exportDefault _ (declaration :: _) => declarationNames declaration
  | s => declarationNames s

/-- How often the statements of a program declare the name. -/
def timesDeclared (name : String) (t : Ast) : Nat :=
  ((statements t).flatMap declaredNames).count name

/-- The declarator gives the name for styles a value that is known: a style table or a stylesheet.
-/
def isStylesDeclarator (names : Names) (d : Ast) : Bool :=
  match valueFor? (names .stylesBinding) d with
  | some value => (objectEntries? value).isSome || isStylesheetCall names value
  | none => false

section Declarators

variable {s d : Ast} {name : String}

theorem declaredNames_of_topDeclarators (h : topDeclarators s ≠ []) :
    declaredNames s = (topDeclarators s).flatMap fun d => patternNames (d.part 0) := by
  unfold topDeclarators at h ⊢
  split at h
  · rfl
  · rfl
  · exact absurd rfl h

theorem declaredNames_remainder (h : topDeclarators s ≠ []) (items : List Ast) :
    (remainder items s).flatMap declaredNames = items.flatMap fun d => patternNames (d.part 0) := by
  unfold remainder
  split
  · next hitems => rw [List.isEmpty_iff.mp hitems]; rfl
  · next hitems =>
    have htop := topDeclarators_withDeclarators h items
    have hne : topDeclarators (withDeclarators items s) ≠ [] := by grind
    rw [List.flatMap_singleton, declaredNames_of_topDeclarators hne, htop]

theorem patternNames_of_valueFor? {value : Ast} (h : valueFor? name d = some value) :
    patternNames (d.part 0) = [name] := by
  unfold valueFor? at h
  split at h
  · split at h
    · next heq =>
      subst heq
      rfl
    · cases h
  · cases h

theorem isStylesDeclarator_eq (names : Names) (d : Ast) :
    isStylesDeclarator names d = (bindsTable (names .stylesBinding) d ||
      ((valueFor? (names .stylesBinding) d).map (isStylesheetCall names)).getD false) := by
  unfold isStylesDeclarator bindsTable tableOf?
  cases valueFor? (names .stylesBinding) d <;> rfl

theorem mem_declaredNames_of_isStylesDeclarator {names : Names} (hd : d ∈ topDeclarators s)
    (h : isStylesDeclarator names d = true) : names .stylesBinding ∈ declaredNames s := by
  unfold isStylesDeclarator at h
  split at h
  · next hvalue =>
    rw [declaredNames_of_topDeclarators (List.ne_nil_of_mem hd)]
    exact List.mem_flatMap.mpr ⟨d, hd, by simp [patternNames_of_valueFor? hvalue]⟩
  · cases h

theorem declaredNames_stylesheetOf (names : Names) (table : Ast) (isExported : Bool) :
    declaredNames (stylesheetOf names table isExported) = [names .stylesBinding] := by
  cases isExported <;> rfl

end Declarators

section Count

variable {p : Profile} {parts : List Ast}

theorem any_isStylesDeclarator (p : Profile) (parts : List Ast) :
    (parts.flatMap topDeclarators).any (isStylesDeclarator p.names) =
      ((parts.flatMap topDeclarators).any (bindsTable (p.names .stylesBinding)) ||
        hasStylesheet p.names parts) := by
  unfold hasStylesheet
  rw [Bool.eq_iff_iff]
  simp only [Bool.or_eq_true, List.any_eq_true, isStylesDeclarator_eq]
  grind

/-- The name for styles is declared once more, unless a style table or a stylesheet was bound to it.
-/
theorem count_bindStylesheet :
    ((bindStylesheet p parts).flatMap declaredNames).count (p.names .stylesBinding) =
      (parts.flatMap declaredNames).count (p.names .stylesBinding) +
        if (parts.flatMap topDeclarators).any (isStylesDeclarator p.names) then 0 else 1 := by
  rw [any_isStylesDeclarator]
  unfold bindStylesheet
  rcases takeTable_cases (p.names .stylesBinding) parts with
    ⟨hnone, hall⟩ | ⟨before, s, after, items, d, items', table, rfl, htop, htable, -, hsome⟩
  · have htables :
        (parts.flatMap topDeclarators).any (bindsTable (p.names .stylesBinding)) = false :=
      List.any_eq_false.mpr fun d hd => by simp [hall d hd]
    rw [hnone, htables, Bool.false_or]
    cases hasStylesheet p.names parts with
    | true => rfl
    | false => simp [declaredNames_stylesheetOf]
  · have hs : topDeclarators s ≠ [] := by simp [htop]
    have hd : bindsTable (p.names .stylesBinding) d = true := by rw [bindsTable, htable]; rfl
    obtain ⟨value, hvalue, -⟩ := Option.bind_eq_some_iff.mp htable
    -- The declarator that goes with the table declares the name, and the stylesheet declares it
    -- again.
    have hnames := patternNames_of_valueFor? hvalue
    rw [hsome]
    simp [declaredNames_stylesheetOf, declaredNames_remainder hs,
      declaredNames_of_topDeclarators hs, htop, hd, hnames]
    omega

/-- A style table or stylesheet of the program is bound to the name for styles. -/
def BindsStyles (names : Names) (t : Ast) : Prop :=
  ∃ d ∈ (statements t).flatMap topDeclarators, isStylesDeclarator names d = true

instance (names : Names) (t : Ast) : Decidable (BindsStyles names t) :=
  inferInstanceAs (Decidable (∃ d ∈ (statements t).flatMap topDeclarators,
    isStylesDeclarator names d = true))

theorem timesDeclared_pos {t : Ast} (h : BindsStyles p.names t) :
    0 < timesDeclared (p.names .stylesBinding) t := by
  obtain ⟨d, hd, hbinds⟩ := h
  obtain ⟨s, hs, hd⟩ := List.mem_flatMap.mp hd
  exact List.count_pos_iff.mpr
    (List.mem_flatMap.mpr ⟨s, hs, mem_declaredNames_of_isStylesDeclarator hd hbinds⟩)

/-- Where the template of the stylesheet can be read the conversion succeeds, and declares the name
for styles once more unless it finds it bound. -/
theorem timesDeclared_convertStylesheet (hp : Readable p) {t : Ast}
    (hprogram : t.isProgram = true) :
    ∃ outcome t', (convertStylesheet p).apply t = (.ok outcome, t') ∧
      timesDeclared (p.names .stylesBinding) t' =
        timesDeclared (p.names .stylesBinding) t + if BindsStyles p.names t then 0 else 1 := by
  obtain ⟨hashbang, directives, c, l, parts, rfl⟩ := Ast.isProgram_iff.mp hprogram
  obtain ⟨outcome, happly⟩ := convertStylesheet_apply hp.stylesheet hashbang directives c l parts
  refine ⟨outcome, _, happly, count_bindStylesheet.trans ?_⟩
  simp only [BindsStyles, statements_program, List.any_eq_true]
  rfl

/-- Where the name for styles is bound to no style table and no stylesheet, an empty stylesheet is
bound to it at the end. -/
theorem convertStylesheet_of_not_bindsStyles (hp : Readable p) {t t' : Ast}
    {outcome : StylesheetOutcome} (h : (convertStylesheet p).apply t = (.ok outcome, t'))
    (hbinds : ¬BindsStyles p.names t) : outcome = .empty ∧
      t' = withStatements t (statements t ++ [stylesheetOf p.names (.leaf .object) false]) := by
  have hnone : ((statements t).flatMap topDeclarators).any (isStylesDeclarator p.names) = false :=
    List.any_eq_false.mpr fun d hd hstyles => hbinds ⟨d, hd, hstyles⟩
  rw [any_isStylesDeclarator, Bool.or_eq_false_iff] at hnone
  rcases convertStylesheet_ok h with ⟨taken, -, htake, -⟩ | ⟨-, hsheet, -⟩ |
    ⟨statement, -, -, hstatement, houtcome, ht'⟩
  · rcases takeTable_cases (p.names .stylesBinding) (statements t) with
      ⟨hnotable, -⟩ | ⟨before, s, after, items, d, items', table, hparts, htop, htable, -, -⟩
    · rw [hnotable] at htake
      cases htake
    · have hd := List.any_eq_false.mp hnone.1 d (by simp [hparts, htop])
      simp [bindsTable, htable] at hd
  · rw [hnone.2] at hsheet
    cases hsheet
  · rw [stylesheetStatement_eq (hp.stylesheet false)] at hstatement
    cases hstatement
    exact ⟨houtcome, ht'⟩

end Count

/-- A program that declares the name for styles at most once declares it exactly once after the
stylesheet is bound if it did not declare it before, or bound a style table or a stylesheet to it.
Otherwise it then declares the name twice. Without a style table and a stylesheet it gets an empty
stylesheet as its last statement. -/
theorem styles_declared_once {source : List Char} {t : Ast} (hparse : parseProgram source = some t)
    (honce : timesDeclared "styles" t ≤ 1) :
    ∃ outcome t', (convertStylesheet .default).apply t = (.ok outcome, t') ∧
      (timesDeclared "styles" t' =
        if timesDeclared "styles" t = 0 ∨ BindsStyles Role.defaultName t then 1 else 2) ∧
      (¬BindsStyles Role.defaultName t → outcome = .empty ∧ t' = withStatements t
        (statements t ++ [stylesheetOf Role.defaultName (.leaf .object) false])) := by
  obtain ⟨-, hprogram⟩ := parseProgram_wellFormed hparse
  obtain ⟨outcome, t', happly, htimes⟩ := timesDeclared_convertStylesheet readable_default hprogram
  refine ⟨outcome, t', happly, ?_, convertStylesheet_of_not_bindsStyles readable_default happly⟩
  change timesDeclared "styles" t' =
    timesDeclared "styles" t + if BindsStyles Role.defaultName t then 0 else 1 at htimes
  by_cases hbinds : BindsStyles Role.defaultName t
  · have hpos : 0 < timesDeclared "styles" t := timesDeclared_pos (p := .default) hbinds
    simp only [hbinds, if_true, or_true] at htimes ⊢
    omega
  · simp only [hbinds, if_false, or_false] at htimes ⊢
    split <;> omega

/-- A program with a style table in an export, after a declaration that takes things apart. -/
def exportedTable : List Char :=
  ("const \x7b a, ...rest \x7d = theme; " ++
    "export const box = 1, styles = \x7b a: \x7b \x7d \x7d;").toList

theorem styles_declared_once_exportedTable : ∃ t, parseProgram exportedTable = some t ∧
    timesDeclared "styles" t = 1 ∧ ∃ outcome t',
      (convertStylesheet .default).apply t = (.ok outcome, t') ∧
      timesDeclared "styles" t' = 1 := by
  have hread : ∃ t ∈ parseProgram exportedTable, timesDeclared "styles" t = 1 ∧
      BindsStyles Role.defaultName t := by
    decide +kernel
  obtain ⟨t, hparse, honce, hbinds⟩ := hread
  obtain ⟨outcome, t', happly, htimes, -⟩ := styles_declared_once hparse honce.le
  exact ⟨t, hparse, honce, outcome, t', happly, htimes.trans (if_pos (.inr hbinds))⟩

/-- A program that imports the name for styles declares it a second time. -/
theorem styles_declared_twice : ¬∀ source t outcome t', parseProgram source = some t →
    timesDeclared "styles" t ≤ 1 → (convertStylesheet .default).apply t = (.ok outcome, t') →
      timesDeclared "styles" t' = 1 := by
  intro h
  have hrun : ∃ t ∈ parseProgram "import styles from './theme';".toList,
      timesDeclared "styles" t = 1 ∧ ((convertStylesheet .default).apply t).1 = .ok .empty ∧
      timesDeclared "styles" ((convertStylesheet .default).apply t).2 = 2 := by
    decide +kernel
  obtain ⟨t, hparse, honce, hok, htwice⟩ := hrun
  have hexactly := h _ t _ _ hparse honce.le (Pass.apply_eq_of_ok hok)
  rw [htwice] at hexactly
  cases hexactly

end Nativize.Conversion
