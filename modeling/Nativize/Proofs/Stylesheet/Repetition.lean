import Nativize.Proofs.Pipeline.Templates
import Nativize.Proofs.Syntax.Parser.Program

/-!
# Repeated conversion of the stylesheet

A program may bind several style tables. A conversion of the stylesheet takes the first of them and
binds a stylesheet at the end, and the next conversion takes the next. Main statement: what one
conversion does to a program with a table, and that a program stays as it is once its tables are
used up.
-/

namespace Nativize.Conversion

open Syntax

/-- How many declarators of the program bind a style table to the name. -/
def tableCount (binding : String) (t : Ast) : Nat :=
  ((statements t).flatMap topDeclarators).countP (bindsTable binding)

/-- The entry of a style table is an object literal, and has entries on the platform. -/
def isLastingRule (tables : Tables) (e : String × Ast) : Bool :=
  match objectEntries? e.2 with
  | some rule => !(resolveEntries tables rule).isEmpty
  | none => false

/-- The second entry holds the rule of the first as it is on the platform, under the same name. -/
def IsResolvedRule (tables : Tables) (source emitted : String × Ast) : Prop :=
  emitted.1 = source.1 ∧ ∃ rule, objectEntries? source.2 = some rule ∧
    IsObject (resolveEntries tables rule).entries emitted.2

/-- The first style table among statements is replaced by a stylesheet of so many rules. The
declarator of the table goes, and its statement if no other declarator is left there. The stylesheet
is bound at the end, exported if the table was. -/
inductive TableReplaced (p : Profile) : List Ast → List Ast → Nat → Prop
  | mk {before after items items' : List Ast} {s d literal : Ast}
      {table rules : List (String × Ast)}
      (hdeclarators : topDeclarators s = items ++ d :: items')
      (htable : tableOf? (p.names .stylesBinding) d = some table)
      (hfirst : ∀ e ∈ before.flatMap topDeclarators ++ items,
        bindsTable (p.names .stylesBinding) e = false)
      (hrules : List.Forall₂ (IsResolvedRule p.tables)
        (table.filter (isLastingRule p.tables)) rules)
      (hliteral : IsObject rules literal) :
      TableReplaced p (before ++ s :: after)
        (before ++ remainder (items ++ items') s ++ after ++
          [stylesheetOf p.names literal (isExport s)])
        rules.length

/-- The program after so many conversions of its stylesheet. -/
def afterRuns (p : Profile) : Nat → Ast → Ast
  | 0, t => t
  | k + 1, t => ((convertStylesheet p).apply (afterRuns p k t)).2

theorem forall₂_resolveRules (tables : Tables) (table : List (String × Ast)) :
    List.Forall₂ (IsResolvedRule tables) (table.filter (isLastingRule tables))
      (resolveRules tables table) := by
  induction table with
  | nil => exact .nil
  | cons e rest ih =>
    cases hrule : objectEntries? e.2 with
    | none => simpa [resolveRules, isLastingRule, hrule] using ih
    | some rule =>
      by_cases hempty : (resolveEntries tables rule).isEmpty
      · simpa [resolveRules, isLastingRule, hrule, hempty] using ih
      · have hfilter : (e :: rest).filter (isLastingRule tables) =
            e :: rest.filter (isLastingRule tables) := by
          simp [isLastingRule, hrule, hempty]
        have hresolve : resolveRules tables (e :: rest) =
            (e.1, objectOf (resolveEntries tables rule).entries) :: resolveRules tables rest := by
          simp [resolveRules, hrule, hempty]
        rw [hfilter, hresolve]
        exact .cons ⟨rfl, rule, hrule, isObject_objectOf _⟩ ih

/-- A program with a stylesheet and no table stays as it is. -/
theorem convertStylesheet_already {p : Profile} {t : Ast}
    (htables : tableCount (p.names .stylesBinding) t = 0)
    (hsheet : hasStylesheet p.names (statements t) = true) :
    (convertStylesheet p).apply t = (.ok .already, t) := by
  rcases takeTable_cases (p.names .stylesBinding) (statements t) with
    ⟨hnone, -⟩ | ⟨before, s, after, items, d, items', table, hparts, htop, htable, -, -⟩
  · simp [convertStylesheet, hnone, hsheet]
  · have hd : d ∈ (statements t).flatMap topDeclarators := by simp [hparts, htop]
    have hbinds := List.countP_eq_zero.mp htables d hd
    simp [bindsTable, htable] at hbinds

section Runs

variable {p : Profile} {t : Ast}
  (htemplate : ∀ isExported, templateStatement (stylesheetText p.names isExported) =
    .ok (stylesheetOf p.names (.leaf .object) isExported))

include htemplate

/-- While there is a table, a conversion replaces the first. -/
theorem convertStylesheet_replaces (hprogram : t.isProgram = true)
    (hcount : 0 < tableCount (p.names .stylesBinding) t) :
    ∃ parts rules, (convertStylesheet p).apply t =
      (.ok (.converted rules), withStatements t parts) ∧
      TableReplaced p (statements t) parts rules := by
  obtain ⟨hashbang, directives, c, l, parts, rfl⟩ := Ast.isProgram_iff.mp hprogram
  rcases takeTable_cases (p.names .stylesBinding) parts with
    ⟨-, hall⟩ | ⟨before, s, after, items, d, items', table, rfl, htop, htable, hfirst, hsome⟩
  · obtain ⟨d, hd, hbinds⟩ := List.countP_pos_iff.mp hcount
    rw [hall d hd] at hbinds
    cases hbinds
  · refine ⟨_, _, ?_, .mk htop htable hfirst (forall₂_resolveRules p.tables table)
      (isObject_objectOf _)⟩
    simp only [convertStylesheet, Pass.apply_bind, Pass.apply_getStatements, statements_program,
      hsome, Pass.apply_setStatements, stylesheetStatement_eq (htemplate _), Pass.apply_require_ok,
      Pass.apply_pure, withStatements_program]

/-- A run gives the statements their next form and keeps the rest of the program. -/
theorem afterRuns_program (hashbang : Option String) (directives : List Directive)
    (c l : List Comment) (parts : List Ast) (k : Nat) :
    afterRuns p k (.node (.program hashbang directives c) l parts) =
      .node (.program hashbang directives c) l ((bindStylesheet p)^[k] parts) := by
  induction k with
  | zero => rfl
  | succ k ih =>
    obtain ⟨outcome, happly⟩ := convertStylesheet_apply htemplate hashbang directives c l
      ((bindStylesheet p)^[k] parts)
    rw [afterRuns, ih, happly, Function.iterate_succ_apply']

/-- Each run uses up a table. -/
theorem tableCount_afterRuns (hprogram : t.isProgram = true) (k : Nat) :
    tableCount (p.names .stylesBinding) (afterRuns p k t) =
      tableCount (p.names .stylesBinding) t - k := by
  obtain ⟨hashbang, directives, c, l, parts, rfl⟩ := Ast.isProgram_iff.mp hprogram
  rw [afterRuns_program htemplate]
  unfold tableCount
  simp only [statements_program]
  induction k with
  | zero => rfl
  | succ k ih =>
    rw [Function.iterate_succ_apply', countP_bindStylesheet, ih]
    omega

/-- The first run leaves a stylesheet, and it is there from then on. -/
theorem hasStylesheet_afterRuns (hprogram : t.isProgram = true) {k : Nat} (hk : 0 < k) :
    hasStylesheet p.names (statements (afterRuns p k t)) = true := by
  obtain ⟨hashbang, directives, c, l, parts, rfl⟩ := Ast.isProgram_iff.mp hprogram
  obtain ⟨k, rfl⟩ := Nat.exists_eq_add_one_of_ne_zero hk.ne'
  rw [afterRuns_program htemplate, Function.iterate_succ_apply', statements_program]
  exact hasStylesheet_bindStylesheet

theorem convertStylesheet_afterRuns (hprogram : t.isProgram = true) {k : Nat}
    (hk : max (tableCount (p.names .stylesBinding) t) 1 ≤ k) :
    (convertStylesheet p).apply (afterRuns p k t) = (.ok .already, afterRuns p k t) := by
  obtain ⟨htables, hpos⟩ := max_le_iff.mp hk
  refine convertStylesheet_already ?_ (hasStylesheet_afterRuns htemplate hprogram hpos)
  rw [tableCount_afterRuns htemplate hprogram]
  omega

end Runs

/-- With the default names, a conversion of the stylesheet replaces the first style table of a
program that has one. When it is repeated, every run finds the stylesheet and leaves the program as
it is, once as many runs were made as there are tables, and at least one. -/
theorem stylesheet_replaces_tables_in_turn {p : Profile} (hnames : p.names = Role.defaultName)
    {t : Ast}
    (hprogram : t.isProgram = true) :
    (0 < tableCount "styles" t → ∃ parts rules,
      (convertStylesheet p).apply t = (.ok (.converted rules), withStatements t parts) ∧
        TableReplaced p (statements t) parts rules) ∧
    ∀ k, max (tableCount "styles" t) 1 ≤ k →
      (convertStylesheet p).apply (afterRuns p k t) = (.ok .already, afterRuns p k t) := by
  have htemplate (isExported : Bool) : templateStatement (stylesheetText p.names isExported) =
      .ok (stylesheetOf p.names (.leaf .object) isExported) := by
    rw [hnames]
    exact readable_default.stylesheet isExported
  have hbinding : p.names .stylesBinding = "styles" := by rw [hnames]; rfl
  rw [← hbinding]
  exact ⟨convertStylesheet_replaces htemplate hprogram,
    fun k => convertStylesheet_afterRuns htemplate hprogram⟩

/-- A program with a style table between other variables and another in an export of its own. -/
def twiceStyled : List Char :=
  ("const a = 1, styles = \x7b box: \x7b color: 'red' \x7d, gone: \x7b cursor: 'x' \x7d, " ++
    "n: 1 \x7d, b = 2; export const styles = \x7b\x7d;").toList

theorem stylesheet_replaces_tables_of_twiceStyled : ∃ t parts, parseProgram twiceStyled = some t ∧
    tableCount "styles" t = 2 ∧
    (convertStylesheet .default).apply t = (.ok (.converted 1), withStatements t parts) ∧
    TableReplaced .default (statements t) parts 1 ∧
    ∀ k, 2 ≤ k →
      (convertStylesheet .default).apply (afterRuns .default k t) =
        (.ok .already, afterRuns .default k t) := by
  have hrun : ∃ t ∈ parseProgram twiceStyled, tableCount "styles" t = 2 ∧
      ((convertStylesheet .default).apply t).1 = .ok (.converted 1) := by
    decide +kernel
  obtain ⟨t, hparse, hcount, hok⟩ := hrun
  obtain ⟨-, hprogram⟩ := parseProgram_wellFormed hparse
  obtain ⟨hreplaces, hstays⟩ := stylesheet_replaces_tables_in_turn (p := .default) rfl hprogram
  rw [hcount] at hreplaces hstays
  obtain ⟨parts, rules, happly, hreplaced⟩ := hreplaces (by decide)
  rw [happly] at hok
  cases hok
  exact ⟨t, parts, hparse, hcount, happly, hreplaced, hstays⟩

end Nativize.Conversion
