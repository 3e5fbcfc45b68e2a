import Mathlib.Data.List.Basic
import Nativize.Proofs.Stylesheet.Basic

/-!
# The evaluated style table

A style table has two forms on the platform: the stylesheet that a conversion writes into the
program, and the table of its values. Both resolve the rules of the same source table, one on
expressions and the other on values. The stylesheet, evaluated where its source was made of
literals, is the table of values.
-/

namespace Nativize.Style

variable {α β : Type}

/-- Resolving a rule commutes with a change of its values that keeps their texts and numbers. -/
theorem mergeRule_map (tables : Tables) {textOf : α → Option String} {ofNumber : Number → α}
    {textOf' : β → Option String} {ofNumber' : Number → β} (f : α → β) (rule : OrderedMap α)
    (htext : ∀ e ∈ rule.entries, textOf' (f e.2) = textOf e.2)
    (hnumber : ∀ n, f (ofNumber n) = ofNumber' n) :
    (mergeRule tables textOf ofNumber rule).map f =
      mergeRule tables textOf' ofNumber' (rule.map f) := by
  unfold mergeRule
  rw [OrderedMap.map_ofList, List.map_filterMap]
  congr 1
  simp only [OrderedMap.map, List.filterMap_map]
  apply List.filterMap_congr
  intro e he
  simp only [Function.comp_apply, htext e he]
  cases Resolution.of tables e.1 (textOf e.2) <;> simp [Resolution.entry, hnumber]

theorem nodup_keys_mergeRule (tables : Tables) (textOf : α → Option String)
    (ofNumber : Number → α) (rule : OrderedMap α) :
    (mergeRule tables textOf ofNumber rule).keys.Nodup :=
  OrderedMap.nodup_keys_ofList _

end Nativize.Style

namespace Nativize.Conversion

open Syntax

/-! ## Literals -/

/-- A string, a number, or a number with a minus sign before it. -/
def isLiteral : Ast → Bool
  | .node (.string _) _ _ => true
  | .node (.number ..) _ _ => true
  | .node (.unary op) _ [.node (.number ..) _ _] => op = "-"
  | _ => false

theorem isSome_literalValue? (t : Ast) : (literalValue? t).isSome = isLiteral t := by
  fun_cases literalValue? t with
  | case1 => rfl
  | case2 => rfl
  | case3 => rfl
  | case4 op l n raw nl np hop => simp [isLiteral, hop]
  | case5 t hstring hnumber hunary =>
    unfold isLiteral
    split
    · exact absurd rfl (hstring _ _ _)
    · exact absurd rfl (hnumber _ _ _ _)
    · exact absurd rfl (hunary _ _ _ _ _ _)
    · rfl

/-- The value of a literal. Anything else counts as zero. -/
def literalValue (t : Ast) : Style.Value := (literalValue? t).getD (.number 0)

theorem literalValue?_eq {t : Ast} (h : isLiteral t) : literalValue? t = some (literalValue t) := by
  obtain ⟨v, hv⟩ := Option.isSome_iff_exists.mp ((isSome_literalValue? t).trans h)
  simp [literalValue, hv]

theorem text?_literalValue {t : Ast} (h : isLiteral t) :
    (literalValue t).text? = literalText? t := by
  unfold isLiteral at h
  split at h
  · rfl
  · rfl
  · simp only [decide_eq_true_eq] at h
    subst h
    rfl
  · cases h

@[simp] theorem isLiteral_numberLiteral (n : Number) : isLiteral (numberLiteral n) = true := rfl

@[simp] theorem literalValue_numberLiteral (n : Number) :
    literalValue (numberLiteral n) = .number n := rfl

/-- A rule of literals is evaluated entry by entry. -/
theorem literalRule?_eq {rule : List (String × Ast)} (h : ∀ e ∈ rule, isLiteral e.2) :
    literalRule? rule = some ((OrderedMap.ofList rule).map literalValue) := by
  have hall : (rule.mapM fun e => (literalValue? e.2).map fun v => (e.1, v)) =
      some (rule.map fun e => (e.1, literalValue e.2)) := by
    induction rule with
    | nil => rfl
    | cons e rest ih =>
      have he := literalValue?_eq (h e (by simp))
      have hrest := ih fun e' he' => h e' (by simp [he'])
      simp [List.mapM_cons, he, hrest]
  rw [literalRule?, hall, OrderedMap.map_ofList]
  rfl

/-- A rule with an entry that is no literal is not evaluated. -/
theorem literalRule?_eq_none {rule : List (String × Ast)} {e : String × Ast} (he : e ∈ rule)
    (h : isLiteral e.2 = false) : literalRule? rule = none := by
  have hnone : literalValue? e.2 = none := by
    have := isSome_literalValue? e.2
    rw [h] at this
    simpa using this
  have hall : (rule.mapM fun e => (literalValue? e.2).map fun v => (e.1, v)) = none := by
    induction rule with
    | nil => cases he
    | cons first rest ih =>
      rcases List.mem_cons.mp he with rfl | he
      · simp [List.mapM_cons, hnone]
      · simp [List.mapM_cons, ih he]
  rw [literalRule?, hall]
  rfl

/-! ## Rules -/

/-- Every entry of the rule is a literal. -/
def isLiteralRule (value : Ast) : Bool :=
  ((objectEntries? value).map (·.all fun e => isLiteral e.2)).getD false

/-- The rule of a stylesheet that stems from an entry of a style table, if one does. -/
def resolveRule? (tables : Tables) (e : String × Ast) : Option (String × Ast) :=
  (objectEntries? e.2).bind fun rule =>
    let resolved := resolveEntries tables rule
    if resolved.isEmpty then none else some (e.1, objectOf resolved.entries)

theorem resolveRules_eq (tables : Tables) (table : List (String × Ast)) :
    resolveRules tables table = table.filterMap (resolveRule? tables) := rfl

/-- The values of a rule of a stylesheet, under its name. -/
def evaluateRule? (e : String × Ast) : Option (String × Style.Rule) :=
  ((objectEntries? e.2).bind literalRule?).map fun rule => (e.1, rule)

/-- A rule of literals may be evaluated before it is resolved or after. -/
theorem map_resolveEntries {rule : List (String × Ast)} (tables : Tables)
    (h : ∀ e ∈ rule, isLiteral e.2) :
    (resolveEntries tables rule).map literalValue =
      Style.Rule.resolve tables ((OrderedMap.ofList rule).map literalValue) := by
  refine Style.mergeRule_map tables literalValue (.ofList rule) ?_ literalValue_numberLiteral
  intro e he
  exact text?_literalValue (h e (OrderedMap.mem_entries_ofList he))

/-- What is resolved from literals are literals. -/
theorem isLiteral_of_mem_resolveEntries {tables : Tables} {rule : List (String × Ast)}
    (h : ∀ e ∈ rule, isLiteral e.2) {e : String × Ast}
    (he : e ∈ (resolveEntries tables rule).entries) : isLiteral e.2 := by
  rcases Style.mem_mergeRule he with ⟨source, hsource, heq⟩ | ⟨n, heq⟩
  · rw [heq]
    exact h source (OrderedMap.mem_entries_ofList hsource)
  · rw [heq]
    rfl

theorem literalRule?_resolveEntries {rule : List (String × Ast)} (tables : Tables)
    (h : ∀ e ∈ rule, isLiteral e.2) :
    literalRule? (resolveEntries tables rule).entries =
      some (Style.Rule.resolve tables ((OrderedMap.ofList rule).map literalValue)) := by
  have hresolved : ∀ e ∈ (resolveEntries tables rule).entries, isLiteral e.2 :=
    fun e he => isLiteral_of_mem_resolveEntries h he
  have hagain :
      OrderedMap.ofList (resolveEntries tables rule).entries = resolveEntries tables rule :=
    OrderedMap.ofList_entries (Style.nodup_keys_mergeRule _ _ _ _)
  rw [literalRule?_eq hresolved, hagain, map_resolveEntries tables h]

/-- The rule that stems from a rule of literals evaluates to the evaluated form of its source, and
where none stems from it there is no such form. -/
theorem evaluatedRule?_of_isLiteralRule (tables : Tables) (name : String) {value : Ast}
    (h : isLiteralRule value) :
    match resolveRule? tables (name, value) with
    | some emitted =>
      ∃ rule, evaluateRule? emitted = some (name, rule) ∧ evaluatedRule? tables value = some rule
    | none => evaluatedRule? tables value = none := by
  cases hrule : objectEntries? value with
  | none => simp [isLiteralRule, hrule] at h
  | some rule =>
    have hall : ∀ e ∈ rule, isLiteral e.2 := by simpa [isLiteralRule, hrule] using h
    have hsource := literalRule?_eq hall
    have hresolved := literalRule?_resolveEntries tables hall
    have hempty : OrderedMap.isEmpty
        (Style.Rule.resolve tables ((OrderedMap.ofList rule).map literalValue)) =
          (resolveEntries tables rule).isEmpty := by
      rw [← map_resolveEntries tables hall, OrderedMap.isEmpty_map]
    by_cases hnone : (resolveEntries tables rule).isEmpty
    · simp [resolveRule?, evaluatedRule?, hrule, hsource, hempty, hnone]
    · simp [resolveRule?, evaluatedRule?, hrule, hsource, hempty, hnone, evaluateRule?, hresolved]

theorem evaluatedRule?_eq_none (tables : Tables) {value : Ast} (h : isLiteralRule value = false) :
    evaluatedRule? tables value = none := by
  cases hrule : objectEntries? value with
  | none => simp [evaluatedRule?, hrule]
  | some rule =>
    have hnot : ∃ e ∈ rule, isLiteral e.2 = false := by simpa [isLiteralRule, hrule] using h
    obtain ⟨e, he, hlit⟩ := hnot
    simp [evaluatedRule?, hrule, literalRule?_eq_none he hlit]

/-! ## Tables -/

/-- A rule of a style table and the rule of the stylesheet that stems from it. -/
structure Emission where
  source : String × Ast
  emitted : String × Ast

/-- The rules that stem from those of a style table, in order. -/
def emissions (tables : Tables) (table : List (String × Ast)) : List Emission :=
  table.filterMap fun e => (resolveRule? tables e).map fun emitted => ⟨e, emitted⟩

theorem map_emitted_emissions (tables : Tables) (table : List (String × Ast)) :
    (emissions tables table).map (·.emitted) = resolveRules tables table := by
  rw [emissions, resolveRules_eq, List.map_filterMap]
  apply List.filterMap_congr
  intro e _
  cases resolveRule? tables e <;> rfl

/-- The emissions that stem from rules of literals evaluate to the evaluated rules of the table. -/
theorem mapM_evaluateRule?_emissions (tables : Tables) (table : List (String × Ast)) :
    ((emissions tables table).filter fun e => isLiteralRule e.source.2).mapM
        (fun e => evaluateRule? e.emitted) =
      some (table.filterMap fun e => (evaluatedRule? tables e.2).map fun rule => (e.1, rule)) := by
  induction table with
  | nil => rfl
  | cons e rest ih =>
    obtain ⟨name, value⟩ := e
    rw [emissions] at ih ⊢
    by_cases hlit : isLiteralRule value
    · have hrule := evaluatedRule?_of_isLiteralRule tables name hlit
      cases hres : resolveRule? tables (name, value) with
      | none =>
        simp only [hres] at hrule
        simp [hres, hrule, ih]
      | some emitted =>
        simp only [hres] at hrule
        obtain ⟨rule, heval, hrule⟩ := hrule
        simp [hres, hrule, hlit, heval, ih]
    · have hrule := evaluatedRule?_eq_none tables (by simpa using hlit)
      cases hres : resolveRule? tables (name, value) <;> simp [hres, hrule, hlit, ih]

/-- The rules of the style table of a program. -/
def sourceRules (p : Profile) (t : Ast) : List (String × Ast) :=
  ((takeTable (p.names .stylesBinding) (statements t)).map (·.entries)).getD []

theorem styleTable_eq (p : Profile) (t : Ast) :
    styleTable p t = .ofList ((sourceRules p t).filterMap fun e =>
      (evaluatedRule? p.tables e.2).map fun rule => (e.1, rule)) := by
  unfold styleTable sourceRules
  cases takeTable (p.names .stylesBinding) (statements t) <;> rfl

/-- The rules of the stylesheet that the last statement of a program builds. -/
def lastStylesheet (t : Ast) : List (String × Ast) :=
  match ((statements t).getLast?.map topDeclarators).getD [] with
  | .node (.declarator _) _ [_, _, .node (.call ..) _ [_, _, table]] :: _ =>
    (objectEntries? table).getD []
  | _ => []

/-- The rules that a conversion of the stylesheet adds to a program. -/
def emittedRules (outcome : StylesheetOutcome) (t : Ast) : List (String × Ast) :=
  if outcome = .already then [] else lastStylesheet t

theorem lastStylesheet_withStatements {p : Profile} {t statement : Ast} {others : List Ast}
    {rules : List (String × Ast)} {isExported : Bool} (ht : statements t ≠ [] ∨ rules = [])
    (h : stylesheetStatement p.names (objectOf rules) isExported = .ok statement) :
    lastStylesheet (withStatements t (others ++ [statement])) = rules := by
  obtain ⟨d, l, pattern, type, o, q, cl, callee, generics, rest, htop⟩ :=
    topDeclarators_stylesheetStatement h
  rcases statements_withStatements_cases t (others ++ [statement]) with hnew | hnone
  · simp [lastStylesheet, hnew, htop]
  · -- A tree that is no program does not take the statement, and then there are no rules.
    rcases ht with ht | rfl
    · simp [statements_withStatements ht] at hnone
    · simp [lastStylesheet, hnone]

/-- The stylesheet that is added to a program, evaluated rule by rule where the source was made of
literals, is the evaluated style table of the program. -/
theorem styleTable_eq_evaluated_emissions (p : Profile) (t t' : Ast) (outcome : StylesheetOutcome)
    (h : (convertStylesheet p).apply t = (.ok outcome, t')) :
    (emissions p.tables (sourceRules p t)).map (·.emitted) = emittedRules outcome t' ∧
    ∃ rules, ((emissions p.tables (sourceRules p t)).filter
        fun e => isLiteralRule e.source.2).mapM (fun e => evaluateRule? e.emitted) = some rules ∧
      OrderedMap.ofList rules = styleTable p t := by
  refine ⟨?_, _, mapM_evaluateRule?_emissions p.tables (sourceRules p t), (styleTable_eq p t).symm⟩
  rw [map_emitted_emissions]
  rcases convertStylesheet_ok h with ⟨taken, statement, htake, hstatement, rfl, rfl⟩ |
    ⟨htake, -, rfl, rfl⟩ | ⟨statement, htake, -, hstatement, rfl, rfl⟩
  · have ht : statements t ≠ [] := by
      intro hnil
      simp [hnil, takeTable] at htake
    have hsource : sourceRules p t = taken.entries := by simp [sourceRules, htake]
    rw [hsource, emittedRules, lastStylesheet_withStatements (.inl ht) hstatement]
    simp
  · have hsource : sourceRules p t' = [] := by simp [sourceRules, htake]
    simp [hsource, emittedRules, resolveRules]
  · have hsource : sourceRules p t = [] := by simp [sourceRules, htake]
    rw [hsource, emittedRules, lastStylesheet_withStatements (.inr rfl) hstatement]
    simp [resolveRules]

/-- A table with a repeated rule, a rule that is left empty and a rule that is not made of
literals. -/
def mixedTable : Ast :=
  (parseProgram ("const styles = \x7b box: \x7b padding: '10px', width: -1 \x7d, " ++
    "gone: \x7b cursor: 'x' \x7d, live: \x7b color: tint \x7d, " ++
    "'box': \x7b height: '9vh' \x7d \x7d;").toList).getD .absent

theorem styleTable_mixedTable :
    ∃ t', (convertStylesheet .default).apply mixedTable = (.ok (.converted 3), t') ∧
      (emissions Profile.default.tables (sourceRules .default mixedTable)).map (·.emitted) =
        emittedRules (.converted 3) t' ∧
      ∃ rules, ((emissions Profile.default.tables (sourceRules .default mixedTable)).filter
          fun e => isLiteralRule e.source.2).mapM (fun e => evaluateRule? e.emitted) = some rules ∧
        OrderedMap.ofList rules = styleTable .default mixedTable := by
  have hok : ((convertStylesheet .default).apply mixedTable).1 = .ok (.converted 3) := by
    decide +kernel
  have h := Pass.apply_eq_of_ok hok
  exact ⟨_, h, styleTable_eq_evaluated_emissions .default mixedTable _ _ h⟩

end Nativize.Conversion
