import Mathlib.Data.List.Forall2
import Nativize.Conversion.Stylesheet
import Nativize.Proofs.OrderedMap
import Nativize.Proofs.Pass

/-!
# Conversion of the stylesheet

What a conversion of the stylesheet does to a program: the table that it takes away, and the
statement that it adds. `convertStylesheet_ok` lists the ways in which it succeeds.
-/

namespace Nativize.Style

/-- A value of a resolved rule is one of the source or was made of a number. -/
theorem mem_mergeRule {α : Type} {tables : Tables} {textOf : α → Option String}
    {ofNumber : Number → α}
    {rule : OrderedMap α} {e : String × α}
    (h : e ∈ (mergeRule tables textOf ofNumber rule).entries) :
    (∃ source ∈ rule.entries, e.2 = source.2) ∨ ∃ n, e.2 = ofNumber n := by
  obtain ⟨source, hsource, he⟩ := List.mem_filterMap.mp (OrderedMap.mem_entries_ofList h)
  revert he
  cases Resolution.of tables source.1 (textOf source.2) <;> simp only [Resolution.entry] <;>
    intro he
  case drop => cases he
  case flex => cases he; exact .inr ⟨1, rfl⟩
  case keep name => cases he; exact .inl ⟨source, hsource, rfl⟩
  case pixels name magnitude => cases he; exact .inr ⟨magnitude, rfl⟩

end Nativize.Style

namespace Nativize.Conversion

open Syntax

/-- Only a program takes statements. -/
theorem statements_withStatements_cases (t : Ast) (parts : List Ast) :
    statements (withStatements t parts) = parts ∨ statements (withStatements t parts) = [] := by
  fun_cases withStatements t parts with
  | case1 => exact .inl rfl
  | case2 other h =>
    right
    unfold statements
    split
    · exact absurd rfl (h _ _ _ _ _)
    · rfl

theorem statements_withStatements {t : Ast} (h : statements t ≠ []) (parts : List Ast) :
    statements (withStatements t parts) = parts := by
  unfold statements at h
  split at h
  · rfl
  · exact absurd rfl h

/-! ## Declarators -/

/-- A statement with declarators takes others in their place. -/
theorem topDeclarators_withDeclarators {s : Ast} (h : topDeclarators s ≠ []) (items : List Ast) :
    topDeclarators (withDeclarators items s) = items := by
  unfold topDeclarators at h
  split at h
  · rfl
  · rfl
  · exact absurd rfl h

theorem withTable?_eq_some {table : Ast} {items changed : List Ast}
    (h : withTable? table items = some changed) :
    ∃ d l pattern type o q cl callee generics rest, items ≠ [] ∧
      changed = .node (.declarator d) l
        [pattern, type, .node (.call o q []) cl [callee, generics, table]] :: rest := by
  unfold withTable? at h
  split at h
  · cases h
    exact ⟨_, _, _, _, _, _, _, _, _, _, by simp, rfl⟩
  · cases h

/-- The first declarator of the added statement calls something with the table alone. -/
theorem topDeclarators_stylesheetStatement {names : Names} {table statement : Ast}
    {isExported : Bool} (h : stylesheetStatement names table isExported = .ok statement) :
    ∃ d l pattern type o q cl callee generics rest, topDeclarators statement =
      .node (.declarator d) l
        [pattern, type, .node (.call o q []) cl [callee, generics, table]] :: rest := by
  unfold stylesheetStatement at h
  cases htemplate : templateStatement (stylesheetText names isExported) with
  | error fault => simp [htemplate, bind, Except.bind] at h
  | ok s =>
    simp only [htemplate, bind, Except.bind] at h
    cases hitems : withTable? table (topDeclarators s) with
    | none => simp [hitems, throw, throwThe, MonadExceptOf.throw] at h
    | some items =>
      simp only [hitems, pure, Except.pure] at h
      cases h
      obtain ⟨d, l, pattern, type, o, q, cl, callee, generics, rest, hne, rfl⟩ :=
        withTable?_eq_some hitems
      exact ⟨d, l, pattern, type, o, q, cl, callee, generics, rest,
        topDeclarators_withDeclarators hne _⟩

/-! ## Object literals -/

/-- The property has the name and the value. A name that is no identifier is quoted. -/
inductive IsProperty (name : String) (value : Ast) : Ast → Prop
  | named (h : Text.isPlainName name = true) :
      IsProperty name value (.of (.property {}) [.leaf (.name name), value])
  | quoted (h : Text.isPlainName name = false) :
      IsProperty name value (.of (.property {}) [.leaf (.string ⟨name, false⟩), value])

/-- The tree is an object literal of the entries, one property for each in their order, and these
are what is read from it. -/
structure IsObject (entries : List (String × Ast)) (t : Ast) : Prop where
  written : ∃ properties, t = .of .object properties ∧
    List.Forall₂ (fun e => IsProperty e.1 e.2) entries properties
  read : objectEntries? t = some entries

theorem isProperty_namedProperty (name : String) (value : Ast) :
    IsProperty name value (namedProperty name value) := by
  unfold namedProperty
  split
  · next h => exact .named h
  · next h => exact .quoted (by simpa using h)

@[simp] theorem propertyName?_namedProperty (name : String) (value : Ast) :
    propertyName? (namedProperty name value) = some name := by
  unfold namedProperty
  split <;> rfl

@[simp] theorem part_one_namedProperty (name : String) (value : Ast) :
    (namedProperty name value).part 1 = value := rfl

/-- An object literal that was made of entries has these entries. -/
@[simp] theorem objectEntries?_objectOf (entries : List (String × Ast)) :
    objectEntries? (objectOf entries) = some entries := by
  have h : namedEntries (entries.map fun e => namedProperty e.1 e.2) = entries := by
    unfold namedEntries
    induction entries with
    | nil => rfl
    | cons e rest ih => simp [ih]
  exact congrArg some h

theorem isObject_objectOf (entries : List (String × Ast)) :
    IsObject entries (objectOf entries) where
  written := ⟨_, rfl, List.forall₂_map_right_iff.mpr
    (List.forall₂_same.mpr fun e _ => isProperty_namedProperty e.1 e.2)⟩
  read := objectEntries?_objectOf entries

/-! ## Runs -/

/-- A successful conversion replaced a table, found a stylesheet, or added an empty one. -/
theorem convertStylesheet_ok {p : Profile} {t t' : Ast} {outcome : StylesheetOutcome}
    (h : (convertStylesheet p).apply t = (.ok outcome, t')) :
    (∃ taken statement, takeTable (p.names .stylesBinding) (statements t) = some taken ∧
      stylesheetStatement p.names (objectOf (resolveRules p.tables taken.entries))
        taken.isExported = .ok statement ∧
      outcome = .converted (resolveRules p.tables taken.entries).length ∧
      t' = withStatements t (taken.others ++ [statement])) ∨
    (takeTable (p.names .stylesBinding) (statements t) = none ∧
      hasStylesheet p.names (statements t) ∧ outcome = .already ∧ t' = t) ∨
    (∃ statement, takeTable (p.names .stylesBinding) (statements t) = none ∧
      hasStylesheet p.names (statements t) = false ∧
      stylesheetStatement p.names (objectOf []) false = .ok statement ∧
      outcome = .empty ∧ t' = withStatements t (statements t ++ [statement])) := by
  unfold convertStylesheet at h
  simp only [Pass.apply_bind, Pass.apply_getStatements] at h
  cases htake : takeTable (p.names .stylesBinding) (statements t) with
  | some taken =>
    left
    cases hstatement : stylesheetStatement p.names
        (objectOf (resolveRules p.tables taken.entries)) taken.isExported with
    | error fault => simp [htake, hstatement] at h
    | ok statement =>
      simp only [htake, Pass.apply_bind, Pass.apply_setStatements, hstatement,
        Pass.apply_require_ok, Pass.apply_pure, withStatements_withStatements] at h
      cases h
      exact ⟨taken, statement, rfl, hstatement, rfl, rfl⟩
  | none =>
    right
    cases hhas : hasStylesheet p.names (statements t) with
    | true =>
      simp only [htake, hhas, if_true, Pass.apply_pure] at h
      cases h
      exact .inl ⟨rfl, rfl, rfl, rfl⟩
    | false =>
      cases hstatement : stylesheetStatement p.names (objectOf []) false with
      | error fault => simp [htake, hhas, hstatement] at h
      | ok statement =>
        simp only [htake, hhas, Bool.false_eq_true, if_false, Pass.apply_bind, hstatement,
          Pass.apply_require_ok, Pass.apply_setStatements, Pass.apply_pure] at h
        cases h
        exact .inr ⟨statement, rfl, rfl, rfl, rfl, rfl⟩

end Nativize.Conversion
