import Nativize.Proofs.Stylesheet.Binding
import Nativize.Proofs.Stylesheet.Evaluation
import Nativize.Proofs.Sweep.Rewrite

/-!
# Style tables in a sweep

A sweep changes the values of a style table and none of its names. Main statements: the tables that
declarators bind are there after a sweep, with their values swept (`tableOf?_rewrite`), and a table
may be resolved before or after (`Gentle.resolveRules`).
-/

namespace Nativize.Conversion

open Syntax

theorem objectEntries?_of_kind {value : Ast} (h : value.kind ≠ .object) :
    objectEntries? value = none := by
  obtain ⟨k, l, parts⟩ := value
  unfold objectEntries?
  split
  · next heq => cases heq; exact absurd rfl h
  · rfl

theorem tableOf?_of_kind (binding : String) (d : Bool) (l : List Comment) (pattern type : Ast)
    {value : Ast} (h : value.kind ≠ .object) :
    tableOf? binding (.node (.declarator d) l [pattern, type, value]) = none := by
  rw [tableOf?, Option.bind_eq_none_iff]
  intro value' hvalue
  have heq : value' = value := by
    unfold valueFor? at hvalue
    grind
  rw [heq, objectEntries?_of_kind h]

/-- Only a declarator that a sweep looks at can bind a table. -/
theorem tableOf?_of_not_touched (binding : String) {k : Kind} {parts : List Ast}
    (h : isTouched k parts = false) (l : List Comment) :
    tableOf? binding (.node k l parts) = none := by
  have hvalue : valueFor? binding (.node k l parts) = none := by
    unfold valueFor?
    split
    · next heq => cases heq; cases h
    · rfl
  rw [tableOf?, hvalue]
  rfl

/-! ## Rules -/

namespace Gentle

variable {f : Ast → Ast} (hf : Gentle f)

include hf

theorem literalText? (t : Ast) : literalText? (f t) = Conversion.literalText? t := by
  obtain ⟨k, l, parts⟩ := t
  obtain ⟨l', parts', h⟩ := hf.exists_eq k l parts
  rw [h]
  cases k <;> rfl

theorem objectOf (entries : List (String × Ast)) :
    f (objectOf entries) = Conversion.objectOf (entries.map fun e => (e.1, f e.2)) := by
  have hproperty (e : String × Ast) : f (namedProperty e.1 e.2) = namedProperty e.1 (f e.2) := by
    have hkey :
        f (if Text.isPlainName e.1 then .leaf (.name e.1) else .leaf (.string ⟨e.1, false⟩)) =
        if Text.isPlainName e.1 then .leaf (.name e.1) else .leaf (.string ⟨e.1, false⟩) := by
      split <;> exact hf.inert _ _ rfl
    rw [namedProperty, Ast.of, hf.inert _ _ rfl, List.map_cons, hkey]
    rfl
  rw [Conversion.objectOf, Ast.of, hf.inert _ _ rfl]
  simp [Conversion.objectOf, Ast.of, hproperty, Function.comp_def]

/-- A rule may be mapped before it is resolved or after. -/
theorem resolveEntries (tables : Tables) (rule : List (String × Ast)) :
    resolveEntries tables (rule.map fun e => (e.1, f e.2)) =
      (Conversion.resolveEntries tables rule).map f := by
  have hnumber (n : Number) : f (numberLiteral n) = numberLiteral n := hf.inert _ _ rfl
  rw [Conversion.resolveEntries, Conversion.resolveEntries,
    Style.mergeRule_map tables f _ (fun e _ => hf.literalText? e.2) hnumber, OrderedMap.map_ofList]

theorem resolveRule? (tables : Tables) (e : String × Ast) :
    resolveRule? tables (e.1, f e.2) =
      (Conversion.resolveRule? tables e).map fun e => (e.1, f e.2) := by
  simp only [Conversion.resolveRule?, hf.objectEntries?]
  cases Conversion.objectEntries? e.2 with
  | none => rfl
  | some rule =>
    simp only [Option.map_some, Option.bind_some, hf.resolveEntries, OrderedMap.isEmpty_map]
    split
    · rfl
    · rw [Option.map_some, hf.objectOf]
      rfl

/-- A table may be mapped before it is resolved or after. -/
theorem resolveRules (tables : Tables) (table : List (String × Ast)) :
    resolveRules tables (table.map fun e => (e.1, f e.2)) =
      (Conversion.resolveRules tables table).map fun e => (e.1, f e.2) := by
  rw [resolveRules_eq, resolveRules_eq, List.filterMap_map, List.map_filterMap]
  exact congrArg (List.filterMap · table) (funext (hf.resolveRule? tables))

end Gentle

theorem name_resolveRule? {tables : Tables} {e emitted : String × Ast}
    (h : resolveRule? tables e = some emitted) : emitted.1 = e.1 := by
  obtain ⟨rule, -, h⟩ := Option.bind_eq_some_iff.mp h
  dsimp only at h
  split at h
  · cases h
  · cases h
    rfl

/-- The rules of a stylesheet have the names of those that they stem from. -/
theorem names_resolveRules (tables : Tables) (table : List (String × Ast)) :
    (resolveRules tables table).map Prod.fst =
      (table.filter fun e => (resolveRule? tables e).isSome).map Prod.fst := by
  rw [resolveRules_eq]
  induction table with
  | nil => rfl
  | cons e rest ih =>
    cases hrule : resolveRule? tables e with
    | none => simpa [hrule] using ih
    | some emitted => simpa [hrule, name_resolveRule? hrule] using ih

/-! ## Tables -/

section Tables

variable (p : Profile) {w : Surroundings} (hw : w.callee = none)

include hw

/-- A table that a declarator binds is swept value by value. -/
theorem tableOf?_rewrite (binding : String) (d : Ast) : tableOf? binding (rewrite p w d) =
    (tableOf? binding d).map (·.map fun e => (e.1, rewrite p w e.2)) := by
  have hinner : { w with callee := none } = w := by cases w; simp_all
  obtain ⟨k, l, parts⟩ := d
  induction k, parts using touched_cases with
  | element parts => rw [rewrite_element]; rfl
  | declarator d pattern type value =>
    rw [rewrite, hinner]
    split
    · next hhook =>
      -- What calls the hook is no table, whatever name it has.
      obtain ⟨_, _, _, _, _, _, rfl, -⟩ := callsVariable_iff.mp hhook
      have hcall {o q : Bool} {c l : List Comment} {ps : List Ast} :
          Ast.kind (.node (.call o q c) l ps) ≠ .object := by simp [Ast.kind]
      rw [tableOf?_of_kind _ _ _ _ _ hcall, tableOf?_of_kind _ _ _ _ _ (by simpa using hcall)]
      rfl
    · have hf := gentle_rewrite p hw
      obtain ⟨k, bl, ps⟩ := pattern
      obtain ⟨bl', ps', hpattern⟩ := hf.exists_eq k bl ps
      rw [hpattern]
      cases k with
      | binding name =>
        simp only [tableOf?, valueFor?]
        split
        · exact hf.objectEntries? value
        · rfl
      | _ => rfl
  | call o q c callee rest => rw [rewrite_call]; rfl
  | other k parts h =>
    rw [rewrite_other _ _ _ h, tableOf?_of_not_touched _ h,
      tableOf?_of_not_touched _ ((isTouched_map k _ parts).trans h)]
    rfl

theorem bindsTable_rewrite (binding : String) (d : Ast) :
    bindsTable binding (rewrite p w d) = bindsTable binding d := by
  rw [bindsTable, tableOf?_rewrite p hw, Option.isSome_map]
  rfl

/-- The declarators of the statements are swept with them, and imports have none. -/
theorem topDeclarators_swept (parts : List Ast) :
    ((parts.filterMap (convertStatement? p)).map (rewrite p w)).flatMap topDeclarators =
      (parts.flatMap topDeclarators).map (rewrite p w) := by
  have himports : (parts.filterMap (convertStatement? p)).flatMap topDeclarators =
      parts.flatMap topDeclarators := flatMap_convertStatement? p fun _ _ _ _ _ => rfl
  rw [← himports, List.flatMap_map, List.map_flatMap]
  exact congrArg (List.flatMap · _) (funext (gentle_rewrite p hw).topDeclarators)

end Tables

end Nativize.Conversion
