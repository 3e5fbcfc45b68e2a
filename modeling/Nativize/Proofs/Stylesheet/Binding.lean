import Nativize.Proofs.Gentle
import Nativize.Proofs.Stylesheet.Basic

/-!
# Style tables and stylesheets

A program may bind several style tables, and a conversion replaces one by a stylesheet. Main
statements: the conversion leaves one table less and a stylesheet (`countP_bindStylesheet`,
`hasStylesheet_bindStylesheet`), and a program with a stylesheet and no table stays as it is
(`bindStylesheet_eq_self`).
-/

namespace Nativize.Conversion

open Syntax

/-- The declarator binds a style table. -/
def bindsTable (binding : String) (d : Ast) : Bool := (tableOf? binding d).isSome

/-- Either no declarator binds a table, or the first that does is taken away. -/
theorem takeFromDeclarators_cases (binding : String) (items : List Ast) :
    (takeFromDeclarators binding items = none ∧ ∀ d ∈ items, bindsTable binding d = false) ∨
      ∃ before d after table, items = before ++ d :: after ∧ tableOf? binding d = some table ∧
        (∀ e ∈ before, bindsTable binding e = false) ∧
        takeFromDeclarators binding items = some (table, before ++ after) := by
  fun_induction takeFromDeclarators binding items with
  | case1 => exact .inl ⟨rfl, nofun⟩
  | case2 d rest table h => exact .inr ⟨[], d, rest, table, rfl, h, nofun, rfl⟩
  | case3 d rest h ih =>
    have hd : bindsTable binding d = false := by rw [bindsTable, h]; rfl
    rcases ih with ⟨hnone, hall⟩ | ⟨before, d', after, table, rfl, htable, hfirst, hsome⟩
    · exact .inl ⟨by rw [hnone]; rfl, List.forall_mem_cons.mpr ⟨hd, hall⟩⟩
    · exact .inr ⟨d :: before, d', after, table, rfl, htable,
        List.forall_mem_cons.mpr ⟨hd, hfirst⟩, by
        rw [hsome]; rfl⟩

/-- What is left of a statement with so many of its declarators. -/
def remainder (items : List Ast) (s : Ast) : List Ast :=
  if items.isEmpty then [] else [withDeclarators items s]

/-- Either no statement binds a table, or the first that does is left without it. -/
theorem takeTable_cases (binding : String) (parts : List Ast) :
    (takeTable binding parts = none ∧
      ∀ d ∈ parts.flatMap topDeclarators, bindsTable binding d = false) ∨
    ∃ before s after items d items' table, parts = before ++ s :: after ∧
      topDeclarators s = items ++ d :: items' ∧ tableOf? binding d = some table ∧
      (∀ e ∈ before.flatMap topDeclarators ++ items, bindsTable binding e = false) ∧
      takeTable binding parts =
        some ⟨table, isExport s, before ++ remainder (items ++ items') s ++ after⟩ := by
  induction parts with
  | nil => exact .inl ⟨rfl, nofun⟩
  | cons s rest ih =>
    rw [takeTable]
    rcases takeFromDeclarators_cases binding (topDeclarators s) with
      ⟨hnone, hall⟩ | ⟨items, d, items', table, htop, htable, hfirst, hsome⟩
    · rw [hnone]
      dsimp only
      rcases ih with ⟨hrest, hrestAll⟩ |
        ⟨before, s', after, items, d, items', table, rfl, htop, htable, hfirst, hsome⟩
      · refine .inl ⟨by rw [hrest]; rfl, ?_⟩
        rw [List.flatMap_cons]
        exact List.forall_mem_append.mpr ⟨hall, hrestAll⟩
      · refine .inr ⟨s :: before, s', after, items, d, items', table, rfl, htop, htable, ?_, by
          rw [hsome]; rfl⟩
        rw [List.flatMap_cons, List.append_assoc]
        exact List.forall_mem_append.mpr ⟨hall, hfirst⟩
    · refine .inr ⟨[], s, rest, items, d, items', table, rfl, htop, htable, hfirst, ?_⟩
      rw [hsome]
      unfold remainder
      cases items ++ items' <;> rfl

theorem fst_takeFromDeclarators (binding : String) (items : List Ast) :
    (takeFromDeclarators binding items).map Prod.fst = items.findSome? (tableOf? binding) := by
  fun_induction takeFromDeclarators binding items with
  | case1 => rfl
  | case2 d rest table h => simp [h]
  | case3 d rest h ih => simp [h, ← ih, Function.comp_def]

/-- The table that is taken is the first that a declarator binds. -/
theorem entries_takeTable (binding : String) (parts : List Ast) :
    (takeTable binding parts).map (·.entries) =
      (parts.flatMap topDeclarators).findSome? (tableOf? binding) := by
  induction parts with
  | nil => rfl
  | cons s rest ih =>
    rw [takeTable, List.flatMap_cons, List.findSome?_append, ← fst_takeFromDeclarators, ← ih]
    cases takeFromDeclarators binding (topDeclarators s) with
    | none => cases takeTable binding rest <;> rfl
    | some taken =>
      obtain ⟨table, items⟩ := taken
      cases items <;> rfl

section Remainder

variable {s : Ast} {items : List Ast}

theorem topDeclarators_remainder (h : topDeclarators s ≠ []) (items : List Ast) :
    (remainder items s).flatMap topDeclarators = items := by
  unfold remainder
  split
  · next hitems => rw [List.isEmpty_iff.mp hitems]; rfl
  · simp [topDeclarators_withDeclarators h]

theorem importOf?_of_topDeclarators (h : topDeclarators s ≠ []) : importOf? s = none := by
  unfold topDeclarators at h
  split at h
  · rfl
  · rfl
  · exact absurd rfl h

theorem imports_remainder (h : topDeclarators s ≠ []) (items : List Ast) :
    (remainder items s).filterMap importOf? = [] := by
  unfold remainder
  split
  · rfl
  · next hitems =>
    have htop : topDeclarators (withDeclarators items s) ≠ [] := by
      rw [topDeclarators_withDeclarators h]
      exact fun heq => hitems (by rw [heq]; rfl)
    simp [importOf?_of_topDeclarators htop]

end Remainder

/-! ## The stylesheet -/

/-- The call that makes a stylesheet of a table. -/
def stylesheetCall (names : Names) (table : Ast) : Ast :=
  .of (.call false false []) [.of (.member (names .stylesheetCreate) false)
    [.leaf (.reference (names .stylesheetApi))], .absent, table]

def stylesheetDeclarator (names : Names) (table : Ast) : Ast :=
  .of (.declarator false)
    [.leaf (.binding (names .stylesBinding)), .absent, stylesheetCall names table]

/-- The statement that binds a stylesheet of a table. -/
def stylesheetOf (names : Names) (table : Ast) (isExported : Bool) : Ast :=
  let declaration := Ast.of (.variableDecl "const" false) [stylesheetDeclarator names table]
  if isExported then .of (.exportNamed none false) [declaration] else declaration

@[simp] theorem topDeclarators_stylesheetOf (names : Names) (table : Ast) (isExported : Bool) :
    topDeclarators (stylesheetOf names table isExported) = [stylesheetDeclarator names table] := by
  cases isExported <;> rfl

/-- The statement is made of the template with the table in place. -/
theorem stylesheetStatement_eq {names : Names} {isExported : Bool}
    (h : templateStatement (stylesheetText names isExported) =
      .ok (stylesheetOf names (.leaf .object) isExported)) (table : Ast) :
    stylesheetStatement names table isExported = .ok (stylesheetOf names table isExported) := by
  rw [stylesheetStatement, h]
  cases isExported <;> rfl

/-- The statements with a stylesheet in place of the first style table. -/
def bindStylesheet (p : Profile) (parts : List Ast) : List Ast :=
  match takeTable (p.names .stylesBinding) parts with
  | some taken =>
    taken.others ++
      [stylesheetOf p.names (objectOf (resolveRules p.tables taken.entries)) taken.isExported]
  | none =>
    if hasStylesheet p.names parts then parts
    else parts ++ [stylesheetOf p.names (objectOf []) false]

section Binding

variable {p : Profile} {parts : List Ast}

theorem convertStylesheet_apply
    (h : ∀ isExported, templateStatement (stylesheetText p.names isExported) =
      .ok (stylesheetOf p.names (.leaf .object) isExported))
    (hashbang : Option String) (directives : List Directive) (c l : List Comment)
    (parts : List Ast) :
    ∃ outcome, (convertStylesheet p).apply (.node (.program hashbang directives c) l parts) =
      (.ok outcome, .node (.program hashbang directives c) l (bindStylesheet p parts)) := by
  unfold convertStylesheet bindStylesheet
  simp only [Pass.apply_bind, Pass.apply_getStatements, statements_program]
  cases takeTable (p.names .stylesBinding) parts with
  | some taken =>
    simp only [Pass.apply_bind, Pass.apply_setStatements, stylesheetStatement_eq (h _),
      Pass.apply_require_ok, Pass.apply_pure, withStatements_program]
    exact ⟨_, rfl⟩
  | none =>
    cases hasStylesheet p.names parts with
    | true => exact ⟨_, rfl⟩
    | false =>
      simp only [Bool.false_eq_true, if_false, Pass.apply_bind, stylesheetStatement_eq (h _),
        Pass.apply_require_ok, Pass.apply_setStatements, Pass.apply_pure, withStatements_program]
      exact ⟨_, rfl⟩

/-- A program without a table and with a stylesheet stays as it is. -/
theorem bindStylesheet_eq_self
    (htables : (parts.flatMap topDeclarators).countP (bindsTable (p.names .stylesBinding)) = 0)
    (hsheet : hasStylesheet p.names parts = true) : bindStylesheet p parts = parts := by
  rcases takeTable_cases (p.names .stylesBinding) parts with
    ⟨hnone, -⟩ | ⟨before, s, after, items, d, items', table, rfl, htop, htable, -, -⟩
  · simp [bindStylesheet, hnone, hsheet]
  · have hd : bindsTable (p.names .stylesBinding) d = false := by
      simpa using List.countP_eq_zero.mp htables d (by simp [htop])
    simp [bindsTable, htable] at hd

/-- One table less is bound. -/
theorem countP_bindStylesheet :
    ((bindStylesheet p parts).flatMap topDeclarators).countP
        (bindsTable (p.names .stylesBinding)) =
      (parts.flatMap topDeclarators).countP (bindsTable (p.names .stylesBinding)) - 1 := by
  have hsheet (table : Ast) :
      bindsTable (p.names .stylesBinding) (stylesheetDeclarator p.names table) = false := by
    simp [bindsTable, tableOf?, stylesheetDeclarator, stylesheetCall, valueFor?, objectEntries?,
      Ast.of, Ast.leaf]
  unfold bindStylesheet
  rcases takeTable_cases (p.names .stylesBinding) parts with
    ⟨hnone, hall⟩ | ⟨before, s, after, items, d, items', table, rfl, htop, htable, -, hsome⟩
  · have hzero : (parts.flatMap topDeclarators).countP (bindsTable (p.names .stylesBinding)) = 0 :=
      List.countP_eq_zero.mpr fun d hd => by simp [hall d hd]
    rw [hnone]
    dsimp only
    split
    · rw [hzero]
    · simp [hzero, hsheet]
  · have hd : bindsTable (p.names .stylesBinding) d = true := by rw [bindsTable, htable]; rfl
    have hs : topDeclarators s ≠ [] := by simp [htop]
    simp [hsome, topDeclarators_remainder hs, htop, hd, hsheet]
    omega

/-- A stylesheet is bound. -/
theorem hasStylesheet_bindStylesheet : hasStylesheet p.names (bindStylesheet p parts) = true := by
  have hsheet (others : List Ast) (table : Ast) (isExported : Bool) :
      hasStylesheet p.names (others ++ [stylesheetOf p.names table isExported]) = true := by
    simp [hasStylesheet, stylesheetDeclarator, stylesheetCall, valueFor?, isStylesheetCall, Ast.of,
      Ast.leaf]
  unfold bindStylesheet
  split
  · exact hsheet _ _ _
  · split
    · assumption
    · exact hsheet _ _ _

/-- Imports stay where they are. -/
theorem imports_bindStylesheet :
    (bindStylesheet p parts).filterMap importOf? = parts.filterMap importOf? := by
  have hsheet (table : Ast) (isExported : Bool) :
      importOf? (stylesheetOf p.names table isExported) = none := by
    cases isExported <;> rfl
  unfold bindStylesheet
  rcases takeTable_cases (p.names .stylesBinding) parts with
    ⟨hnone, -⟩ | ⟨before, s, after, items, d, items', table, rfl, htop, -, -, hsome⟩
  · rw [hnone]
    dsimp only
    split
    · rfl
    · simp [hsheet]
  · have hs : topDeclarators s ≠ [] := by simp [htop]
    simp [hsome, imports_remainder hs, hsheet, importOf?_of_topDeclarators hs]

end Binding

/-! ## What holds everywhere -/

section Everywhere

variable {test : Ast → Bool} (hinert : ∀ n, n.kind.isInert = true → test n = true)

include hinert

theorem all_part {t : Ast} (h : t.All fun n => test n = true) (i : Nat) :
    (t.part i).All fun n => test n = true := by
  obtain ⟨k, l, parts⟩ := t
  unfold Ast.part
  cases hpart : parts[i]? with
  | none =>
    have habsent : Ast.All (fun n => test n = true) .absent :=
      Ast.all_node.mpr ⟨hinert _ rfl, by simp⟩
    simpa [Ast.parts, hpart] using habsent
  | some t =>
    simpa [Ast.parts, hpart] using (Ast.all_node.mp h).2 t (List.mem_of_getElem? hpart)

theorem all_of_objectEntries? {value : Ast} {entries : List (String × Ast)}
    (h : objectEntries? value = some entries) (hvalue : value.All fun n => test n = true) :
    ∀ e ∈ entries, e.2.All fun n => test n = true := by
  unfold objectEntries? at h
  split at h
  · next l properties =>
    cases h
    intro e he
    obtain ⟨q, hq, hname⟩ := List.mem_filterMap.mp he
    obtain ⟨name, -, rfl⟩ := Option.map_eq_some_iff.mp hname
    exact all_part hinert ((Ast.all_node.mp hvalue).2 q hq) 1
  · cases h

omit hinert in
theorem all_of_valueFor? {name : String} {d value : Ast} (h : valueFor? name d = some value)
    (hd : d.All fun n => test n = true) : value.All fun n => test n = true := by
  unfold valueFor? at h
  split at h
  · split at h
    · cases h
      exact (Ast.all_node.mp hd).2 value (by simp)
    · cases h
  · cases h

theorem all_namedProperty (name : String) {value : Ast} (h : value.All fun n => test n = true) :
    (namedProperty name value).All fun n => test n = true := by
  unfold namedProperty
  refine Ast.all_node.mpr ⟨hinert _ rfl, ?_⟩
  simp only [List.forall_mem_cons, List.not_mem_nil, false_imp_iff, implies_true, and_true]
  refine ⟨?_, h⟩
  split <;> exact Ast.all_node.mpr ⟨hinert _ rfl, by simp⟩

theorem all_objectOf {entries : List (String × Ast)}
    (h : ∀ e ∈ entries, e.2.All fun n => test n = true) :
    (objectOf entries).All fun n => test n = true := by
  refine Ast.all_node.mpr ⟨hinert _ rfl, fun t ht => ?_⟩
  obtain ⟨e, he, rfl⟩ := List.mem_map.mp ht
  exact all_namedProperty hinert e.1 (h e he)

/-- The rules of a stylesheet are made of what the table holds, and of numbers. -/
theorem all_resolveRules (tables : Tables) {table : List (String × Ast)}
    (h : ∀ e ∈ table, e.2.All fun n => test n = true) :
    ∀ e ∈ resolveRules tables table, e.2.All fun n => test n = true := by
  intro e he
  obtain ⟨source, hsource, hrule⟩ := List.mem_filterMap.mp he
  obtain ⟨rule, hentries, hresolved⟩ := Option.bind_eq_some_iff.mp hrule
  dsimp only at hresolved
  split at hresolved
  · cases hresolved
  · cases hresolved
    refine all_objectOf hinert fun entry hentry => ?_
    rcases Style.mem_mergeRule hentry with ⟨kept, hkept, heq⟩ | ⟨n, heq⟩
    · rw [heq]
      exact all_of_objectEntries? hinert hentries (h source hsource) kept
        (OrderedMap.mem_entries_ofList hkept)
    · rw [heq]
      exact Ast.all_node.mpr ⟨hinert _ rfl, by simp⟩

omit hinert in
theorem all_topDeclarators {s : Ast} (h : s.All fun n => test n = true) :
    ∀ d ∈ topDeclarators s, d.All fun n => test n = true := by
  unfold topDeclarators
  split
  · exact (Ast.all_node.mp h).2
  · exact (Ast.all_node.mp ((Ast.all_node.mp h).2 _ List.mem_cons_self)).2
  · simp

theorem all_remainder {s : Ast} {items : List Ast} (hs : s.All fun n => test n = true)
    (hitems : ∀ d ∈ items, d.All fun n => test n = true) :
    ∀ s' ∈ remainder items s, s'.All fun n => test n = true := by
  unfold remainder
  split
  · simp
  · rw [List.forall_mem_singleton]
    unfold withDeclarators
    split
    · exact Ast.all_node.mpr ⟨hinert _ rfl, hitems⟩
    · refine Ast.all_node.mpr ⟨hinert _ rfl, List.forall_mem_cons.mpr
        ⟨Ast.all_node.mpr ⟨hinert _ rfl, hitems⟩, fun t ht => ?_⟩⟩
      exact (Ast.all_node.mp hs).2 t (List.mem_cons_of_mem _ ht)
    · exact hs

theorem all_stylesheetOf (names : Names) {table : Ast} (htable : table.All fun n => test n = true)
    (hcall : test (stylesheetCall names table) = true)
    (hdeclarator : test (stylesheetDeclarator names table) = true) (isExported : Bool) :
    (stylesheetOf names table isExported).All fun n => test n = true := by
  have hleaf (k : Kind) (h : k.isInert = true) : Ast.All (fun n => test n = true) (.leaf k) :=
    Ast.all_node.mpr ⟨hinert _ h, by simp⟩
  have hcallee : Ast.All (fun n => test n = true) (.of (.member (names .stylesheetCreate) false)
      [.leaf (.reference (names .stylesheetApi))]) :=
    Ast.all_node.mpr ⟨hinert _ rfl, by simpa using hleaf _ rfl⟩
  have hcalls : (stylesheetCall names table).All fun n => test n = true :=
    Ast.all_node.mpr ⟨hcall, by simpa using ⟨hcallee, hleaf _ rfl, htable⟩⟩
  have hbinds : (stylesheetDeclarator names table).All fun n => test n = true :=
    Ast.all_node.mpr ⟨hdeclarator, by simpa using ⟨hleaf _ rfl, hleaf _ rfl, hcalls⟩⟩
  have hdeclaration : Ast.All (fun n => test n = true)
      (.of (.variableDecl "const" false) [stylesheetDeclarator names table]) :=
    Ast.all_node.mpr ⟨hinert _ rfl, by simpa using hbinds⟩
  cases isExported with
  | false => exact hdeclaration
  | true => exact Ast.all_node.mpr ⟨hinert _ rfl, by simpa using hdeclaration⟩

/-- What holds everywhere in the statements holds when the stylesheet is bound, if it holds at inert
nodes and where the stylesheet API is called. -/
theorem all_bindStylesheet {p : Profile}
    (hcall : ∀ table, test (stylesheetCall p.names table) = true)
    (hdeclarator : ∀ table, test (stylesheetDeclarator p.names table) = true) {parts : List Ast}
    (h : ∀ s ∈ parts, s.All fun n => test n = true) :
    ∀ s ∈ bindStylesheet p parts, s.All fun n => test n = true := by
  have hsheet {table : Ast} (htable : table.All fun n => test n = true) :=
    all_stylesheetOf hinert p.names htable (hcall table) (hdeclarator table)
  unfold bindStylesheet
  rcases takeTable_cases (p.names .stylesBinding) parts with
    ⟨hnone, -⟩ | ⟨before, s, after, items, d, items', table, rfl, htop, htable, -, hsome⟩
  · rw [hnone]
    dsimp only
    split
    · exact h
    · exact List.forall_mem_append.mpr
        ⟨h, by simpa using hsheet (all_objectOf hinert (by simp)) false⟩
  · rw [hsome]
    simp only [List.forall_mem_append, List.forall_mem_cons] at h
    obtain ⟨hbefore, hs, hafter⟩ := h
    have hitems := htop ▸ all_topDeclarators hs
    simp only [List.forall_mem_append, List.forall_mem_cons] at hitems
    have hentries : ∀ e ∈ table, e.2.All fun n => test n = true := by
      obtain ⟨value, hvalue, hobject⟩ := Option.bind_eq_some_iff.mp htable
      exact all_of_objectEntries? hinert hobject (all_of_valueFor? hvalue hitems.2.1)
    simp only [List.forall_mem_append, List.forall_mem_singleton]
    exact ⟨⟨⟨hbefore, all_remainder hinert hs
      (List.forall_mem_append.mpr ⟨hitems.1, hitems.2.2⟩)⟩, hafter⟩,
      hsheet (all_objectOf hinert (all_resolveRules hinert p.tables hentries)) _⟩

end Everywhere

end Nativize.Conversion
