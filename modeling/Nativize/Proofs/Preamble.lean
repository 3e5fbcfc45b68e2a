import Nativize.Conversion.Preamble
import Nativize.Proofs.Gentle
import Nativize.Proofs.Pass
import Mathlib.Algebra.Ring.Nat

/-!
# Types and fonts

What a conversion does to a program when it declares the types of the profile and loads its fonts.
Main statements: what is there already is not added again (`declareTypes_eq_self`,
`withFonts_withFonts`), and a function that loads fonts keeps its place and its parts
(`withFonts_node`).
-/

namespace Nativize.Conversion

open Syntax

/-! ## Types -/

theorem splitAtImports_append (parts : List Ast) :
    (splitAtImports parts).1 ++ (splitAtImports parts).2 = parts := by
  induction parts with
  | nil => rfl
  | cons s rest ih =>
    rw [splitAtImports]
    dsimp only
    split
    · next h =>
      simp only [Bool.and_eq_true, List.isEmpty_iff] at h
      rw [h.1, List.nil_append] at ih
      rw [List.nil_append, ih]
    · rw [List.cons_append, ih]

/-- The statements that declare a type which is not declared yet. -/
def missingTypes (types parts : List Ast) : List Ast :=
  types.filter fun s =>
    match declaredType? s with
    | some name => !(parts.filterMap declaredType?).contains name
    | none => true

/-- The statements with the types declared behind the imports. -/
def declareTypes (types parts : List Ast) : List Ast :=
  (splitAtImports parts).1 ++ missingTypes types parts ++ (splitAtImports parts).2

section Types

variable {types parts : List Ast}

theorem addTypeDeclaration_apply {tables : Tables}
    (htext : trim tables.typeDeclaration.toList ≠ [])
    (htypes : templateStatements (String.ofList (trim tables.typeDeclaration.toList)) = .ok types)
    (hashbang : Option String) (directives : List Directive) (c l : List Comment)
    (parts : List Ast) :
    (addTypeDeclaration tables).apply (.node (.program hashbang directives c) l parts) =
      (.ok (missingTypes types parts).length,
        .node (.program hashbang directives c) l (declareTypes types parts)) := by
  unfold addTypeDeclaration
  simp only [List.isEmpty_iff, htext, if_false, Pass.apply_bind, Pass.apply_getStatements, htypes,
    Pass.apply_require_ok, Pass.apply_setStatements, Pass.apply_pure, statements_program,
    withStatements_program]
  rfl

theorem mem_declareTypes {s : Ast} (h : s ∈ declareTypes types parts) : s ∈ parts ∨ s ∈ types := by
  rw [declareTypes, List.mem_append, List.mem_append] at h
  rcases h with (h | h) | h
  · exact .inl (splitAtImports_append parts ▸ List.mem_append_left _ h)
  · exact .inr (List.mem_filter.mp h).1
  · exact .inl (splitAtImports_append parts ▸ List.mem_append_right _ h)

/-- A function of the statements that does not tell the declarations of types is not changed. -/
theorem flatMap_declareTypes {β : Type} {g : Ast → List β} (h : ∀ s ∈ types, g s = [])
    (parts : List Ast) : (declareTypes types parts).flatMap g = parts.flatMap g := by
  have hadded : (missingTypes types parts).flatMap g = [] :=
    List.flatMap_eq_nil_iff.mpr fun s hs => h s (List.mem_filter.mp hs).1
  rw [declareTypes, List.flatMap_append, List.flatMap_append, hadded, List.append_nil,
    ← List.flatMap_append, splitAtImports_append]

theorem filterMap_declareTypes {β : Type} {g : Ast → Option β} (h : ∀ s ∈ types, g s = none)
    (parts : List Ast) : (declareTypes types parts).filterMap g = parts.filterMap g := by
  have hadded : (missingTypes types parts).filterMap g = [] :=
    List.filterMap_eq_nil_iff.mpr fun s hs => h s (List.mem_filter.mp hs).1
  rw [declareTypes, List.filterMap_append, List.filterMap_append, hadded, List.append_nil,
    ← List.filterMap_append, splitAtImports_append]

/-- Types that are declared are not declared again. -/
theorem declareTypes_eq_self
    (h : ∀ s ∈ types, ∃ name ∈ parts.filterMap declaredType?, declaredType? s = some name) :
    declareTypes types parts = parts := by
  have hmissing : missingTypes types parts = [] := by
    refine List.filter_eq_nil_iff.mpr fun s hs => ?_
    obtain ⟨name, hname, hs⟩ := h s hs
    simp only [hs]
    simpa using hname
  rw [declareTypes, hmissing, List.append_nil, splitAtImports_append]

/-- After the types are declared they are. -/
theorem mem_declaredTypes {s : Ast} {name : String} (hs : s ∈ types)
    (hname : declaredType? s = some name) :
    name ∈ (declareTypes types parts).filterMap declaredType? := by
  by_cases h : name ∈ parts.filterMap declaredType?
  · have hsub := splitAtImports_append parts
    rw [← hsub, List.filterMap_append, List.mem_append] at h
    rw [declareTypes, List.filterMap_append, List.filterMap_append, List.mem_append,
      List.mem_append]
    exact h.imp_left .inl
  · have hmissing : s ∈ missingTypes types parts := by
      refine List.mem_filter.mpr ⟨hs, ?_⟩
      simp only [hname]
      simpa using h
    refine List.mem_filterMap.mpr ⟨s, ?_, hname⟩
    rw [declareTypes]
    exact List.mem_append_left _ (List.mem_append_right _ hmissing)

end Types

/-! ## Fonts -/

/-- The tree with the fonts loaded. -/
def withFonts (p : Profile) (statement t : Ast) : Ast := ((loadFonts p statement t).run 0).1

/-- The node is a function that is to load fonts. -/
def isFontTarget (p : Profile) : Ast → Bool
  | .node (.functionLike facts) _ [name, _, _, _, .node (.body ..) _ body] =>
    needsFonts p facts name body
  | _ => false

/-- The parts of a function with a statement first in its body. -/
def startWith (statement : Ast) : List Ast → List Ast
  | [name, generics, params, result, .node (.body ds c) l body] =>
    [name, generics, params, result, .node (.body ds c) l (statement :: body)]
  | other => other

/-- The number of functions in the tree that are to load fonts. -/
def targetCount (p : Profile) (t : Ast) : Nat := t.nodes.countP (isFontTarget p)

theorem targetCount_node (p : Profile) (k : Kind) (l : List Comment) (parts : List Ast) :
    targetCount p (.node k l parts) =
      (if isFontTarget p (.node k l parts) then 1 else 0) + (parts.map (targetCount p)).sum := by
  rw [targetCount, Ast.nodes_node, List.countP_cons, List.countP_flatMap, Nat.add_comm]
  rfl

/-- The computation gives the value and adds the number to the count, whatever the count is. -/
def Counts {α : Type} (m : StateM Nat α) (v : α) (k : Nat) : Prop := ∀ n, m.run n = (v, n + k)

theorem counts_pure {α : Type} (v : α) : Counts (pure v) v 0 := fun _ => rfl

theorem counts_bind {α β : Type} {m : StateM Nat α} {a : α} {f : α → StateM Nat β} {b : β}
    {j k : Nat}
    (hm : Counts m a j) (hf : Counts (f a) b k) : Counts (m >>= f) b (j + k) := by
  intro n
  change (f (m.run n).1).run (m.run n).2 = _
  rw [hm n, hf (n + j), Nat.add_assoc]

theorem counts_map {α β : Type} {m : StateM Nat α} {a : α} {k : Nat} (hm : Counts m a k)
    (f : α → β) :
    Counts (do return f (← m)) (f a) k :=
  counts_bind (f := fun x => pure (f x)) (k := 0) hm (counts_pure (f a))

section Fonts

variable (p : Profile) (statement : Ast)

theorem counts_loadFontsIn {f : Ast → Ast} {count : Ast → Nat} {ts : List Ast}
    (h : ∀ t ∈ ts, Counts (loadFonts p statement t) (f t) (count t)) :
    Counts (loadFontsIn p statement ts) (ts.map f) (ts.map count).sum := by
  induction ts with
  | nil => exact counts_pure _
  | cons t rest ih =>
    rw [loadFontsIn]
    exact counts_bind (h t List.mem_cons_self) (counts_map
      (ih fun t ht => h t (List.mem_cons_of_mem _ ht)) (f t :: ·))

theorem counts_loadFonts (k : Kind) (l : List Comment) (parts : List Ast) :
    Counts (loadFonts p statement (.node k l parts))
      (.node k l (if isFontTarget p (.node k l parts)
        then startWith statement (parts.map (withFonts p statement))
        else parts.map (withFonts p statement))) (targetCount p (.node k l parts)) := by
  generalize ht : Ast.node k l parts = t
  induction t using Ast.induct generalizing k l parts with
  | node k l parts ih =>
    cases ht
    have hpart (t : Ast) (ht : t ∈ parts) :
        Counts (loadFonts p statement t) (withFonts p statement t) (targetCount p t) := by
      obtain ⟨k, l, ps⟩ := t
      have hcounts := ih _ ht k l ps rfl
      have hfonts := congrArg Prod.fst (hcounts 0)
      exact fun n => (hcounts n).trans (congrArg (·, _) hfonts.symm)
    rw [targetCount_node]
    unfold loadFonts
    split
    · next facts l name generics params result ds c bl body heq =>
      cases heq
      have hbody : Counts (loadFontsIn p statement body) (body.map (withFonts p statement))
          (targetCount p (.node (.body ds c) bl body)) := by
        have hnode := ih (.node (.body ds c) bl body) (by simp) _ _ _ rfl
        intro n
        have hrun := hnode n
        exact Prod.ext (Ast.node.inj (congrArg Prod.fst hrun)).2.2 (congrArg Prod.snd hrun :)
      have hfonts : withFonts p statement (.node (.body ds c) bl body) =
          .node (.body ds c) bl (body.map (withFonts p statement)) :=
        congrArg (Ast.node (.body ds c) bl) (congrArg Prod.fst (hbody 0))
      -- both branches go on with the parts, after the function was counted or not
      have hjoin (build : Ast → Ast → Ast → Ast → List Ast → Ast) : Counts (do
          let name ← loadFonts p statement name
          let generics ← loadFonts p statement generics
          let params ← loadFonts p statement params
          let result ← loadFonts p statement result
          let body ← loadFontsIn p statement body
          return build name generics params result body)
          (build (withFonts p statement name) (withFonts p statement generics)
            (withFonts p statement params) (withFonts p statement result)
            (body.map (withFonts p statement)))
          ([name, generics, params, result, .node (.body ds c) bl body].map (targetCount p)).sum :=
        counts_bind (hpart name (by simp)) (counts_bind (hpart generics (by simp)) (counts_bind
          (hpart params (by simp)) (counts_bind (hpart result (by simp)) (counts_bind hbody
            (counts_pure _)))))
      cases hneeds : needsFonts p facts name body with
      | true =>
        simp only [isFontTarget, hneeds, if_true, List.map_cons, List.map_nil, hfonts, startWith]
        refine counts_bind (m := modify (· + 1)) (fun n => rfl) ?_
        exact hjoin fun name generics params result body => .node (.functionLike facts) l
          [name, generics, params, result, .node (.body ds c) bl (statement :: body)]
      | false =>
        simp only [isFontTarget, hneeds, Bool.false_eq_true, if_false, List.map_cons, List.map_nil,
          hfonts, Nat.zero_add]
        exact hjoin fun name generics params result body => .node (.functionLike facts) l
          [name, generics, params, result, .node (.body ds c) bl body]
    · next k l parts hshape heq =>
      cases heq
      have hnot : isFontTarget p (.node k l parts) = false := by
        unfold isFontTarget
        split
        · next heq =>
          cases heq
          exact (hshape _ _ _ _ _ _ _ _ _ rfl rfl).elim
        · rfl
      rw [hnot, if_neg (by simp), if_neg (by simp), Nat.zero_add]
      exact counts_map (counts_loadFontsIn p statement hpart) (Ast.node k l)

/-- A function that is to load fonts starts with the statement that does so; for the rest only parts
change. -/
theorem withFonts_node (k : Kind) (l : List Comment) (parts : List Ast) :
    withFonts p statement (.node k l parts) =
      .node k l (if isFontTarget p (.node k l parts)
        then startWith statement (parts.map (withFonts p statement))
        else parts.map (withFonts p statement)) :=
  congrArg Prod.fst (counts_loadFonts p statement k l parts 0)

theorem isFontTarget_of_kind {k : Kind} (h : ∀ facts, k ≠ .functionLike facts) (l : List Comment)
    (parts : List Ast) : isFontTarget p (.node k l parts) = false := by
  cases k <;> first | rfl | exact absurd rfl (h _)

/-- Only functions change themselves. -/
theorem withFonts_of_kind {k : Kind} (h : ∀ facts, k ≠ .functionLike facts) (l : List Comment)
    (parts : List Ast) :
    withFonts p statement (.node k l parts) = .node k l (parts.map (withFonts p statement)) := by
  rw [withFonts_node, isFontTarget_of_kind p h]
  rfl

theorem gentle_withFonts : Gentle (withFonts p statement) where
  kind t := by
    obtain ⟨k, l, parts⟩ := t
    rw [withFonts_node]
    rfl
  inert {k} l parts h := withFonts_of_kind p statement (by rintro facts rfl; cases h) l parts

theorem mem_startWith {statement t : Ast} {parts : List Ast} (h : t ∈ startWith statement parts) :
    t ∈ parts ∨ ∃ ds c l body, .node (.body ds c) l body ∈ parts ∧
      t = .node (.body ds c) l (statement :: body) := by
  unfold startWith at h
  split at h
  · next name generics params result ds c l body =>
    simp only [List.mem_cons, List.not_mem_nil, or_false] at h
    rcases h with rfl | rfl | rfl | rfl | rfl
    · simp
    · simp
    · simp
    · simp
    · exact .inr ⟨ds, c, l, body, by simp, rfl⟩
  · exact .inl h

variable {p statement}

/-- What holds everywhere in the statement, at every body and at each node with fonts loaded in it
holds everywhere in the tree with fonts loaded. -/
theorem all_withFonts {property : Ast → Prop} (hstatement : statement.All property)
    (hbody : ∀ ds c l parts, property (.node (.body ds c) l parts)) {t : Ast}
    (hnode : ∀ n ∈ t.nodes, property (withFonts p statement n)) :
    (withFonts p statement t).All property := by
  change t.All fun n => property (withFonts p statement n) at hnode
  induction t using Ast.induct with
  | node k l parts ih =>
    obtain ⟨hroot, hparts⟩ := Ast.all_node.mp hnode
    have hmapped : ∀ t ∈ parts.map (withFonts p statement), t.All property := by
      intro t' ht'
      obtain ⟨t, ht, rfl⟩ := List.mem_map.mp ht'
      exact ih t ht (hparts t ht)
    rw [withFonts_node] at hroot ⊢
    refine Ast.all_node.mpr ⟨hroot, ?_⟩
    split
    · intro t ht
      rcases mem_startWith ht with ht | ⟨ds, c, bl, body, hmem, rfl⟩
      · exact hmapped t ht
      · exact Ast.all_node.mpr ⟨hbody ds c bl _, List.forall_mem_cons.mpr
          ⟨hstatement, (Ast.all_node.mp (hmapped _ hmem)).2⟩⟩
    · exact hmapped

theorem part_withFonts (t : Ast) :
    (withFonts p statement t).part 0 = withFonts p statement (t.part 0) := by
  obtain ⟨k, l, parts⟩ := t
  have hstart (ts : List Ast) : (startWith statement ts)[0]? = ts[0]? := by
    unfold startWith
    split <;> rfl
  have habsent : withFonts p statement .absent = .absent := rfl
  rw [withFonts_node]
  cases parts with
  | nil => cases isFontTarget p (.node k l []) <;> exact habsent.symm
  | cons t rest =>
    cases isFontTarget p (.node k l (t :: rest)) <;> simp [Ast.part, Ast.parts, hstart]

theorem declaresName_withFonts (name : String) (body : List Ast) :
    declaresName name (body.map (withFonts p statement)) = declaresName name body := by
  unfold declaresName
  rw [(gentle_withFonts p statement).declarators, List.any_map]
  congr 1
  funext d
  rw [Function.comp, part_withFonts, (gentle_withFonts p statement).patternBinds]

theorem needsFonts_withFonts (facts : FunctionFacts) (name : Ast) (body : List Ast) :
    needsFonts p facts (withFonts p statement name) (body.map (withFonts p statement)) =
      needsFonts p facts name body := by
  obtain ⟨k, l, parts⟩ := name
  rw [withFonts_node]
  unfold needsFonts
  cases facts.form <;> cases k <;> first | rfl | simp only [declaresName_withFonts]

theorem isFontTarget_iff {k : Kind} {l : List Comment} {parts : List Ast} :
    isFontTarget p (.node k l parts) = true ↔ ∃ facts name generics params result ds c bl body,
      k = .functionLike facts ∧
      parts = [name, generics, params, result, .node (.body ds c) bl body] ∧
      needsFonts p facts name body = true := by
  constructor
  · intro h
    unfold isFontTarget at h
    split at h
    · next heq =>
      cases heq
      exact ⟨_, _, _, _, _, _, _, _, _, rfl, rfl, h⟩
    · cases h
  · rintro ⟨facts, name, generics, params, result, ds, c, bl, body, rfl, rfl, h⟩
    exact h

/-- A function that is not to load fonts is not to do so when they are loaded in its parts. -/
theorem isFontTarget_map {k : Kind} {l : List Comment} {parts : List Ast}
    (h : isFontTarget p (.node k l parts) = false) :
    isFontTarget p (.node k l (parts.map (withFonts p statement))) = false := by
  rw [Bool.eq_false_iff]
  intro htarget
  obtain ⟨facts, name', generics', params', result', ds, c, bl, body', rfl, hparts, hneeds⟩ :=
    isFontTarget_iff.mp htarget
  obtain ⟨name, _, rfl, rfl, hrest⟩ := List.map_eq_cons_iff.mp hparts
  obtain ⟨generics, _, rfl, -, hrest⟩ := List.map_eq_cons_iff.mp hrest
  obtain ⟨params, _, rfl, -, hrest⟩ := List.map_eq_cons_iff.mp hrest
  obtain ⟨result, _, rfl, -, hrest⟩ := List.map_eq_cons_iff.mp hrest
  obtain ⟨⟨bk, bl', body⟩, rfl, hbody⟩ := List.map_eq_singleton_iff.mp hrest
  obtain rfl : bk = .body ds c :=
    ((gentle_withFonts p statement).kind _).symm.trans (congrArg Ast.kind hbody)
  rw [withFonts_of_kind p statement (k := .body ds c) (by simp)] at hbody
  cases hbody
  rw [needsFonts_withFonts] at hneeds
  simp [isFontTarget, hneeds] at h

theorem declaresName_cons (name : String) (s : Ast) (body : List Ast) :
    declaresName name (s :: body) = (declaresName name [s] || declaresName name body) := by
  simp [declaresName, declarators]

theorem needsFonts_of_declares {facts : FunctionFacts} {name : Ast} {body : List Ast}
    (h : declaresName (p.names .fontsLoadedBinding) body = true) :
    needsFonts p facts name body = false := by
  unfold needsFonts
  split
  · simp [h]
  · rfl

/-- A tree without a function that is to load fonts stays as it is. -/
theorem withFonts_eq_self {t : Ast} (h : t.All fun n => isFontTarget p n = false) :
    withFonts p statement t = t := by
  induction t using Ast.induct with
  | node k l parts ih =>
    obtain ⟨hroot, hparts⟩ := Ast.all_node.mp h
    have hmap : parts.map (withFonts p statement) = parts.map id :=
      List.map_congr_left fun t ht => ih t ht (hparts t ht)
    rw [withFonts_node, hroot, if_neg (by simp), hmap, List.map_id]

section Repetition

variable (hdeclares : declaresName (p.names .fontsLoadedBinding) [statement] = true)
include hdeclares

/-- A function that loads fonts is not to do so. -/
theorem isFontTarget_withFonts (t : Ast) : isFontTarget p (withFonts p statement t) = false := by
  obtain ⟨k, l, parts⟩ := t
  rw [withFonts_node]
  cases htarget : isFontTarget p (.node k l parts) with
  | true =>
    obtain ⟨facts, name, generics, params, result, ds, c, bl, body, rfl, rfl, -⟩ :=
      isFontTarget_iff.mp htarget
    -- the statement is found in the body
    have hneeds : needsFonts p facts (withFonts p statement name)
        (statement :: body.map (withFonts p statement)) = false :=
      needsFonts_of_declares (by rw [declaresName_cons, hdeclares, Bool.true_or])
    simp only [if_true, List.map_cons, List.map_nil, startWith,
      withFonts_of_kind p statement (k := .body ds c) (by simp)]
    exact hneeds
  | false =>
    rw [if_neg (by simp)]
    exact isFontTarget_map htarget

variable (hstatement : statement.All fun n => isFontTarget p n = false)
include hstatement

/-- When fonts are loaded no function is left that is to load them. -/
theorem all_not_isFontTarget_withFonts (t : Ast) :
    (withFonts p statement t).All fun n => isFontTarget p n = false :=
  all_withFonts hstatement (fun _ _ _ _ => rfl) fun n _ => isFontTarget_withFonts hdeclares n

/-- To load fonts twice is to load them once. -/
theorem withFonts_withFonts (t : Ast) :
    withFonts p statement (withFonts p statement t) = withFonts p statement t :=
  withFonts_eq_self (all_not_isFontTarget_withFonts hdeclares hstatement t)

theorem targetCount_withFonts (t : Ast) : targetCount p (withFonts p statement t) = 0 := by
  refine List.countP_eq_zero.mpr fun n hn => ?_
  simp [all_not_isFontTarget_withFonts hdeclares hstatement t n hn]

end Repetition

theorem addFontLoading_apply (htargets : p.tables.fontTargets ≠ [])
    (hstatement : templateStatement (fontText p) = .ok statement) (t : Ast) :
    (addFontLoading p).apply t = (.ok (targetCount p t), withFonts p statement t) := by
  obtain ⟨k, l, parts⟩ := t
  have hcounts := counts_loadFonts p statement k l parts 0
  unfold addFontLoading
  simp only [List.isEmpty_iff, htargets, if_false, Pass.apply_bind, hstatement,
    Pass.apply_require_ok, Pass.apply_get, hcounts, ← withFonts_node, Nat.zero_add]
  rfl

end Fonts

end Nativize.Conversion
