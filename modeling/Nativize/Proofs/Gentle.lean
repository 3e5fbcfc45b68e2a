import Nativize.Conversion.Stylesheet
import Nativize.Proofs.Syntax.Tree

/-!
# Gentle maps

Maps of trees that keep the kinds of all nodes, and change no more than the parts of most. What is
read off a statement by the kinds of its nodes is the same before and after such a map.
-/

namespace Nativize.Syntax

/-- The productions of which a conversion of a tree changes the parts only. -/
def Kind.isInert : Kind → Bool
  | .element | .declarator _ | .call .. | .functionLike _ | .arrow _ => false
  | _ => true

end Nativize.Syntax

namespace Nativize.Conversion

open Syntax

/-- The map keeps the kinds of nodes, and of inert ones it changes the parts only. -/
structure Gentle (f : Ast → Ast) : Prop where
  kind (t : Ast) : (f t).kind = t.kind
  inert {k : Kind} (l : List Comment) (parts : List Ast) (h : k.isInert = true) :
    f (.node k l parts) = .node k l (parts.map f)

/-- All nodes of the tree are of inert productions. -/
abbrev IsInert (t : Ast) : Prop := t.All fun n => n.kind.isInert = true

theorem anyBinds_eq_any (name : String) (parts : List Ast) :
    anyBinds name parts = parts.any (patternBinds name) := by
  induction parts with
  | nil => rfl
  | cons t rest ih => simp [anyBinds, ih]

namespace Gentle

variable {f : Ast → Ast} (hf : Gentle f)

include hf

theorem exists_eq (k : Kind) (l : List Comment) (parts : List Ast) :
    ∃ l' parts', f (.node k l parts) = .node k l' parts' := by
  have h := hf.kind (.node k l parts)
  cases hnode : f (.node k l parts) with
  | node k' l' parts' =>
    rw [hnode] at h
    cases h
    exact ⟨l', parts', rfl⟩

/-- A tree of inert nodes stays as it is. -/
theorem eq_self {t : Ast} (h : IsInert t) : f t = t := by
  induction t using Ast.induct with
  | node k l parts ih =>
    obtain ⟨hk, hparts⟩ := Ast.all_node.mp h
    rw [hf.inert (k := k) l parts hk, List.map_congr_left fun t ht => ih t ht (hparts t ht),
      List.map_id']

theorem isAbsent (t : Ast) : (f t).isAbsent = t.isAbsent := by
  cases t with
  | node k l parts =>
    obtain ⟨l', parts', h⟩ := hf.exists_eq k l parts
    rw [h]
    cases k <;> rfl

/-! ## Statements -/

theorem importOf? (s : Ast) : importOf? (f s) = Conversion.importOf? s := by
  cases s with
  | node k l parts =>
    obtain ⟨l', parts', h⟩ := hf.exists_eq k l parts
    rw [h]
    cases k <;> rfl

theorem topDeclarators (s : Ast) :
    topDeclarators (f s) = (Conversion.topDeclarators s).map f := by
  cases s with
  | node k l parts =>
    cases k with
    | variableDecl kw d => rw [hf.inert l parts rfl]; rfl
    | exportNamed e t =>
      rw [hf.inert l parts rfl]
      match parts with
      | [] => rfl
      | .node k il items :: rest =>
        cases k with
        | variableDecl kw d => rw [List.map_cons, hf.inert il items rfl]; rfl
        | _ =>
          rw [List.map_cons]
          obtain ⟨il', items', h⟩ := hf.exists_eq _ il items
          rw [h]
          rfl
    | _ =>
      obtain ⟨l', parts', h⟩ := hf.exists_eq _ l parts
      rw [h]
      rfl

theorem declarators (parts : List Ast) :
    declarators (parts.map f) = (Conversion.declarators parts).map f := by
  unfold Conversion.declarators
  rw [List.flatMap_map, List.map_flatMap]
  congr 1
  funext s
  obtain ⟨k, l, items⟩ := s
  cases k with
  | variableDecl kw d => rw [hf.inert l items rfl]
  | _ =>
    obtain ⟨l', items', h⟩ := hf.exists_eq _ l items
    rw [h]
    rfl

/-- The pattern binds the same names. -/
theorem patternBinds (name : String) (t : Ast) :
    patternBinds name (f t) = Conversion.patternBinds name t := by
  induction t using Ast.induct with
  | node k l parts ih =>
    cases k with
    | objectPattern | arrayPattern =>
      rw [hf.inert l parts rfl]
      simp only [Conversion.patternBinds, anyBinds_eq_any, List.any_map]
      rw [Bool.eq_iff_iff, List.any_eq_true, List.any_eq_true]
      exact exists_congr fun t => and_congr_right fun ht => by rw [Function.comp, ih t ht]
    | patternProperty shorthand computed =>
      rw [hf.inert l parts rfl]
      match parts with
      | [] | [_] | _ :: _ :: _ :: _ => simp [Conversion.patternBinds]
      | [key, value] => simp [Conversion.patternBinds, ih]
    | rest | defaulted =>
      rw [hf.inert l parts rfl]
      cases parts with
      | nil => rfl
      | cons pattern others => simp [Conversion.patternBinds, ih]
    | _ =>
      obtain ⟨l', parts', h⟩ := hf.exists_eq _ l parts
      rw [h]
      simp [Conversion.patternBinds]

/-- The statement declares the same type. -/
theorem declaredType? (s : Ast) : declaredType? (f s) = Conversion.declaredType? s := by
  cases s with
  | node k l parts =>
    cases k with
    | interfaceDecl _ | typeAlias _ =>
      rw [hf.inert l parts rfl]
      match parts with
      | [] => rfl
      | .node k nl np :: rest =>
        obtain ⟨nl', np', h⟩ := hf.exists_eq k nl np
        rw [List.map_cons, h]
        cases k <;> rfl
    | exportNamed e t =>
      rw [hf.inert l parts rfl]
      match parts with
      | [] => rfl
      | .node k il items :: rest =>
        cases k with
        | interfaceDecl _ | typeAlias _ =>
          rw [List.map_cons, hf.inert il items rfl]
          match items with
          | [] => rfl
          | .node k nl np :: others =>
            obtain ⟨nl', np', h⟩ := hf.exists_eq k nl np
            rw [List.map_cons, h]
            cases k <;> rfl
        | _ =>
          obtain ⟨il', items', h⟩ := hf.exists_eq _ il items
          rw [List.map_cons, h]
          rfl
    | _ =>
      obtain ⟨l', parts', h⟩ := hf.exists_eq _ l parts
      rw [h]
      rfl

/-! ## Objects -/

theorem propertyName? (q : Ast) : propertyName? (f q) = Conversion.propertyName? q := by
  obtain ⟨k, l, parts⟩ := q
  cases k with
  | property facts =>
    rw [hf.inert l parts rfl]
    match parts with
    | [] => rfl
    | .node k kl kp :: rest =>
      obtain ⟨kl', kp', h⟩ := hf.exists_eq k kl kp
      rw [List.map_cons, h]
      cases k <;> rfl
  | _ =>
    obtain ⟨l', parts', h⟩ := hf.exists_eq _ l parts
    rw [h]
    rfl

theorem part {k : Kind} (hk : k.isInert = true) (l : List Comment) (parts : List Ast) (i : Nat) :
    (f (.node k l parts)).part i = f (Ast.part (.node k l parts) i) := by
  have habsent : f .absent = .absent := hf.inert [] [] rfl
  rw [hf.inert l parts hk]
  unfold Ast.part
  cases h : parts[i]? with
  | none => simp [Ast.parts, h, habsent]
  | some t => simp [Ast.parts, h]

/-- The entries of an object have the same names, and values under the map. -/
theorem namedEntries (properties : List Ast) :
    namedEntries (properties.map f) =
      (Conversion.namedEntries properties).map fun e => (e.1, f e.2) := by
  unfold Conversion.namedEntries
  rw [List.filterMap_map, List.map_filterMap]
  refine congrArg (List.filterMap · properties) (funext fun q => ?_)
  rw [Function.comp, hf.propertyName?]
  cases hname : Conversion.propertyName? q with
  | none => rfl
  | some name =>
    obtain ⟨k, l, parts⟩ := q
    have hk : k.isInert = true := by
      unfold Conversion.propertyName? at hname
      split at hname
      · next heq => cases heq; rfl
      · cases hname
    simp [hf.part hk]

theorem objectEntries? (value : Ast) :
    objectEntries? (f value) =
      (Conversion.objectEntries? value).map (·.map fun e => (e.1, f e.2)) := by
  obtain ⟨k, l, parts⟩ := value
  cases k with
  | object =>
    rw [hf.inert l parts rfl]
    exact congrArg some (hf.namedEntries parts)
  | _ =>
    obtain ⟨l', parts', h⟩ := hf.exists_eq _ l parts
    rw [h]
    rfl

end Gentle

end Nativize.Conversion
