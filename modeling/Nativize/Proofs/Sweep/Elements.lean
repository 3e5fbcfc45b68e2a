import Mathlib.Data.List.Forall2
import Nativize.Proofs.Sweep.Rewrite

/-!
# Elements in a sweep

A sweep neither adds nor takes away an element. Main statement: what holds between an element and
what a sweep makes of it holds between the elements of a program and those of the swept program, in
order.
-/

namespace Nativize.Conversion

open Syntax

def isElement : Ast → Bool
  | .node .element _ _ => true
  | _ => false

/-- The elements in a tree, each before those inside it. -/
def elements (t : Ast) : List Ast := t.nodes.filter isElement

theorem elements_node (k : Kind) (l : List Comment) (parts : List Ast) :
    elements (.node k l parts) = [Ast.node k l parts].filter isElement ++ parts.flatMap elements :=
  Ast.filter_nodes_node isElement k l parts

theorem additive_elements : Additive elements :=
  additiveOn_filter fun n hn => by
    obtain ⟨k, l, parts⟩ := n
    cases k <;> first | rfl | cases hn

section Correspondence

variable {R : Ast → Ast → Prop}

theorem forall₂_elements_node {k : Kind} {l : List Comment} {parts parts' : List Ast}
    (hroot : k = .element → R (.node k l parts) (.node k l parts'))
    (hparts : List.Forall₂ R (parts.flatMap elements) (parts'.flatMap elements)) :
    List.Forall₂ R (elements (.node k l parts)) (elements (.node k l parts')) := by
  rw [elements_node, elements_node]
  refine List.rel_append ?_ hparts
  by_cases hk : k = .element
  · subst hk
    exact .cons (hroot rfl) .nil
  · have hnot (parts : List Ast) : isElement (.node k l parts) = false := by
      cases k <;> first | rfl | exact absurd rfl hk
    simp [hnot]

theorem forall₂_elements_cons {t t' : Ast} {rest rest' : List Ast}
    (h : List.Forall₂ R (elements t) (elements t'))
    (hrest : List.Forall₂ R (rest.flatMap elements) (rest'.flatMap elements)) :
    List.Forall₂ R ((t :: rest).flatMap elements) ((t' :: rest').flatMap elements) := by
  rw [List.flatMap_cons, List.flatMap_cons]
  exact List.rel_append h hrest

theorem forall₂_elements_map {f : Ast → Ast} {parts : List Ast}
    (h : ∀ t ∈ parts, List.Forall₂ R (elements t) (elements (f t))) :
    List.Forall₂ R (parts.flatMap elements) ((parts.map f).flatMap elements) := by
  induction parts with
  | nil => exact .nil
  | cons t rest ih =>
    exact forall₂_elements_cons (h t List.mem_cons_self)
      (ih fun t ht => h t (List.mem_cons_of_mem _ ht))

end Correspondence

section Sweep

variable {p : Profile} {R : Ast → Ast → Prop}
  (hR : ∀ w l parts, Ast.ElementParts parts → (convertElement p parts).2 = none →
    R (.node .element l parts) (rewrite p w (.node .element l parts)))

include hR

/-- The elements of a swept tree are those of the source, each as the sweep leaves it, in order. -/
theorem elements_rewrite {w : Surroundings} {t : Ast} (hwell : t.WellFormed)
    (haccepts : t.All (Accepts p))
    (hw : w.callee = none ∨ callsVariable (p.names .navigationHook) t = true) :
    List.Forall₂ R (elements t) (elements (rewrite p w t)) := by
  induction t using Ast.induct generalizing w with
  | node k l parts ih =>
    obtain ⟨hshaped, hparts⟩ := Ast.wellFormed_node.mp hwell
    obtain ⟨hroot, haccept⟩ := Ast.all_node.mp haccepts
    have hpart (t : Ast) (ht : t ∈ parts) (w : Surroundings) (hw : w.callee = none) :=
      ih t ht (hparts t ht) (haccept t ht) (w := w) (.inl hw)
    have hinert {t t' : Ast} (h : IsInert t) (h' : IsInert t') :
        List.Forall₂ R (elements t) (elements t') := by
      rw [additive_elements.eq_nil h, additive_elements.eq_nil h']
      exact .nil
    induction k, parts using touched_cases with
    | element parts =>
      have hadditive := additive_elements.comp
        (gentle_rewrite p (w := { w with inMarkup := true, callee := none }) rfl)
      have hrelated := hR w l parts (hshaped.1 rfl) hroot
      rw [rewrite_elementParts p w l (hshaped.1 rfl)] at hrelated ⊢
      have hinside := forall₂_elements_map fun t ht =>
        hpart t ht { w with inMarkup := true, callee := none } rfl
      refine forall₂_elements_node (fun _ => hrelated) ?_
      rw [List.flatMap_map] at hinside ⊢
      rwa [hadditive.convertElement p (hshaped.1 rfl).hasAttributes fun t ht => (hparts t ht).bare]
    | declarator d pattern type value =>
      have hpattern := hpart pattern (by simp) { w with callee := none } rfl
      have htype := hpart type (by simp) { w with callee := none } rfl
      rw [rewrite]
      split
      · next hhook =>
        have hvalue := ih value (by simp) (hparts value (by simp)) (haccept value (by simp))
          (w := { w with callee := some (p.names .routerHook) }) (.inr hhook)
        refine forall₂_elements_node (by simp) (forall₂_elements_cons ?_
          (forall₂_elements_cons htype (forall₂_elements_cons hvalue .nil)))
        rcases routerPattern_cases p (hparts pattern (by simp))
            (rewrite p { w with callee := none } pattern) with hswept | ⟨hbefore, hafter⟩
        · exact hswept.symm ▸ hpattern
        · exact hinert hbefore hafter
      · have hvalue := hpart value (by simp) { w with callee := none } rfl
        exact forall₂_elements_node (by simp) (forall₂_elements_cons hpattern
          (forall₂_elements_cons htype (forall₂_elements_cons hvalue .nil)))
    | call o q c callee rest =>
      rw [rewrite_call]
      refine forall₂_elements_node (by simp) (forall₂_elements_cons ?_
        (forall₂_elements_map fun t ht => hpart t (List.mem_cons_of_mem _ ht) _ rfl))
      rcases convertedCallee_cases p w (rewrite p { w with callee := none } callee)
          (hparts callee (by simp)) (hw.imp_right (isInert_of_callsVariable hwell)) with
        ⟨-, hswept⟩ | ⟨hbefore, hafter⟩
      · exact hswept.symm ▸ hpart callee (by simp) _ rfl
      · exact hinert hbefore hafter
    | other k parts h =>
      rw [rewrite_other p w l h]
      refine forall₂_elements_node (fun hk => ?_)
        (forall₂_elements_map fun t ht => hpart t ht _ rfl)
      subst hk
      cases h

/-- The elements of a program after a sweep. -/
theorem elements_combinedSweep {aliases : List String} {t t' : Ast} {tally : Tally}
    (hwell : t.WellFormed) (hprogram : t.isProgram = true)
    (h : (combinedSweep p aliases).apply t = (.ok tally, t')) :
    List.Forall₂ R (elements t) (elements t') := by
  obtain ⟨-, haccepts, rfl⟩ := combinedSweep_ok hwell h
  rw [← additive_elements.onFrames.withImportsConverted p hwell hprogram]
  exact elements_rewrite hR (wellFormed_withImportsConverted p hwell) haccepts (.inl rfl)

end Sweep

end Nativize.Conversion
