import Nativize.Syntax.Ast

/-!
# Trees and their nodes

Induction over trees, and properties that hold at every node of a tree.
-/

namespace Nativize.Syntax.Ast

/-- A property that passes from the parts of a node to the node holds of every tree. -/
theorem induct {motive : Ast → Prop}
    (node : ∀ k l parts, (∀ t ∈ parts, motive t) → motive (.node k l parts)) (t : Ast) :
    motive t :=
  @Ast.rec motive (fun parts => ∀ t ∈ parts, motive t) node (fun _ h => nomatch h)
    (fun _ _ hd tl _ h => (List.mem_cons.mp h).elim (fun heq => heq ▸ hd) (tl _)) t

mutual

/-- Whether two trees are the same can be decided. -/
def decidableEq : (t u : Ast) → Decidable (t = u)
  | .node k l parts, .node k' l' parts' =>
    have := decidableEqOf parts parts'
    decidable_of_iff (k = k' ∧ l = l' ∧ parts = parts') (by simp)

def decidableEqOf : (ts us : List Ast) → Decidable (ts = us)
  | [], [] => .isTrue rfl
  | [], _ :: _ => .isFalse nofun
  | _ :: _, [] => .isFalse nofun
  | t :: ts, u :: us =>
    have := decidableEq t u
    have := decidableEqOf ts us
    decidable_of_iff (t = u ∧ ts = us) (by simp)

end

instance : DecidableEq Ast := decidableEq

theorem nodesOf_eq (parts : List Ast) : nodesOf parts = parts.flatMap nodes := by
  induction parts with
  | nil => rfl
  | cons t rest ih => simp [nodesOf, ih]

theorem mapKindsOf_eq (f : Kind → Kind) (parts : List Ast) :
    mapKindsOf f parts = parts.map (mapKinds f) := by
  induction parts with
  | nil => rfl
  | cons t rest ih => simp [mapKindsOf, ih]

theorem anyKindOf_eq (test : Kind → Bool) (parts : List Ast) :
    anyKindOf test parts = parts.any (anyKind test) := by
  induction parts with
  | nil => rfl
  | cons t rest ih => simp [anyKindOf, ih]

theorem nodes_node (k : Kind) (l : List Comment) (parts : List Ast) :
    nodes (.node k l parts) = .node k l parts :: parts.flatMap nodes := by
  rw [nodes, nodesOf_eq]

theorem filter_nodes_node (test : Ast → Bool) (k : Kind) (l : List Comment) (parts : List Ast) :
    (nodes (.node k l parts)).filter test =
      [node k l parts].filter test ++ parts.flatMap fun t => t.nodes.filter test := by
  rw [nodes_node, ← List.singleton_append, List.filter_append, List.filter_flatMap]

/-- The property holds at every node of the tree. -/
def All (property : Ast → Prop) (t : Ast) : Prop := ∀ n ∈ t.nodes, property n

theorem all_node {property : Ast → Prop} {k : Kind} {l : List Comment} {parts : List Ast} :
    All property (.node k l parts) ↔
      property (.node k l parts) ∧ ∀ t ∈ parts, All property t := by
  simp only [All, nodes_node, List.mem_cons, List.mem_flatMap]
  constructor
  · intro h
    exact ⟨h _ (.inl rfl), fun t ht n hn => h n (.inr ⟨t, ht, hn⟩)⟩
  · rintro ⟨hroot, hparts⟩ n (rfl | ⟨t, ht, hn⟩)
    · exact hroot
    · exact hparts t ht n hn

theorem All.root {property : Ast → Prop} {t : Ast} (h : t.All property) : property t := by
  cases t with
  | node k l parts => exact (all_node.mp h).1

theorem All.mono {property other : Ast → Prop} {t : Ast} (h : t.All property)
    (himp : ∀ n, property n → other n) : t.All other :=
  fun n hn => himp n (h n hn)

end Nativize.Syntax.Ast
