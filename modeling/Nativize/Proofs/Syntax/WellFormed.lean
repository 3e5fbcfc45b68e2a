import Nativize.Proofs.Syntax.Tree
import Nativize.Syntax.Parser.Markup

/-!
# Well-formed trees

The shapes that the nodes of a program have: names and literals have no parts, and an element
has five, with names that open and close it alike.
-/

namespace Nativize.Syntax

/-- The productions without parts. -/
def Kind.isLeaf : Kind → Bool
  | .absent | .reference _ | .binding _ | .name _ | .privateName _ | .thisValue | .superValue
  | .nullValue | .boolean _ | .number .. | .bigint _ | .string _ | .regex .. | .metaProperty ..
  | .emptyStmt | .breakStmt _ | .continueStmt _ | .debuggerStmt | .importDecl _ | .exportAll ..
  | .exportNamespace _ | .keywordType _ | .anyType | .markupName _ | .markupNamespaced ..
  | .markupString _ | .markupText _ | .emptyContent _ => true
  | _ => false

/-- The productions whose parts may be any trees. -/
def Kind.isInner : Kind → Bool
  | .element => false
  | k => !k.isLeaf

namespace Ast

/-- The tree can be the name of an element. A plain name is never that of a variable. -/
def isTagName : Ast → Bool
  | .node (.markupName text) _ _ => Parse.isPlainTag text
  | .node (.reference name) _ _ => !Parse.isPlainTag name
  | .node .thisValue _ _ => true
  | .node (.markupNamespaced ..) _ _ => true
  | .node (.markupMember _) _ _ => true
  | _ => false

/-- The parts are those of an element. -/
inductive ElementParts : List Ast → Prop
  | mk {opening closing : Ast} (generics : Ast) (al : List Comment) (attributes : List Ast)
      (cl : List Comment) (children : List Ast) (hopening : opening.isTagName)
      (hclosing : closing.isAbsent ∨ Parse.sameName opening closing) :
      ElementParts [opening, generics, .node .group al attributes,
        .node .group cl children, closing]

/-- The node has the parts that its production has. -/
def Shaped : Ast → Prop
  | .node k _ parts => (k = .element → ElementParts parts) ∧ (k.isLeaf → parts = [])

/-- Every node of the tree has the parts that its production has. -/
def WellFormed (t : Ast) : Prop := t.All Shaped

theorem wellFormed_node {k : Kind} {l : List Comment} {parts : List Ast} :
    WellFormed (.node k l parts) ↔
      Shaped (.node k l parts) ∧ ∀ t ∈ parts, WellFormed t :=
  all_node

theorem wellFormed_childless {k : Kind} {l : List Comment} :
    WellFormed (.node k l []) ↔ k ≠ .element := by
  refine ⟨fun h hk => ?_, fun h =>
    wellFormed_node.mpr ⟨⟨fun hk => absurd hk h, fun _ => rfl⟩, by simp⟩⟩
  cases h.root.1 hk

theorem wellFormed_inner {k : Kind} {l : List Comment} {parts : List Ast} (h : k.isInner = true) :
    WellFormed (.node k l parts) ↔ ∀ t ∈ parts, WellFormed t := by
  have hshaped : Shaped (.node k l parts) := by
    constructor
    · rintro rfl
      cases h
    · intro hleaf
      unfold Kind.isInner at h
      split at h <;> simp_all
  simp [wellFormed_node, hshaped]

theorem wellFormed_withLead {comments : List Comment} {t : Ast} :
    (t.withLead comments).WellFormed ↔ t.WellFormed := by
  cases t
  simp [withLead, wellFormed_node, Shaped]

/-- Names and literals in the tree have no parts. -/
def Bare (t : Ast) : Prop := t.All fun n => n.kind.isLeaf → n.parts = []

theorem bare_node {k : Kind} {l : List Comment} {parts : List Ast} :
    Bare (.node k l parts) ↔ (k.isLeaf → parts = []) ∧ ∀ t ∈ parts, Bare t :=
  all_node

theorem bare_of_not_isLeaf {k : Kind} {l : List Comment} {parts : List Ast} (hk : k.isLeaf = false)
    (h : ∀ t ∈ parts, Bare t) : Bare (.node k l parts) :=
  bare_node.mpr ⟨fun hleaf => absurd hleaf (by simp [hk]), h⟩

theorem WellFormed.bare {t : Ast} (h : t.WellFormed) : t.Bare :=
  h.mono fun n hn => by
    cases n
    exact hn.2

/-- The parts are five, and the attributes are in a group. -/
def HasAttributes (parts : List Ast) : Prop :=
  ∃ opening generics al attributes children closing,
    parts = [opening, generics, .node .group al attributes, children, closing]

theorem ElementParts.hasAttributes {parts : List Ast} (h : ElementParts parts) :
    HasAttributes parts := by
  obtain ⟨generics, al, attributes, cl, children, -, -⟩ := h
  exact ⟨_, generics, al, attributes, .node .group cl children, _, rfl⟩

/-- The tree is a program. -/
def isProgram : Ast → Bool
  | .node (.program ..) _ _ => true
  | _ => false

theorem isProgram_iff {t : Ast} :
    t.isProgram = true ↔ ∃ h d c l parts, t = .node (.program h d c) l parts := by
  constructor
  · intro hprogram
    unfold isProgram at hprogram
    split at hprogram
    · exact ⟨_, _, _, _, _, rfl⟩
    · cases hprogram
  · rintro ⟨h, d, c, l, parts, rfl⟩
    rfl

end Ast

end Nativize.Syntax
