import Nativize.Conversion.Markup
import Nativize.Proofs.Gentle
import Nativize.Proofs.Syntax.WellFormed

/-!
# Markup under conversions of its parts

A conversion of an element reads names and texts, which gentle maps leave alone. Main statement: to
convert an element and then map its parts is to map its parts and then convert it.
-/

namespace Nativize.Syntax

/-- The productions that a conversion of an element or of the imports takes away or adds, references
aside. -/
def Kind.isFrame : Kind → Bool
  | .absent | .group | .string _ | .template _ | .container | .program .. | .importDecl _ => true
  | .markupName _ | .markupString _ | .markupAttribute => true
  | _ => false

end Nativize.Syntax

namespace Nativize.Conversion

open Syntax

theorem elementText_congr {k : Kind} (h : ∀ property, k ≠ .markupMember property)
    (l l' : List Comment) (parts parts' : List Ast) :
    elementText (.node k l parts) = elementText (.node k l' parts') := by
  cases k <;> first | rfl | exact absurd rfl (h _)

theorem classText?_congr {k : Kind} (h : k ≠ .container) (l l' : List Comment)
    (parts parts' : List Ast) :
    classText? (.node k l parts) = classText? (.node k l' parts') := by
  cases k <;> first | rfl | exact absurd rfl h

/-- What a container holds decides by its kind, unless it is a template. -/
theorem classText?_container_congr {k : Kind} (h : ∀ quasis, k ≠ .template quasis)
    (l l' il il' : List Comment) (parts parts' : List Ast) :
    classText? (.node .container l [.node k il parts]) =
      classText? (.node .container l' [.node k il' parts']) := by
  cases k <;> first | rfl | exact absurd rfl (h _)

theorem isInert_leaf {k : Kind} {l : List Comment} {parts : List Ast} (hleaf : k.isLeaf = true)
    (h : k.isInert = true) (hbare : Ast.Bare (.node k l parts)) : IsInert (.node k l parts) := by
  rw [(Ast.bare_node.mp hbare).1 hleaf]
  exact Ast.all_node.mpr ⟨h, by simp⟩

/-- The tree is the member of a variable, in brackets when its name is no ASCII identifier. -/
inductive IsMember (object name : String) : Ast → Prop
  | named (h : Text.isPlainName name = true) :
      IsMember object name (.of (.member name false) [.leaf (.reference object)])
  | indexed (h : Text.isPlainName name = false) :
      IsMember object name
        (.of (.index false) [.leaf (.reference object), .leaf (.string ⟨name, false⟩)])

theorem isMember_iff {object name : String} {t : Ast} :
    IsMember object name t ↔ memberOf object name = t := by
  unfold memberOf
  constructor
  · rintro (h | h) <;> simp [h]
  · rintro rfl
    dsimp only
    split
    · next h => exact .named h
    · next h => exact .indexed (by simpa using h)

theorem isInert_memberOf (object property : String) : IsInert (memberOf object property) := by
  unfold memberOf
  split <;> simp [IsInert, Ast.of, Ast.leaf, Ast.all_node, Ast.kind, Kind.isInert]

theorem isInert_styleReference (names : Names) (members : List String) :
    IsInert (styleReference names members) := by
  unfold styleReference
  split
  · exact isInert_memberOf _ _
  · refine Ast.all_node.mpr ⟨rfl, fun t ht => ?_⟩
    obtain ⟨member, -, rfl⟩ := List.mem_map.mp ht
    exact isInert_memberOf _ _

/-- The attribute has a name without a namespace. -/
def isNamedAttribute : Ast → Bool
  | .node .markupAttribute _ [.node (.markupName _) _ _, _] => true
  | _ => false

theorem isNamedAttribute_iff {t : Ast} : isNamedAttribute t = true ↔
    ∃ l name nl np value, t = .node .markupAttribute l [.node (.markupName name) nl np, value] := by
  constructor
  · intro h
    unfold isNamedAttribute at h
    split at h
    · exact ⟨_, _, _, _, _, rfl⟩
    · cases h
  · rintro ⟨l, name, nl, np, value, rfl⟩
    rfl

/-- Other attributes stay as they are. -/
theorem convertAttribute_of_not_named (p : Profile) (target : ElementTarget) {t : Ast}
    (h : isNamedAttribute t = false) : convertAttribute p target t = .ok [t] := by
  unfold convertAttribute
  split
  · cases h
  · rfl

namespace Gentle

variable {f : Ast → Ast} (hf : Gentle f)

include hf

theorem elementText (t : Ast) : elementText (f t) = Conversion.elementText t := by
  induction t using Ast.induct with
  | node k l parts ih =>
    by_cases hk : ∃ property, k = .markupMember property
    · obtain ⟨property, rfl⟩ := hk
      rw [hf.inert l parts rfl]
      cases parts with
      | nil => rfl
      | cons object rest => simp [Conversion.elementText, ih]
    · obtain ⟨l', parts', h⟩ := hf.exists_eq k l parts
      rw [h]
      exact elementText_congr (fun property heq => hk ⟨property, heq⟩) _ _ _ _

theorem classText? (t : Ast) : classText? (f t) = Conversion.classText? t := by
  cases t with
  | node k l parts =>
    by_cases hk : k = .container
    · subst hk
      rw [hf.inert l parts rfl]
      match parts with
      | [] => rfl
      | _ :: _ :: _ => simp [Conversion.classText?]
      | [.node k il parts] =>
        by_cases htemplate : ∃ quasis, k = .template quasis
        · obtain ⟨quasis, rfl⟩ := htemplate
          rw [List.map_singleton, hf.inert il parts rfl]
          cases parts <;> rfl
        · obtain ⟨il', parts', h⟩ := hf.exists_eq k il parts
          rw [List.map_singleton, h]
          exact classText?_container_congr (fun quasis heq => htemplate ⟨quasis, heq⟩) _ _ _ _ _ _
    · obtain ⟨l', parts', h⟩ := hf.exists_eq k l parts
      rw [h]
      exact classText?_congr hk _ _ _ _

theorem isNamedAttribute (t : Ast) : isNamedAttribute (f t) = Conversion.isNamedAttribute t := by
  cases t with
  | node k l parts =>
    by_cases hk : k = .markupAttribute
    · subst hk
      rw [hf.inert l parts rfl]
      match parts with
      | [] => rfl
      | [_] | _ :: _ :: _ :: _ => simp [Conversion.isNamedAttribute]
      | [.node k nl np, value] =>
        obtain ⟨nl', np', h⟩ := hf.exists_eq k nl np
        rw [List.map_cons, h]
        cases k <;> rfl
    · obtain ⟨l', parts', h⟩ := hf.exists_eq k l parts
      rw [h]
      cases k <;> first | rfl | exact absurd rfl hk

/-- An attribute is converted alike before and after the map. -/
theorem convertAttribute (p : Profile) (target : ElementTarget) (t : Ast) :
    convertAttribute p target (f t) = (Conversion.convertAttribute p target t).map (·.map f) := by
  cases h : Conversion.isNamedAttribute t with
  | false =>
    rw [convertAttribute_of_not_named p target h,
      convertAttribute_of_not_named p target ((hf.isNamedAttribute t).trans h)]
    rfl
  | true =>
    obtain ⟨l, name, nl, np, value, rfl⟩ := isNamedAttribute_iff.mp h
    have hattribute (name : String) (value : Ast) :
        f (.node .markupAttribute l [.node (.markupName name) nl np, value]) =
          .node .markupAttribute l [.node (.markupName name) nl (np.map f), f value] := by
      rw [hf.inert l _ rfl, List.map_cons, List.map_singleton, hf.inert nl np rfl]
    rw [hattribute]
    simp only [Conversion.convertAttribute, hf.classText?]
    split
    · split
      · rfl
      · split
        · rfl
        · have hvalue (members : List String) :
              f (.of .container [Conversion.styleReference p.names members]) =
                .of .container [Conversion.styleReference p.names members] :=
            hf.eq_self (Ast.all_node.mpr
              ⟨rfl, by simpa using isInert_styleReference p.names members⟩)
          simp [Except.map, hattribute, hvalue]
    · split
      · simp [Except.map, hattribute]
      · split <;> simp [Except.map, hattribute]

theorem convertAttributes (p : Profile) (target : ElementTarget) (attributes : List Ast) :
    convertAttributes p target (attributes.map f) =
      ((Conversion.convertAttributes p target attributes).1.map f,
        (Conversion.convertAttributes p target attributes).2) := by
  induction attributes with
  | nil => rfl
  | cons t rest ih =>
    rw [List.map_cons, Conversion.convertAttributes, Conversion.convertAttributes,
      hf.convertAttribute, ih]
    cases Conversion.convertAttribute p target t <;> simp [Except.map]

theorem renameTag (target : String) (t : Ast) :
    renameTag target (f t) = f (Conversion.renameTag target t) := by
  cases t with
  | node k l parts =>
    by_cases hk : ∃ text, k = .markupName text
    · obtain ⟨text, rfl⟩ := hk
      rw [Conversion.renameTag, hf.inert l parts rfl, hf.inert l parts rfl]
      rfl
    · obtain ⟨l', parts', h⟩ := hf.exists_eq k l parts
      cases k <;> first | exact absurd ⟨_, rfl⟩ hk | simp [Conversion.renameTag, h]

/-- To convert an element and then map its parts is to map its parts and then convert it. -/
theorem convertElement (p : Profile) {parts : List Ast} (h : Ast.ElementParts parts) :
    convertElement p (parts.map f) =
      ((Conversion.convertElement p parts).1.map f, (Conversion.convertElement p parts).2) := by
  obtain ⟨generics, al, attributes, cl, children, -, -⟩ := h
  rw [List.map_cons, List.map_cons, List.map_cons, hf.inert al attributes rfl]
  simp only [List.map_cons, List.map_nil, Conversion.convertElement, tagMismatch?, hf.isAbsent,
    hf.elementText, hf.convertAttributes]
  split
  · rw [List.map_cons, List.map_cons, List.map_cons, hf.inert al attributes rfl]
    rfl
  · rw [List.map_cons, List.map_cons, List.map_cons, hf.inert al _ rfl]
    cases p.tables.tagMap.get? (Conversion.elementText _) <;> simp [hf.renameTag]

end Gentle

/-! ## What is found in an element -/

/-- What is found in a node of such a production is what is found in its parts. -/
def AdditiveOn {α : Type} (test : Kind → Bool) (g : Ast → List α) : Prop :=
  ∀ k l parts, test k = true → g (.node k l parts) = parts.flatMap g

/-- What is found in an inert node is what is found in its parts. -/
abbrev Additive {α : Type} (g : Ast → List α) : Prop := AdditiveOn Kind.isInert g

theorem isInert_of_isFrame {k : Kind} (h : k.isFrame = true) : k.isInert = true := by
  cases k <;> first | rfl | cases h

/-- A static class list is made of frames. -/
theorem isFrame_of_classText? {t : Ast} (hbare : t.Bare) (h : (classText? t).isSome) :
    t.All fun n => n.kind.isFrame = true := by
  have hleaf {k : Kind} {l : List Comment} {parts : List Ast} (hk : k.isLeaf = true)
      (hframe : k.isFrame = true) (hbare : Ast.Bare (.node k l parts)) :
      Ast.All (fun n => n.kind.isFrame = true) (.node k l parts) := by
    rw [(Ast.bare_node.mp hbare).1 hk]
    exact Ast.all_node.mpr ⟨hframe, by simp⟩
  unfold classText? at h
  split at h
  · exact hleaf rfl rfl hbare
  · exact hleaf rfl rfl hbare
  · have hvalue := (Ast.bare_node.mp hbare).2 _ List.mem_cons_self
    exact Ast.all_node.mpr ⟨rfl, by simpa using hleaf rfl rfl hvalue⟩
  · exact Ast.all_node.mpr ⟨rfl, by simp [Ast.all_node, Ast.kind, Kind.isFrame]⟩
  · cases h

namespace AdditiveOn

variable {α : Type} {g : Ast → List α} {test : Kind → Bool}

theorem comp (hg : AdditiveOn test g) {f : Ast → Ast} (hf : Gentle f)
    (htest : ∀ k, test k = true → k.isInert = true) : AdditiveOn test fun t => g (f t) := by
  intro k l parts hk
  dsimp only
  rw [hf.inert l parts (htest k hk), hg k l _ hk, List.flatMap_map]

theorem eq_nil (hg : AdditiveOn test g) {t : Ast} (h : t.All fun n => test n.kind = true) :
    g t = [] := by
  induction t using Ast.induct with
  | node k l parts ih =>
    obtain ⟨hk, hparts⟩ := Ast.all_node.mp h
    rw [hg k l parts hk, List.flatMap_eq_nil_iff]
    exact fun t ht => ih t ht (hparts t ht)

variable (hg : AdditiveOn Kind.isFrame g)

include hg

theorem renameTag (target : String) (t : Ast) : g (renameTag target t) = g t := by
  unfold Conversion.renameTag
  split
  · rw [hg _ _ _ rfl, hg _ _ _ rfl]
  · rfl

variable {p : Profile} (hstyle : ∀ members, g (styleReference p.names members) = [])

include hstyle

theorem convertAttribute {target : ElementTarget} {t : Ast} {ts : List Ast}
    (hbare : t.Bare) (h : convertAttribute p target t = .ok ts) : ts.flatMap g = g t := by
  cases hnamed : isNamedAttribute t with
  | false =>
    rw [convertAttribute_of_not_named p target hnamed] at h
    cases h
    simp
  | true =>
    obtain ⟨l, name, nl, np, value, rfl⟩ := isNamedAttribute_iff.mp hnamed
    -- The name of an attribute does not count, and neither does a static class list.
    have hname (name : String) (value : Ast) :
        g (.node .markupAttribute l [.node (.markupName name) nl np, value]) =
          np.flatMap g ++ g value := by
      simp [hg .markupAttribute _ _ rfl, hg (.markupName _) _ _ rfl]
    simp only [Conversion.convertAttribute] at h
    split at h
    · split at h
      · cases h
      · next hclass =>
        have hparts := (Ast.bare_node.mp hbare).2
        have hvalue := hg.eq_nil (isFrame_of_classText? (hparts value (by simp))
          (hclass ▸ Option.isSome_some))
        have hnp : np = [] :=
          (Ast.bare_node.mp (hparts (.node (.markupName name) nl np) (by simp))).1 rfl
        split at h
        · cases h
          rw [hname, hvalue, hnp]
          rfl
        · cases h
          simp [hname, hvalue, Ast.of, hg .container _ _ rfl, hstyle]
    · split at h
      · cases h
        simp [hname]
      · split at h <;> cases h <;> simp [hname]

/-- Nothing is lost or added when the attributes are converted. -/
theorem convertAttributes (target : ElementTarget) {attributes : List Ast}
    (hbare : ∀ t ∈ attributes, t.Bare) :
    (convertAttributes p target attributes).1.flatMap g = attributes.flatMap g := by
  induction attributes with
  | nil => rfl
  | cons t rest ih =>
    have hrest := ih fun t ht => hbare t (List.mem_cons_of_mem _ ht)
    rw [Conversion.convertAttributes]
    cases h : Conversion.convertAttribute p target t with
    | error b => rfl
    | ok ts => simp [hg.convertAttribute hstyle (hbare t List.mem_cons_self) h, hrest]

/-- Nothing is lost or added when an element is converted, except in references to the stylesheet.
-/
theorem convertElement {parts : List Ast} (h : Ast.HasAttributes parts)
    (hbare : ∀ t ∈ parts, t.Bare) : (convertElement p parts).1.flatMap g = parts.flatMap g := by
  obtain ⟨opening, generics, al, attributes, children, closing, rfl⟩ := h
  have hattributes : ∀ t ∈ attributes, t.Bare :=
    (Ast.bare_node.mp (hbare (.node .group al attributes) (by simp))).2
  unfold Conversion.convertElement
  dsimp only
  split
  · rfl
  · simp only [List.flatMap_cons, List.flatMap_nil, hg .group _ _ rfl,
      hg.convertAttributes hstyle _ hattributes]
    cases p.tables.tagMap.get? (elementText _) <;> simp [hg.renameTag]

end AdditiveOn

theorem Additive.onFrames {α : Type} {g : Ast → List α} (hg : Additive g) :
    AdditiveOn Kind.isFrame g :=
  fun k l parts hk => hg k l parts (isInert_of_isFrame hk)

/-- Nothing is lost or added when an element is converted. -/
theorem Additive.convertElement {α : Type} {g : Ast → List α} (hg : Additive g) (p : Profile)
    {parts : List Ast} (h : Ast.HasAttributes parts) (hbare : ∀ t ∈ parts, t.Bare) :
    (convertElement p parts).1.flatMap g = parts.flatMap g :=
  hg.onFrames.convertElement (fun members => hg.eq_nil (isInert_styleReference p.names members)) h
    hbare

theorem Additive.comp {α : Type} {g : Ast → List α} (hg : Additive g) {f : Ast → Ast}
    (hf : Gentle f) : Additive fun t => g (f t) :=
  AdditiveOn.comp hg hf fun _ hk => hk

/-- Nodes are found alike in a node and in its parts, when nodes of such a production do not count.
-/
theorem additiveOn_filter {kinds : Kind → Bool} {test : Ast → Bool}
    (htest : ∀ n, kinds n.kind = true → test n = false) :
    AdditiveOn kinds fun t => t.nodes.filter test := by
  intro k l parts hk
  have hnode : test (.node k l parts) = false := htest _ hk
  simp [Ast.filter_nodes_node, hnode]

/-- What holds at inert nodes, and everywhere in the parts of an element, holds everywhere in the
parts of the converted element. -/
theorem all_convertElement {test : Ast → Bool} (htest : ∀ n, n.kind.isInert = true → test n = true)
    {f : Ast → Ast} (hf : Gentle f) (p : Profile) {parts : List Ast}
    (hparts : Ast.ElementParts parts)
    (hwell : ∀ t ∈ parts, t.WellFormed) (h : ∀ t ∈ parts, (f t).All fun n => test n = true) :
    ∀ t ∈ (convertElement p parts).1.map f, t.All fun n => test n = true := by
  have hadditive : Additive fun t => (f t).nodes.filter fun n => !test n :=
    Additive.comp (additiveOn_filter fun n hn => by simp [htest n hn]) hf
  have hnone : parts.flatMap (fun t => (f t).nodes.filter fun n => !test n) = [] := by
    refine List.flatMap_eq_nil_iff.mpr fun t ht => List.filter_eq_nil_iff.mpr fun n hn => ?_
    simp [h t ht n hn]
  rw [← hadditive.convertElement p hparts.hasAttributes fun t ht => (hwell t ht).bare,
    List.flatMap_eq_nil_iff] at hnone
  intro t' ht' n hn
  obtain ⟨t, ht, rfl⟩ := List.mem_map.mp ht'
  simpa using List.filter_eq_nil_iff.mp (hnone t ht) n hn

/-! ## Bare trees -/

theorem bare_leaf (k : Kind) : Ast.Bare (.leaf k) := Ast.bare_node.mpr ⟨fun _ => rfl, by simp⟩

theorem bare_memberOf (object property : String) : (memberOf object property).Bare := by
  unfold memberOf
  split
  · exact Ast.bare_of_not_isLeaf rfl (by simp [bare_leaf])
  · exact Ast.bare_of_not_isLeaf rfl (by simp [bare_leaf])

theorem bare_styleReference (names : Names) (members : List String) :
    (styleReference names members).Bare := by
  unfold styleReference
  split
  · exact bare_memberOf _ _
  · refine Ast.bare_of_not_isLeaf rfl fun t ht => ?_
    obtain ⟨member, -, rfl⟩ := List.mem_map.mp ht
    exact bare_memberOf _ _

theorem bare_renameTag (target : String) {t : Ast} (h : t.Bare) : (renameTag target t).Bare := by
  unfold renameTag
  split
  · obtain ⟨hleaf, hparts⟩ := Ast.bare_node.mp h
    exact Ast.bare_node.mpr ⟨hleaf, hparts⟩
  · exact h

theorem bare_convertAttribute {p : Profile} {target : ElementTarget} {t : Ast} {ts : List Ast}
    (hbare : t.Bare) (h : convertAttribute p target t = .ok ts) : ∀ t ∈ ts, t.Bare := by
  cases hnamed : isNamedAttribute t with
  | false =>
    rw [convertAttribute_of_not_named p target hnamed] at h
    cases h
    simpa using hbare
  | true =>
    obtain ⟨l, name, nl, np, value, rfl⟩ := isNamedAttribute_iff.mp hnamed
    have hparts := (Ast.bare_node.mp hbare).2
    have hattribute (name : String) {value : Ast} (hvalue : value.Bare) :
        Ast.Bare (.node .markupAttribute l [.node (.markupName name) nl np, value]) := by
      have hname : Ast.Bare (.node (.markupName name) nl np) := by
        obtain ⟨hleaf, hnp⟩ := Ast.bare_node.mp (hparts _ List.mem_cons_self)
        exact Ast.bare_node.mpr ⟨hleaf, hnp⟩
      exact Ast.bare_of_not_isLeaf rfl (by simpa using ⟨hname, hvalue⟩)
    have hvalue := hparts value (by simp)
    simp only [convertAttribute] at h
    split at h
    · split at h
      · cases h
      · split at h
        · cases h
          simp
        · cases h
          refine List.forall_mem_singleton.mpr (hattribute _ (Ast.bare_of_not_isLeaf rfl ?_))
          simpa using bare_styleReference _ _
    · split at h
      · cases h
        simpa using hattribute _ hvalue
      · split at h <;> cases h <;> simpa using hattribute _ hvalue

theorem bare_convertAttributes (p : Profile) (target : ElementTarget) {attributes : List Ast}
    (hbare : ∀ t ∈ attributes, t.Bare) :
    ∀ t ∈ (convertAttributes p target attributes).1, t.Bare := by
  induction attributes with
  | nil => exact hbare
  | cons t rest ih =>
    obtain ⟨ht, hrest⟩ := List.forall_mem_cons.mp hbare
    rw [convertAttributes]
    cases h : convertAttribute p target t with
    | error b => exact hbare
    | ok ts => exact List.forall_mem_append.mpr ⟨bare_convertAttribute ht h, ih hrest⟩

theorem bare_convertElement (p : Profile) {parts : List Ast} (hbare : ∀ t ∈ parts, t.Bare) :
    ∀ t ∈ (convertElement p parts).1, t.Bare := by
  unfold convertElement
  split
  · next opening generics k al attributes children closing =>
    split
    · exact hbare
    · simp only [List.forall_mem_cons, List.not_mem_nil, false_imp_iff, implies_true, and_true]
        at hbare ⊢
      obtain ⟨hopening, hgenerics, hattributes, hchildren, hclosing⟩ := hbare
      have hrename {tag : Ast} (htag : tag.Bare) :
          (((p.tables.tagMap.get? (elementText opening)).map
            fun target => renameTag target tag).getD tag).Bare := by
        cases p.tables.tagMap.get? (elementText opening) with
        | none => exact htag
        | some target => exact bare_renameTag target htag
      obtain ⟨hleaf, hattributes⟩ := Ast.bare_node.mp hattributes
      refine ⟨hrename hopening, hgenerics, Ast.bare_node.mpr ⟨fun hk => ?_,
        bare_convertAttributes p _ hattributes⟩, hchildren, hrename hclosing⟩
      rw [hleaf hk]
      rfl
  · exact hbare

end Nativize.Conversion
