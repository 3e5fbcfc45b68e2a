import Nativize.Proofs.ImportRules
import Nativize.Proofs.Sweep.Rewrite
import Nativize.Proofs.Syntax.Parser.Program

/-!
# What stops a sweep

A sweep stops at the first import, and else at the first element or declarator, that it has to
refuse. `Offends` says by the shape of a node alone whether and why it is refused. Main statement: a
sweep fails exactly when something in the source offends, the first that does decides why, and
nothing that comes after it is changed.
-/

namespace Nativize.Syntax

/-- The productions that a sweep may change or stop at. -/
def Kind.isSwept : Kind → Bool
  | .element | .declarator _ | .call .. => true
  | _ => false

end Nativize.Syntax

namespace Nativize.Conversion

open Syntax

/-! ## Offences -/

/-- The class list is known before the program runs. -/
inductive IsStatic : Ast → Prop
  | absent (l : List Comment) (parts : List Ast) : IsStatic (.node .absent l parts)
  | text (text : String) (l : List Comment) (parts : List Ast) :
    IsStatic (.node (.markupString text) l parts)
  | quoted (value : StringValue) (l vl : List Comment) (parts : List Ast) :
    IsStatic (.node .container l [.node (.string value) vl parts])
  | template (quasis : List Quasi) (l tl : List Comment) :
    IsStatic (.node .container l [.node (.template quasis) tl []])

theorem isStatic_iff {value : Ast} : IsStatic value ↔ (classText? value).isSome = true := by
  constructor
  · rintro (_ | _ | _ | _) <;> rfl
  · intro h
    unfold classText? at h
    split at h
    · exact .absent _ _
    · exact .text _ _ _
    · exact .quoted _ _ _ _
    · exact .template _ _ _
    · cases h

/-- The node is refused, for the reason given: the names of an element differ, or else it has a
class list that is not static, or a pattern takes apart the result of the navigation hook. -/
inductive Offends (p : Profile) : Ast → Breach → Prop
  | tags {l : List Comment} {opening generics attributes children closing : Ast}
      (hclosing : closing.isAbsent = false) (htext : elementText closing ≠ elementText opening) :
      Offends p (.node .element l [opening, generics, attributes, children, closing])
        (.tagMismatch (elementText opening) (elementText closing))
  | classList {l al nl cl : List Comment} {opening generics children closing value : Ast}
      {attributes np : List Ast} {k : Kind}
      (htags : closing.isAbsent = true ∨ elementText closing = elementText opening)
      (hattribute : .node .markupAttribute cl
        [.node (.markupName (p.names .classAttribute)) nl np, value] ∈ attributes)
      (hvalue : ¬IsStatic value) :
      Offends p (.node .element l [opening, generics, .node k al attributes, children, closing])
        (.dynamicClass ((p.tables.tagMap.get? (elementText opening)).getD (elementText opening)))
  | hook {d : Bool} {l : List Comment} {pattern type value : Ast}
      (hvalue : callsVariable (p.names .navigationHook) value = true)
      (hpattern : ∀ name, pattern.kind ≠ .binding name) :
      Offends p (.node (.declarator d) l [pattern, type, value])
        (.destructuredHook (p.names .navigationHook))

section Offends

variable {p : Profile} {b : Breach}

theorem convertAttribute_error_iff {target : ElementTarget} {t : Ast} :
    convertAttribute p target t = .error b ↔ b = .dynamicClass target.component ∧
      ∃ l nl np value, ¬IsStatic value ∧
        t = .node .markupAttribute l
          [.node (.markupName (p.names .classAttribute)) nl np, value] := by
  cases hnamed : isNamedAttribute t with
  | false =>
    rw [convertAttribute_of_not_named p target hnamed]
    constructor
    · simp
    · rintro ⟨-, l, nl, np, value, -, rfl⟩
      cases hnamed
  | true =>
    obtain ⟨l, name, nl, np, value, rfl⟩ := isNamedAttribute_iff.mp hnamed
    by_cases hname : name = p.names .classAttribute
    · have hstatic : IsStatic value ↔ (classText? value).isSome = true := isStatic_iff
      cases htext : classText? value with
      | none =>
        simp only [convertAttribute, hname, htext, if_true, Except.error.injEq]
        rw [htext] at hstatic
        constructor
        · rintro rfl
          exact ⟨rfl, l, nl, np, value, by simp [hstatic], rfl⟩
        · rintro ⟨rfl, -⟩
          rfl
      | some text =>
        rw [htext] at hstatic
        constructor
        · intro h
          simp only [convertAttribute, hname, htext, if_true] at h
          split at h <;> cases h
        · rintro ⟨-, _, _, _, _, hdynamic, heq⟩
          cases heq
          exact absurd (hstatic.mpr rfl) hdynamic
    · constructor
      · intro h
        simp only [convertAttribute, hname, if_false] at h
        split at h
        · cases h
        · split at h <;> cases h
      · rintro ⟨-, _, _, _, _, -, heq⟩
        cases heq
        exact absurd rfl hname

/-- Attributes are refused when a class list among them is not static. -/
theorem breach_convertAttributes_iff {target : ElementTarget} {attributes : List Ast} :
    (convertAttributes p target attributes).2 = some b ↔ b = .dynamicClass target.component ∧
      ∃ l nl np value, ¬IsStatic value ∧ .node .markupAttribute l
        [.node (.markupName (p.names .classAttribute)) nl np, value] ∈ attributes := by
  induction attributes with
  | nil => simp [convertAttributes]
  | cons t rest ih =>
    rw [convertAttributes]
    cases ht : convertAttribute p target t with
    | error b' =>
      obtain ⟨rfl, l, nl, np, value, hvalue, rfl⟩ := convertAttribute_error_iff.mp ht
      constructor
      · intro h
        cases h
        exact ⟨rfl, l, nl, np, value, hvalue, List.mem_cons_self⟩
      · rintro ⟨rfl, -⟩
        rfl
    | ok ts =>
      refine ih.trans (and_congr_right fun hb => ?_)
      constructor
      · rintro ⟨l, nl, np, value, hvalue, hmem⟩
        exact ⟨l, nl, np, value, hvalue, List.mem_cons_of_mem _ hmem⟩
      · rintro ⟨l, nl, np, value, hvalue, hmem⟩
        refine ⟨l, nl, np, value, hvalue, (List.mem_cons.mp hmem).resolve_left fun heq => ?_⟩
        have herror := convertAttribute_error_iff.mpr ⟨hb, l, nl, np, value, hvalue, heq.symm⟩
        rw [ht] at herror
        cases herror

theorem tagMismatch?_eq_none_iff {opening closing : Ast} : tagMismatch? opening closing = none ↔
    closing.isAbsent = true ∨ elementText closing = elementText opening := by
  unfold tagMismatch?
  split <;> simp_all

theorem tagMismatch?_eq_some_iff {opening closing : Ast} :
    tagMismatch? opening closing = some b ↔ closing.isAbsent = false ∧
      elementText closing ≠ elementText opening ∧
      b = .tagMismatch (elementText opening) (elementText closing) := by
  unfold tagMismatch?
  split <;> grind

/-- A conversion of an element is refused when the element offends. -/
theorem offends_element_iff {l : List Comment} {parts : List Ast} :
    Offends p (.node .element l parts) b ↔ (convertElement p parts).2 = some b := by
  constructor
  · rintro (⟨hclosing, htext⟩ | ⟨htags, hattribute, hvalue⟩)
    · next opening generics attributes children closing =>
      obtain ⟨k, al, attributes⟩ := attributes
      have hmismatch := tagMismatch?_eq_some_iff.mpr ⟨hclosing, htext, rfl⟩
      simp only [convertElement, hmismatch]
    · have hmismatch := tagMismatch?_eq_none_iff.mpr htags
      simp only [convertElement, hmismatch]
      exact breach_convertAttributes_iff.mpr ⟨rfl, _, _, _, _, hvalue, hattribute⟩
  · intro h
    unfold convertElement at h
    split at h
    · next opening generics k al attributes children closing =>
      split at h
      · next hmismatch =>
        cases h
        obtain ⟨hclosing, htext, rfl⟩ := tagMismatch?_eq_some_iff.mp hmismatch
        exact .tags hclosing htext
      · next hmismatch =>
        obtain ⟨rfl, cl, nl, np, value, hvalue, hattribute⟩ := breach_convertAttributes_iff.mp h
        exact .classList (tagMismatch?_eq_none_iff.mp hmismatch) hattribute hvalue
    · cases h

theorem offends_declarator_iff {d : Bool} {l : List Comment} {pattern type value : Ast} :
    Offends p (.node (.declarator d) l [pattern, type, value]) b ↔
      callsVariable (p.names .navigationHook) value = true ∧
        (∀ name, pattern.kind ≠ .binding name) ∧
          b = .destructuredHook (p.names .navigationHook) := by
  constructor
  · rintro (_ | _ | ⟨hvalue, hpattern⟩)
    exact ⟨hvalue, hpattern, rfl⟩
  · rintro ⟨hvalue, hpattern, rfl⟩
    exact .hook hvalue hpattern

/-- Only what a sweep looks at is refused. -/
theorem not_offends_of_not_touched {k : Kind} {l : List Comment} {parts : List Ast}
    (h : isTouched k parts = false) : ¬Offends p (.node k l parts) b := by
  rintro (_ | _ | _) <;> cases h

theorem not_offends_call {o q : Bool} {c l : List Comment} {parts : List Ast} :
    ¬Offends p (.node (.call o q c) l parts) b := nofun

end Offends

/-! ## Progress of a sweep -/

/-- The elements, declarators and calls of a tree, each before those inside it. -/
def visited (t : Ast) : List Ast := t.nodes.filter fun n => n.kind.isSwept

theorem additive_visited : Additive visited :=
  additiveOn_filter fun n hn => by
    obtain ⟨k, l, parts⟩ := n
    cases k <;> first | rfl | cases hn

theorem visited_node (k : Kind) (l : List Comment) (parts : List Ast) :
    visited (.node k l parts) =
      if k.isSwept then .node k l parts :: parts.flatMap visited else parts.flatMap visited := by
  simp only [visited, Ast.nodes_node, List.filter_cons, List.filter_flatMap]
  rfl

/-- The first of the nodes that offends does so for the reason given, and the nodes after it are the
same in both lists. -/
inductive Cut (p : Profile) (b : Breach) : List Ast → List Ast → Prop
  | here {n : Ast} (n' : Ast) (after : List Ast) (h : Offends p n b) :
    Cut p b (n :: after) (n' :: after)
  | later {n : Ast} (n' : Ast) {nodes nodes' : List Ast} (hn : ∀ b', ¬Offends p n b')
      (h : Cut p b nodes nodes') :
    Cut p b (n :: nodes) (n' :: nodes')

/-- What a sweep makes of the nodes that it meets, by the breach before and after: all nodes stay
the same, none of them offends, or the sweep stops among them. -/
inductive Advance (p : Profile) : Option Breach → Option Breach → List Ast → List Ast → Prop
  | stopped (b : Breach) (nodes : List Ast) : Advance p (some b) (some b) nodes nodes
  | passed {nodes nodes' : List Ast} (h : ∀ n ∈ nodes, ∀ b, ¬Offends p n b)
      (hlength : nodes'.length = nodes.length) :
    Advance p none none nodes nodes'
  | cut {b : Breach} {nodes nodes' : List Ast} (h : Cut p b nodes nodes') :
    Advance p none (some b) nodes nodes'

section Advance

variable {p : Profile} {b : Breach} {nodes nodes' others others' : List Ast}

theorem Cut.append (h : Cut p b nodes nodes') (others : List Ast) :
    Cut p b (nodes ++ others) (nodes' ++ others) := by
  induction h with
  | here n' after h => exact .here n' (after ++ others) h
  | later n' hn h ih => exact .later n' hn ih

theorem Cut.prepend (hnodes : ∀ n ∈ nodes, ∀ b, ¬Offends p n b)
    (hlength : nodes'.length = nodes.length) (h : Cut p b others others') :
    Cut p b (nodes ++ others) (nodes' ++ others') := by
  induction nodes generalizing nodes' with
  | nil =>
    rw [List.eq_nil_of_length_eq_zero hlength]
    exact h
  | cons n nodes ih =>
    obtain ⟨n', nodes', rfl⟩ := List.exists_cons_of_length_eq_add_one hlength
    obtain ⟨hn, hrest⟩ := List.forall_mem_cons.mp hnodes
    exact .later n' hn (ih hrest (by simpa using hlength))

theorem Advance.append {before mid after : Option Breach} (h : Advance p before mid nodes nodes')
    (h' : Advance p mid after others others') :
    Advance p before after (nodes ++ others) (nodes' ++ others') := by
  cases h with
  | stopped b =>
    cases h' with
    | stopped => exact .stopped b _
  | passed hnodes hlength =>
    cases h' with
    | passed hothers hlength' =>
      exact .passed (List.forall_mem_append.mpr ⟨hnodes, hothers⟩) (by simp [hlength, hlength'])
    | cut hcut => exact .cut (hcut.prepend hnodes hlength)
  | cut hcut =>
    cases h' with
    | stopped => exact .cut (hcut.append others)

/-- A node that is no reason to stop comes first. -/
theorem Advance.cons {after : Option Breach} {n : Ast} (n' : Ast) (hn : ∀ b, ¬Offends p n b)
    (h : Advance p none after nodes nodes') : Advance p none after (n :: nodes) (n' :: nodes') := by
  have hfirst : Advance p none none [n] [n'] := .passed (by simpa using hn) rfl
  exact hfirst.append h

/-- The first node that offends is among those that were met, and those after it are the same. -/
theorem Cut.exists_first (h : Cut p b nodes nodes') : ∃ before n after before' n',
    nodes = before ++ n :: after ∧ nodes' = before' ++ n' :: after ∧
      before'.length = before.length ∧ (∀ m ∈ before, ∀ b, ¬Offends p m b) ∧ Offends p n b := by
  induction h with
  | here n' after h => exact ⟨[], _, after, [], n', rfl, rfl, rfl, by simp, h⟩
  | later m' hm h ih =>
    obtain ⟨before, n, after, before', n', rfl, rfl, hlength, hbefore, hn⟩ := ih
    exact ⟨_ :: before, n, after, m' :: before', n', rfl, rfl, by simpa using hlength,
      List.forall_mem_cons.mpr ⟨hm, hbefore⟩, hn⟩

end Advance

/-- A computation meets the nodes in order. What it gives is related to what becomes of them. -/
def Sweeps {α : Type} (p : Profile) (nodes : List Ast) (m : StateM CombinedState α)
    (result : α → List Ast → Prop) : Prop :=
  ∀ s, ∃ nodes', Advance p s.breach (m.run s).2.breach nodes nodes' ∧ result (m.run s).1 nodes'

/-- The nodes met in a tree are left in another of the same kind. -/
structure Leaves (t t' : Ast) (nodes' : List Ast) : Prop where
  visited : visited t' = nodes'
  bare : t'.Bare
  kind : t'.kind = t.kind

structure LeavesAll (ts ts' : List Ast) (nodes' : List Ast) : Prop where
  visited : ts'.flatMap visited = nodes'
  bare : ∀ t' ∈ ts', t'.Bare
  kinds : ts'.map Ast.kind = ts.map Ast.kind

section Sweeps

variable {α β : Type} {p : Profile} {nodes others : List Ast}

theorem Sweeps.mono {m : StateM CombinedState α} {result result' : α → List Ast → Prop}
    (h : Sweeps p nodes m result) (himp : ∀ x nodes', result x nodes' → result' x nodes') :
    Sweeps p nodes m result' := by
  intro s
  obtain ⟨nodes', hadvance, hresult⟩ := h s
  exact ⟨nodes', hadvance, himp _ _ hresult⟩

theorem sweeps_pure {result : α → List Ast → Prop} {v : α} (h : result v []) :
    Sweeps p [] (pure v) result := by
  intro s
  refine ⟨[], ?_, h⟩
  change Advance p s.breach s.breach [] []
  cases s.breach with
  | none => exact .passed (by simp) rfl
  | some b => exact .stopped b []

theorem sweeps_bind {m : StateM CombinedState α} {f : α → StateM CombinedState β}
    {result : α → List Ast → Prop} {result' : β → List Ast → Prop} (hm : Sweeps p nodes m result)
    (hf : ∀ x nodes', result x nodes' →
      Sweeps p others (f x) fun y others' => result' y (nodes' ++ others')) :
    Sweeps p (nodes ++ others) (m >>= f) result' := by
  intro s
  obtain ⟨nodes', hadvance, hresult⟩ := hm s
  obtain ⟨others', hadvance', hresult'⟩ := hf _ _ hresult (m.run s).2
  exact ⟨nodes' ++ others', hadvance.append hadvance', hresult'⟩

theorem sweeps_map {m : StateM CombinedState α} {f : α → β} {result : β → List Ast → Prop}
    (hm : Sweeps p nodes m fun x nodes' => result (f x) nodes') :
    Sweeps p nodes (do return f (← m)) result := by
  rw [← List.append_nil nodes]
  exact sweeps_bind hm fun x nodes' h => sweeps_pure (by simpa using h)

theorem sweeps_count {m : StateM CombinedState α} {result : α → List Ast → Prop}
    {f : CombinedState → CombinedState} (hf : ∀ s, (f s).breach = s.breach)
    (hm : Sweeps p nodes m result) : Sweeps p nodes (do modify f; m) result := by
  intro s
  have h := hm (f s)
  rw [hf] at h
  exact h

theorem sweeps_sweepTrees {w : Surroundings} {ts : List Ast}
    (h : ∀ t ∈ ts, Sweeps p (visited t) (sweepTree p w t) (Leaves t)) :
    Sweeps p (ts.flatMap visited) (sweepTrees p w ts) (LeavesAll ts) := by
  induction ts with
  | nil => exact sweeps_pure ⟨rfl, by simp, rfl⟩
  | cons t rest ih =>
    rw [sweepTrees, List.flatMap_cons]
    have hrest := ih fun t ht => h t (List.mem_cons_of_mem _ ht)
    refine sweeps_bind (h t List.mem_cons_self) fun t' nodes' ht =>
      sweeps_map (hrest.mono fun rest' others' hrest => ⟨?_, ?_, ?_⟩)
    · rw [List.flatMap_cons, ht.visited, hrest.visited]
    · exact List.forall_mem_cons.mpr ⟨ht.bare, hrest.bare⟩
    · rw [List.map_cons, List.map_cons, ht.kind, hrest.kinds]

variable {n : Ast} {inner : List Ast}

/-- After a breach a node is left as it is. -/
theorem sweeps_guard {m : StateM CombinedState Ast} (hbare : n.Bare)
    (hm : ∀ s, s.breach = none → ∃ nodes', Advance p none (m.run s).2.breach (visited n) nodes' ∧
      Leaves n (m.run s).1 nodes') :
    Sweeps p (visited n) (do if (← get).breach.isSome then return n else m) (Leaves n) := by
  intro s
  rw [run_guard]
  cases hb : s.breach with
  | none => exact hm s hb
  | some b =>
    change ∃ nodes', Advance p (some b) s.breach (visited n) nodes' ∧ Leaves n n nodes'
    rw [hb]
    exact ⟨visited n, .stopped b _, rfl, hbare, rfl⟩

/-- The sweep goes on at a node that is no reason to stop. -/
theorem sweeps_node {m : StateM CombinedState Ast} (hvisited : visited n = n :: inner)
    (hbare : n.Bare) (hn : ∀ b, ¬Offends p n b)
    (hm : Sweeps p inner m fun t' inner' => Leaves n t' (t' :: inner')) :
    Sweeps p (visited n) (do if (← get).breach.isSome then return n else m) (Leaves n) := by
  refine sweeps_guard hbare fun s hs => ?_
  obtain ⟨inner', hadvance, hleaves⟩ := hm s
  rw [hs] at hadvance
  rw [hvisited]
  exact ⟨_, hadvance.cons _ hn, hleaves⟩

/-- The sweep stops at a node that offends. -/
theorem sweeps_stop {b : Breach} {n' : Ast} (hvisited : visited n = n :: inner) (hbare : n.Bare)
    (hn : Offends p n b) (hleaves : Leaves n n' (n' :: inner)) :
    Sweeps p (visited n) (do
      if (← get).breach.isSome then return n
      else do
        modify (·.stop b)
        return n') (Leaves n) := by
  refine sweeps_guard hbare fun s hs => ⟨n' :: inner, ?_, hleaves⟩
  rw [hvisited]
  exact .cut (.here n' inner hn)

end Sweeps

/-! ## The sweep step by step -/

/-- After a breach nothing is changed. -/
theorem run_sweepTree_of_breach (p : Profile) (w : Surroundings) (t : Ast) {s : CombinedState}
    (hs : s.breach.isSome = true) : (sweepTree p w t).run s = (t, s) := by
  induction t using Ast.induct generalizing w with
  | node k l parts ih =>
    induction k, parts using touched_cases with
    | element parts =>
      unfold sweepTree
      rw [run_guard, if_pos hs]
      rfl
    | declarator d pattern type value =>
      unfold sweepTree
      rw [run_guard, if_pos hs]
      rfl
    | call o q c callee rest =>
      unfold sweepTree
      rw [run_guard, if_pos hs]
      rfl
    | other k parts h =>
      have htrees (w : Surroundings) : (sweepTrees p w parts).run s = (parts, s) := by
        clear h
        induction parts with
        | nil => rfl
        | cons t rest ihrest =>
          have ht := ih t List.mem_cons_self w
          have hrest := ihrest fun t ht => ih t (List.mem_cons_of_mem _ ht)
          rw [sweepTrees, StateT.run_bind, ht]
          change StateT.run (do return t :: (← sweepTrees p w rest)) s = _
          rw [StateT.run_bind, hrest]
          rfl
      rw [sweepTree_other p w l h, StateT.run_bind, htrees]
      rfl

theorem hasAttributes_of_kinds {parts parts' : List Ast} (h : Ast.HasAttributes parts)
    (hkinds : parts'.map Ast.kind = parts.map Ast.kind) : Ast.HasAttributes parts' := by
  obtain ⟨opening, generics, al, attributes, children, closing, rfl⟩ := h
  simp only [List.map_cons, List.map_nil, List.map_eq_cons_iff, List.map_eq_nil_iff] at hkinds
  obtain ⟨opening', _, rfl, -, generics', _, rfl, -, ⟨k, al', attributes'⟩, _, rfl, hk,
    children', _, rfl, -, closing', _, rfl, -, rfl⟩ := hkinds
  obtain rfl : k = .group := hk
  exact ⟨opening', generics', al', attributes', children', closing', rfl⟩

section Steps

variable {p : Profile} {w : Surroundings} {l : List Comment}

theorem sweeps_element {parts : List Ast} (hwell : Ast.WellFormed (.node .element l parts))
    (hparts : Sweeps p (parts.flatMap visited)
      (sweepTrees p { w with inMarkup := true, callee := none } parts) (LeavesAll parts)) :
    Sweeps p (visited (.node .element l parts)) (sweepTree p w (.node .element l parts))
      (Leaves (.node .element l parts)) := by
  have hvisited (parts : List Ast) :
      visited (.node .element l parts) = .node .element l parts :: parts.flatMap visited := by
    simp [visited_node, Kind.isSwept]
  have hattributes := (hwell.root.1 rfl).hasAttributes
  have hbare := (Ast.bare_node.mp hwell.bare).2
  unfold sweepTree
  rcases hconvert : convertElement p parts with ⟨changed, _ | b⟩
  · have hn (b : Breach) : ¬Offends p (.node .element l parts) b := by
      rw [offends_element_iff, hconvert]
      simp
    refine sweeps_node (hvisited parts) hwell.bare hn (sweeps_count (fun _ => rfl)
      (sweeps_map (hparts.mono fun parts' nodes' hleaves => ⟨?_, ?_, rfl⟩)))
    · rw [hvisited, additive_visited.convertElement p
        (hasAttributes_of_kinds hattributes hleaves.kinds) hleaves.bare, hleaves.visited]
    · exact Ast.bare_of_not_isLeaf rfl (bare_convertElement p hleaves.bare)
  · have hn : Offends p (.node .element l parts) b := by rw [offends_element_iff, hconvert]
    have hchanged : (convertElement p parts).1 = changed := by rw [hconvert]
    refine sweeps_stop (hvisited parts) hwell.bare hn ⟨?_, ?_, rfl⟩
    · rw [hvisited, ← hchanged, additive_visited.convertElement p hattributes hbare]
    · exact Ast.bare_of_not_isLeaf rfl (hchanged ▸ bare_convertElement p hbare)

section Declarator

variable {d : Bool} {pattern type value : Ast}

theorem visited_declarator (pattern type value : Ast) :
    visited (.node (.declarator d) l [pattern, type, value]) =
      .node (.declarator d) l [pattern, type, value] ::
        (visited pattern ++ (visited type ++ visited value)) := by
  simp [visited_node, Kind.isSwept]

theorem leaves_declarator {pattern' type' value' : Ast} {nodes₀ nodes₁ nodes₂ : List Ast}
    (hpattern : visited pattern' = nodes₀) (hbare : pattern'.Bare)
    (htype : Leaves type type' nodes₁)
    (hvalue : Leaves value value' nodes₂) :
    Leaves (.node (.declarator d) l [pattern, type, value])
      (.node (.declarator d) l [pattern', type', value'])
      (.node (.declarator d) l [pattern', type', value'] :: (nodes₀ ++ (nodes₁ ++ nodes₂))) := by
  refine ⟨?_, Ast.bare_of_not_isLeaf rfl (by simp [hbare, htype.bare, hvalue.bare]), rfl⟩
  rw [visited_declarator, hpattern, htype.visited, hvalue.visited]

theorem sweeps_declarator
    (hwell : Ast.WellFormed (.node (.declarator d) l [pattern, type, value]))
    (hpattern : Sweeps p (visited pattern) (sweepTree p { w with callee := none } pattern)
      (Leaves pattern))
    (htype : Sweeps p (visited type) (sweepTree p { w with callee := none } type) (Leaves type))
    (hvalue : ∀ c, c = none ∨ callsVariable (p.names .navigationHook) value = true →
      Sweeps p (visited value) (sweepTree p { w with callee := c } value) (Leaves value)) :
    Sweeps p (visited (.node (.declarator d) l [pattern, type, value]))
      (sweepTree p w (.node (.declarator d) l [pattern, type, value]))
      (Leaves (.node (.declarator d) l [pattern, type, value])) := by
  unfold sweepTree
  by_cases hhook : callsVariable (p.names .navigationHook) value = true
  · rw [if_pos hhook]
    split
    · next name bl bp =>
      have hn (b : Breach) :
          ¬Offends p (.node (.declarator d) l [.node (.binding name) bl bp, type, value]) b := by
        rw [offends_declarator_iff]
        exact fun h => h.2.1 name rfl
      -- There is nothing to meet in a name, before and after.
      have hbinding : Ast.Bare (.node (.binding name) bl bp) :=
        (Ast.bare_node.mp hwell.bare).2 _ List.mem_cons_self
      have hrouter : Ast.Bare (.node (.binding (p.names .routerBinding)) bl bp) := by
        obtain ⟨hleaf, hbp⟩ := Ast.bare_node.mp hbinding
        exact Ast.bare_node.mpr ⟨hleaf, hbp⟩
      have hnone := additive_visited.eq_nil (isInert_leaf rfl rfl hbinding)
      have hnone' := additive_visited.eq_nil (isInert_leaf rfl rfl hrouter)
      refine sweeps_node (visited_declarator _ _ _) hwell.bare hn (sweeps_count (fun _ => rfl) ?_)
      rw [hnone, List.nil_append]
      refine sweeps_bind htype fun type' nodes₁ htype =>
        sweeps_map ((hvalue _ (.inr hhook)).mono fun value' nodes₂ hvalue =>
          leaves_declarator hnone' hrouter htype hvalue)
    · next hpattern =>
      have hn : Offends p (.node (.declarator d) l [pattern, type, value])
          (.destructuredHook (p.names .navigationHook)) := by
        refine .hook hhook fun name hkind => ?_
        obtain ⟨k, bl, bp⟩ := pattern
        obtain rfl : k = _ := hkind
        exact hpattern _ _ _ rfl
      exact sweeps_stop (visited_declarator _ _ _) hwell.bare hn
        ⟨visited_declarator _ _ _, hwell.bare, rfl⟩
  · have hn (b : Breach) : ¬Offends p (.node (.declarator d) l [pattern, type, value]) b := by
      rw [offends_declarator_iff]
      exact fun h => hhook h.1
    rw [if_neg hhook]
    refine sweeps_node (visited_declarator _ _ _) hwell.bare hn ?_
    exact sweeps_bind hpattern fun pattern' nodes₀ hpattern =>
      sweeps_bind htype fun type' nodes₁ htype =>
        sweeps_map ((hvalue none (.inl rfl)).mono fun value' nodes₂ hvalue =>
          leaves_declarator hpattern.visited hpattern.bare htype hvalue)

end Declarator

section Call

variable {o q : Bool} {c : List Comment} {callee : Ast} {rest : List Ast}

theorem visited_call (callee : Ast) (rest : List Ast) :
    visited (.node (.call o q c) l (callee :: rest)) =
      .node (.call o q c) l (callee :: rest) :: (visited callee ++ rest.flatMap visited) := by
  simp [visited_node, Kind.isSwept]

theorem leaves_call {callee' : Ast} {rest' nodes₀ nodes₁ : List Ast}
    (hcallee : visited callee' = nodes₀) (hbare : callee'.Bare)
    (hrest : LeavesAll rest rest' nodes₁) :
    Leaves (.node (.call o q c) l (callee :: rest)) (.node (.call o q c) l (callee' :: rest'))
      (.node (.call o q c) l (callee' :: rest') :: (nodes₀ ++ nodes₁)) := by
  refine ⟨?_, Ast.bare_of_not_isLeaf rfl (List.forall_mem_cons.mpr ⟨hbare, hrest.bare⟩), rfl⟩
  rw [visited_call, hcallee, hrest.visited]

/-- A callee that is replaced is not met, and there is nothing to meet in it or in the new one. -/
theorem sweeps_replaced {m : StateM CombinedState (List Ast)} {callee' : Ast}
    (hrest : Sweeps p (rest.flatMap visited) m (LeavesAll rest)) (hcallee : IsInert callee)
    (hcallee' : IsInert callee') (hbare' : callee'.Bare) :
    Sweeps p (visited callee ++ rest.flatMap visited)
      (do return .node (.call o q c) l (callee' :: (← m)))
      fun t' inner' => Leaves (.node (.call o q c) l (callee :: rest)) t' (t' :: inner') := by
  rw [additive_visited.eq_nil hcallee, List.nil_append]
  exact sweeps_map (hrest.mono fun rest' nodes' hrest =>
    leaves_call (additive_visited.eq_nil hcallee') hbare' hrest)

theorem sweeps_call (hwell : Ast.WellFormed (.node (.call o q c) l (callee :: rest)))
    (hw : w.callee = none ∨
      callsVariable (p.names .navigationHook) (.node (.call o q c) l (callee :: rest)) = true)
    (hcallee : Sweeps p (visited callee) (sweepTree p { w with callee := none } callee)
      (Leaves callee))
    (hrest : Sweeps p (rest.flatMap visited) (sweepTrees p { w with callee := none } rest)
      (LeavesAll rest)) :
    Sweeps p (visited (.node (.call o q c) l (callee :: rest)))
      (sweepTree p w (.node (.call o q c) l (callee :: rest)))
      (Leaves (.node (.call o q c) l (callee :: rest))) := by
  have hwellCallee := (Ast.wellFormed_node.mp hwell).2 callee List.mem_cons_self
  have hroute : IsInert (routeCallee p.names) := isInert_memberOf _ _
  have hbareRoute : (routeCallee p.names).Bare := bare_memberOf _ _
  unfold sweepTree
  refine sweeps_node (visited_call _ _) hwell.bare (fun _ => not_offends_call) ?_
  cases hhook : w.callee with
  | some name =>
    have hinert : IsInert callee :=
      isInert_of_callsVariable hwell (hw.resolve_left (by simp [hhook]))
    have hname := isInert_leaf rfl rfl (bare_leaf (.reference name))
    dsimp only
    cases callRole p w (.leaf (.reference name)) with
    | navigation =>
      exact sweeps_count (fun _ => rfl) (sweeps_replaced hrest hinert hroute hbareRoute)
    | storage _ => exact sweeps_replaced hrest hinert hname (bare_leaf _)
    | other => exact sweeps_replaced hrest hinert hname (bare_leaf _)
  | none =>
    dsimp only
    cases hrole : callRole p w callee with
    | storage secure =>
      have hsecure := callRole_eq_storage_iff.mp hrole
      obtain ⟨hinert, hinert'⟩ := isInert_secureCallee hwellCallee hsecure
      obtain ⟨_, _, _, _, _, -, -, rfl⟩ := secureCallee?_eq_some_iff.mp hsecure
      exact sweeps_count (fun _ => rfl) (sweeps_replaced hrest hinert hinert'
        (Ast.bare_of_not_isLeaf rfl (by simp [bare_leaf])))
    | navigation =>
      have hinert := isInert_of_isNavigation hwellCallee (callRole_eq_navigation_iff.mp hrole).2
      exact sweeps_count (fun _ => rfl) (sweeps_replaced hrest hinert hroute hbareRoute)
    | other =>
      exact sweeps_bind hcallee fun callee' nodes₀ hcallee =>
        sweeps_map (hrest.mono fun rest' nodes₁ hrest =>
          leaves_call hcallee.visited hcallee.bare hrest)

end Call

theorem sweeps_other {k : Kind} {parts : List Ast} (hwell : Ast.WellFormed (.node k l parts))
    (h : isTouched k parts = false)
    (hparts : Sweeps p (parts.flatMap visited)
      (sweepTrees p (w.inside (p.names .navigationHook) (.node k l parts)) parts)
      (LeavesAll parts)) :
    Sweeps p (visited (.node k l parts)) (sweepTree p w (.node k l parts))
      (Leaves (.node k l parts)) := by
  intro s
  cases hb : s.breach with
  | some b =>
    rw [run_sweepTree_of_breach p w _ (by simp [hb]), hb]
    exact ⟨_, .stopped b _, rfl, hwell.bare, rfl⟩
  | none =>
    have hn (b : Breach) : ¬Offends p (.node k l parts) b := not_offends_of_not_touched h
    have hswept : Sweeps p (parts.flatMap visited) (sweepTree p w (.node k l parts))
        fun t' nodes' => ∃ parts', t' = .node k l parts' ∧ LeavesAll parts parts' nodes' := by
      rw [sweepTree_other p w l h]
      exact sweeps_map (hparts.mono fun parts' nodes' hleaves => ⟨parts', rfl, hleaves⟩)
    obtain ⟨nodes', hadvance, parts', ht', hleaves⟩ := hswept s
    have hbare : Ast.Bare (.node k l parts') := by
      refine Ast.bare_node.mpr ⟨fun hk => ?_, hleaves.bare⟩
      have hkinds := hleaves.kinds
      rw [(Ast.bare_node.mp hwell.bare).1 hk] at hkinds
      simpa using hkinds
    rw [hb] at hadvance
    rw [ht', visited_node]
    cases hk : k.isSwept with
    | false => exact ⟨nodes', hadvance, by simp [visited_node, hk, hleaves.visited], hbare, rfl⟩
    | true =>
      exact ⟨_, hadvance.cons (.node k l parts') hn, by simp [visited_node, hk, hleaves.visited],
        hbare, rfl⟩

end Steps

/-- A sweep meets the elements, declarators and calls of a tree in order. -/
theorem sweeps_sweepTree (p : Profile) {w : Surroundings} {t : Ast} (hwell : t.WellFormed)
    (hw : w.callee = none ∨ callsVariable (p.names .navigationHook) t = true) :
    Sweeps p (visited t) (sweepTree p w t) (Leaves t) := by
  induction t using Ast.induct generalizing w with
  | node k l parts ih =>
    have hparts := (Ast.wellFormed_node.mp hwell).2
    have hpart (t : Ast) (ht : t ∈ parts) (w : Surroundings) (hw : w.callee = none) :=
      ih t ht (hparts t ht) (w := w) (.inl hw)
    have hall (w : Surroundings) (hw : w.callee = none) :=
      sweeps_sweepTrees fun t ht => hpart t ht w hw
    induction k, parts using touched_cases with
    | element parts => exact sweeps_element hwell (hall _ rfl)
    | declarator d pattern type value =>
      exact sweeps_declarator hwell (hpart pattern (by simp) _ rfl) (hpart type (by simp) _ rfl)
        fun c hc => ih value (by simp) (hparts value (by simp)) hc
    | call o q c callee rest =>
      exact sweeps_call hwell hw (hpart callee (by simp) _ rfl)
        (sweeps_sweepTrees fun t ht => hpart t (List.mem_cons_of_mem _ ht) _ rfl)
    | other k parts h => exact sweeps_other hwell h (hall _ rfl)

/-! ## Programs -/

/-- The sweep stopped at the first import that brings an image without a binding, before it met any
element, declarator or call. -/
def StopsAtImport (p : Profile) (t : Ast) (b : Breach) (t' : Ast) : Prop :=
  ∃ before d after, (statements t).filterMap importOf? = before ++ d :: after ∧
    (∀ d' ∈ before, ¬IsUnbound p d') ∧ IsUnbound p d ∧ b = .unboundAsset d.source.text ∧
    visited t' = visited t

/-- No import is refused. The sweep stopped at the first node that offends, and the elements,
declarators and calls that come after it are those of the source. -/
def StopsAtNode (p : Profile) (t : Ast) (b : Breach) (t' : Ast) : Prop :=
  (∀ d ∈ (statements t).filterMap importOf?, ¬IsUnbound p d) ∧ ∃ before n after before' n',
    visited t = before ++ n :: after ∧ (∀ m ∈ before, ∀ b', ¬Offends p m b') ∧ Offends p n b ∧
    visited t' = before' ++ n' :: after ∧ before'.length = before.length

section Programs

variable {p : Profile} {t : Ast}

theorem isSwept_of_offends {n : Ast} {b : Breach} (h : Offends p n b) : n.kind.isSwept = true := by
  cases h <;> rfl

theorem not_isUnbound_of_refusal? {d : ImportDecl} (h : refusal? p d = none) : ¬IsUnbound p d := by
  intro hunbound
  have hsome := refusal?_eq_some_iff.mpr ⟨hunbound, rfl⟩
  rw [h] at hsome
  cases hsome

/-- A sweep stops at the first import that is refused. -/
theorem stopsAtImport_of_importSteps {b : Breach} (hprogram : t.isProgram = true)
    (h : (importSteps p (statements t)).2 = some b) :
    StopsAtImport p t b
      (withStatements t ((importSteps p (statements t)).1.map (·.statement))) := by
  rw [breach_importSteps, List.findSome?_eq_some_iff] at h
  obtain ⟨before, d, after, hsplit, hrefusal, hbefore⟩ := h
  obtain ⟨hunbound, rfl⟩ := refusal?_eq_some_iff.mp hrefusal
  refine ⟨before, d, after, hsplit, fun d' hd' => not_isUnbound_of_refusal? (hbefore d' hd'),
    hunbound, rfl, ?_⟩
  obtain ⟨hashbang, directives, c, l, parts, rfl⟩ := Ast.isProgram_iff.mp hprogram
  rw [withStatements_program, additive_visited _ _ _ rfl, additive_visited _ _ _ rfl]
  refine flatMap_importSteps p (fun d d' l ps => ?_) parts
  rw [additive_visited _ _ _ rfl, additive_visited _ _ _ rfl]

/-- A sweep stops at an import, stops at a node, or there is nothing to stop at. -/
theorem combinedSweep_cases (p : Profile) (aliases : List String) (hwell : t.WellFormed)
    (hprogram : t.isProgram = true) :
    (∃ b t', (combinedSweep p aliases).apply t = (.error (.structural b), t') ∧
      (StopsAtImport p t b t' ∨ StopsAtNode p t b t')) ∨
    (∃ tally t', (combinedSweep p aliases).apply t = (.ok tally, t')) ∧
      (∀ d ∈ (statements t).filterMap importOf?, ¬IsUnbound p d) ∧
      ∀ n ∈ t.nodes, ∀ b, ¬Offends p n b := by
  cases himports : (importSteps p (statements t)).2 with
  | some b =>
    have happly : (combinedSweep p aliases).apply t = (.error (.structural b),
        withStatements t ((importSteps p (statements t)).1.map (·.statement))) := by
      unfold combinedSweep
      rw [Pass.apply_bind, convertImports_error himports]
    exact .inl ⟨b, _, happly, .inl (stopsAtImport_of_importSteps hprogram himports)⟩
  | none =>
    have hbound : ∀ d ∈ (statements t).filterMap importOf?, ¬IsUnbound p d := by
      have hnone := himports
      rw [breach_importSteps, List.findSome?_eq_none_iff] at hnone
      exact fun d hd => not_isUnbound_of_refusal? (hnone d hd)
    obtain ⟨nodes', hadvance, hleaves⟩ := sweeps_sweepTree p (w := ⟨aliases, false, none⟩)
      (wellFormed_withImportsConverted p hwell) (.inl rfl) {}
    rw [additive_visited.onFrames.withImportsConverted p hwell hprogram,
      ← hleaves.visited] at hadvance
    rcases hrun :
      (sweepTree p ⟨aliases, false, none⟩ (withImportsConverted p t)).run {} with ⟨u, state⟩
    obtain ⟨removed, happly⟩ :=
      combinedSweep_apply ((importSteps_spec p (statements t)).1.mp himports) hrun
    rw [hrun] at hadvance
    generalize hbreach : state.breach = breach at happly hadvance
    cases hadvance with
    | passed hnodes =>
      refine .inr ⟨⟨_, _, happly⟩, hbound, fun n hn b hoffends => ?_⟩
      exact hnodes n (List.mem_filter.mpr ⟨hn, isSwept_of_offends hoffends⟩) b hoffends
    | cut hcut =>
      obtain ⟨before, n, after, before', n', hsplit, hsplit', hlength, hbefore, hn⟩ :=
        hcut.exists_first
      exact .inl ⟨_, u, happly, .inr ⟨hbound, before, n, after, before', n', hsplit, hbefore, hn,
        hsplit', hlength⟩⟩

end Programs

/-- A combined sweep fails exactly when the source has an import of an image without a binding, or
somewhere in it a node that offends. The first such import decides on the reason, and else the first
such node, and what comes after it is left as it is in the source. -/
theorem combinedSweep_refused_iff {p : Profile} {source : List Char} {t : Ast}
    (hparse : parseProgram source = some t) (aliases : List String) :
    ((∃ b, ((combinedSweep p aliases).apply t).1 = .error (.structural b)) ↔
      (∃ d ∈ (statements t).filterMap importOf?, IsUnbound p d) ∨
        ∃ n ∈ t.nodes, ∃ b, Offends p n b) ∧
    ∀ e t', (combinedSweep p aliases).apply t = (.error e, t') →
      ∃ b, e = .structural b ∧ (StopsAtImport p t b t' ∨ StopsAtNode p t b t') := by
  obtain ⟨hwell, hprogram⟩ := parseProgram_wellFormed hparse
  rcases combinedSweep_cases p aliases hwell hprogram with
    ⟨b, t', happly, hstops⟩ | ⟨⟨tally, t', happly⟩, himports, hnodes⟩
  · have hsource : (∃ d ∈ (statements t).filterMap importOf?, IsUnbound p d) ∨
        ∃ n ∈ t.nodes, ∃ b, Offends p n b := by
      rcases hstops with ⟨before, d, after, hsplit, -, hd, -⟩ |
        ⟨-, before, n, after, _, _, hsplit, -, hn, -⟩
      · exact .inl ⟨d, by simp [hsplit], hd⟩
      · have hvisited : n ∈ visited t := by simp [hsplit]
        exact .inr ⟨n, (List.mem_filter.mp hvisited).1, b, hn⟩
    refine ⟨iff_of_true ⟨b, by rw [happly]⟩ hsource, fun e t'' h => ?_⟩
    rw [happly] at h
    cases h
    exact ⟨b, rfl, hstops⟩
  · constructor
    · refine iff_of_false ?_ ?_
      · rintro ⟨b, h⟩
        rw [happly] at h
        cases h
      · rintro (⟨d, hd, hunbound⟩ | ⟨n, hn, b, hoffends⟩)
        · exact himports d hd hunbound
        · exact hnodes n hn b hoffends
    · intro e t'' h
      rw [happly] at h
      cases h

/-- A program with an element that is refused inside of one that is converted, and a declarator that
would be refused after it. -/
def refusedProgram : List Char :=
  "const page = <div className='box' onClick=\x7b() => go(1)\x7d>".toList ++
  "<span className=\x7bname\x7d><p className='x' /></span></div>;".toList ++
  "const [push] = useNavigate();".toList

theorem combinedSweep_refused_refusedProgram : ∃ t t', parseProgram refusedProgram = some t ∧
    (combinedSweep .default ["go"]).apply t =
      (.error (.structural (.dynamicClass "Text")), t') ∧
    StopsAtNode .default t (.dynamicClass "Text") t' := by
  have hrun : ∃ t ∈ parseProgram refusedProgram,
      ((combinedSweep .default ["go"]).apply t).1 = .error (.structural (.dynamicClass "Text")) ∧
      (statements t).filterMap importOf? = [] := by
    decide +kernel
  obtain ⟨t, hparse, hfails, himports⟩ := hrun
  have happly : (combinedSweep .default ["go"]).apply t =
      (.error (.structural (.dynamicClass "Text")), ((combinedSweep .default ["go"]).apply t).2) :=
    Prod.ext hfails rfl
  obtain ⟨b, hb, hstops⟩ := (combinedSweep_refused_iff hparse ["go"]).2 _ _ happly
  cases hb
  rcases hstops with ⟨before, d, after, hsplit, -⟩ | hnode
  · simp [himports] at hsplit
  · exact ⟨t, _, hparse, happly, hnode⟩

end Nativize.Conversion
