import Mathlib.Algebra.Order.BigOperators.Group.List
import Nativize.Proofs.Sweep.Navigation
import Nativize.Proofs.Sweep.Settled

/-!
# Names that are bound once

A name that a program binds once, to the result of the navigation hook, stands for that result
wherever it is read. A sweep renames the binding, and with it the calls of the name and nothing
else. Main statement: no call of the name is left after a sweep, and of the references to it those
are left that were not called.
-/

namespace Nativize.Conversion

open Syntax

/-! ## Bindings -/

/-- The names that a node itself binds. -/
def nodeBinds : Ast → List String
  | .node (.binding name) _ _ => [name]
  | .node (.importDecl d) _ _ => (d.specifiers.getD []).map (·.localName)
  | .node (.importEquals name _) _ _ => [name]
  | .node (.mappedType key _ _) _ _ => [key]
  | _ => []

/-- The names that are bound in a tree, once for each binding. -/
def boundNames (t : Ast) : List String := t.nodes.flatMap nodeBinds

/-- The names that are bound to the result of a hook, once for each such binding. -/
def hookNames (hook : String) (t : Ast) : List String := t.nodes.filterMap (hookAlias? hook)

/-- How often a name is bound in a tree, and how often of that to the result of a hook. -/
def timesBound (name : String) (t : Ast) : Nat := (boundNames t).count name

def timesHook (hook name : String) (t : Ast) : Nat := (hookNames hook t).count name

section Counts

variable {hook name : String}

theorem timesBound_node (k : Kind) (l : List Comment) (parts : List Ast) :
    timesBound name (.node k l parts) =
      (nodeBinds (.node k l parts)).count name + (parts.map (timesBound name)).sum := by
  simp only [timesBound, boundNames, Ast.nodes_node, List.flatMap_cons, List.count_append,
    List.flatMap_assoc, List.count_flatMap]
  rfl

theorem timesHook_node (k : Kind) (l : List Comment) (parts : List Ast) :
    timesHook hook name (.node k l parts) =
      (if hookAlias? hook (.node k l parts) = some name then 1 else 0) +
        (parts.map (timesHook hook name)).sum := by
  have hparts : ((parts.flatMap Ast.nodes).filterMap (hookAlias? hook)).count name =
      (parts.map (timesHook hook name)).sum := by
    rw [List.filterMap_flatMap, List.count_flatMap]
    rfl
  rw [timesHook, hookNames, Ast.nodes_node, ← hparts]
  cases halias : hookAlias? hook (.node k l parts) with
  | none => simp [List.filterMap_cons_none halias]
  | some bound =>
    rw [List.filterMap_cons_some halias, List.count_cons]
    simp [Nat.add_comm]

theorem hookAlias?_eq_some_iff {t : Ast} : hookAlias? hook t = some name ↔
    ∃ d l bl bp type value, t = .node (.declarator d) l [.node (.binding name) bl bp, type, value] ∧
      callsVariable hook value = true := by
  constructor
  · intro h
    unfold hookAlias? at h
    split at h
    · split at h
      · next hcalls =>
        cases h
        exact ⟨_, _, _, _, _, _, rfl, hcalls⟩
      · cases h
    · cases h
  · rintro ⟨d, l, bl, bp, type, value, rfl, hcalls⟩
    simp [hookAlias?, hcalls]

theorem hookAlias?_eq_none {d : Bool} {l : List Comment} {pattern type value : Ast}
    (h : callsVariable hook value = false) :
    hookAlias? hook (.node (.declarator d) l [pattern, type, value]) = none := by
  unfold hookAlias?
  split
  · next heq =>
    cases heq
    simp [h]
  · rfl

/-- A name is bound at least as often as to the result of a hook, and in a pattern that binds it
more often. -/
theorem timesHook_le (hook name : String) (t : Ast) :
    timesHook hook name t ≤ timesBound name t ∧
      (Binds name t → timesHook hook name t < timesBound name t) := by
  induction t using Ast.induct with
  | node k l parts ih =>
    have hle := List.sum_le_sum fun t ht => (ih t ht).1
    have hlt (t : Ast) (ht : t ∈ parts) (hbinds : Binds name t) :
        (parts.map (timesHook hook name)).sum < (parts.map (timesBound name)).sum :=
      List.sum_lt_sum _ _ (fun t ht => (ih t ht).1) ⟨t, ht, (ih t ht).2 hbinds⟩
    rw [timesBound_node, timesHook_node]
    split
    · next halias =>
      -- The pattern of the declarator makes up for the declarator.
      obtain ⟨d, _, bl, bp, type, value, heq, -⟩ := hookAlias?_eq_some_iff.mp halias
      cases heq
      have hpattern := hlt (.node (.binding name) bl bp) (by simp) (.binding bl bp)
      exact ⟨by omega, by rintro ⟨⟩⟩
    · refine ⟨by omega, fun hbinds => ?_⟩
      cases hbinds with
      | binding =>
        have hnode : (nodeBinds (.node (.binding name) l parts)).count name = 1 := by
          simp [nodeBinds]
        omega
      | object ht h | array ht h =>
        have hpart := hlt _ ht h
        omega
      | property h | rest h | defaulted h =>
        have hpart := hlt _ (by simp) h
        omega

/-- What is bound too often in a part is bound too often in the node, unless the part is the name
that a hook is bound to. -/
theorem timesHook_lt_of_part {k : Kind} {l : List Comment} {parts : List Ast} {t : Ast}
    (ht : t ∈ parts) (hlt : timesHook hook name t < timesBound name t)
    (hother : hookAlias? hook (.node k l parts) = none ∨ t.kind ≠ .binding name) :
    timesHook hook name (.node k l parts) < timesBound name (.node k l parts) := by
  have hsum := List.sum_lt_sum _ _ (fun t _ => (timesHook_le hook name t).1) ⟨t, ht, hlt⟩
  rw [timesBound_node, timesHook_node]
  split
  · next halias =>
    obtain ⟨d, _, bl, bp, type, value, heq, -⟩ := hookAlias?_eq_some_iff.mp halias
    cases heq
    have hkind : t ≠ .node (.binding name) bl bp := by
      rintro rfl
      rw [halias] at hother
      simp [Ast.kind] at hother
    have hpattern := (timesHook_le hook name (.node (.binding name) bl bp)).2 (.binding bl bp)
    have htype := (timesHook_le hook name type).1
    have hvalue := (timesHook_le hook name value).1
    simp only [List.mem_cons, List.not_mem_nil, or_false] at ht
    simp only [List.map_cons, List.map_nil, List.sum_cons, List.sum_nil]
    rcases ht.resolve_left hkind with rfl | rfl <;> omega
  · omega

theorem IsFunction.timesHook_lt {params : List Ast} {body t : Ast} (h : IsFunction params body t)
    (hlt : (∃ param ∈ params, timesHook hook name param < timesBound name param) ∨
      timesHook hook name body < timesBound name body) :
    timesHook hook name t < timesBound name t := by
  have hparams (pl : List Comment)
      (h : ∃ param ∈ params, timesHook hook name param < timesBound name param) :
      timesHook hook name (.node .params pl params) <
        timesBound name (.node .params pl params) := by
    obtain ⟨param, hmem, hlt⟩ := h
    exact timesHook_lt_of_part hmem hlt (.inl rfl)
  cases h with
  | function facts l pl =>
    rcases hlt with hparam | hbody
    · exact timesHook_lt_of_part (by simp) (hparams pl hparam) (.inl rfl)
    · exact timesHook_lt_of_part (by simp) hbody (.inl rfl)
  | arrow facts l pl =>
    rcases hlt with hparam | hbody
    · exact timesHook_lt_of_part (by simp) (hparams pl hparam) (.inl rfl)
    · exact timesHook_lt_of_part (by simp) hbody (.inl rfl)

/-- A function that uses a name for something else binds it too often. -/
theorem Shadows.timesHook_lt {t : Ast} (h : Shadows hook name t) :
    timesHook hook name t < timesBound name t := by
  cases h with
  | param hfunction hparam hbinds =>
    have hpattern := (timesHook_le hook name _).2 hbinds
    exact hfunction.timesHook_lt
      (.inl ⟨_, hparam, timesHook_lt_of_part (by simp) hpattern (.inl rfl)⟩)
  | @declarator _ body hfunction _ _ _ _ hstatement _ _ _ _ _ hitem hbinds hvalue =>
    have hpattern := (timesHook_le hook name _).2 hbinds
    obtain ⟨k, bl, bp⟩ := body
    refine hfunction.timesHook_lt (.inr (timesHook_lt_of_part hstatement ?_ (.inr nofun)))
    refine timesHook_lt_of_part hitem ?_ (.inl rfl)
    exact timesHook_lt_of_part List.mem_cons_self hpattern (.inl (hookAlias?_eq_none hvalue))

/-- Where a name is bound to the result of a hook only, no function uses it for something else. -/
theorem all_not_shadowed {t : Ast} (hbare : t.Bare)
    (h : timesBound name t ≤ timesHook hook name t) :
    t.All fun n => isShadowedBy hook n name = false := by
  induction t using Ast.induct with
  | node k l parts ih =>
    have hparts := (Ast.bare_node.mp hbare).2
    refine Ast.all_node.mpr ⟨?_, fun t ht => ?_⟩
    · rw [Bool.eq_false_iff]
      intro hshadowed
      have hlt := (isShadowedBy_iff.mp hshadowed).timesHook_lt
      omega
    · by_cases hbinding : t.kind = .binding name
      · obtain ⟨k, bl, bp⟩ := t
        obtain rfl : k = _ := hbinding
        rw [(Ast.bare_node.mp (hparts _ ht)).1 rfl]
        exact Ast.all_node.mpr ⟨isShadowedBy_of_not_function rfl _ _ _ _, by simp⟩
      · refine ih t ht (hparts t ht) (Nat.le_of_not_lt fun hlt => ?_)
        have hnode := timesHook_lt_of_part (k := k) (l := l) ht hlt (.inr hbinding)
        omega

end Counts

/-! ## References -/

def isReferenceTo (name : String) (t : Ast) : Bool := t.kind = .reference name

/-- The references to a variable in a tree, in order. -/
def references (name : String) (t : Ast) : List Ast := t.nodes.filter (isReferenceTo name)

mutual

/-- The references to a variable in a tree that are not called, in order. -/
def looseReferences (name : String) : Ast → List Ast
  | .node (.call ..) _ (.node (.reference _) _ _ :: rest) => looseReferencesIn name rest
  | .node k l parts =>
    [Ast.node k l parts].filter (isReferenceTo name) ++ looseReferencesIn name parts

def looseReferencesIn (name : String) : List Ast → List Ast
  | [] => []
  | t :: rest => looseReferences name t ++ looseReferencesIn name rest

end

/-- The parts of a node without the variable that it calls. -/
def uncalled : Kind → List Ast → List Ast
  | .call .., .node (.reference _) _ _ :: rest => rest
  | _, parts => parts

section References

variable {name : String}

theorem looseReferencesIn_eq (parts : List Ast) :
    looseReferencesIn name parts = parts.flatMap (looseReferences name) := by
  induction parts with
  | nil => rfl
  | cons t rest ih => rw [looseReferencesIn, ih, List.flatMap_cons]

theorem references_node (k : Kind) (l : List Comment) (parts : List Ast) :
    references name (.node k l parts) =
      [Ast.node k l parts].filter (isReferenceTo name) ++ parts.flatMap (references name) :=
  Ast.filter_nodes_node (isReferenceTo name) k l parts

theorem looseReferences_node (k : Kind) (l : List Comment) (parts : List Ast) :
    looseReferences name (.node k l parts) =
      [Ast.node k l parts].filter (isReferenceTo name) ++
        (uncalled k parts).flatMap (looseReferences name) := by
  fun_cases uncalled k parts with
  | case1 => simp [looseReferences, looseReferencesIn_eq, isReferenceTo, Ast.kind]
  | case2 _ _ hother =>
    rw [looseReferences, looseReferencesIn_eq]
    exact fun _ _ _ _ _ _ _ hk hparts => hother _ _ _ _ _ _ _ hk hparts

theorem uncalled_of_kind {o q : Bool} {c : List Comment} {callee : Ast} {called : String}
    (h : callee.kind = .reference called) (rest : List Ast) :
    uncalled (.call o q c) (callee :: rest) = rest := by
  obtain ⟨k, l, parts⟩ := callee
  obtain rfl : k = _ := h
  rfl

theorem uncalled_of_not_reference {k : Kind} {callee : Ast}
    (h : ∀ called, callee.kind ≠ .reference called) (rest : List Ast) :
    uncalled k (callee :: rest) = callee :: rest := by
  unfold uncalled
  split
  · next heq =>
    cases heq
    exact absurd rfl (h _)
  · rfl

theorem uncalled_of_not_touched {k : Kind} {parts : List Ast} (h : isTouched k parts = false) :
    uncalled k parts = parts := by
  unfold uncalled
  split
  · cases h
  · rfl

theorem additiveOn_references (name : String) : AdditiveOn Kind.isFrame (references name) :=
  additiveOn_filter fun n hn => by
    obtain ⟨k, l, parts⟩ := n
    cases k <;> first | rfl | cases hn

/-- There is no reference to the variable in a member of another. -/
theorem references_memberOf {object : String} (h : object ≠ name) (property : String) :
    references name (memberOf object property) = [] := by
  unfold memberOf
  split <;> simp [Ast.of, Ast.leaf, references_node, isReferenceTo, Ast.kind, h]

theorem references_styleReference {names : Names} (h : names .stylesBinding ≠ name)
    (members : List String) : references name (styleReference names members) = [] := by
  unfold styleReference
  split
  · exact references_memberOf h _
  · simp only [Ast.of, references_node, List.flatMap_map]
    simp [isReferenceTo, Ast.kind, references_memberOf h]

/-- A map of the parts makes no difference to whether a node counts. -/
theorem filter_isReferenceTo_map {k : Kind} {l : List Comment} {parts : List Ast}
    (hbare : Ast.Bare (.node k l parts)) (f : Ast → Ast) :
    [Ast.node k l (parts.map f)].filter (isReferenceTo name) =
      [Ast.node k l parts].filter (isReferenceTo name) := by
  by_cases hk : k = .reference name
  · subst hk
    rw [(Ast.bare_node.mp hbare).1 rfl, List.map_nil]
  · simp [isReferenceTo, Ast.kind, hk]

/-- The names that a sweep has a use of its own for. -/
def sweepNames (names : Names) : List String :=
  [names .routerBinding, names .stylesBinding, names .secureStoreNamespace, names .webStorage]

theorem ne_sweepNames {names : Names} (h : name ∉ sweepNames names) :
    names .routerBinding ≠ name ∧ names .stylesBinding ≠ name ∧
      names .secureStoreNamespace ≠ name ∧ names .webStorage ≠ name := by
  grind [sweepNames]

section Sweep

variable {p : Profile} {w : Surroundings}

/-- A call of a variable is not one of an alias after a sweep. -/
theorem references_convertedCallee (hname : name ∉ sweepNames p.names) (halias : name ∈ w.aliases)
    {callee : Ast} (hwell : callee.WellFormed) {called : String}
    (hkind : callee.kind = .reference called) :
    references name (convertedCallee p w callee (rewrite p { w with callee := none } callee)) =
      [] := by
  have hroute : references name (routeCallee p.names) = [] :=
    references_memberOf (ne_sweepNames hname).1 _
  have hother {n : String} {l : List Comment} (h : n ∉ w.aliases) :
      references name (.node (.reference n) l []) = [] := by
    have hne : n ≠ name := fun heq => h (heq ▸ halias)
    simp [references_node, isReferenceTo, Ast.kind, hne]
  obtain ⟨k, l, parts⟩ := callee
  obtain rfl : k = _ := hkind
  obtain rfl : parts = [] := hwell.root.2 rfl
  unfold convertedCallee
  cases w.callee with
  | some replaced =>
    dsimp only
    split
    · exact hroute
    · next hrole => exact hother (notMem_aliases_of_callRole hrole rfl).1
  | none =>
    dsimp only
    cases hrole : callRole p w (.node (.reference called) l []) with
    | storage secure => cases callRole_eq_storage_iff.mp hrole
    | navigation => exact hroute
    | other =>
      have hfree := (notMem_aliases_of_callRole (by rw [hrole]; simp) rfl).1
      dsimp only
      rw [(gentle_rewrite p rfl).eq_self (isInert_leaf rfl rfl hwell.bare)]
      exact hother hfree

/-- Any other callee is swept, or there are no references to the name before and after. -/
theorem convertedCallee_of_not_reference (hname : name ∉ sweepNames p.names) {callee : Ast}
    (hwell : callee.WellFormed) (hkind : ∀ called, callee.kind ≠ .reference called)
    (hw : w.callee = none) (swept : Ast) :
    convertedCallee p w callee swept = swept ∨
      (looseReferences name callee = [] ∧
        references name (convertedCallee p w callee swept) = []) := by
  obtain ⟨-, -, hsecure, hstorage⟩ := ne_sweepNames hname
  simp only [convertedCallee, hw]
  cases hrole : callRole p w callee with
  | storage secure =>
    obtain ⟨method, optional, l, ol, parts, rfl, -, rfl⟩ :=
      secureCallee?_eq_some_iff.mp (callRole_eq_storage_iff.mp hrole)
    refine .inr ⟨?_, ?_⟩
    · obtain rfl : parts = [] := ((Ast.wellFormed_node.mp hwell).2 _ List.mem_cons_self).root.2 rfl
      simp [looseReferences_node, uncalled, isReferenceTo, Ast.kind, hstorage]
    · simp [references_node, Ast.leaf, isReferenceTo, Ast.kind, hsecure]
  | navigation =>
    have hnavigation := (callRole_eq_navigation_iff.mp hrole).2
    unfold isNavigation at hnavigation
    split at hnavigation
    · exact absurd rfl (hkind _)
    · cases hnavigation
  | other => exact .inl rfl

/-- A sweep leaves of the references to an alias those that are not called, where no function uses
the name for something else. -/
theorem references_rewrite {t : Ast} (hname : name ∉ sweepNames p.names) (halias : name ∈ w.aliases)
    (hwell : t.WellFormed)
    (hfree : t.All fun n => isShadowedBy (p.names .navigationHook) n name = false)
    (hw : w.callee = none ∨ callsVariable (p.names .navigationHook) t = true) :
    references name (rewrite p w t) = looseReferences name t := by
  induction t using Ast.induct generalizing w with
  | node k l parts ih =>
    obtain ⟨hshaped, hparts⟩ := Ast.wellFormed_node.mp hwell
    obtain ⟨hroot, hfreeParts⟩ := Ast.all_node.mp hfree
    have hpart (t : Ast) (ht : t ∈ parts) (w : Surroundings) (halias : name ∈ w.aliases)
        (hw : w.callee = none) : references name (rewrite p w t) = looseReferences name t :=
      ih t ht halias (hparts t ht) (hfreeParts t ht) (.inl hw)
    have hall (w : Surroundings) (halias : name ∈ w.aliases) (hw : w.callee = none) :
        parts.flatMap (fun t => references name (rewrite p w t)) =
          parts.flatMap (looseReferences name) :=
      List.flatMap_congr fun t ht => hpart t ht w halias hw
    induction k, parts using touched_cases with
    | element parts =>
      have hgentle := gentle_rewrite p (w := { w with inMarkup := true, callee := none }) rfl
      have hstyle (members : List String) : references name (rewrite p
          { w with inMarkup := true, callee := none } (styleReference p.names members)) = [] := by
        rw [hgentle.eq_self (isInert_styleReference _ _)]
        exact references_styleReference (ne_sweepNames hname).2.1 members
      have hframe := (additiveOn_references name).comp hgentle fun _ hk => isInert_of_isFrame hk
      rw [rewrite_elementParts p w l (hshaped.1 rfl), references_node, looseReferences_node,
        List.flatMap_map, hframe.convertElement hstyle (hshaped.1 rfl).hasAttributes
          fun t ht => (hparts t ht).bare,
          hall { w with inMarkup := true, callee := none } halias rfl]
      rfl
    | declarator d pattern type value =>
      have hpattern := hpart pattern (by simp) { w with callee := none } halias rfl
      have htype := hpart type (by simp) { w with callee := none } halias rfl
      have hvalue := hpart value (by simp) { w with callee := none } halias rfl
      rw [rewrite, looseReferences_node]
      split
      · next hhook =>
        have hvalue :=
          ih value (by simp) (w := { w with callee := some (p.names .routerHook) }) halias
          (hparts value (by simp)) (hfreeParts value (by simp)) (.inr hhook)
        have hbound : references name (routerPattern p pattern
            (rewrite p { w with callee := none } pattern)) = looseReferences name pattern := by
          unfold routerPattern
          split
          · obtain rfl := (hparts _ List.mem_cons_self).root.2 rfl
            simp [references_node, looseReferences_node, uncalled, isReferenceTo, Ast.kind]
          · exact hpattern
        simp [references_node, isReferenceTo, Ast.kind, uncalled, hbound, htype, hvalue]
      · simp [references_node, isReferenceTo, Ast.kind, uncalled, hpattern, htype, hvalue]
    | call o q c callee rest =>
      have hcallee := hpart callee (by simp) { w with callee := none } halias rfl
      have hrest : rest.flatMap (fun t => references name (rewrite p { w with callee := none } t)) =
          rest.flatMap (looseReferences name) :=
        List.flatMap_congr fun t ht => hpart t (List.mem_cons_of_mem _ ht) _ halias rfl
      rw [rewrite_call, references_node, looseReferences_node, List.flatMap_cons,
        List.flatMap_map, hrest]
      by_cases hkind : ∃ called, callee.kind = .reference called
      · obtain ⟨called, hkind⟩ := hkind
        rw [references_convertedCallee hname halias (hparts callee (by simp)) hkind,
          uncalled_of_kind hkind]
        rfl
      · have hother : ∀ called, callee.kind ≠ .reference called :=
          fun called h => hkind ⟨called, h⟩
        have hplain : w.callee = none := hw.resolve_right fun hcalls => by
          obtain ⟨_, _, _, _, _, _, hcall, hreference⟩ := callsVariable_iff.mp hcalls
          cases hcall
          exact hother _ hreference
        rw [uncalled_of_not_reference hother, List.flatMap_cons]
        rcases convertedCallee_of_not_reference hname (hparts callee (by simp)) hother hplain
            (rewrite p { w with callee := none } callee) with hswept | ⟨hbefore, hafter⟩
        · rw [hswept, hcallee]
          rfl
        · rw [hbefore, hafter]
          rfl
    | other k parts h =>
      have hinside : name ∈ (w.inside (p.names .navigationHook) (.node k l parts)).aliases :=
        List.mem_filter.mpr ⟨halias, by simp [hroot]⟩
      rw [rewrite_other p w l h, references_node, looseReferences_node, uncalled_of_not_touched h,
        filter_isReferenceTo_map hwell.bare, List.flatMap_map, hall _ hinside rfl]

/-- No call of an alias is left after a sweep, where no function uses the name for something else.
-/
theorem neverCalls_of_mem_aliases {t : Ast} (halias : name ∈ w.aliases) (hwell : t.WellFormed)
    (hfree : t.All fun n => isShadowedBy (p.names .navigationHook) n name = false)
    (hw : w.callee = none) : NeverCalls name (rewrite p w t) := by
  refine all_rewrite (fun w => name ∈ w.aliases)
    (fun k l parts h => callsVariable_of_not_touched _ h l) (fun w h => h) (fun w c h _ => h)
    (fun w n h hn => List.mem_filter.mpr ⟨h, by simp [hn]⟩) ?_ halias hwell hfree (.inl hw)
  intro w k l parts _ halias _ _ _
  rw [Bool.not_eq_true', Bool.eq_false_iff]
  exact fun h => (callsVariable_rewrite h).1 halias

end Sweep

end References

/-! ## Programs -/

/-- A name that a program binds once, to the result of the navigation hook, is not called after a
sweep, and the references to it that are left are those that were not called before. -/
theorem references_left_by_sweep {p : Profile} {source : List Char} {t t' : Ast} {tally : Tally}
    (hparse : parseProgram source = some t)
    (h : (combinedSweep p (navigationAliases p.names t)).apply t = (.ok tally, t'))
    {name : String} (hbound : (boundNames t).count name = 1)
    (hhook : name ∈ hookNames (p.names .navigationHook) t) :
    NeverCalls name t' ∧
      (name ∉ sweepNames p.names → references name t' = looseReferences name t) := by
  obtain ⟨hwell, hprogram⟩ := parseProgram_wellFormed hparse
  have halias : name ∈ navigationAliases p.names t := List.mem_eraseDups.mpr hhook
  have hfree : t.All fun n => isShadowedBy (p.names .navigationHook) n name = false := by
    refine all_not_shadowed hwell.bare ?_
    have hpos : 0 < timesHook (p.names .navigationHook) name t := List.count_pos_iff.mpr hhook
    unfold timesBound
    omega
  constructor
  · have hnever :=
      neverCalls_of_mem_aliases (w := ⟨navigationAliases p.names t, false, none⟩) halias
      hwell hfree rfl
    intro n hn
    rw [Bool.not_eq_true', Bool.eq_false_iff]
    intro hcalls
    have hcall : n ∈ calls t' := by
      obtain ⟨_, _, _, _, _, _, rfl, -⟩ := callsVariable_iff.mp hcalls
      exact List.mem_filter.mpr ⟨hn, rfl⟩
    rw [calls_combinedSweep hwell hprogram h] at hcall
    have hnot := hnever n (List.mem_filter.mp hcall).1
    simp [hcalls] at hnot
  · intro hname
    obtain ⟨-, -, rfl⟩ := combinedSweep_ok hwell h
    have hframe := (additiveOn_references name).comp
      (gentle_rewrite p (w := ⟨navigationAliases p.names t, false, none⟩) rfl)
      fun _ hk => isInert_of_isFrame hk
    exact (hframe.withImportsConverted p hwell hprogram).trans
      (references_rewrite hname halias hwell hfree (.inl rfl))

/-- An effect that calls an alias and lists it among what it depends on. -/
def dependencyProgram : List Char :=
  "const nav = useNavigate(); useEffect(() => nav('/x'), [nav]);".toList

theorem references_left_in_dependencyProgram :
    ∃ t tally t', parseProgram dependencyProgram = some t ∧
    (combinedSweep .default (navigationAliases Role.defaultName t)).apply t = (.ok tally, t') ∧
    (boundNames t).count "nav" = 1 ∧ "nav" ∈ hookNames "useNavigate" t ∧ NeverCalls "nav" t' ∧
    references "nav" t' = looseReferences "nav" t := by
  have hrun : ∃ t ∈ parseProgram dependencyProgram,
      ((combinedSweep .default (navigationAliases Role.defaultName t)).apply t).1 =
          .ok ⟨0, 0, 1, 1, 0⟩ ∧
        (boundNames t).count "nav" = 1 ∧ "nav" ∈ hookNames "useNavigate" t := by
    decide +kernel
  obtain ⟨t, ht, hok, hbound, hhook⟩ := hrun
  have h := Pass.apply_eq_of_ok hok
  obtain ⟨hnever, hleft⟩ := references_left_by_sweep ht h hbound hhook
  exact ⟨t, _, _, ht, h, hbound, hhook, hnever, hleft (by decide)⟩

/-- A reference that is not called keeps the name, which nothing binds any more. -/
theorem reference_dangles_in_dependencyProgram :
    ¬∀ (source : List Char) (t t' : Ast) (tally : Tally)
    (name : String), parseProgram source = some t →
      (combinedSweep .default (navigationAliases Role.defaultName t)).apply t = (.ok tally, t') →
      name ≠ "router" → (boundNames t).count name = 1 → name ∈ hookNames "useNavigate" t →
      references name t' = [] := by
  have hrun : ∃ t ∈ parseProgram dependencyProgram,
      ((combinedSweep .default (navigationAliases Role.defaultName t)).apply t).1 =
          .ok ⟨0, 0, 1, 1, 0⟩ ∧
        (boundNames t).count "nav" = 1 ∧ "nav" ∈ hookNames "useNavigate" t ∧
        references "nav"
          ((combinedSweep .default (navigationAliases Role.defaultName t)).apply t).2 ≠ [] := by
    decide +kernel
  obtain ⟨t, ht, hok, hbound, hhook, hleft⟩ := hrun
  intro hgone
  exact hleft (hgone _ t _ _ "nav" ht (Pass.apply_eq_of_ok hok) (by decide) hbound hhook)

end Nativize.Conversion
