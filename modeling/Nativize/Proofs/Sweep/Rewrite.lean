import Nativize.Conversion.Sweep
import Nativize.Proofs.Imports
import Nativize.Proofs.Markup

/-!
# The combined sweep as a function of trees

`rewrite` is what the combined sweep makes of a tree when it meets no breach: a function of the tree
and the place it stands at, without a state. Main statement: a sweep without a breach gives the
rewritten tree.
-/

namespace Nativize.Syntax

def Kind.isFunction : Kind → Bool
  | .functionLike _ | .arrow _ => true
  | _ => false

end Nativize.Syntax

namespace Nativize.Conversion

open Syntax

/-- The place of the parts of a node that is no element. A function hides the names that it uses
for something else. -/
def Surroundings.inside (w : Surroundings) (hook : String) (node : Ast) : Surroundings :=
  { w with aliases := w.aliases.filter fun name => !isShadowedBy hook node name, callee := none }

/-- The callee after a sweep, given what a sweep makes of it alone. -/
def convertedCallee (p : Profile) (w : Surroundings) (callee swept : Ast) : Ast :=
  match w.callee with
  | some name =>
    match callRole p w (.leaf (.reference name)) with
    | .navigation => routeCallee p.names
    | _ => .leaf (.reference name)
  | none =>
    match callRole p w callee with
    | .storage secure => secure
    | .navigation => routeCallee p.names
    | .other => swept

/-- The pattern that is bound to a router, given what a sweep makes of it alone. -/
def routerPattern (p : Profile) (pattern swept : Ast) : Ast :=
  match pattern with
  | .node (.binding _) l parts => .node (.binding (p.names .routerBinding)) l parts
  | _ => swept

mutual

/-- The tree after a sweep that meets no breach. -/
def rewrite (p : Profile) (w : Surroundings) : Ast → Ast
  | .node .element l parts =>
    .node .element l
      (convertElement p (rewriteAll p { w with inMarkup := true, callee := none } parts)).1
  | .node (.declarator d) l [pattern, type, value] =>
    let inner := { w with callee := none }
    if callsVariable (p.names .navigationHook) value then
      .node (.declarator d) l
        [routerPattern p pattern (rewrite p inner pattern), rewrite p inner type,
         rewrite p { w with callee := some (p.names .routerHook) } value]
    else
      .node (.declarator d) l [rewrite p inner pattern, rewrite p inner type, rewrite p inner value]
  | .node (.call o q c) l (callee :: rest) =>
    let inner := { w with callee := none }
    .node (.call o q c) l
      (convertedCallee p w callee (rewrite p inner callee) :: rewriteAll p inner rest)
  | .node k l parts =>
    .node k l (rewriteAll p (w.inside (p.names .navigationHook) (.node k l parts)) parts)

def rewriteAll (p : Profile) (w : Surroundings) : List Ast → List Ast
  | [] => []
  | t :: rest => rewrite p w t :: rewriteAll p w rest

end

theorem rewriteAll_eq_map (p : Profile) (w : Surroundings) (parts : List Ast) :
    rewriteAll p w parts = parts.map (rewrite p w) := by
  induction parts with
  | nil => rfl
  | cons t rest ih => simp [rewriteAll, ih]

/-- The sweep looks at a node itself, and not only at its parts. -/
def isTouched : Kind → List Ast → Bool
  | .element, _ => true
  | .declarator _, [_, _, _] => true
  | .call .., _ :: _ => true
  | _, _ => false

/-- The sweep treats elements, declarators and calls, and all other nodes alike. -/
theorem touched_cases {motive : Kind → List Ast → Prop} (element : ∀ parts, motive .element parts)
    (declarator : ∀ d pattern type value, motive (.declarator d) [pattern, type, value])
    (call : ∀ o q c callee rest, motive (.call o q c) (callee :: rest))
    (other : ∀ k parts, isTouched k parts = false → motive k parts) (k : Kind) (parts : List Ast) :
    motive k parts := by
  cases h : isTouched k parts with
  | false => exact other k parts h
  | true =>
    unfold isTouched at h
    split at h
    · exact element parts
    · exact declarator _ _ _ _
    · exact call _ _ _ _ _
    · cases h

theorem isTouched_of_isInert {k : Kind} (h : k.isInert = true) (parts : List Ast) :
    isTouched k parts = false := by
  unfold isTouched
  split <;> simp_all [Kind.isInert]

theorem isTouched_map (k : Kind) (f : Ast → Ast) (parts : List Ast) :
    isTouched k (parts.map f) = isTouched k parts := by
  induction k, parts using touched_cases with
  | element parts => rfl
  | declarator d pattern type value => rfl
  | call o q c callee rest => rfl
  | other k parts h =>
    rw [h]
    unfold isTouched
    split
    · cases h
    · next heq =>
      simp only [List.map_eq_cons_iff, List.map_eq_nil_iff] at heq
      obtain ⟨_, _, rfl, -, _, _, rfl, -, _, _, rfl, -, rfl⟩ := heq
      cases h
    · next heq =>
      obtain ⟨_, _, rfl, -, -⟩ := List.map_eq_cons_iff.mp heq
      cases h
    · rfl

section Equations

variable (p : Profile) (w : Surroundings) (l : List Comment)

theorem rewrite_element (parts : List Ast) : rewrite p w (.node .element l parts) =
    .node .element l
      (convertElement p (parts.map (rewrite p { w with inMarkup := true, callee := none }))).1 := by
  rw [rewrite, rewriteAll_eq_map]

theorem rewrite_call (o q : Bool) (c : List Comment) (callee : Ast) (rest : List Ast) :
    rewrite p w (.node (.call o q c) l (callee :: rest)) =
      .node (.call o q c) l
        (convertedCallee p w callee (rewrite p { w with callee := none } callee) ::
          rest.map (rewrite p { w with callee := none })) := by
  rw [rewrite, rewriteAll_eq_map]

theorem rewrite_other {k : Kind} {parts : List Ast} (h : isTouched k parts = false) :
    rewrite p w (.node k l parts) =
      .node k l (parts.map
        (rewrite p (w.inside (p.names .navigationHook) (.node k l parts)))) := by
  unfold rewrite
  split <;> simp_all [isTouched, rewriteAll_eq_map]

theorem sweepTree_other {k : Kind} {parts : List Ast} (h : isTouched k parts = false) :
    sweepTree p w (.node k l parts) = do
      return .node k l
        (← sweepTrees p (w.inside (p.names .navigationHook) (.node k l parts)) parts) := by
  unfold sweepTree
  split <;> simp_all [isTouched, Surroundings.inside]

end Equations

/-- Only a function hides names. -/
theorem isShadowedBy_of_not_function {k : Kind} (h : k.isFunction = false) (hook name : String)
    (l : List Comment) (parts : List Ast) : isShadowedBy hook (.node k l parts) name = false := by
  have hscope : scope (.node k l parts) = ([], []) := by
    unfold scope
    split <;> simp_all [Kind.isFunction]
  simp [isShadowedBy, hscope, declarators]

theorem inside_of_isInert {w : Surroundings} (hw : w.callee = none) {k : Kind}
    (h : k.isInert = true) (hook : String) (l : List Comment) (parts : List Ast) :
    w.inside hook (.node k l parts) = w := by
  have hfunction : k.isFunction = false := by
    unfold Kind.isFunction
    split <;> simp_all [Kind.isInert]
  cases w
  simp_all [Surroundings.inside, isShadowedBy_of_not_function hfunction]

@[simp] theorem kind_rewrite (p : Profile) (w : Surroundings) (t : Ast) :
    (rewrite p w t).kind = t.kind := by
  cases t with
  | node k l parts =>
    induction k, parts using touched_cases with
    | element parts => rw [rewrite_element]; rfl
    | declarator d pattern type value =>
      rw [rewrite]
      split <;> rfl
    | call o q c callee rest => rw [rewrite_call]; rfl
    | other k parts h => rw [rewrite_other _ _ _ h]; rfl

/-- A sweep leaves names and texts alone. -/
theorem gentle_rewrite (p : Profile) {w : Surroundings} (hw : w.callee = none) :
    Gentle (rewrite p w) where
  kind := kind_rewrite p w
  inert {k} l parts h := by
    rw [rewrite_other _ _ _ (isTouched_of_isInert h parts), inside_of_isInert hw h]

/-- The parts of an element are swept as though the element was converted before. -/
theorem rewrite_elementParts (p : Profile) (w : Surroundings) (l : List Comment) {parts : List Ast}
    (h : Ast.ElementParts parts) : rewrite p w (.node .element l parts) =
      .node .element l ((convertElement p parts).1.map
        (rewrite p { w with inMarkup := true, callee := none })) := by
  rw [rewrite_element, (gentle_rewrite p rfl).convertElement p h]

/-! ## What is replaced -/

theorem callsVariable_iff {name : String} {t : Ast} : callsVariable name t = true ↔
    ∃ o q c l callee rest, t = .node (.call o q c) l (callee :: rest) ∧
      callee.kind = .reference name := by
  constructor
  · intro h
    unfold callsVariable at h
    split at h
    · obtain rfl := of_decide_eq_true h
      exact ⟨_, _, _, _, _, _, rfl, rfl⟩
    · cases h
  · rintro ⟨o, q, c, l, ⟨k, cl, parts⟩, rest, rfl, rfl : k = _⟩
    simp [callsVariable]

theorem callsVariable_of_not_touched (name : String) {k : Kind} {parts : List Ast}
    (h : isTouched k parts = false) (l : List Comment) :
    (!callsVariable name (.node k l parts)) = true := by
  unfold callsVariable
  split <;> simp_all [isTouched]

theorem secureCallee?_eq_some_iff {p : Profile} {callee secure : Ast} :
    secureCallee? p callee = some secure ↔ ∃ method optional l ol parts,
      callee = .node (.member method optional) l
        [.node (.reference (p.names .webStorage)) ol parts] ∧
      method ∈ p.tables.storageMethods ∧
      secure = .node (.member method optional) l
        [.leaf (.reference (p.names .secureStoreNamespace))] := by
  constructor
  · intro h
    unfold secureCallee? at h
    split at h
    · split at h
      · next hstorage =>
        simp only [Bool.and_eq_true, decide_eq_true_eq, List.contains_iff_mem] at hstorage
        obtain ⟨rfl, hmethod⟩ := hstorage
        cases h
        exact ⟨_, _, _, _, _, rfl, hmethod, rfl⟩
      · cases h
    · cases h
  · rintro ⟨method, optional, l, ol, parts, rfl, hmethod, rfl⟩
    simp [secureCallee?, hmethod]

theorem isInert_of_callsVariable {name : String} {o q : Bool} {c l : List Comment} {callee : Ast}
    {rest : List Ast} (hwell : Ast.WellFormed (.node (.call o q c) l (callee :: rest)))
    (h : callsVariable name (.node (.call o q c) l (callee :: rest)) = true) : IsInert callee := by
  obtain ⟨_, _, _, _, ⟨k, cl, parts⟩, _, hcall, hkind⟩ := callsVariable_iff.mp h
  cases hcall
  obtain rfl : k = _ := hkind
  exact isInert_leaf rfl rfl ((Ast.wellFormed_node.mp hwell).2 _ List.mem_cons_self).bare

theorem isInert_secureCallee {p : Profile} {callee secure : Ast} (hwell : callee.WellFormed)
    (h : secureCallee? p callee = some secure) : IsInert callee ∧ IsInert secure := by
  obtain ⟨method, optional, l, ol, parts, rfl, -, rfl⟩ := secureCallee?_eq_some_iff.mp h
  have hobject := (Ast.wellFormed_node.mp hwell).2 _ List.mem_cons_self
  exact ⟨Ast.all_node.mpr ⟨rfl, by simpa using isInert_leaf rfl rfl hobject.bare⟩,
    Ast.all_node.mpr ⟨rfl, by simp [Ast.leaf, Ast.all_node, Ast.kind, Kind.isInert]⟩⟩

theorem callRole_eq_storage_iff {p : Profile} {w : Surroundings} {callee secure : Ast} :
    callRole p w callee = .storage secure ↔ secureCallee? p callee = some secure := by
  unfold callRole
  split
  · simp_all
  · split <;> simp_all

theorem callRole_eq_navigation_iff {p : Profile} {w : Surroundings} {callee : Ast} :
    callRole p w callee = .navigation ↔ secureCallee? p callee = none ∧
      isNavigation p.names w.aliases w.inMarkup callee = true := by
  unfold callRole
  split
  · simp_all
  · split <;> simp_all

theorem callRole_eq_other_iff {p : Profile} {w : Surroundings} {callee : Ast} :
    callRole p w callee = .other ↔ secureCallee? p callee = none ∧
      isNavigation p.names w.aliases w.inMarkup callee = false := by
  unfold callRole
  split
  · simp_all
  · split <;> simp_all

theorem isNavigation_of_kind (names : Names) (aliases : List String) (inMarkup : Bool)
    {callee : Ast} {name : String} (h : callee.kind = .reference name) :
    isNavigation names aliases inMarkup callee =
      (aliases.contains name || (inMarkup && name = names .navigateMember)) := by
  obtain ⟨k, l, parts⟩ := callee
  obtain rfl : k = _ := h
  rfl

theorem isInert_of_isNavigation {names : Names} {aliases : List String} {inMarkup : Bool}
    {callee : Ast} (hwell : callee.WellFormed)
    (h : isNavigation names aliases inMarkup callee = true) : IsInert callee := by
  unfold isNavigation at h
  split at h
  · exact isInert_leaf rfl rfl hwell.bare
  · cases h

theorem isMember_routeCallee (names : Names) :
    IsMember (names .routerBinding) (names .navigateMember) (routeCallee names) :=
  isMember_iff.mpr rfl

/-- The callee of a call is swept like any other tree, or it is inert before and after. -/
theorem convertedCallee_cases (p : Profile) (w : Surroundings) {callee : Ast} (swept : Ast)
    (hwell : callee.WellFormed) (hw : w.callee = none ∨ IsInert callee) :
    (w.callee = none ∧ convertedCallee p w callee swept = swept) ∨
      (IsInert callee ∧ IsInert (convertedCallee p w callee swept)) := by
  have hroute : IsInert (routeCallee p.names) := isInert_memberOf _ _
  have hleaf (name : String) : IsInert (.leaf (.reference name)) :=
    Ast.all_node.mpr ⟨rfl, by simp⟩
  unfold convertedCallee
  cases hcallee : w.callee with
  | some name =>
    have hinert := hw.resolve_left (by simp [hcallee])
    dsimp only
    split
    · exact .inr ⟨hinert, hroute⟩
    · exact .inr ⟨hinert, hleaf name⟩
  | none =>
    dsimp only
    cases hrole : callRole p w callee with
    | storage secure => exact .inr (isInert_secureCallee hwell (callRole_eq_storage_iff.mp hrole))
    | navigation =>
      exact .inr ⟨isInert_of_isNavigation hwell (callRole_eq_navigation_iff.mp hrole).2, hroute⟩
    | other => exact .inl ⟨rfl, rfl⟩

/-- The pattern of a hook is swept like any other tree, or it is inert before and after. -/
theorem routerPattern_cases (p : Profile) {pattern : Ast} (hwell : pattern.WellFormed)
    (swept : Ast) :
    routerPattern p pattern swept = swept ∨
      (IsInert pattern ∧ IsInert (routerPattern p pattern swept)) := by
  unfold routerPattern
  split
  · have hparts := hwell.root.2 rfl
    subst hparts
    exact .inr ⟨Ast.all_node.mpr ⟨rfl, by simp⟩, Ast.all_node.mpr ⟨rfl, by simp⟩⟩
  · exact .inl rfl

/-! ## Runs without a breach -/

/-- The sweep has no reason to stop at the node. -/
def Accepts (p : Profile) : Ast → Prop
  | .node .element _ parts => (convertElement p parts).2 = none
  | .node (.declarator _) _ [pattern, _, value] =>
    callsVariable (p.names .navigationHook) value = true → ∃ name l parts,
      pattern = .node (.binding name) l parts
  | _ => True

theorem accepts_of_not_touched (p : Profile) {k : Kind} {parts : List Ast}
    (h : isTouched k parts = false) (l : List Comment) : Accepts p (.node k l parts) := by
  unfold Accepts
  split <;> simp_all [isTouched]

theorem all_accepts_of_isInert (p : Profile) {t : Ast} (h : IsInert t) : t.All (Accepts p) := by
  refine h.mono fun n hn => ?_
  cases n with
  | node k l parts => exact accepts_of_not_touched p (isTouched_of_isInert hn parts) l

/-- A computation that ends without a breach started without one, gives the value, and needed the
condition. -/
def Clears {α : Type} (m : StateM CombinedState α) (v : α) (condition : Prop) : Prop :=
  ∀ s, (m.run s).2.breach = none → s.breach = none ∧ (m.run s).1 = v ∧ condition

section Clears

variable {α β : Type} {P Q : Prop}

theorem Clears.mono {m : StateM CombinedState α} {v : α} (h : Clears m v P) (himp : P → Q) :
    Clears m v Q :=
  fun s hs => ⟨(h s hs).1, (h s hs).2.1, himp (h s hs).2.2⟩

theorem clears_pure (v : α) : Clears (pure v) v True := fun _ h => ⟨h, rfl, trivial⟩

theorem clears_bind {m : StateM CombinedState α} {a : α} {f : α → StateM CombinedState β}
    {g : α → β}
    (hm : Clears m a P) (hf : ∀ x, Clears (f x) (g x) Q) : Clears (m >>= f) (g a) (P ∧ Q) := by
  intro s h
  obtain ⟨hmid, hvalue, hQ⟩ := hf (m.run s).1 (m.run s).2 h
  obtain ⟨hstart, rfl, hP⟩ := hm s hmid
  exact ⟨hstart, hvalue, hP, hQ⟩

theorem clears_map {m : StateM CombinedState α} {a : α} (f : α → β) (hm : Clears m a P) :
    Clears (do return f (← m)) (f a) P :=
  (clears_bind hm fun _ => clears_pure _).mono And.left

theorem clears_count {m : StateM CombinedState α} {v : α} {f : CombinedState → CombinedState}
    (hf : ∀ s, (f s).breach = s.breach) (hm : Clears m v P) : Clears (do modify f; m) v P :=
  fun s h => ⟨(hf s).symm.trans (hm (f s) h).1, (hm (f s) h).2⟩

/-- Where a breach was met before, nothing is changed. -/
theorem run_guard (unchanged : α) (m : StateM CombinedState α) (s : CombinedState) :
    StateT.run (do if (← get).breach.isSome then return unchanged else m) s =
      if s.breach.isSome then pure (unchanged, s) else m.run s := by
  cases hb : s.breach <;> simp [hb]

theorem clears_guard {m : StateM CombinedState α} {unchanged v : α} (hm : Clears m v P) :
    Clears (do if (← get).breach.isSome then return unchanged else m) v P := by
  intro s h
  rw [run_guard] at h ⊢
  cases hb : s.breach with
  | none =>
    rw [hb] at h
    exact ⟨rfl, (hm s h).2⟩
  | some b =>
    rw [hb] at h
    exact absurd (hb.symm.trans h) (by simp)

/-- A computation that stops with a breach gives any value when it ends without one. -/
theorem clears_stop (b : Breach) (unchanged v : α) :
    Clears (do modify (·.stop b); return unchanged) v P :=
  fun _ h => nomatch h

end Clears

theorem clears_sweepTrees {p : Profile} {w : Surroundings} {parts : List Ast} {Q : Ast → Prop}
    (h : ∀ t ∈ parts, Clears (sweepTree p w t) (rewrite p w t) (Q t)) :
    Clears (sweepTrees p w parts) (rewriteAll p w parts) (∀ t ∈ parts, Q t) := by
  induction parts with
  | nil => exact (clears_pure _).mono nofun
  | cons t rest ih =>
    rw [sweepTrees, rewriteAll]
    have hrest := ih fun t ht => h t (List.mem_cons_of_mem _ ht)
    refine (clears_bind (h t List.mem_cons_self) fun _ => clears_map _ hrest).mono ?_
    exact fun ⟨ht, hrest⟩ => List.forall_mem_cons.mpr ⟨ht, hrest⟩

/-- A sweep that meets no breach gives the rewritten tree, and had no reason to stop anywhere. -/
theorem clears_sweepTree (p : Profile) {w : Surroundings} {t : Ast} (hwell : t.WellFormed)
    (hw : w.callee = none ∨ callsVariable (p.names .navigationHook) t = true) :
    Clears (sweepTree p w t) (rewrite p w t) (t.All (Accepts p)) := by
  induction t using Ast.induct generalizing w with
  | node k l parts ih =>
    have hparts := (Ast.wellFormed_node.mp hwell).2
    have hpart (t : Ast) (ht : t ∈ parts) (w : Surroundings) (hw : w.callee = none) :=
      ih t ht (hparts t ht) (w := w) (.inl hw)
    have hall (w : Surroundings) (hw : w.callee = none) :=
      clears_sweepTrees fun t ht => hpart t ht w hw
    induction k, parts using touched_cases with
    | element parts =>
      unfold sweepTree rewrite
      refine clears_guard ?_
      split
      · exact clears_stop _ _ _
      · next hnone =>
        refine clears_count (fun _ => rfl) ((clears_map _ (hall _ rfl)).mono fun h => ?_)
        exact Ast.all_node.mpr ⟨congrArg Prod.snd hnone, h⟩
    | declarator d pattern type value =>
      have hpattern := hpart pattern (by simp)
      have htype := hpart type (by simp)
      unfold sweepTree rewrite
      refine clears_guard ?_
      split
      · next hhook =>
        have hvalue := ih value (by simp) (hparts value (by simp))
          (w := { w with callee := some (p.names .routerHook) }) (.inr hhook)
        split
        · next name bl bp =>
          -- The pattern is not swept, and has no parts.
          have hbinding : IsInert (.node (.binding name) bl bp) :=
            isInert_leaf rfl rfl (hparts _ List.mem_cons_self).bare
          refine clears_count (fun _ => rfl)
            ((clears_bind (htype _ rfl) fun _ => clears_map _ hvalue).mono fun ⟨h₁, h₂⟩ => ?_)
          refine Ast.all_node.mpr ⟨fun _ => ⟨name, bl, bp, rfl⟩, ?_⟩
          simp [all_accepts_of_isInert p hbinding, h₁, h₂]
        · exact clears_stop _ _ _
      · next hhook =>
        have hvalue := hpart value (by simp)
        refine (clears_bind (hpattern _ rfl) fun _ => clears_bind (htype _ rfl) fun _ =>
          clears_map _ (hvalue _ rfl)).mono fun ⟨h₀, h₁, h₂⟩ => ?_
        refine Ast.all_node.mpr ⟨fun h => absurd h hhook, ?_⟩
        simp [h₀, h₁, h₂]
    | call o q c callee rest =>
      have hwellCallee := hparts callee (by simp)
      have hrest (w : Surroundings) (hw : w.callee = none) :=
        clears_sweepTrees fun t ht => hpart t (List.mem_cons_of_mem _ ht) w hw
      have haccept (hcallee : callee.All (Accepts p)) (h : ∀ t ∈ rest, t.All (Accepts p)) :
          Ast.All (Accepts p) (.node (.call o q c) l (callee :: rest)) :=
        Ast.all_node.mpr ⟨trivial, List.forall_mem_cons.mpr ⟨hcallee, h⟩⟩
      -- A callee that is replaced is not swept, and there is nothing in it to stop at.
      have hunswept (hinert : IsInert callee) := haccept (all_accepts_of_isInert p hinert)
      unfold sweepTree rewrite
      refine clears_guard ?_
      unfold convertedCallee
      cases hcallee : w.callee with
      | some name =>
        have hinert : IsInert callee :=
          isInert_of_callsVariable hwell (hw.resolve_left (by simp [hcallee]))
        dsimp only
        cases callRole p w (.leaf (.reference name)) with
        | navigation =>
          exact clears_count (fun _ => rfl) ((clears_map _ (hrest _ rfl)).mono (hunswept hinert))
        | storage _ => exact (clears_map _ (hrest _ rfl)).mono (hunswept hinert)
        | other => exact (clears_map _ (hrest _ rfl)).mono (hunswept hinert)
      | none =>
        dsimp only
        cases hrole : callRole p w callee with
        | storage _ =>
          exact clears_count (fun _ => rfl) ((clears_map _ (hrest _ rfl)).mono
            (hunswept (isInert_secureCallee hwellCallee (callRole_eq_storage_iff.mp hrole)).1))
        | navigation =>
          exact clears_count (fun _ => rfl) ((clears_map _ (hrest _ rfl)).mono
            (hunswept (isInert_of_isNavigation hwellCallee
              (callRole_eq_navigation_iff.mp hrole).2)))
        | other =>
          exact (clears_bind (hpart callee (by simp) _ rfl) fun _ =>
            clears_map _ (hrest _ rfl)).mono
            fun ⟨h₀, h⟩ => haccept h₀ h
    | other k parts h =>
      rw [sweepTree_other _ _ _ h, rewrite_other _ _ _ h, ← rewriteAll_eq_map]
      exact (clears_map _ (hall _ rfl)).mono fun hparts =>
        Ast.all_node.mpr ⟨accepts_of_not_touched p h l, hparts⟩

/-- The program with its imports converted. -/
def withImportsConverted (p : Profile) (t : Ast) : Ast :=
  withStatements t ((statements t).filterMap (convertStatement? p))

theorem wellFormed_withImportsConverted (p : Profile) {t : Ast} (h : t.WellFormed) :
    (withImportsConverted p t).WellFormed := by
  have hstatement {s s' : Ast} (hs : s.WellFormed) (hconvert : convertStatement? p s = some s') :
      s'.WellFormed := by
    unfold convertStatement? at hconvert
    split at hconvert
    · split at hconvert
      · cases hconvert
        rw [hs.root.2 rfl]
        exact Ast.wellFormed_childless.mpr (by simp)
      · cases hconvert
    · cases hconvert
      exact hs
  unfold withImportsConverted withStatements
  split
  · refine (Ast.wellFormed_inner rfl).mpr fun s' hs' => ?_
    obtain ⟨s, hs, hconvert⟩ := List.mem_filterMap.mp hs'
    exact hstatement ((Ast.wellFormed_node.mp h).2 s hs) hconvert
  · exact h

/-- The conversion of imports neither adds nor takes away anything but imports. -/
theorem AdditiveOn.withImportsConverted {α : Type} {g : Ast → List α}
    (hg : AdditiveOn Kind.isFrame g) (p : Profile) {t : Ast} (hwell : t.WellFormed)
    (hprogram : t.isProgram = true) : g (withImportsConverted p t) = g t := by
  obtain ⟨hashbang, directives, c, l, parts, rfl⟩ := Ast.isProgram_iff.mp hprogram
  have hparts := (Ast.wellFormed_node.mp hwell).2
  have hstatements : (parts.filterMap (convertStatement? p)).flatMap g = parts.flatMap g := by
    refine flatMap_convertStatement? p fun d l ps hs d' => ?_
    have hps : ps = [] := (hparts _ hs).root.2 rfl
    rw [hg _ _ _ rfl, hps, List.flatMap_nil]
  calc g (Conversion.withImportsConverted p (.node (.program hashbang directives c) l parts))
      = (parts.filterMap (convertStatement? p)).flatMap g := hg _ _ _ rfl
    _ = parts.flatMap g := hstatements
    _ = g (.node (.program hashbang directives c) l parts) := (hg _ _ _ rfl).symm

/-- Where no import is refused, the sweep of the rest decides. -/
theorem combinedSweep_apply {p : Profile} {aliases : List String} {t u : Ast}
    {state : CombinedState}
    (himports : ∀ s ∈ statements t, isAcceptable p s)
    (hrun : (sweepTree p ⟨aliases, false, none⟩ (withImportsConverted p t)).run {} = (u, state)) :
    ∃ removed, (combinedSweep p aliases).apply t =
      match state.breach with
      | none => (.ok { state.tally with importsRemoved := removed }, u)
      | some b => (.error (.structural b), u) := by
  obtain ⟨removed, hremoved⟩ := convertImports_apply himports
  refine ⟨removed, ?_⟩
  unfold combinedSweep
  simp only [Pass.apply_bind, hremoved, Pass.apply_get]
  unfold withImportsConverted at hrun
  rw [hrun]
  simp only [Pass.apply_bind, Pass.apply_set]
  cases state.breach <;> rfl

/-- A combined sweep that succeeds converts the imports one by one and rewrites what is left. -/
theorem combinedSweep_ok {p : Profile} {aliases : List String} {t t' : Ast} {tally : Tally}
    (hwell : t.WellFormed) (h : (combinedSweep p aliases).apply t = (.ok tally, t')) :
    (∀ s ∈ statements t, isAcceptable p s) ∧ (withImportsConverted p t).All (Accepts p) ∧
      t' = rewrite p ⟨aliases, false, none⟩ (withImportsConverted p t) := by
  unfold combinedSweep at h
  obtain ⟨removed, u, himports, h⟩ := Pass.apply_bind_ok h
  obtain ⟨hall, rfl⟩ := convertImports_ok himports
  refine ⟨hall, ?_⟩
  obtain ⟨u, _, hget, h⟩ := Pass.apply_bind_ok h
  cases hget
  obtain ⟨_, _, hset, h⟩ := Pass.apply_bind_ok h
  cases hset
  obtain ⟨_, _, hcheck, h⟩ := Pass.apply_bind_ok h
  obtain ⟨hbreach, rfl⟩ := Pass.apply_check_ok hcheck
  cases h
  have hclear := clears_sweepTree p (w := ⟨aliases, false, none⟩)
    (wellFormed_withImportsConverted p hwell) (.inl rfl)
  exact ⟨(hclear {} hbreach).2.2, (hclear {} hbreach).2.1⟩

end Nativize.Conversion
