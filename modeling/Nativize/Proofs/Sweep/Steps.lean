import Nativize.Proofs.Sweep.Rewrite

/-!
# Sweeps of single steps

`applyStep` is what the sweep of one step makes of a tree when it meets no breach. Main statements:
a sweep fails exactly when the step has a reason to stop at some node, and else gives that tree; a
step reads nothing that a calm map changes; and so the sweep of one step after others is a single
sweep of all of them.
-/

namespace Nativize.Conversion

open Syntax

/-! ## Calm maps -/

/-- A gentle map that also maps a call of a variable part by part, and makes no others. -/
structure Calm (f : Ast → Ast) : Prop extends Gentle f where
  callsVariable (name : String) (t : Ast) :
    callsVariable name (f t) = Conversion.callsVariable name t
  call {name : String} {k : Kind} {l : List Comment} {parts : List Ast}
    (h : Conversion.callsVariable name (.node k l parts) = true) :
    f (.node k l parts) = .node k l (parts.map f)

theorem Gentle.comp {f g : Ast → Ast} (hg : Gentle g) (hf : Gentle f) : Gentle (g ∘ f) where
  kind t := (hg.kind (f t)).trans (hf.kind t)
  inert l parts h := by
    rw [Function.comp, hf.inert l parts h, hg.inert l _ h, List.map_map]

theorem Calm.comp {f g : Ast → Ast} (hg : Calm g) (hf : Calm f) : Calm (g ∘ f) where
  toGentle := hg.toGentle.comp hf.toGentle
  callsVariable name t := (hg.callsVariable name (f t)).trans (hf.callsVariable name t)
  call {name} {k} {l} {parts} h := by
    have hf' := hf.call h
    have hcall := hf.callsVariable name (.node k l parts)
    rw [hf', h] at hcall
    rw [Function.comp, hf', hg.call hcall, List.map_map]

/-! ## What a step reads -/

/-- A step gives the same before and after a calm map of the parts of a node. -/
def Step.IsNatural (step : Step) : Prop :=
  ∀ f, Calm f → ∀ k parts, (k = .element → Ast.ElementParts parts) →
    step k (parts.map f) = (step k parts).map fun r => (r.1.map f, r.2)

section Natural

variable {f : Ast → Ast}

theorem Gentle.secureCallee? (hf : Gentle f) (p : Profile) (callee : Ast) :
    secureCallee? p (f callee) = (Conversion.secureCallee? p callee).map f := by
  obtain ⟨k, l, parts⟩ := callee
  cases k with
  | member method optional =>
    rw [hf.inert l parts rfl]
    match parts with
    | [] | _ :: _ :: _ => simp [Conversion.secureCallee?]
    | [.node k ol ps] =>
      obtain ⟨ol', ps', hobject⟩ := hf.exists_eq k ol ps
      rw [List.map_singleton, hobject]
      cases k with
      | reference object =>
        have hstore : f (.leaf (.reference (p.names .secureStoreNamespace))) =
            .leaf (.reference (p.names .secureStoreNamespace)) := hf.inert [] [] rfl
        simp only [Conversion.secureCallee?]
        split
        · rw [Option.map_some, hf.inert (k := .member method optional) l _ rfl, List.map_singleton,
            hstore]
        · rfl
      | _ => rfl
  | _ =>
    obtain ⟨l', parts', h⟩ := hf.exists_eq _ l parts
    rw [h]
    rfl

theorem kind_secureCallee {p : Profile} {callee secure : Ast}
    (h : Conversion.secureCallee? p callee = some secure) : secure.kind = callee.kind := by
  obtain ⟨method, optional, l, ol, parts, rfl, -, rfl⟩ := secureCallee?_eq_some_iff.mp h
  rfl

theorem Calm.withCallee (hf : Calm f) {name : String} (other : String) {value : Ast}
    (h : Conversion.callsVariable name value = true) :
    withCallee (.leaf (.reference other)) (f value) =
      f (Conversion.withCallee (.leaf (.reference other)) value) := by
  obtain ⟨o, q, c, l, callee, rest, rfl, -⟩ := callsVariable_iff.mp h
  have hleaf : f (.leaf (.reference other)) = .leaf (.reference other) := hf.inert [] [] rfl
  have hcall : Conversion.callsVariable other
      (.node (.call o q c) l (.leaf (.reference other) :: rest)) = true := by
    simp [Conversion.callsVariable, Ast.leaf]
  rw [hf.call h, Conversion.withCallee, hf.call hcall, List.map_cons, List.map_cons, hleaf]
  rfl

theorem Calm.convertHook? (hf : Calm f) (names : Names) (parts : List Ast) :
    convertHook? names (parts.map f) =
      (Conversion.convertHook? names parts).map fun r => (r.1.map f, r.2) := by
  match parts with
  | [] | [_] | [_, _] | _ :: _ :: _ :: _ :: _ => simp [Conversion.convertHook?]
  | [.node k l ps, type, value] =>
    simp only [List.map_cons, List.map_nil, Conversion.convertHook?, hf.callsVariable]
    by_cases hhook : Conversion.callsVariable (names .navigationHook) value = true
    · rw [if_pos hhook, if_pos hhook]
      cases k with
      | binding name =>
        have hbinding : f (.node (.binding (names .routerBinding)) l ps) =
            .node (.binding (names .routerBinding)) l (ps.map f) := hf.inert l ps rfl
        rw [hf.inert l ps rfl]
        simp only [Option.map_some, List.map_cons, List.map_nil, hbinding, hf.withCallee _ hhook]
      | _ =>
        obtain ⟨l', ps', h⟩ := hf.exists_eq _ l ps
        rw [h]
        simp [h]
    · rw [if_neg hhook, if_neg hhook]
      rfl

theorem isNatural_elementStep (p : Profile) : Step.IsNatural (elementStep p) := by
  intro f hf k parts hparts
  cases k with
  | element => exact congrArg some (hf.toGentle.convertElement p (hparts rfl))
  | _ => rfl

theorem isNatural_hookStep (p : Profile) : Step.IsNatural (hookStep p) := by
  intro f hf k parts _
  cases k with
  | declarator d => exact hf.convertHook? p.names parts
  | _ => rfl

theorem isNatural_storageStep (p : Profile) : Step.IsNatural (storageStep p) := by
  intro f hf k parts _
  cases k with
  | call o q c =>
    cases parts with
    | nil => rfl
    | cons callee rest =>
      simp [storageStep, hf.toGentle.secureCallee?, Option.map_map, Function.comp_def]
  | _ => rfl

end Natural

/-! ## The parts of a sweep -/

/-- What a combined sweep does, apart from calls that go to a page. -/
inductive SweepPart where
  | imports
  | elements
  | hooks
  | storage
deriving DecidableEq, Repr

namespace SweepPart

def all : List SweepPart := [imports, elements, hooks, storage]

theorem mem_all (a : SweepPart) : a ∈ all := by
  cases a <;> decide

/-- The part as a pass of its own. -/
def pass (p : Profile) : SweepPart → Pass Nat
  | imports => convertImports p
  | elements => sweepPass (elementStep p)
  | hooks => sweepPass (hookStep p)
  | storage => sweepPass (storageStep p)

/-- The step of a part. Imports are not looked for inside of statements. -/
def step (p : Profile) : SweepPart → Step
  | imports => fun _ _ => none
  | elements => elementStep p
  | hooks => hookStep p
  | storage => storageStep p

end SweepPart

/-- The part that looks at nodes of the production. -/
def partFor? : Kind → Option SweepPart
  | .element => some .elements
  | .declarator _ => some .hooks
  | .call .. => some .storage
  | _ => none

/-- The steps of some parts as one. -/
def stepsOf (p : Profile) (done : List SweepPart) : Step := fun k parts =>
  (partFor? k).bind fun a => if a ∈ done then a.step p k parts else none

section Parts

variable {p : Profile} {a : SweepPart} {done done' : List SweepPart} {k : Kind}

theorem partFor?_of_isInert (h : k.isInert = true) : partFor? k = none := by
  cases k <;> first | rfl | cases h

theorem step_eq_none (h : partFor? k ≠ some a) (parts : List Ast) : a.step p k parts = none := by
  cases a <;> cases k <;> first | rfl | exact absurd rfl h

theorem stepsOf_eq_none (h : ∀ a ∈ done, partFor? k ≠ some a) (parts : List Ast) :
    stepsOf p done k parts = none := by
  unfold stepsOf
  cases hk : partFor? k with
  | none => rfl
  | some a => exact if_neg fun ha => h a ha hk

theorem stepsOf_of_mem (h : partFor? k = some a) (ha : a ∈ done) (parts : List Ast) :
    stepsOf p done k parts = a.step p k parts := by
  simp [stepsOf, h, ha]

/-- Only which parts there are matters. -/
theorem stepsOf_congr (h : ∀ a, a ∈ done ↔ a ∈ done') : stepsOf p done = stepsOf p done' := by
  funext k parts
  simp only [stepsOf, h]

theorem stepsOf_singleton (p : Profile) (a : SweepPart) : stepsOf p [a] = a.step p := by
  funext k parts
  by_cases h : partFor? k = some a
  · exact stepsOf_of_mem h List.mem_cons_self parts
  · rw [stepsOf_eq_none (by simpa using h), step_eq_none h]

theorem SweepPart.isNatural_step (p : Profile) (a : SweepPart) : Step.IsNatural (a.step p) := by
  cases a with
  | imports => exact fun _ _ _ _ _ => rfl
  | elements => exact isNatural_elementStep p
  | hooks => exact isNatural_hookStep p
  | storage => exact isNatural_storageStep p

theorem isNatural_stepsOf (p : Profile) (done : List SweepPart) :
    Step.IsNatural (stepsOf p done) := by
  intro f hf k parts hparts
  unfold stepsOf
  cases partFor? k with
  | none => rfl
  | some a =>
    by_cases ha : a ∈ done
    · simpa [ha] using a.isNatural_step p f hf k parts hparts
    · simp [ha]

/-- A call of a variable is left alone. -/
theorem stepsOf_of_callsVariable {name : String} {l : List Comment} {parts : List Ast}
    (h : callsVariable name (.node k l parts) = true) : stepsOf p done k parts = none := by
  obtain ⟨o, q, c, l, ⟨rk, cl, cp⟩, rest, hnode, hkind⟩ := callsVariable_iff.mp h
  cases hnode
  obtain rfl : rk = _ := hkind
  simp [stepsOf, partFor?, SweepPart.step, storageStep, secureCallee?]

end Parts

/-! ## Trees after a step -/

/-- The parts of a node after a step. -/
def changed (step : Step) (k : Kind) (parts : List Ast) : List Ast :=
  ((step k parts).map (·.1)).getD parts

mutual

/-- The tree after a step at every node, inner nodes first. -/
def applyStep (step : Step) : Ast → Ast
  | .node k l parts => .node k l (changed step k (applyStepAll step parts))

def applyStepAll (step : Step) : List Ast → List Ast
  | [] => []
  | t :: rest => applyStep step t :: applyStepAll step rest

end

theorem applyStep_node (step : Step) (k : Kind) (l : List Comment) (parts : List Ast) :
    applyStep step (.node k l parts) =
      .node k l (changed step k (parts.map (applyStep step))) := by
  have hmap (ts : List Ast) : applyStepAll step ts = ts.map (applyStep step) := by
    induction ts with
    | nil => rfl
    | cons t rest ih => simp [applyStepAll, ih]
  rw [applyStep, hmap]

theorem changed_eq_self {step : Step} {k : Kind} {parts : List Ast} (h : step k parts = none) :
    changed step k parts = parts := by
  simp [changed, h]

theorem Step.IsNatural.changed {step : Step} (hstep : step.IsNatural) {f : Ast → Ast} (hf : Calm f)
    {k : Kind} {parts : List Ast} (h : k = .element → Ast.ElementParts parts) :
    changed step k (parts.map f) = (Conversion.changed step k parts).map f := by
  unfold Conversion.changed
  rw [hstep f hf k parts h]
  cases step k parts <;> rfl

section Trees

variable (p : Profile) (done : List SweepPart)

theorem changed_element (parts : List Ast) : changed (stepsOf p done) .element parts =
    if .elements ∈ done then (convertElement p parts).1 else parts := by
  by_cases h : SweepPart.elements ∈ done <;>
    simp [changed, stepsOf, partFor?, SweepPart.step, elementStep, h]

theorem changed_declarator (d : Bool) (parts : List Ast) :
    changed (stepsOf p done) (.declarator d) parts =
      if .hooks ∈ done then ((convertHook? p.names parts).map (·.1)).getD parts else parts := by
  by_cases h : SweepPart.hooks ∈ done <;>
    simp [changed, stepsOf, partFor?, SweepPart.step, hookStep, h]

theorem changed_call (o q : Bool) (c : List Comment) (callee : Ast) (rest : List Ast) :
    changed (stepsOf p done) (.call o q c) (callee :: rest) =
      (if .storage ∈ done then (secureCallee? p callee).getD callee else callee) :: rest := by
  by_cases h : SweepPart.storage ∈ done
  · simp only [changed, stepsOf, partFor?, SweepPart.step, storageStep, h, if_true,
      Option.bind_some]
    cases secureCallee? p callee <;> rfl
  · simp [changed, stepsOf, partFor?, h]

theorem changed_of_not_touched {k : Kind} {parts : List Ast} (h : isTouched k parts = false) :
    changed (stepsOf p done) k parts = parts := by
  refine changed_eq_self ?_
  cases k with
  | element => cases h
  | declarator d =>
    match parts with
    | [] | [_] | [_, _] | _ :: _ :: _ :: _ :: _ =>
      simp [stepsOf, partFor?, SweepPart.step, hookStep, convertHook?]
    | [_, _, _] => cases h
  | call o q c =>
    cases parts with
    | nil => simp [stepsOf, partFor?, SweepPart.step, storageStep]
    | cons callee rest => cases h
  | _ => rfl

theorem applyStep_of_none {k : Kind} {l : List Comment} {parts : List Ast}
    (h : stepsOf p done k (parts.map (applyStep (stepsOf p done))) = none) :
    applyStep (stepsOf p done) (.node k l parts) =
      .node k l (parts.map (applyStep (stepsOf p done))) := by
  rw [applyStep_node, changed_eq_self h]

theorem gentle_applyStep : Gentle (applyStep (stepsOf p done)) where
  kind t := by
    cases t
    rw [applyStep_node]
    rfl
  inert l parts h := applyStep_of_none p done (stepsOf_eq_none (by simp [partFor?_of_isInert h]) _)

theorem callsVariable_map {f : Ast → Ast} (hf : Gentle f) {name : String} {k : Kind}
    {l : List Comment} {parts : List Ast} (h : callsVariable name (.node k l parts) = true) :
    callsVariable name (.node k l (parts.map f)) = true := by
  obtain ⟨o, q, c, l, callee, rest, hnode, hkind⟩ := callsVariable_iff.mp h
  cases hnode
  exact callsVariable_iff.mpr ⟨o, q, c, l, _, _, rfl, (hf.kind callee).trans hkind⟩

/-- A step makes no call of a variable. -/
theorem callsVariable_of_applyStep {name : String} {t : Ast}
    (h : callsVariable name (applyStep (stepsOf p done) t) = true) :
    callsVariable name t = true := by
  obtain ⟨k, l, parts⟩ := t
  rw [applyStep_node] at h
  obtain ⟨o, q, c, l, callee', rest', hnode, hkind⟩ := callsVariable_iff.mp h
  obtain ⟨rfl, rfl, hchanged⟩ := Ast.node.inj hnode
  cases parts with
  | nil =>
    rw [List.map_nil, changed_of_not_touched p done rfl] at hchanged
    cases hchanged
  | cons callee rest =>
    rw [List.map_cons, changed_call] at hchanged
    obtain ⟨rfl, -⟩ := List.cons.inj hchanged
    have hf := gentle_applyStep p done
    have hcallee : (if .storage ∈ done then
        (secureCallee? p (applyStep (stepsOf p done) callee)).getD
          (applyStep (stepsOf p done) callee)
        else applyStep (stepsOf p done) callee).kind = callee.kind := by
      split
      · rw [hf.secureCallee?]
        cases hsecure : secureCallee? p callee with
        | none => exact hf.kind callee
        | some secure => exact (hf.kind secure).trans (kind_secureCallee hsecure)
      · exact hf.kind callee
    exact callsVariable_iff.mpr ⟨o, q, c, _, callee, rest, rfl, hcallee.symm.trans hkind⟩

/-- The steps leave alone what they read. -/
theorem calm_applyStep : Calm (applyStep (stepsOf p done)) := by
  have hgentle := gentle_applyStep p done
  have hcall {name : String} {k : Kind} {l : List Comment} {parts : List Ast}
      (h : callsVariable name (.node k l parts) = true) :
      applyStep (stepsOf p done) (.node k l parts) =
        .node k l (parts.map (applyStep (stepsOf p done))) :=
    applyStep_of_none p done (stepsOf_of_callsVariable (callsVariable_map hgentle h))
  refine ⟨hgentle, fun name t => ?_, hcall⟩
  obtain ⟨k, l, parts⟩ := t
  cases h : callsVariable name (.node k l parts) with
  | true => rw [hcall h, callsVariable_map hgentle h]
  | false =>
    refine Bool.eq_false_iff.mpr fun happlied => ?_
    rw [callsVariable_of_applyStep p done happlied] at h
    cases h

variable {p done}

theorem changed_changed {a : SweepPart} (ha : a ∉ done) (k : Kind) (parts : List Ast) :
    changed (stepsOf p [a]) k (changed (stepsOf p done) k parts) =
      changed (stepsOf p (a :: done)) k parts := by
  by_cases hk : partFor? k = some a
  · have hdone : changed (stepsOf p done) k parts = parts := by
      refine changed_eq_self (stepsOf_eq_none (fun b hb hb' => ha ?_) parts)
      rw [hk] at hb'
      exact Option.some.inj hb' ▸ hb
    unfold changed at hdone ⊢
    rw [hdone, stepsOf_of_mem hk List.mem_cons_self, stepsOf_of_mem hk List.mem_cons_self]
  · rw [changed_eq_self (stepsOf_eq_none (by simpa using hk) _)]
    unfold changed stepsOf
    cases h : partFor? k with
    | none => rfl
    | some b =>
      have hba : b ≠ a := by
        rintro rfl
        exact hk h
      simp [hba]

/-- The steps of one part after those of others are the steps of all of them. -/
theorem applyStep_applyStep {a : SweepPart} (ha : a ∉ done) {t : Ast} (hwell : t.WellFormed) :
    applyStep (stepsOf p [a]) (applyStep (stepsOf p done) t) =
      applyStep (stepsOf p (a :: done)) t := by
  have hfirst := calm_applyStep p done
  have hboth := (calm_applyStep p [a]).comp hfirst
  induction t using Ast.induct with
  | node k l parts ih =>
    obtain ⟨hshaped, hparts⟩ := Ast.wellFormed_node.mp hwell
    have hmap : parts.map (applyStep (stepsOf p [a]) ∘ applyStep (stepsOf p done)) =
        parts.map (applyStep (stepsOf p (a :: done))) :=
      List.map_congr_left fun t ht => ih t ht (hparts t ht)
    -- A step commutes with the maps, so that the one of `done` can be made after both.
    have hchanged := (isNatural_stepsOf p done).changed hfirst hshaped.1
    have hchanged' := (isNatural_stepsOf p done).changed hboth hshaped.1
    rw [applyStep_node, applyStep_node, applyStep_node, hchanged, List.map_map, ← hchanged', hmap,
      changed_changed ha]

end Trees

/-! ## Runs of a sweep -/

/-- The step has no reason to stop at the node. -/
def isClear (step : Step) (n : Ast) : Bool := ((step n.kind n.parts).bind (·.2)).isNone

section Runs

variable {step : Step}

theorem run_sweepAll_cons (t : Ast) (rest : List Ast) (s : SweepState) :
    (sweepAll step (t :: rest)).run s =
      (((sweep step t).run s).1 :: ((sweepAll step rest).run ((sweep step t).run s).2).1,
        ((sweepAll step rest).run ((sweep step t).run s).2).2) := rfl

/-- A sweep of a node, as an equation without the state monad. -/
theorem run_sweep_node (k : Kind) (l : List Comment) (parts : List Ast) {s : SweepState}
    (hs : s.breach = none) :
    (sweep step (.node k l parts)).run s =
      match step k parts with
      | none => (.node k l ((sweepAll step parts).run s).1, ((sweepAll step parts).run s).2)
      | some (stopped, some b) => (.node k l stopped, { s with breach := some b })
      | some (_, none) =>
        (.node k l (changed step k ((sweepAll step parts).run { s with count := s.count + 1 }).1),
          ((sweepAll step parts).run { s with count := s.count + 1 }).2) := by
  obtain ⟨count, breach⟩ := s
  obtain rfl : breach = none := hs
  unfold sweep
  rcases step k parts with _ | ⟨stopped, _ | b⟩ <;> rfl

theorem run_sweep_of_breach (k : Kind) (l : List Comment) (parts : List Ast) (count : Nat)
    (b : Breach) :
    (sweep step (.node k l parts)).run ⟨count, some b⟩ = (.node k l parts, ⟨count, some b⟩) := by
  unfold sweep
  rfl

theorem run_sweepAll_of_clear {parts : List Ast}
    (h : ∀ t ∈ parts, ∀ s : SweepState, s.breach = none →
      ∃ count, (sweep step t).run s = (applyStep step t, ⟨count, none⟩))
    {s : SweepState} (hs : s.breach = none) :
    ∃ count, (sweepAll step parts).run s = (parts.map (applyStep step), ⟨count, none⟩) := by
  induction parts generalizing s with
  | nil =>
    obtain ⟨count, breach⟩ := s
    obtain rfl : breach = none := hs
    exact ⟨count, rfl⟩
  | cons t rest ih =>
    obtain ⟨_, hfirst⟩ := h t List.mem_cons_self s hs
    obtain ⟨count, hrest⟩ := ih (fun t ht => h t (List.mem_cons_of_mem _ ht)) (s := ⟨_, none⟩) rfl
    refine ⟨count, ?_⟩
    rw [run_sweepAll_cons, hfirst, hrest]
    rfl

/-- A sweep that starts without a breach and has no reason to stop gives the tree after the step. -/
theorem run_sweep_of_clear
    (hstep : ∀ k parts, (step k (parts.map (applyStep step))).isSome = (step k parts).isSome)
    {t : Ast} (h : t.All fun n => isClear step n = true) {s : SweepState} (hs : s.breach = none) :
    ∃ count, (sweep step t).run s = (applyStep step t, ⟨count, none⟩) := by
  induction t using Ast.induct generalizing s with
  | node k l parts ih =>
    obtain ⟨hroot, hparts⟩ := Ast.all_node.mp h
    have hall (s : SweepState) (hs : s.breach = none) :=
      run_sweepAll_of_clear (fun t ht s hs => ih t ht (hparts t ht) (s := s) hs) hs
    rw [applyStep_node, run_sweep_node k l parts hs]
    rcases hfits : step k parts with _ | ⟨stopped, _ | b⟩
    · have hnone : step k (parts.map (applyStep step)) = none := by
        rw [← Option.isNone_iff_eq_none, ← Option.not_isSome, hstep, hfits]
        rfl
      obtain ⟨count, hrun⟩ := hall s hs
      exact ⟨count, by simp only [hrun, changed_eq_self hnone]⟩
    · obtain ⟨count, hrun⟩ := hall { s with count := s.count + 1 } hs
      exact ⟨count, by simp only [hrun]⟩
    · simp [isClear, Ast.kind, Ast.parts, hfits] at hroot

theorem clear_of_run_sweepAll {parts : List Ast}
    (h : ∀ t ∈ parts, ∀ s : SweepState, ((sweep step t).run s).2.breach = none →
      s.breach = none ∧ t.All fun n => isClear step n = true)
    {s : SweepState} (hs : ((sweepAll step parts).run s).2.breach = none) :
    s.breach = none ∧ ∀ t ∈ parts, t.All fun n => isClear step n = true := by
  induction parts generalizing s with
  | nil => exact ⟨hs, nofun⟩
  | cons t rest ih =>
    rw [run_sweepAll_cons] at hs
    obtain ⟨hmid, hrest⟩ := ih (fun t ht => h t (List.mem_cons_of_mem _ ht)) hs
    obtain ⟨hstart, ht⟩ := h t List.mem_cons_self s hmid
    exact ⟨hstart, List.forall_mem_cons.mpr ⟨ht, hrest⟩⟩

/-- A sweep that ends without a breach had no reason to stop. -/
theorem clear_of_run_sweep {t : Ast} {s : SweepState}
    (h : ((sweep step t).run s).2.breach = none) :
    s.breach = none ∧ t.All fun n => isClear step n = true := by
  induction t using Ast.induct generalizing s with
  | node k l parts ih =>
    have hall {s : SweepState} (h : ((sweepAll step parts).run s).2.breach = none) :=
      clear_of_run_sweepAll (fun t ht s h => ih t ht (s := s) h) h
    rcases s with ⟨count, _ | b⟩
    · refine ⟨rfl, ?_⟩
      rw [run_sweep_node k l parts rfl] at h
      rcases hfits : step k parts with _ | ⟨stopped, _ | b⟩
      · rw [hfits] at h
        exact Ast.all_node.mpr ⟨by simp [isClear, Ast.kind, Ast.parts, hfits], (hall h).2⟩
      · rw [hfits] at h
        exact Ast.all_node.mpr ⟨by simp [isClear, Ast.kind, Ast.parts, hfits], (hall h).2⟩
      · rw [hfits] at h
        cases h
    · rw [run_sweep_of_breach] at h
      cases h

theorem sweepPass_apply (step : Step) (t : Ast) : (sweepPass step).apply t =
    match ((sweep step t).run {}).2.breach with
    | none => (.ok ((sweep step t).run {}).2.count, ((sweep step t).run {}).1)
    | some b => (.error (.structural b), ((sweep step t).run {}).1) := by
  unfold sweepPass
  simp only [Pass.apply_bind, Pass.apply_get]
  rcases (sweep step t).run {} with ⟨u, count, _ | b⟩ <;> rfl

/-- A sweep that succeeds had no reason to stop. -/
theorem clear_of_sweepPass {t : Ast} {count : Nat} (h : ((sweepPass step).apply t).1 = .ok count) :
    t.All fun n => isClear step n = true := by
  rw [sweepPass_apply] at h
  split at h
  · next hbreach => exact (clear_of_run_sweep hbreach).2
  · cases h

end Runs

section Parts

variable {p : Profile}

theorem isSome_step_map {f : Ast → Ast} (hf : Calm f) (a : SweepPart) (k : Kind)
    (parts : List Ast) :
    (a.step p k (parts.map f)).isSome = (a.step p k parts).isSome := by
  by_cases hk : k = .element
  · subst hk
    cases a <;> rfl
  · rw [a.isNatural_step p f hf k parts fun h => absurd h hk, Option.isSome_map]

/-- A part of a sweep that has no reason to stop gives the tree after its step. -/
theorem SweepPart.pass_of_clear {a : SweepPart} (ha : a ≠ .imports) {t : Ast}
    (h : t.All fun n => isClear (a.step p) n = true) :
    ∃ count, (a.pass p).apply t = (.ok count, applyStep (stepsOf p [a]) t) := by
  have hcalm := calm_applyStep p [a]
  rw [stepsOf_singleton] at hcalm ⊢
  have hpass : a.pass p = sweepPass (a.step p) := by
    cases a <;> first | rfl | exact absurd rfl ha
  obtain ⟨count, hrun⟩ := run_sweep_of_clear (isSome_step_map hcalm a) h (s := {}) rfl
  refine ⟨count, ?_⟩
  rw [hpass, sweepPass_apply, hrun]

end Parts

end Nativize.Conversion
