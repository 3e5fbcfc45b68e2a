import Nativize.Proofs.Sweep.Refusal
import Nativize.Proofs.Sweep.Steps

/-!
# The parts of a sweep in any order

The steps of a combined sweep look at nodes of different productions, and none changes what another
reads. Main statement: the parts of a sweep give one and the same program in any order, and the
combined sweep gives that program with the calls beneath markup that go to a page routed.
-/

namespace Nativize.Conversion

open Syntax

/-! ## Imports and maps -/

section Imports

variable (p : Profile) {f : Ast → Ast} (hf : Gentle f)

include hf

theorem Gentle.convertStatement? (s : Ast) :
    convertStatement? p (f s) = (Conversion.convertStatement? p s).map f := by
  obtain ⟨k, l, parts⟩ := s
  by_cases hk : ∃ d, k = .importDecl d
  · obtain ⟨d, rfl⟩ := hk
    rw [hf.inert l parts rfl]
    simp only [Conversion.convertStatement?]
    split
    · next d' _ => rw [Option.map_some, hf.inert (k := .importDecl d') l parts rfl]
    · rfl
  · have hnone : Conversion.importOf? (.node k l parts) = none :=
      importOf?_eq_none fun d l parts h => hk ⟨d, (Ast.node.inj h).1⟩
    rw [convertStatement?_of_isNone p hnone,
      convertStatement?_of_isNone p ((hf.importOf? _).trans hnone), Option.map_some]

theorem Gentle.isAcceptable (s : Ast) : isAcceptable p (f s) = Conversion.isAcceptable p s := by
  obtain ⟨k, l, parts⟩ := s
  obtain ⟨l', parts', h⟩ := hf.exists_eq k l parts
  rw [h]
  cases k <;> rfl

/-- To convert the imports of a program and then map it is to map it and then convert them. -/
theorem Gentle.withImportsConverted {t : Ast} (hprogram : t.isProgram = true) :
    withImportsConverted p (f t) = f (Conversion.withImportsConverted p t) := by
  obtain ⟨hashbang, directives, c, l, parts, rfl⟩ := Ast.isProgram_iff.mp hprogram
  rw [Conversion.withImportsConverted, hf.inert l parts rfl, Conversion.withImportsConverted]
  simp only [statements_program, withStatements_program]
  rw [hf.inert (k := .program hashbang directives c) l _ rfl, List.filterMap_map,
    List.map_filterMap]
  exact congrArg (fun g => Ast.node (.program hashbang directives c) l (parts.filterMap g))
    (funext (hf.convertStatement? p))

end Imports

/-! ## Reasons to stop -/

section Clear

variable {p : Profile} {a : SweepPart} {done : List SweepPart}

theorem isClear_of_partFor? {n : Ast} (h : partFor? n.kind ≠ some a) :
    isClear (a.step p) n = true := by
  simp [isClear, step_eq_none h]

/-- There is no reason to stop at a call. -/
theorem isClear_call (o q : Bool) (c l : List Comment) (parts : List Ast) :
    isClear (a.step p) (.node (.call o q c) l parts) = true := by
  cases a with
  | storage =>
    cases parts with
    | nil => rfl
    | cons callee rest =>
      simp only [isClear, Ast.kind, Ast.parts, SweepPart.step, storageStep]
      cases secureCallee? p callee <;> rfl
  | _ => rfl

section Holds

variable {test : Ast → Bool} (hinert : ∀ n, n.kind.isInert = true → test n = true)
  (hcall : ∀ o q c l parts, test (.node (.call o q c) l parts) = true)

include hinert hcall

/-- What holds at inert nodes, at calls and everywhere in the parts of a declarator holds in the
parts of the converted one. -/
theorem all_convertHook? {names : Names} {pattern type value : Ast}
    (h : ∀ t ∈ [pattern, type, value], t.All fun n => test n = true) :
    ∀ t ∈ ((convertHook? names [pattern, type, value]).map (·.1)).getD [pattern, type, value],
      t.All fun n => test n = true := by
  obtain ⟨hpattern, htype, hvalue⟩ : _ ∧ _ ∧ _ := by simpa using h
  unfold convertHook?
  dsimp only
  split
  · next hhook =>
    split
    · obtain ⟨o, q, c, l, callee, rest, rfl, -⟩ := callsVariable_iff.mp hhook
      have hbinding := (Ast.all_node.mp hpattern).2
      have hrest := (List.forall_mem_cons.mp (Ast.all_node.mp hvalue).2).2
      have hleaf : Ast.All (fun n => test n = true) (.leaf (.reference (names .routerHook))) :=
        Ast.all_node.mpr ⟨hinert _ rfl, by simp⟩
      refine List.forall_mem_cons.mpr ⟨Ast.all_node.mpr ⟨hinert _ rfl, hbinding⟩, ?_⟩
      refine List.forall_mem_cons.mpr ⟨htype, List.forall_mem_singleton.mpr ?_⟩
      exact Ast.all_node.mpr ⟨hcall o q c l _, List.forall_mem_cons.mpr ⟨hleaf, hrest⟩⟩
    · exact h
  · exact h

/-- What holds at inert nodes and at calls, and everywhere in the parts of a node after some steps,
holds everywhere in the parts after a step at the node itself. -/
theorem all_changed {k : Kind} {l : List Comment} {parts : List Ast}
    (hwell : Ast.WellFormed (.node k l parts))
    (h : ∀ t ∈ parts, (applyStep (stepsOf p done) t).All fun n => test n = true) :
    ∀ t ∈ changed (stepsOf p done) k (parts.map (applyStep (stepsOf p done))),
      t.All fun n => test n = true := by
  obtain ⟨hshaped, hparts⟩ := Ast.wellFormed_node.mp hwell
  have hf := calm_applyStep p done
  have hmap : ∀ t ∈ parts.map (applyStep (stepsOf p done)), t.All fun n => test n = true := by
    simpa using h
  induction k, parts using touched_cases with
  | element parts =>
    rw [changed_element]
    split
    · rw [hf.toGentle.convertElement p (hshaped.1 rfl)]
      exact all_convertElement hinert hf.toGentle p (hshaped.1 rfl) hparts h
    · exact hmap
  | declarator d pattern type value =>
    rw [changed_declarator]
    split
    · exact all_convertHook? hinert hcall hmap
    · exact hmap
  | call o q c callee rest =>
    rw [List.map_cons, changed_call]
    obtain ⟨hcallee, hrest⟩ := List.forall_mem_cons.mp hmap
    refine List.forall_mem_cons.mpr ⟨?_, hrest⟩
    split
    · rw [hf.toGentle.secureCallee?]
      cases hsecure : secureCallee? p callee with
      | none => exact hcallee
      | some secure =>
        have hsecure := (isInert_secureCallee (hparts callee (by simp)) hsecure).2
        rw [Option.map_some, Option.getD_some, hf.eq_self hsecure]
        exact hsecure.mono hinert
    · exact hcallee
  | other k parts hother =>
    rw [changed_of_not_touched p done ((isTouched_map _ _ _).trans hother)]
    exact hmap

end Holds

/-- Steps of other parts bring no reason to stop. -/
theorem clear_applyStep (ha : a ∉ done) {t : Ast} (hwell : t.WellFormed)
    (h : t.All fun n => isClear (a.step p) n = true) :
    (applyStep (stepsOf p done) t).All fun n => isClear (a.step p) n = true := by
  have hf := calm_applyStep p done
  induction t using Ast.induct with
  | node k l parts ih =>
    obtain ⟨hshaped, hparts⟩ := Ast.wellFormed_node.mp hwell
    obtain ⟨hroot, hclear⟩ := Ast.all_node.mp h
    rw [applyStep_node]
    refine Ast.all_node.mpr ⟨?_, all_changed (fun n hn => isClear_of_partFor? ?_) isClear_call hwell
      fun t ht => ih t ht (hparts t ht) (hclear t ht)⟩
    · by_cases hk : partFor? k = some a
      · rw [changed_eq_self (stepsOf_eq_none (by grind) _)]
        unfold isClear at hroot ⊢
        simp only [Ast.kind, Ast.parts] at hroot ⊢
        rw [a.isNatural_step p _ hf k parts hshaped.1]
        cases hstep : a.step p k parts <;> simp_all
      · exact isClear_of_partFor? hk
    · simp [partFor?_of_isInert hn]

/-- A conversion of imports brings no reason to stop. -/
theorem clear_withImportsConverted {t : Ast} (hwell : t.WellFormed) (hprogram : t.isProgram = true)
    (h : t.All fun n => isClear (a.step p) n = true) :
    (withImportsConverted p t).All fun n => isClear (a.step p) n = true := by
  have hadditive : Additive fun t => t.nodes.filter fun n => !isClear (a.step p) n :=
    additiveOn_filter fun n hn => by
      simp [isClear_of_partFor? (p := p) (a := a) (n := n) (by simp [partFor?_of_isInert hn])]
  have hall (t : Ast) : (t.All fun n => isClear (a.step p) n = true) ↔
      (t.nodes.filter fun n => !isClear (a.step p) n) = [] := by
    simp [Ast.All, List.filter_eq_nil_iff]
  rw [hall] at h ⊢
  rw [← h]
  exact hadditive.onFrames.withImportsConverted p hwell hprogram

end Clear

/-! ## Parts one after another -/

/-- The program after some parts of a sweep, in whatever order. -/
def afterParts (p : Profile) (done : List SweepPart) (t : Ast) : Ast :=
  applyStep (stepsOf p done) (if .imports ∈ done then withImportsConverted p t else t)

section Order

variable {p : Profile} {t : Ast}

theorem afterParts_nil (p : Profile) (t : Ast) : afterParts p [] t = t := by
  unfold afterParts
  rw [if_neg (List.not_mem_nil)]
  induction t using Ast.induct with
  | node k l parts ih =>
    rw [applyStep_node, changed_eq_self (stepsOf_eq_none (by simp) _), List.map_congr_left ih,
      List.map_id']

theorem afterParts_congr {done done' : List SweepPart} (h : ∀ a, a ∈ done ↔ a ∈ done') :
    afterParts p done t = afterParts p done' t := by
  simp only [afterParts, stepsOf_congr h, h]

theorem stepsOf_cons_imports (p : Profile) (done : List SweepPart) :
    stepsOf p (.imports :: done) = stepsOf p done := by
  funext k parts
  unfold stepsOf
  cases partFor? k with
  | none => rfl
  | some a => cases a <;> simp [SweepPart.step]

variable (hwell : t.WellFormed) (hprogram : t.isProgram = true)
  (himports : ∀ s ∈ statements t, isAcceptable p s)
  (hclear : ∀ a : SweepPart, t.All fun n => isClear (a.step p) n = true)

include hwell hprogram himports hclear

/-- A part that is still to be done succeeds, and adds itself to what is done. -/
theorem pass_afterParts {a : SweepPart} {done : List SweepPart} (ha : a ∉ done) :
    ∃ count, (a.pass p).apply (afterParts p done t) = (.ok count, afterParts p (a :: done) t) := by
  have hf := (calm_applyStep p done).toGentle
  by_cases hkind : a = .imports
  · subst hkind
    have hacceptable : ∀ s ∈ statements (applyStep (stepsOf p done) t), isAcceptable p s := by
      obtain ⟨hashbang, directives, c, l, parts, rfl⟩ := Ast.isProgram_iff.mp hprogram
      rw [hf.inert l parts rfl]
      intro s' hs'
      obtain ⟨s, hs, rfl⟩ := List.mem_map.mp hs'
      rw [hf.isAcceptable]
      exact himports s hs
    obtain ⟨removed, happly⟩ := convertImports_apply hacceptable
    refine ⟨removed, ?_⟩
    unfold afterParts
    rw [if_neg ha, if_pos List.mem_cons_self, stepsOf_cons_imports,
      ← hf.withImportsConverted p hprogram]
    exact happly
  · have hmem : .imports ∈ a :: done ↔ .imports ∈ done := by
      simp [Ne.symm hkind]
    unfold afterParts
    simp only [hmem]
    generalize hu : (if .imports ∈ done then withImportsConverted p t else t) = u
    have huwell : u.WellFormed := by
      rw [← hu]
      split
      · exact wellFormed_withImportsConverted p hwell
      · exact hwell
    have huclear : u.All fun n => isClear (a.step p) n = true := by
      rw [← hu]
      split
      · exact clear_withImportsConverted hwell hprogram (hclear a)
      · exact hclear a
    obtain ⟨count, happly⟩ := SweepPart.pass_of_clear hkind (clear_applyStep ha huwell huclear)
    exact ⟨count, by rw [happly, applyStep_applyStep ha huwell]⟩

/-- Parts that are still to be done succeed one after another. -/
theorem mapM_afterParts {order : List SweepPart} (hnodup : order.Nodup) (done : List SweepPart)
    (hdone : ∀ a ∈ order, a ∉ done) :
    ∃ counts, (order.mapM (SweepPart.pass p)).apply (afterParts p done t) =
      (.ok counts, afterParts p (order.reverse ++ done) t) := by
  induction order generalizing done with
  | nil => exact ⟨[], rfl⟩
  | cons a rest ih =>
    obtain ⟨harest, hrest⟩ := List.nodup_cons.mp hnodup
    obtain ⟨count, happly⟩ :=
      pass_afterParts hwell hprogram himports hclear (hdone a List.mem_cons_self)
    obtain ⟨counts, hcounts⟩ := ih hrest (a :: done) (by grind)
    refine ⟨count :: counts, ?_⟩
    rw [List.mapM_cons]
    simp only [Pass.apply_bind, happly, hcounts, Pass.apply_pure, List.reverse_cons,
      List.append_assoc, List.singleton_append]

/-- All parts succeed in any order, with one and the same result. -/
theorem mapM_of_perm {order : List SweepPart} (horder : order.Perm SweepPart.all) :
    ∃ counts, (order.mapM (SweepPart.pass p)).apply t =
      (.ok counts, afterParts p SweepPart.all t) := by
  have hnodup : order.Nodup := horder.nodup_iff.mpr (by decide)
  obtain ⟨counts, happly⟩ := mapM_afterParts hwell hprogram himports hclear hnodup [] (by simp)
  refine ⟨counts, ?_⟩
  rw [afterParts_nil] at happly
  have hsame (a : SweepPart) : a ∈ order.reverse ++ [] ↔ a ∈ SweepPart.all := by
    simp [horder.mem_iff]
  rw [happly, afterParts_congr hsame]

end Order

/-! ## Calls beneath markup -/

mutual

/-- The tree in which the calls of a variable that stand beneath an element call something else. -/
def routeCalls (name : String) (callee : Ast) (inMarkup : Bool) : Ast → Ast
  | .node .element l parts => .node .element l (routeCallsIn name callee true parts)
  | .node k l parts =>
    let parts' := routeCallsIn name callee inMarkup parts
    .node k l
      (if inMarkup && callsVariable name (.node k l parts) then callee :: parts'.tail else parts')

def routeCallsIn (name : String) (callee : Ast) (inMarkup : Bool) : List Ast → List Ast
  | [] => []
  | t :: rest => routeCalls name callee inMarkup t :: routeCallsIn name callee inMarkup rest

end

section RouteCalls

variable (name : String) (callee : Ast) (m : Bool)

theorem routeCallsIn_eq_map (parts : List Ast) :
    routeCallsIn name callee m parts = parts.map (routeCalls name callee m) := by
  induction parts with
  | nil => rfl
  | cons t rest ih => simp [routeCallsIn, ih]

theorem routeCalls_element (l : List Comment) (parts : List Ast) :
    routeCalls name callee m (.node .element l parts) =
      .node .element l (parts.map (routeCalls name callee true)) := by
  rw [routeCalls, routeCallsIn_eq_map]

theorem routeCalls_of_ne {k : Kind} (hk : k ≠ .element) (l : List Comment) (parts : List Ast) :
    routeCalls name callee m (.node k l parts) =
      .node k l
        (if m && callsVariable name (.node k l parts) then
          callee :: (parts.map (routeCalls name callee m)).tail
        else parts.map (routeCalls name callee m)) := by
  rw [← routeCallsIn_eq_map]
  cases k <;> first | exact absurd rfl hk | rfl

theorem routeCalls_other {k : Kind} (hk : k ≠ .element) {l : List Comment} {parts : List Ast}
    (h : ∀ n, callsVariable n (.node k l parts) = false) :
    routeCalls name callee m (.node k l parts) =
      .node k l (parts.map (routeCalls name callee m)) := by
  rw [routeCalls_of_ne name callee m hk, h, Bool.and_false]
  rfl

theorem routeCalls_call (names : Names) (o q : Bool) (c l : List Comment) (f : Ast)
    (rest : List Ast) :
    routeCalls (names .navigateMember) callee m (.node (.call o q c) l (f :: rest)) =
      .node (.call o q c) l
        ((if isNavigation names [] m f then callee
          else routeCalls (names .navigateMember) callee m f) ::
          rest.map (routeCalls (names .navigateMember) callee m)) := by
  have hcalls : (m && callsVariable (names .navigateMember) (.node (.call o q c) l (f :: rest))) =
      isNavigation names [] m f := by
    obtain ⟨k, fl, fp⟩ := f
    cases k <;> simp [callsVariable, isNavigation]
  rw [routeCalls_of_ne _ callee m (by simp), hcalls]
  split <;> rfl

theorem callsVariable_of_kind {k : Kind} (h : ∀ o q c, k ≠ .call o q c) (name : String)
    (l : List Comment) (parts : List Ast) : callsVariable name (.node k l parts) = false := by
  cases k <;> first | rfl | exact absurd rfl (h _ _ _)

theorem gentle_routeCalls : Gentle (routeCalls name callee m) where
  kind t := by
    unfold routeCalls
    split <;> rfl
  inert {k} l parts h :=
    routeCalls_other name callee m (fun hk => by cases hk; cases h)
      fun n => callsVariable_of_kind (fun o q c hk => by cases hk; cases h) n l parts

end RouteCalls

section Combined

variable {p : Profile}

/-- The hook step does not stop at a declarator that is clear. -/
theorem exists_binding_of_clear {d : Bool} {l : List Comment} {pattern type value : Ast}
    (h : isClear (hookStep p) (.node (.declarator d) l [pattern, type, value]) = true)
    (hhook : callsVariable (p.names .navigationHook) value = true) :
    ∃ name bl bp, pattern = .node (.binding name) bl bp := by
  simp only [isClear, Ast.kind, Ast.parts, hookStep, convertHook?, hhook, if_true] at h
  split at h
  · exact ⟨_, _, _, rfl⟩
  · cases h

theorem Gentle.isNavigation {f : Ast → Ast} (hf : Gentle f) (names : Names) (aliases : List String)
    (m : Bool) (t : Ast) :
    isNavigation names aliases m (f t) = Conversion.isNavigation names aliases m t := by
  obtain ⟨k, l, parts⟩ := t
  obtain ⟨l', parts', h⟩ := hf.exists_eq k l parts
  rw [h]
  cases k <;> rfl

/-- The callee after a combined sweep, from what the parts make of it. -/
theorem convertedCallee_eq_routeCalls (m : Bool) {callee : Ast} (hwell : callee.WellFormed) :
    convertedCallee p ⟨[], m, none⟩ callee
        (routeCalls (p.names .navigateMember) (routeCallee p.names) m
          (applyStep (stepsOf p SweepPart.all) callee)) =
      (let swept := ((secureCallee? p callee).map (applyStep (stepsOf p SweepPart.all))).getD
        (applyStep (stepsOf p SweepPart.all) callee)
      if isNavigation p.names [] m swept then routeCallee p.names
      else routeCalls (p.names .navigateMember) (routeCallee p.names) m swept) := by
  have hf := (calm_applyStep p SweepPart.all).toGentle
  unfold convertedCallee
  dsimp only
  cases hrole : callRole p ⟨[], m, none⟩ callee with
  | storage secure =>
    have hsome := callRole_eq_storage_iff.mp hrole
    have hsecure := (isInert_secureCallee hwell hsome).2
    have hmember : Conversion.isNavigation p.names [] m secure = false := by
      obtain ⟨method, optional, l, ol, parts, -, -, rfl⟩ := secureCallee?_eq_some_iff.mp hsome
      rfl
    simp [hsome, hf.eq_self hsecure, hmember,
      (gentle_routeCalls (p.names .navigateMember) (routeCallee p.names) m).eq_self hsecure]
  | navigation =>
    obtain ⟨hnone, hnavigation⟩ := callRole_eq_navigation_iff.mp hrole
    simp [hnone, hf.isNavigation, hnavigation]
  | other =>
    obtain ⟨hnone, hnavigation⟩ := callRole_eq_other_iff.mp hrole
    simp [hnone, hf.isNavigation, hnavigation]

theorem convertedCallee_replaced (m : Bool) (name : String) (callee swept : Ast) :
    convertedCallee p ⟨[], m, some name⟩ callee swept =
      if isNavigation p.names [] m (.leaf (.reference name)) then routeCallee p.names
      else .leaf (.reference name) := by
  have hnone : secureCallee? p (.leaf (.reference name)) = none := rfl
  unfold convertedCallee callRole
  dsimp only
  rw [hnone]
  cases isNavigation p.names [] m (.leaf (.reference name)) <;> rfl

/-- A combined sweep without aliases is the sweep of all parts, and the calls beneath markup. A call
of the hook is looked at after its callee was replaced. -/
theorem rewrite_eq_routeCalls {t : Ast} (hwell : t.WellFormed)
    (hclear : t.All fun n => isClear (hookStep p) n = true) (m : Bool) :
    rewrite p ⟨[], m, none⟩ t =
        routeCalls (p.names .navigateMember) (routeCallee p.names) m
          (applyStep (stepsOf p SweepPart.all) t) ∧
      (callsVariable (p.names .navigationHook) t = true →
        rewrite p ⟨[], m, some (p.names .routerHook)⟩ t =
          routeCalls (p.names .navigateMember) (routeCallee p.names) m
          (withCallee (.leaf (.reference (p.names .routerHook)))
            (applyStep (stepsOf p SweepPart.all) t))) := by
  have hf := calm_applyStep p SweepPart.all
  have hg (m : Bool) := gentle_routeCalls (p.names .navigateMember) (routeCallee p.names) m
  induction t using Ast.induct generalizing m with
  | node k l parts ih =>
    obtain ⟨hshaped, hparts⟩ := Ast.wellFormed_node.mp hwell
    obtain ⟨hroot, hclear⟩ := Ast.all_node.mp hclear
    have hpart (m : Bool) : ∀ t ∈ parts, rewrite p ⟨[], m, none⟩ t =
        (routeCalls (p.names .navigateMember) (routeCallee p.names) m ∘
          applyStep (stepsOf p SweepPart.all)) t :=
      fun t ht => (ih t ht (hparts t ht) (hclear t ht) m).1
    induction k, parts using touched_cases with
    | element parts =>
      refine ⟨?_, nofun⟩
      have helement := hshaped.1 rfl
      rw [rewrite_element, List.map_congr_left (hpart true), applyStep_node, changed_element,
        if_pos (SweepPart.mem_all .elements), routeCalls_element,
        ((hg true).comp hf.toGentle).convertElement p helement,
        hf.toGentle.convertElement p helement, List.map_map]
    | declarator d pattern type value =>
      refine ⟨?_, nofun⟩
      have hpattern := hpart m pattern (by simp)
      have htype := hpart m type (by simp)
      have hvalue := hpart m value (by simp)
      rw [rewrite, applyStep_node, changed_declarator, if_pos (SweepPart.mem_all .hooks),
        routeCalls_other _ _ m (by simp) fun name => callsVariable_of_kind (by simp) name l _]
      by_cases hhook : callsVariable (p.names .navigationHook) value = true
      · obtain ⟨name, bl, bp, rfl⟩ := exists_binding_of_clear hroot hhook
        obtain rfl : bp = [] := (hparts _ List.mem_cons_self).root.2 rfl
        have hrouter :=
          (ih value (by simp) (hparts value (by simp)) (hclear value (by simp)) m).2 hhook
        have hbinding (name : String) : applyStep (stepsOf p SweepPart.all)
            (.node (.binding name) bl []) = .node (.binding name) bl [] := hf.inert bl [] rfl
        have hrouted :
            routeCalls (p.names .navigateMember) (routeCallee p.names) m
              (.node (.binding (p.names .routerBinding)) bl []) =
            .node (.binding (p.names .routerBinding)) bl [] := (hg m).inert bl [] rfl
        simp only [List.map_cons, List.map_nil, convertHook?, hf.callsVariable, hhook, if_true,
          hbinding, Option.map_some, Option.getD_some, hrouted, ← hrouter, routerPattern, htype,
          Function.comp]
      · simp only [List.map_cons, List.map_nil, convertHook?, hf.callsVariable, hhook, hpattern,
          htype, hvalue, Function.comp]
        rfl
    | call o q c callee rest =>
      have hcallee := hpart m callee (by simp)
      have hrest : rest.map (rewrite p ⟨[], m, none⟩) =
          (rest.map (applyStep (stepsOf p SweepPart.all))).map
            (routeCalls (p.names .navigateMember) (routeCallee p.names) m) := by
        rw [List.map_map]
        exact List.map_congr_left fun t ht => hpart m t (List.mem_cons_of_mem _ ht)
      constructor
      · rw [rewrite_call, applyStep_node, List.map_cons, changed_call,
          if_pos (SweepPart.mem_all .storage), hf.toGentle.secureCallee?, routeCalls_call,
          hrest, hcallee]
        exact congrArg (fun callee => Ast.node _ l (callee :: _))
          (convertedCallee_eq_routeCalls m (hparts callee (by simp)))
      · intro hhook
        have hleaf :
            routeCalls (p.names .navigateMember) (routeCallee p.names) m
              (.leaf (.reference (p.names .routerHook))) =
            .leaf (.reference (p.names .routerHook)) := (hg m).inert [] [] rfl
        rw [rewrite_call, hf.call hhook, List.map_cons, withCallee, routeCalls_call, hrest, hleaf]
        exact congrArg (fun callee => Ast.node _ l (callee :: _)) (convertedCallee_replaced m _ _ _)
    | other k parts h =>
      have hother : ∀ name, callsVariable name (.node k l parts) = false :=
        fun name => by simpa using callsVariable_of_not_touched name h l
      refine ⟨?_, fun hhook => by simp [hother] at hhook⟩
      have htouched := (isTouched_map k (applyStep (stepsOf p SweepPart.all)) parts).trans h
      have helement : k ≠ .element := by
        rintro rfl
        cases h
      have hinside : Surroundings.inside ⟨[], m, none⟩ (p.names .navigationHook) (.node k l parts) =
          ⟨[], m, none⟩ := rfl
      rw [rewrite_other p _ l h, hinside, List.map_congr_left (hpart m), applyStep_node,
        changed_of_not_touched p _ htouched, routeCalls_other _ _ m helement
          fun name => by simpa using callsVariable_of_not_touched name htouched l, List.map_map]

theorem not_offends_of_clear {n : Ast} {b : Breach}
    (h : ∀ a : SweepPart, isClear (a.step p) n = true) : ¬Offends p n b := by
  intro hoffends
  obtain ⟨k, l, parts⟩ := n
  induction k, parts using touched_cases with
  | element parts =>
    have hclear := h .elements
    simp [isClear, Ast.kind, Ast.parts, SweepPart.step, elementStep,
      offends_element_iff.mp hoffends] at hclear
  | declarator d pattern type value =>
    obtain ⟨hhook, hpattern, -⟩ := offends_declarator_iff.mp hoffends
    obtain ⟨name, bl, bp, rfl⟩ := exists_binding_of_clear (h .hooks) hhook
    exact hpattern name rfl
  | call o q c callee rest => exact not_offends_call hoffends
  | other k parts hother => exact not_offends_of_not_touched hother hoffends

theorem not_isUnbound_of_isAcceptable {parts : List Ast} (h : ∀ s ∈ parts, isAcceptable p s)
    {d : ImportDecl} (hd : d ∈ parts.filterMap importOf?) : ¬IsUnbound p d := by
  obtain ⟨action, haction⟩ := exists_action_of_isAcceptable h hd
  exact not_isUnbound_of_refusal? (by simp [refusal?, haction])

/-- Where no part has a reason to stop, the combined sweep has none either. -/
theorem combinedSweep_of_clear {t : Ast} (hwell : t.WellFormed) (hprogram : t.isProgram = true)
    (himports : ∀ s ∈ statements t, isAcceptable p s)
    (hclear : ∀ a : SweepPart, t.All fun n => isClear (a.step p) n = true) :
    ∃ tally, (combinedSweep p []).apply t =
      (.ok tally, routeCalls (p.names .navigateMember) (routeCallee p.names) false
        (afterParts p SweepPart.all t)) := by
  rcases combinedSweep_cases p [] hwell hprogram with
    ⟨b, u, -, hstops⟩ | ⟨⟨tally, u, happly⟩, -, -⟩
  · rcases hstops with ⟨before, d, after, hsplit, -, hd, -⟩ |
      ⟨-, before, n, after, -, -, hsplit, -, hn, -⟩
    · exact absurd hd (not_isUnbound_of_isAcceptable himports (by simp [hsplit]))
    · have hvisited : n ∈ visited t := by simp [hsplit]
      exact absurd hn (not_offends_of_clear fun a => hclear a n (List.mem_filter.mp hvisited).1)
  · obtain ⟨-, -, rfl⟩ := combinedSweep_ok hwell happly
    refine ⟨tally, ?_⟩
    rw [happly, afterParts, if_pos (SweepPart.mem_all .imports)]
    exact congrArg (Prod.mk _) (rewrite_eq_routeCalls (wellFormed_withImportsConverted p hwell)
      (clear_withImportsConverted (a := .hooks) hwell hprogram (hclear .hooks)) false).1

end Combined

/-- The parts of a sweep that all accept a program turn it into one and the same program in any
order, and the combined sweep without aliases turns it into that program in which the calls beneath
markup of the variable that goes to a page call the router's member of that name. -/
theorem sweepParts_in_any_order {p : Profile} {source : List Char} {t : Ast}
    (hparse : parseProgram source = some t)
    (hparts : ∀ a : SweepPart, ∃ count, ((a.pass p).apply t).1 = .ok count) :
    ∃ u, (∀ order : List SweepPart, order.Perm SweepPart.all →
        ∃ counts, (order.mapM (SweepPart.pass p)).apply t = (.ok counts, u)) ∧
      ∃ callee tally, IsMember (p.names .routerBinding) (p.names .navigateMember) callee ∧
        (combinedSweep p []).apply t =
          (.ok tally, routeCalls (p.names .navigateMember) callee false u) := by
  obtain ⟨hwell, hprogram⟩ := parseProgram_wellFormed hparse
  have himports : ∀ s ∈ statements t, isAcceptable p s := by
    obtain ⟨removed, hok⟩ := hparts .imports
    exact (convertImports_ok (Pass.apply_eq_of_ok hok)).1
  have hclear (a : SweepPart) : t.All fun n => isClear (a.step p) n = true := by
    obtain ⟨count, hok⟩ := hparts a
    cases a with
    | imports => exact fun _ _ => rfl
    | elements => exact clear_of_sweepPass hok
    | hooks => exact clear_of_sweepPass hok
    | storage => exact clear_of_sweepPass hok
  obtain ⟨tally, happly⟩ := combinedSweep_of_clear hwell hprogram himports hclear
  exact ⟨afterParts p SweepPart.all t,
    fun order horder => mapM_of_perm hwell hprogram himports hclear horder,
    routeCallee p.names, tally, isMember_routeCallee p.names, happly⟩

/-- A program with markup in a call in markup in a call of the hook. -/
def nestedProgram : List Char :=
  "import './page.css'; import \x7b useNavigate \x7d from 'react-router-dom';".toList ++
  "const go = useNavigate(localStorage.getItem(<div className='a' onClick=\x7b() => ".toList ++
  "navigate(localStorage.getItem('to'), <span>\x7bnavigate('in')\x7d</span>)\x7d />));".toList

theorem sweepParts_in_any_order_nestedProgram : ∃ t, parseProgram nestedProgram = some t ∧
    (∀ a : SweepPart, ∃ count, ((a.pass .default).apply t).1 = .ok count) ∧
    ∃ u, (∀ order : List SweepPart, order.Perm SweepPart.all →
        ∃ counts, (order.mapM (SweepPart.pass .default)).apply t = (.ok counts, u)) ∧
      ∃ callee tally, IsMember "router" "navigate" callee ∧
        (combinedSweep .default []).apply t =
          (.ok tally, routeCalls "navigate" callee false u) := by
  have hrun : ∃ t ∈ parseProgram nestedProgram,
      ((SweepPart.imports.pass .default).apply t).1 = .ok 1 ∧
      ((SweepPart.elements.pass .default).apply t).1 = .ok 2 ∧
      ((SweepPart.hooks.pass .default).apply t).1 = .ok 1 ∧
      ((SweepPart.storage.pass .default).apply t).1 = .ok 2 := by
    decide +kernel
  obtain ⟨t, hparse, himports, helements, hhooks, hstorage⟩ := hrun
  have hparts : ∀ a : SweepPart, ∃ count, ((a.pass .default).apply t).1 = .ok count := by
    rintro (_ | _ | _ | _)
    exacts [⟨1, himports⟩, ⟨2, helements⟩, ⟨1, hhooks⟩, ⟨2, hstorage⟩]
  exact ⟨t, hparse, hparts, sweepParts_in_any_order hparse hparts⟩

end Nativize.Conversion
