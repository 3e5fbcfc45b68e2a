import Mathlib.Data.List.Forall2
import Nativize.Proofs.Sweep.Rewrite
import Nativize.Proofs.Syntax.Parser.Program

/-!
# Which calls a sweep rewrites

Whether a call of a variable goes to a page is a matter of where it stands: of the functions above
it, which may use the name for something else, and of the elements above it. Main statement: the
calls of a program correspond, in the order in which they are written, to those of the swept
program, and a call of a variable is rewritten exactly when it goes to a page by where it stands.
-/

namespace Nativize.Conversion

open Syntax

/-! ## Places in a program -/

/-- A node and what stands above it, from the inside out: each node with the number of the part that
leads down. -/
structure Site where
  node : Ast
  above : List (Ast × Nat)

mutual

/-- The places of the nodes of a tree, each before those of its parts. -/
def sites (above : List (Ast × Nat)) : Ast → List Site
  | .node k l parts => ⟨.node k l parts, above⟩ :: sitesFrom (.node k l parts) above 0 parts

/-- The places in the parts of a node, from the part with the given number on. -/
def sitesFrom (parent : Ast) (above : List (Ast × Nat)) (i : Nat) : List Ast → List Site
  | [] => []
  | t :: rest => sites ((parent, i) :: above) t ++ sitesFrom parent above (i + 1) rest

end

theorem map_node_sitesFrom {parts : List Ast}
    (h : ∀ t ∈ parts, ∀ above, (sites above t).map (·.node) = t.nodes) (parent : Ast)
    (above : List (Ast × Nat)) (i : Nat) :
    (sitesFrom parent above i parts).map (·.node) = parts.flatMap Ast.nodes := by
  induction parts generalizing i with
  | nil => rfl
  | cons t rest ih =>
    have hrest := ih (fun t ht => h t (List.mem_cons_of_mem _ ht)) (i + 1)
    simp [sitesFrom, h t List.mem_cons_self, hrest]

/-- Every node has its place. -/
theorem map_node_sites (above : List (Ast × Nat)) (t : Ast) :
    (sites above t).map (·.node) = t.nodes := by
  induction t using Ast.induct generalizing above with
  | node k l parts ih => simp [sites, Ast.nodes_node, map_node_sitesFrom ih]

/-! ## Names that a function uses for something else -/

/-- A pattern binds a name, at any depth. -/
inductive Binds (name : String) : Ast → Prop
  | binding (l : List Comment) (parts : List Ast) : Binds name (.node (.binding name) l parts)
  | object {l : List Comment} {parts : List Ast} {t : Ast} (ht : t ∈ parts) (h : Binds name t) :
      Binds name (.node .objectPattern l parts)
  | array {l : List Comment} {parts : List Ast} {t : Ast} (ht : t ∈ parts) (h : Binds name t) :
      Binds name (.node .arrayPattern l parts)
  | property {s c : Bool} {l : List Comment} {key value : Ast} (h : Binds name value) :
      Binds name (.node (.patternProperty s c) l [key, value])
  | rest {l : List Comment} {pattern : Ast} {others : List Ast} (h : Binds name pattern) :
      Binds name (.node .rest l (pattern :: others))
  | defaulted {l : List Comment} {pattern : Ast} {others : List Ast} (h : Binds name pattern) :
      Binds name (.node .defaulted l (pattern :: others))

theorem patternBinds_iff (name : String) (t : Ast) : patternBinds name t = true ↔ Binds name t := by
  constructor
  · intro h
    induction t using Ast.induct with
    | node k l parts ih =>
      unfold patternBinds at h
      split at h
      · next heq =>
        cases heq
        obtain rfl : _ = name := by simpa using h
        exact .binding _ _
      · next heq =>
        cases heq
        obtain ⟨t, ht, hbinds⟩ := List.any_eq_true.mp (anyBinds_eq_any name parts ▸ h)
        exact .object ht (ih t ht hbinds)
      · next heq =>
        cases heq
        obtain ⟨t, ht, hbinds⟩ := List.any_eq_true.mp (anyBinds_eq_any name parts ▸ h)
        exact .array ht (ih t ht hbinds)
      · next heq =>
        cases heq
        exact .property (ih _ (by simp) h)
      · next heq =>
        cases heq
        exact .rest (ih _ (by simp) h)
      · next heq =>
        cases heq
        exact .defaulted (ih _ (by simp) h)
      · cases h
  · intro h
    induction h <;> simp_all [patternBinds, anyBinds_eq_any]
    all_goals exact ⟨_, ‹_›, ‹_›⟩

/-- The node is a function with the given parameters and the given body. -/
inductive IsFunction (params : List Ast) (body : Ast) : Ast → Prop
  | function (facts : FunctionFacts) (l pl : List Comment) (name generics result : Ast) :
      IsFunction params body (.node (.functionLike facts) l
        [name, generics, .node .params pl params, result, body])
  | arrow (facts : ArrowFacts) (l pl : List Comment) (generics result : Ast) :
      IsFunction params body (.node (.arrow facts) l
        [generics, .node .params pl params, result, body])

/-- A function uses the name for something else than the result of the hook. -/
inductive Shadows (hook name : String) (function : Ast) : Prop
  /-- The pattern of a parameter binds the name. -/
  | param {params : List Ast} {body : Ast} (hfunction : IsFunction params body function)
      {facts : ParamFacts} {l : List Comment} {decorators pattern type default : Ast}
      (hparam : .node (.param facts) l [decorators, pattern, type, default] ∈ params)
      (hbinds : Binds name pattern)
  /-- A declarator directly in the body binds the name to something else. -/
  | declarator {params : List Ast} {body : Ast} (hfunction : IsFunction params body function)
      {keyword : String} {isDeclare : Bool} {l : List Comment} {items : List Ast}
      (hstatement : .node (.variableDecl keyword isDeclare) l items ∈ body.parts)
      {d : Bool} {dl : List Comment} {pattern type value : Ast}
      (hitem : .node (.declarator d) dl [pattern, type, value] ∈ items)
      (hbinds : Binds name pattern) (hvalue : callsVariable hook value = false)

theorem IsFunction.scope_eq {params : List Ast} {body t : Ast} (h : IsFunction params body t) :
    scope t = (params, body.parts) := by
  cases h <;> rfl

theorem scope_cases (t : Ast) : scope t = ([], []) ∨ ∃ params body, IsFunction params body t := by
  fun_cases scope t with
  | case1 facts l name generics pl params result body => exact .inr ⟨params, body, .function ..⟩
  | case2 facts l generics pl params result body => exact .inr ⟨params, body, .arrow ..⟩
  | case3 => exact .inl rfl

theorem paramBinds_iff {name : String} {t : Ast} : paramBinds name t = true ↔
    ∃ facts l decorators pattern type default,
      t = .node (.param facts) l [decorators, pattern, type, default] ∧ Binds name pattern := by
  constructor
  · intro h
    unfold paramBinds at h
    split at h
    · exact ⟨_, _, _, _, _, _, rfl, (patternBinds_iff _ _).mp h⟩
    · cases h
  · rintro ⟨facts, l, decorators, pattern, type, default, rfl, h⟩
    exact (patternBinds_iff _ _).mpr h

theorem rebinds_iff {hook name : String} {t : Ast} : rebinds hook name t = true ↔
    ∃ d l pattern type value, t = .node (.declarator d) l [pattern, type, value] ∧
      Binds name pattern ∧ callsVariable hook value = false := by
  constructor
  · intro h
    unfold rebinds at h
    split at h
    · rw [Bool.and_eq_true, patternBinds_iff, Bool.not_eq_true'] at h
      exact ⟨_, _, _, _, _, rfl, h⟩
    · cases h
  · rintro ⟨d, l, pattern, type, value, rfl, hbinds, hvalue⟩
    simp [rebinds, (patternBinds_iff _ _).mpr hbinds, hvalue]

theorem mem_declarators {statements : List Ast} {t : Ast} : t ∈ declarators statements ↔
    ∃ keyword isDeclare l items,
      .node (.variableDecl keyword isDeclare) l items ∈ statements ∧ t ∈ items := by
  unfold declarators
  rw [List.mem_flatMap]
  constructor
  · rintro ⟨s, hs, ht⟩
    split at ht
    · exact ⟨_, _, _, _, hs, ht⟩
    · cases ht
  · rintro ⟨keyword, isDeclare, l, items, hs, ht⟩
    exact ⟨_, hs, ht⟩

theorem isShadowedBy_iff {hook name : String} {t : Ast} :
    isShadowedBy hook t name = true ↔ Shadows hook name t := by
  unfold isShadowedBy
  constructor
  · intro h
    rcases scope_cases t with hscope | ⟨params, body, hfunction⟩
    · rw [hscope] at h
      cases h
    · rw [hfunction.scope_eq, Bool.or_eq_true, List.any_eq_true, List.any_eq_true] at h
      rcases h with ⟨t, ht, h⟩ | ⟨t, ht, h⟩
      · obtain ⟨facts, l, decorators, pattern, type, default, rfl, hbinds⟩ := paramBinds_iff.mp h
        exact .param hfunction ht hbinds
      · obtain ⟨d, l, pattern, type, value, rfl, hbinds, hvalue⟩ := rebinds_iff.mp h
        obtain ⟨keyword, isDeclare, l, items, hstatement, hitem⟩ := mem_declarators.mp ht
        exact .declarator hfunction hstatement hitem hbinds hvalue
  · intro h
    cases h with
    | param hfunction hparam hbinds =>
      rw [hfunction.scope_eq, Bool.or_eq_true, List.any_eq_true]
      exact .inl ⟨_, hparam, paramBinds_iff.mpr ⟨_, _, _, _, _, _, rfl, hbinds⟩⟩
    | declarator hfunction hstatement hitem hbinds hvalue =>
      rw [hfunction.scope_eq, Bool.or_eq_true, List.any_eq_true, List.any_eq_true]
      exact .inr ⟨_, mem_declarators.mpr ⟨_, _, _, _, hstatement, hitem⟩,
        rebinds_iff.mpr ⟨_, _, _, _, _, rfl, hbinds, hvalue⟩⟩

/-! ## Calls -/

/-- The sweep stands here, below the given nodes. -/
def surroundings (names : Names) (aliases : List String) (above : List (Ast × Nat)) :
    Surroundings where
  aliases := aliases.filter fun name =>
    above.all fun a => !isShadowedBy (names .navigationHook) a.1 name
  inMarkup := above.any fun a => a.1.kind = .element

namespace Site

/-- A call of the variable goes to a page here: the variable is an alias that no function above uses
for something else, or it has the name of the member and stands inside an element. -/
def Navigates (s : Site) (names : Names) (aliases : List String) (name : String) : Prop :=
  (name ∈ aliases ∧ ∀ a ∈ s.above, ¬Shadows (names .navigationHook) name a.1) ∨
    (name = names .navigateMember ∧ ∃ a ∈ s.above, a.1.kind = .element)

/-- The node is the value of a declarator that calls the hook. -/
def IsHookValue (s : Site) (hook : String) : Prop :=
  ∃ d l pattern type value rest, callsVariable hook value = true ∧
    s.above = (.node (.declarator d) l [pattern, type, value], 2) :: rest

end Site

def isCall : Ast → Bool
  | .node (.call ..) _ _ => true
  | _ => false

/-- The calls in a tree, each before those in its parts. -/
def calls (t : Ast) : List Ast := t.nodes.filter isCall

/-- The places of the calls in a tree. -/
def callSites (above : List (Ast × Nat)) (t : Ast) : List Site :=
  (sites above t).filter fun s => isCall s.node

/-- What becomes of a call of a variable, unless it is that of the hook. Its callee is the member of
the router that goes to a page exactly when the call does, and else the variable. -/
def CallConverted (p : Profile) (aliases : List String) (s : Site) (call : Ast) : Prop :=
  ∀ o q c l name nl np args,
    s.node = .node (.call o q c) l (.node (.reference name) nl np :: args) →
    ¬s.IsHookValue (p.names .navigationHook) →
    ∃ callee, call = .node (.call o q c) l
        (callee :: args.map (rewrite p (surroundings p.names aliases s.above))) ∧
      (IsMember (p.names .routerBinding) (p.names .navigateMember) callee ↔
        s.Navigates p.names aliases name) ∧
      (¬s.Navigates p.names aliases name → callee = .node (.reference name) nl np)

theorem isNavigation_iff (names : Names) (aliases : List String) (s : Site) (name : String)
    (l : List Comment) (parts : List Ast) :
    isNavigation names (surroundings names aliases s.above).aliases
        (surroundings names aliases s.above).inMarkup (.node (.reference name) l parts) = true ↔
      s.Navigates names aliases name := by
  simp only [isNavigation, surroundings, Site.Navigates, Bool.or_eq_true, Bool.and_eq_true,
    List.contains_iff_mem, List.mem_filter, List.all_eq_true, List.any_eq_true, decide_eq_true_eq,
    Bool.not_eq_true', ← isShadowedBy_iff, Bool.not_eq_true]
  rw [and_comm (a := ∃ a ∈ s.above, a.1.kind = .element)]

theorem not_isMember_reference (object member name : String) (l : List Comment) (parts : List Ast) :
    ¬IsMember object member (.node (.reference name) l parts) := by
  rintro ⟨⟩

theorem calls_node (k : Kind) (l : List Comment) (parts : List Ast) :
    calls (.node k l parts) = [Ast.node k l parts].filter isCall ++ parts.flatMap calls :=
  Ast.filter_nodes_node isCall k l parts

theorem additive_calls : Additive calls :=
  additiveOn_filter fun n hn => by
    unfold isCall
    split <;> simp_all [Ast.kind, Kind.isInert]

/-- The places of the calls in the parts of a node, from the part with the given number on. -/
def callSitesFrom (parent : Ast) (above : List (Ast × Nat)) (i : Nat) (parts : List Ast) :
    List Site :=
  (sitesFrom parent above i parts).filter fun s => isCall s.node

theorem callSites_node (above : List (Ast × Nat)) (k : Kind) (l : List Comment) (parts : List Ast) :
    callSites above (.node k l parts) =
      [Site.mk (.node k l parts) above].filter (fun s => isCall s.node) ++
        callSitesFrom (.node k l parts) above 0 parts := by
  rw [callSites, sites, ← List.singleton_append, List.filter_append]
  rfl

@[simp] theorem callSitesFrom_nil (parent : Ast) (above : List (Ast × Nat)) (i : Nat) :
    callSitesFrom parent above i [] = [] := rfl

@[simp] theorem callSitesFrom_cons (parent : Ast) (above : List (Ast × Nat)) (i : Nat) (t : Ast)
    (rest : List Ast) : callSitesFrom parent above i (t :: rest) =
      callSites ((parent, i) :: above) t ++ callSitesFrom parent above (i + 1) rest := by
  simp [callSitesFrom, callSites, sitesFrom]

section Correspondence

variable {relation : Site → Ast → Prop} {parent : Ast} {above : List (Ast × Nat)}

theorem forall₂_callSitesFrom_cons {i : Nat} {t t' : Ast} {rest rest' : List Ast}
    (h : List.Forall₂ relation (callSites ((parent, i) :: above) t) (calls t'))
    (hrest : List.Forall₂ relation (callSitesFrom parent above (i + 1) rest)
      (rest'.flatMap calls)) :
    List.Forall₂ relation (callSitesFrom parent above i (t :: rest))
      ((t' :: rest').flatMap calls) := by
  rw [callSitesFrom_cons, List.flatMap_cons]
  exact List.rel_append h hrest

/-- Parts that correspond one by one correspond together. -/
theorem forall₂_callSitesFrom_map {f : Ast → Ast} {parts : List Ast}
    (h : ∀ t ∈ parts, ∀ i,
      List.Forall₂ relation (callSites ((parent, i) :: above) t) (calls (f t))) (i : Nat) :
    List.Forall₂ relation (callSitesFrom parent above i parts) ((parts.map f).flatMap calls) := by
  induction parts generalizing i with
  | nil => exact .nil
  | cons t rest ih =>
    exact forall₂_callSitesFrom_cons (h t List.mem_cons_self i)
      (ih (fun t ht => h t (List.mem_cons_of_mem _ ht)) (i + 1))

theorem forall₂_callSites_node {k : Kind} {l : List Comment} {parts parts' : List Ast}
    (hnode : isCall (.node k l parts) = true →
      relation ⟨.node k l parts, above⟩ (.node k l parts'))
    (hparts : List.Forall₂ relation (callSitesFrom (.node k l parts) above 0 parts)
      (parts'.flatMap calls)) :
    List.Forall₂ relation (callSites above (.node k l parts)) (calls (.node k l parts')) := by
  have hkind : isCall (.node k l parts') = isCall (.node k l parts) := by cases k <;> rfl
  rw [callSites_node, calls_node]
  refine List.rel_append ?_ hparts
  cases hcall : isCall (.node k l parts) with
  | true =>
    rw [hcall] at hkind
    simp [hcall, hkind, hnode]
  | false =>
    rw [hcall] at hkind
    simp [hcall, hkind]

end Correspondence

section Surroundings

variable (names : Names) (aliases : List String) (above : List (Ast × Nat)) (i : Nat)

theorem surroundings_cons {k : Kind} (hk : k ≠ .element) (l : List Comment) (parts : List Ast) :
    surroundings names aliases ((.node k l parts, i) :: above) =
      (surroundings names aliases above).inside (names .navigationHook) (.node k l parts) := by
  simp [surroundings, Surroundings.inside, hk, Ast.kind, List.filter_filter]

theorem surroundings_cons_element (l : List Comment) (parts : List Ast) :
    surroundings names aliases ((.node .element l parts, i) :: above) =
      { surroundings names aliases above with inMarkup := true } := by
  simp [surroundings, Ast.kind, isShadowedBy_of_not_function (k := .element) rfl]

theorem surroundings_cons_of_not_function {k : Kind} (hk : k ≠ .element)
    (hfunction : k.isFunction = false) (l : List Comment) (parts : List Ast) :
    surroundings names aliases ((.node k l parts, i) :: above) =
      surroundings names aliases above := by
  simp [surroundings, Ast.kind, hk, isShadowedBy_of_not_function hfunction]

end Surroundings

theorem map_node_callSites (above : List (Ast × Nat)) (t : Ast) :
    (callSites above t).map (·.node) = calls t := by
  rw [calls, ← map_node_sites above t, List.filter_map]
  rfl

theorem callSites_eq_nil {t : Ast} (h : IsInert t) (above : List (Ast × Nat)) :
    callSites above t = [] := by
  have hmap := map_node_callSites above t
  rwa [additive_calls.eq_nil h, List.map_eq_nil_iff] at hmap

theorem convertedCallee_reference (p : Profile) {w : Surroundings} (hw : w.callee = none)
    (name : String) (l : List Comment) (parts : List Ast) (swept : Ast) :
    convertedCallee p w (.node (.reference name) l parts) swept =
      if isNavigation p.names w.aliases w.inMarkup (.node (.reference name) l parts)
      then routeCallee p.names else swept := by
  simp only [convertedCallee, hw, callRole, secureCallee?]
  cases isNavigation p.names w.aliases w.inMarkup (.node (.reference name) l parts) <;> rfl

/-- A call of a variable is converted by where it stands. -/
theorem callConverted_node (p : Profile) (aliases : List String) (above : List (Ast × Nat))
    {o q : Bool} {c l : List Comment} {callee : Ast} {rest : List Ast}
    (hwell : callee.WellFormed) :
    CallConverted p aliases ⟨.node (.call o q c) l (callee :: rest), above⟩
      (.node (.call o q c) l
        (convertedCallee p (surroundings p.names aliases above) callee
            (rewrite p (surroundings p.names aliases above) callee) ::
          rest.map (rewrite p (surroundings p.names aliases above)))) := by
  rintro o q c l name nl np args hnode -
  cases hnode
  refine ⟨_, rfl, ?_⟩
  have hswept : rewrite p (surroundings p.names aliases above)
      (.node (.reference name) nl np) = .node (.reference name) nl np :=
    (gentle_rewrite p rfl).eq_self (isInert_leaf rfl rfl hwell.bare)
  rw [hswept, convertedCallee_reference p rfl, ← isNavigation_iff p.names aliases _ name nl np]
  dsimp only
  split
  · next hnavigates => simp [hnavigates, isMember_routeCallee]
  · next hnavigates => simp [hnavigates, not_isMember_reference]

/-- The calls of a tree correspond to those of the swept tree. -/
theorem forall₂_calls_rewrite (p : Profile) (aliases : List String) {t : Ast} (hwell : t.WellFormed)
    (above : List (Ast × Nat)) (c : Option String)
    (hc : c = none ∨ callsVariable (p.names .navigationHook) t = true ∧
      Site.IsHookValue ⟨t, above⟩ (p.names .navigationHook)) :
    List.Forall₂ (CallConverted p aliases) (callSites above t)
      (calls (rewrite p { surroundings p.names aliases above with callee := c } t)) := by
  induction t using Ast.induct generalizing above c with
  | node k l parts ih =>
    obtain ⟨hshaped, hparts⟩ := Ast.wellFormed_node.mp hwell
    have hpart (t : Ast) (ht : t ∈ parts) (above : List (Ast × Nat)) :=
      ih t ht (hparts t ht) above none (.inl rfl)
    induction k, parts using touched_cases with
    | element parts =>
      have hcalls :=
        additive_calls.comp (gentle_rewrite p (w := { surroundings p.names aliases above
        with inMarkup := true, callee := none }) rfl)
      rw [rewrite_elementParts p _ l (hshaped.1 rfl)]
      refine forall₂_callSites_node (by simp [isCall]) ?_
      rw [List.flatMap_map, hcalls.convertElement p (hshaped.1 rfl).hasAttributes
        fun t ht => (hparts t ht).bare, ← List.flatMap_map]
      refine forall₂_callSitesFrom_map (fun t ht i => ?_) 0
      have ht := hpart t ht ((.node .element l parts, i) :: above)
      rwa [surroundings_cons_element] at ht
    | declarator d pattern type value =>
      have hplace (i : Nat) := surroundings_cons_of_not_function p.names aliases above i
        (k := .declarator d) (by simp) rfl l [pattern, type, value]
      have hpattern := hpart pattern (by simp)
        ((.node (.declarator d) l [pattern, type, value], 0) :: above)
      have htype := hpart type (by simp)
        ((.node (.declarator d) l [pattern, type, value], 1) :: above)
      have hvalue (c : Option String) := ih value (by simp) (hparts value (by simp))
        ((.node (.declarator d) l [pattern, type, value], 2) :: above) c
      rw [hplace] at hpattern htype
      simp only [hplace] at hvalue
      rw [rewrite]
      split
      · next hhook =>
        have hvalue := hvalue (some (p.names .routerHook))
          (.inr ⟨hhook, _, _, _, _, _, _, hhook, rfl⟩)
        refine forall₂_callSites_node (by simp [isCall]) (forall₂_callSitesFrom_cons ?_
          (forall₂_callSitesFrom_cons htype (forall₂_callSitesFrom_cons hvalue .nil)))
        rcases routerPattern_cases p (hparts pattern (by simp)) (rewrite p
            { surroundings p.names aliases above with callee := none } pattern) with
          hswept | ⟨hbefore, hafter⟩
        · exact hswept.symm ▸ hpattern
        · rw [callSites_eq_nil hbefore, additive_calls.eq_nil hafter]
          exact .nil
      · exact forall₂_callSites_node (by simp [isCall]) (forall₂_callSitesFrom_cons hpattern
          (forall₂_callSitesFrom_cons htype
            (forall₂_callSitesFrom_cons (hvalue none (.inl rfl)) .nil)))
    | call o q cl callee rest =>
      have hplace (i : Nat) := surroundings_cons_of_not_function p.names aliases above i
        (k := .call o q cl) (by simp) rfl l (callee :: rest)
      have hwellCallee := hparts callee (by simp)
      rw [rewrite_call]
      refine forall₂_callSites_node (fun _ => ?_) (forall₂_callSitesFrom_cons ?_
        (forall₂_callSitesFrom_map (fun t ht i => ?_) 1))
      · rcases hc with rfl | ⟨-, hvalue⟩
        · exact callConverted_node p aliases above hwellCallee
        · exact fun _ _ _ _ _ _ _ _ _ hother => absurd hvalue hother
      · have hinert : c = none ∨ IsInert callee :=
          hc.imp_right fun h => isInert_of_callsVariable hwell h.1
        rcases convertedCallee_cases p { surroundings p.names aliases above with callee := c }
            (rewrite p { surroundings p.names aliases above with callee := none } callee)
            hwellCallee hinert with ⟨-, hswept⟩ | ⟨hbefore, hafter⟩
        · have hcallee := hpart callee (by simp)
            ((.node (.call o q cl) l (callee :: rest), 0) :: above)
          rw [hplace] at hcallee
          exact hswept.symm ▸ hcallee
        · rw [callSites_eq_nil hbefore, additive_calls.eq_nil hafter]
          exact .nil
      · have ht := hpart t (by simp [ht]) ((.node (.call o q cl) l (callee :: rest), i) :: above)
        rwa [hplace] at ht
    | other k parts h =>
      have hk : k ≠ .element := by
        rintro rfl
        cases h
      rw [rewrite_other _ _ _ h]
      refine forall₂_callSites_node (fun _ => ?_) (forall₂_callSitesFrom_map (fun t ht i => ?_) 0)
      · rintro o q c l name nl np args hnode
        cases hnode
        cases h
      · have ht := hpart t ht ((.node k l parts, i) :: above)
        rwa [surroundings_cons _ _ _ _ hk] at ht

theorem calls_combinedSweep {p : Profile} {aliases : List String} {t t' : Ast} {tally : Tally}
    (hwell : t.WellFormed) (hprogram : t.isProgram)
    (h : (combinedSweep p aliases).apply t = (.ok tally, t')) :
    calls t' = calls (rewrite p ⟨aliases, false, none⟩ t) := by
  obtain ⟨-, -, rfl⟩ := combinedSweep_ok hwell h
  have hcalls := additive_calls.comp (gentle_rewrite p (w := ⟨aliases, false, none⟩) rfl)
  exact hcalls.onFrames.withImportsConverted p hwell hprogram

/-- The calls of a program correspond, in the order in which they are written, to those of the swept
program. A call of a variable goes to a page afterwards exactly when it does by where it stands, and
its callee is left alone otherwise. -/
theorem calls_converted_by_place {p : Profile} {source : List Char} {t t' : Ast} {tally : Tally}
    (hparse : parseProgram source = some t)
    (h : (combinedSweep p (navigationAliases p.names t)).apply t = (.ok tally, t')) :
    List.Forall₂ (CallConverted p (navigationAliases p.names t)) (callSites [] t) (calls t') := by
  obtain ⟨hwell, hprogram⟩ := parseProgram_wellFormed hparse
  have hcalls := forall₂_calls_rewrite p (navigationAliases p.names t) hwell [] none (.inl rfl)
  rw [calls_combinedSweep hwell hprogram h]
  simpa [surroundings] using hcalls

/-- A program with an alias that one function uses for something else, a bare name inside and
outside of markup, and a call inside the arguments of another. -/
def shadowedProgram : List Char :=
  ("const go = useNavigate(); function keep(go) \x7b go('/a'); \x7d " ++
    "function App() \x7b navigate('/b'); go(go('/c')); " ++
    "return <div onClick=\x7b() => navigate('/d')\x7d className='box' /> \x7d").toList

theorem calls_converted_in_shadowedProgram : ∃ t tally t', parseProgram shadowedProgram = some t ∧
    (combinedSweep .default (navigationAliases Role.defaultName t)).apply t = (.ok tally, t') ∧
    tally.navigationCalls = 3 ∧
    List.Forall₂ (CallConverted .default (navigationAliases Role.defaultName t)) (callSites [] t)
      (calls t') := by
  have hrun : ∃ t ∈ parseProgram shadowedProgram,
      ((combinedSweep .default (navigationAliases Role.defaultName t)).apply t).1 =
        .ok ⟨0, 1, 1, 3, 0⟩ := by
    decide +kernel
  obtain ⟨t, ht, hok⟩ := hrun
  have h := Pass.apply_eq_of_ok hok
  exact ⟨t, _, _, ht, h, rfl, calls_converted_by_place ht h⟩

end Nativize.Conversion
