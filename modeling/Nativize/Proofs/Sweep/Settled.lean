import Nativize.Proofs.OrderedMap
import Nativize.Proofs.Sweep.Rewrite

/-!
# Settled trees

A tree is settled when there is nothing left in it to convert. Main statements: for a profile that
introduces nothing it converts itself, a sweep without a breach gives a settled tree, and a sweep of
a settled tree changes nothing.
-/

namespace Nativize.Conversion

open Syntax

/-! ## Elements of the platform -/

/-- The attribute has the name. -/
def isAttributeNamed (name : String) : Ast → Bool
  | .node .markupAttribute _ [.node (.markupName n) _ _, _] => n = name
  | _ => false

theorem isAttributeNamed_of_not_named (name : String) {t : Ast} (h : isNamedAttribute t = false) :
    isAttributeNamed name t = false := by
  unfold isAttributeNamed
  split
  · cases h
  · rfl

/-- The parts are those of an element that a conversion leaves as it is. -/
def isPlatformElement (p : Profile) : List Ast → Bool
  | [opening, _, .node .group _ attributes, _, closing] =>
    (p.tables.tagMap.get? (elementText opening)).isNone && (tagMismatch? opening closing).isNone &&
      attributes.all fun a => !isAttributeNamed (p.names .classAttribute) a
  | _ => false

/-- The profile introduces nothing that it converts. -/
structure Separated (p : Profile) : Prop where
  /-- A tag that is mapped is a plain one, and no component is a tag that is mapped. -/
  tag {key target : String} (h : p.tables.tagMap.get? key = some target) :
    Parse.isPlainTag key = true ∧ key ≠ "this" ∧ ':' ∉ key.toList ∧ '.' ∉ key.toList ∧
      p.tables.tagMap.get? target = none
  style : p.names .styleAttribute ≠ p.names .classAttribute
  press : p.names .pressAttribute ≠ p.names .classAttribute
  changeText : p.names .changeTextAttribute ≠ p.names .classAttribute
  hook : p.names .routerHook ≠ p.names .navigationHook
  member : p.names .routerHook ≠ p.names .navigateMember
  store : p.names .secureStoreNamespace ≠ p.names .webStorage
  router : p.names .routerBinding ≠ p.names .webStorage

theorem separated_default : Separated .default where
  tag {key target} h := by
    have hentries : ∀ e ∈ Profile.default.tables.tagMap.entries,
        Parse.isPlainTag e.1 = true ∧ e.1 ≠ "this" ∧ ':' ∉ e.1.toList ∧ '.' ∉ e.1.toList ∧
          Profile.default.tables.tagMap.get? e.2 = none := by
      decide +kernel
    exact hentries _ (OrderedMap.mem_entries_of_get? h)
  style := by decide
  press := by decide
  changeText := by decide
  hook := by decide
  member := by decide
  store := by decide
  router := by decide

/-- The name of an element that is mapped is a plain one. -/
theorem Separated.opening_eq {p : Profile} (hp : Separated p) {opening : Ast} {target : String}
    (hname : opening.isTagName) (h : p.tables.tagMap.get? (elementText opening) = some target) :
    ∃ l parts, opening = .node (.markupName (elementText opening)) l parts := by
  obtain ⟨hplain, hthis, hcolon, hdot, -⟩ := hp.tag h
  unfold Ast.isTagName at hname
  split at hname
  · exact ⟨_, _, rfl⟩
  · simp [elementText] at hplain hname
    simp [hplain] at hname
  · exact absurd rfl hthis
  · simp [elementText] at hcolon
  · next property l parts =>
    cases parts with
    | nil => simp [elementText, Parse.isPlainTag] at hplain
    | cons object rest => simp [elementText] at hdot
  · cases hname

/-- What closes an element that opens with a plain name. -/
theorem closing_cases {text : String} {l : List Comment} {parts : List Ast} {closing : Ast}
    (h : closing.isAbsent = true ∨
      Parse.sameName (.node (.markupName text) l parts) closing = true) :
    (∃ l parts, closing = .node .absent l parts) ∨
      ∃ l parts, closing = .node (.markupName text) l parts := by
  rcases h with h | h
  · unfold Ast.isAbsent at h
    split at h
    · exact .inl ⟨_, _, rfl⟩
    · cases h
  · unfold Parse.sameName at h
    split at h <;> simp_all

section Elements

variable {p : Profile}

/-- A converted attribute is no class list. -/
theorem Separated.convertAttribute_ok (hp : Separated p) {target : ElementTarget} {t : Ast}
    {ts : List Ast} (h : convertAttribute p target t = .ok ts) :
    ∀ a ∈ ts, isAttributeNamed (p.names .classAttribute) a = false := by
  cases hnamed : isNamedAttribute t with
  | false =>
    rw [convertAttribute_of_not_named p target hnamed] at h
    cases h
    simpa using isAttributeNamed_of_not_named _ hnamed
  | true =>
    obtain ⟨l, name, nl, np, value, rfl⟩ := isNamedAttribute_iff.mp hnamed
    simp only [convertAttribute] at h
    split at h
    · split at h
      · cases h
      · split at h <;> cases h <;> simp [isAttributeNamed, hp.style]
    · split at h
      · cases h
        simp [isAttributeNamed, hp.press]
      · split at h <;> cases h <;> simp_all [isAttributeNamed, hp.changeText]

theorem Separated.convertAttributes_ok (hp : Separated p) {target : ElementTarget}
    {attributes : List Ast} (h : (convertAttributes p target attributes).2 = none) :
    ∀ a ∈ (convertAttributes p target attributes).1,
      isAttributeNamed (p.names .classAttribute) a = false := by
  induction attributes with
  | nil => simp [convertAttributes]
  | cons t rest ih =>
    rw [convertAttributes] at h ⊢
    cases hattribute : convertAttribute p target t with
    | error b => simp [hattribute] at h
    | ok ts =>
      simp only [hattribute] at h ⊢
      intro a ha
      rcases List.mem_append.mp ha with ha | ha
      · exact hp.convertAttribute_ok hattribute a ha
      · exact ih h a ha

/-- A converted element is one of the platform. -/
theorem Separated.isPlatformElement_convertElement (hp : Separated p) {parts : List Ast}
    (hparts : Ast.ElementParts parts) (h : (convertElement p parts).2 = none) :
    isPlatformElement p (convertElement p parts).1 = true := by
  obtain ⟨generics, al, attributes, cl, children, hopening, hclosing⟩ := hparts
  next opening closing =>
  cases hmismatch : tagMismatch? opening closing with
  | some b => simp [convertElement, hmismatch] at h
  | none =>
    simp only [convertElement, hmismatch] at h ⊢
    have hattributes := hp.convertAttributes_ok h
    cases hmapped : p.tables.tagMap.get? (elementText opening) with
    | none =>
      simp only [hmapped] at hattributes ⊢
      simpa [isPlatformElement, hmapped, hmismatch] using hattributes
    | some target =>
      simp only [hmapped] at hattributes ⊢
      obtain ⟨l, ps, hopening⟩ := hp.opening_eq hopening hmapped
      obtain ⟨-, -, -, -, htarget⟩ := hp.tag hmapped
      generalize elementText opening = key at hopening hattributes ⊢
      subst hopening
      have hrenamed : tagMismatch? (renameTag target (.node (.markupName key) l ps))
          (renameTag target closing) = none := by
        rcases closing_cases hclosing with ⟨cl, cps, rfl⟩ | ⟨cl, cps, rfl⟩
        · simp [tagMismatch?, renameTag, Ast.isAbsent]
        · simp [tagMismatch?, renameTag, elementText]
      have htext : elementText (renameTag target (.node (.markupName key) l ps)) = target := rfl
      simpa [isPlatformElement, hrenamed, htext, htarget] using hattributes

theorem convertAttribute_of_unmapped (component : String) {t : Ast}
    (h : isAttributeNamed (p.names .classAttribute) t = false) :
    convertAttribute p ⟨component, none⟩ t = .ok [t] := by
  cases hnamed : isNamedAttribute t with
  | false => exact convertAttribute_of_not_named p _ hnamed
  | true =>
    obtain ⟨l, name, nl, np, value, rfl⟩ := isNamedAttribute_iff.mp hnamed
    have hname : name ≠ p.names .classAttribute := by simpa [isAttributeNamed] using h
    simp [convertAttribute, hname]

theorem convertAttributes_of_unmapped (component : String) {attributes : List Ast}
    (h : ∀ a ∈ attributes, isAttributeNamed (p.names .classAttribute) a = false) :
    convertAttributes p ⟨component, none⟩ attributes = (attributes, none) := by
  induction attributes with
  | nil => rfl
  | cons t rest ih =>
    rw [convertAttributes, convertAttribute_of_unmapped component (h t List.mem_cons_self),
      ih fun a ha => h a (List.mem_cons_of_mem _ ha)]
    rfl

/-- A conversion leaves an element of the platform as it is. -/
theorem convertElement_of_isPlatformElement {parts : List Ast}
    (h : isPlatformElement p parts = true) : convertElement p parts = (parts, none) := by
  unfold isPlatformElement at h
  split at h
  · next opening generics al attributes children closing =>
    simp only [Bool.and_eq_true, Option.isNone_iff_eq_none, List.all_eq_true] at h
    obtain ⟨⟨htag, hmismatch⟩, hattributes⟩ := h
    simp only [Bool.not_eq_true'] at hattributes
    simp [convertElement, htag, hmismatch, convertAttributes_of_unmapped _ hattributes]
  · cases h

theorem Gentle.isAttributeNamed {f : Ast → Ast} (hf : Gentle f) (name : String) (t : Ast) :
    isAttributeNamed name (f t) = Conversion.isAttributeNamed name t := by
  cases hnamed : Conversion.isNamedAttribute t with
  | false =>
    rw [isAttributeNamed_of_not_named name hnamed,
      isAttributeNamed_of_not_named name ((hf.isNamedAttribute t).trans hnamed)]
  | true =>
    obtain ⟨l, text, nl, np, value, rfl⟩ := isNamedAttribute_iff.mp hnamed
    rw [hf.inert l _ rfl, List.map_cons, hf.inert nl np rfl]
    rfl

/-- A gentle map of the parts of an element makes no difference. -/
theorem Gentle.isPlatformElement {f : Ast → Ast} (hf : Gentle f) (parts : List Ast) :
    isPlatformElement p (parts.map f) = Conversion.isPlatformElement p parts := by
  match parts with
  | [] | [_] | [_, _] | [_, _, _] | [_, _, _, _] | _ :: _ :: _ :: _ :: _ :: _ :: _ =>
    simp [Conversion.isPlatformElement]
  | [opening, generics, .node k l attributes, children, closing] =>
    by_cases hk : k = .group
    · subst hk
      rw [List.map_cons, List.map_cons, List.map_cons, hf.inert l attributes rfl]
      simp [Conversion.isPlatformElement, tagMismatch?, hf.elementText, hf.isAbsent,
        hf.isAttributeNamed, Function.comp_def]
    · obtain ⟨l', parts', h⟩ := hf.exists_eq k l attributes
      simp only [List.map_cons, List.map_nil, h]
      cases k <;> first | rfl | exact absurd rfl hk

end Elements

/-! ## What holds everywhere after a sweep -/

/-- The property holds everywhere in a tree of inert nodes when it holds at nodes that the sweep
does not look at. -/
theorem all_of_isInert {test : Ast → Bool}
    (hother : ∀ k l parts, isTouched k parts = false → test (.node k l parts) = true) {t : Ast}
    (h : IsInert t) : t.All fun n => test n = true := by
  refine h.mono fun n hn => ?_
  cases n with
  | node k l parts => exact hother k l parts (isTouched_of_isInert hn parts)

/-- A test holds everywhere in a swept tree when it holds at nodes that the sweep does not look at,
and at what becomes of those that it does. The condition is on the place of the node, the property
on the nodes of the source. -/
theorem all_rewrite {p : Profile} {test : Ast → Bool} {property : Ast → Prop}
    (condition : Surroundings → Prop)
    (hother : ∀ k l parts, isTouched k parts = false → test (.node k l parts) = true)
    (hmarkup : ∀ w, condition w → condition { w with inMarkup := true, callee := none })
    (hcallee : ∀ w c, condition w → c = none ∨ c = some (p.names .routerHook) →
      condition { w with callee := c })
    (hinside : ∀ w n, condition w → property n →
      condition (w.inside (p.names .navigationHook) n))
    (hnode : ∀ w k l parts, isTouched k parts = true → condition w →
      Ast.WellFormed (.node k l parts) → Ast.All property (.node k l parts) →
      w.callee = none ∨ callsVariable (p.names .navigationHook) (.node k l parts) = true →
      test (rewrite p w (.node k l parts)) = true)
    {w : Surroundings} {t : Ast} (hcondition : condition w) (hwell : t.WellFormed)
    (hproperty : t.All property)
    (hw : w.callee = none ∨ callsVariable (p.names .navigationHook) t = true) :
    (rewrite p w t).All fun n => test n = true := by
  induction t using Ast.induct generalizing w with
  | node k l parts ih =>
    obtain ⟨hshaped, hparts⟩ := Ast.wellFormed_node.mp hwell
    obtain ⟨hrootProperty, hpartProperty⟩ := Ast.all_node.mp hproperty
    have hpart (t : Ast) (ht : t ∈ parts) (w : Surroundings) (hcondition : condition w)
        (hw : w.callee = none) :=
      ih t ht hcondition (hparts t ht) (hpartProperty t ht) (.inl hw)
    have hroot := hnode w k l parts
    have hplain := hcallee w none hcondition (.inl rfl)
    induction k, parts using touched_cases with
    | element parts =>
      have hroot := hroot rfl hcondition hwell hproperty hw
      have hgentle := gentle_rewrite p (w := { w with inMarkup := true, callee := none }) rfl
      rw [rewrite_elementParts p w l (hshaped.1 rfl)] at hroot ⊢
      refine Ast.all_node.mpr ⟨hroot, all_convertElement (fun n hn => ?_) hgentle p (hshaped.1 rfl)
        hparts fun t ht => hpart t ht _ (hmarkup w hcondition) rfl⟩
      cases n with
      | node k l parts => exact hother k l parts (isTouched_of_isInert hn parts)
    | declarator d pattern type value =>
      have hroot := hroot rfl hcondition hwell hproperty hw
      have hpattern := hpart pattern (by simp) _ hplain rfl
      have htype := hpart type (by simp) _ hplain rfl
      rw [rewrite] at hroot ⊢
      split at hroot
      · next hhookValue =>
        have hvalue :=
          ih value (by simp) (hcallee w _ hcondition (.inr rfl)) (hparts value (by simp))
          (hpartProperty value (by simp)) (.inr hhookValue)
        rw [if_pos hhookValue]
        refine Ast.all_node.mpr ⟨hroot, List.forall_mem_cons.mpr ⟨?_, by simp_all⟩⟩
        rcases routerPattern_cases p (hparts pattern (by simp))
            (rewrite p { w with callee := none } pattern) with hswept | ⟨-, hinert⟩
        · exact hswept.symm ▸ hpattern
        · exact all_of_isInert hother hinert
      · next hhookValue =>
        have hvalue := hpart value (by simp) _ hplain rfl
        rw [if_neg hhookValue]
        exact Ast.all_node.mpr ⟨hroot, by simp_all⟩
    | call o q c callee rest =>
      have hroot := hroot rfl hcondition hwell hproperty hw
      rw [rewrite_call] at hroot ⊢
      have hrest : ∀ t ∈ rest.map (rewrite p { w with callee := none }),
          t.All fun n => test n = true := by
        intro t' ht'
        obtain ⟨t, ht, rfl⟩ := List.mem_map.mp ht'
        exact hpart t (List.mem_cons_of_mem _ ht) _ hplain rfl
      refine Ast.all_node.mpr ⟨hroot, List.forall_mem_cons.mpr ⟨?_, hrest⟩⟩
      rcases convertedCallee_cases p w (rewrite p { w with callee := none } callee)
          (hparts callee (by simp)) (hw.imp_right (isInert_of_callsVariable hwell)) with
        ⟨-, hswept⟩ | ⟨-, hinert⟩
      · exact hswept.symm ▸ hpart callee (by simp) _ hplain rfl
      · exact all_of_isInert hother hinert
    | other k parts h =>
      rw [rewrite_other _ _ _ h]
      refine Ast.all_node.mpr ⟨hother _ _ _ ((isTouched_map _ _ _).trans h), fun t' ht' => ?_⟩
      obtain ⟨t, ht, rfl⟩ := List.mem_map.mp ht'
      exact hpart t ht _ (hinside w _ hcondition hrootProperty) rfl

/-! ## Calls after a sweep -/

theorem kind_routeCallee_ne (names : Names) (name : String) :
    (routeCallee names).kind ≠ .reference name := by
  unfold routeCallee memberOf
  split <;> simp [Ast.of, Ast.kind]

/-- A call of a variable that does not go to a page is one of no alias. -/
theorem notMem_aliases_of_callRole {p : Profile} {w : Surroundings} {callee : Ast} {name : String}
    (hrole : callRole p w callee ≠ .navigation) (hkind : callee.kind = .reference name) :
    name ∉ w.aliases ∧ ¬(w.inMarkup = true ∧ name = p.names .navigateMember) := by
  have hsecure : secureCallee? p callee = none := by
    obtain ⟨k, l, parts⟩ := callee
    obtain rfl : k = _ := hkind
    rfl
  have hnavigation : isNavigation p.names w.aliases w.inMarkup callee = false := by
    rw [Bool.eq_false_iff]
    exact fun htrue => hrole (callRole_eq_navigation_iff.mpr ⟨hsecure, htrue⟩)
  rw [isNavigation_of_kind _ _ _ hkind] at hnavigation
  simpa using hnavigation

/-- A variable that is called after a sweep is no alias. It takes the place of another, or it was
called before and does not go to a page. -/
theorem callsVariable_rewrite {p : Profile} {w : Surroundings} {t : Ast} {name : String}
    (h : callsVariable name (rewrite p w t) = true) :
    name ∉ w.aliases ∧ (w.callee = some name ∨ (w.callee = none ∧ callsVariable name t = true ∧
      ¬(w.inMarkup = true ∧ name = p.names .navigateMember))) := by
  obtain ⟨o, q, c, l, callee', rest', hcall, hkind⟩ := callsVariable_iff.mp h
  cases t with
  | node k tl parts =>
    obtain rfl : k = .call o q c := (kind_rewrite p w _).symm.trans (congrArg Ast.kind hcall)
    cases parts with
    | nil =>
      rw [rewrite_other p w tl rfl] at hcall
      cases hcall
    | cons callee rest =>
      rw [rewrite_call] at hcall
      injection hcall with _ _ hparts
      obtain ⟨rfl, -⟩ := List.cons.inj hparts
      unfold convertedCallee at hkind
      cases hw : w.callee with
      | some replaced =>
        simp only [hw] at hkind
        split at hkind
        · exact absurd hkind (kind_routeCallee_ne _ _)
        · next hrole =>
          cases hkind
          exact ⟨(notMem_aliases_of_callRole hrole rfl).1, .inl rfl⟩
      | none =>
        simp only [hw] at hkind
        cases hrole : callRole p w callee with
        | storage secure =>
          simp only [hrole] at hkind
          obtain ⟨_, _, _, _, _, -, -, rfl⟩ :=
            secureCallee?_eq_some_iff.mp (callRole_eq_storage_iff.mp hrole)
          cases hkind
        | navigation =>
          simp only [hrole] at hkind
          exact absurd hkind (kind_routeCallee_ne _ _)
        | other =>
          simp only [hrole, kind_rewrite] at hkind
          obtain ⟨halias, hmember⟩ := notMem_aliases_of_callRole (by rw [hrole]; simp) hkind
          exact ⟨halias, .inr ⟨rfl, callsVariable_iff.mpr ⟨_, _, _, _, _, _, rfl, hkind⟩, hmember⟩⟩

/-! ## Settled trees -/

/-- There is nothing left to convert at the node: it is no element of the web and none with a call
of the bare name that goes to a page, no declarator that calls the navigation hook, and no call of
the web storage. -/
def isSettled (p : Profile) : Ast → Bool
  | .node .element _ parts =>
    isPlatformElement p parts &&
      parts.all fun t => t.nodes.all fun n => !callsVariable (p.names .navigateMember) n
  | .node (.declarator _) _ [_, _, value] => !callsVariable (p.names .navigationHook) value
  | .node (.call ..) _ (callee :: _) => (secureCallee? p callee).isNone
  | _ => true

/-- There is nothing left to convert anywhere in the tree. -/
def Settled (p : Profile) (t : Ast) : Prop := t.All fun n => isSettled p n = true

/-- Nowhere in the tree is the variable called. -/
def NeverCalls (name : String) (t : Ast) : Prop := t.All fun n => (!callsVariable name n) = true

theorem isSettled_of_not_touched (p : Profile) {k : Kind} {parts : List Ast}
    (h : isTouched k parts = false) (l : List Comment) : isSettled p (.node k l parts) = true := by
  unfold isSettled
  split <;> simp_all [isTouched]

section Sweep

variable {p : Profile} {w : Surroundings} {t : Ast}

/-- A sweep inside markup leaves no call of the bare name that goes to a page. -/
theorem Separated.neverCalls_rewrite (hp : Separated p) (hmarkup : w.inMarkup = true)
    (hwell : t.WellFormed) (haccepts : t.All (Accepts p)) (hw : w.callee = none) :
    NeverCalls (p.names .navigateMember) (rewrite p w t) := by
  refine all_rewrite (fun w => w.inMarkup = true ∧
      (w.callee = none ∨ w.callee = some (p.names .routerHook)))
    (fun k l parts h => callsVariable_of_not_touched _ h l) (fun w _ => ⟨rfl, .inl rfl⟩)
    (fun w c h hc => ⟨h.1, hc⟩) (fun w n h _ => ⟨h.1, .inl rfl⟩) ?_
    ⟨hmarkup, .inl hw⟩ hwell haccepts
    (.inl hw)
  rintro w k l parts - ⟨hmarkup, hcallee⟩ - - -
  rw [Bool.not_eq_true', Bool.eq_false_iff]
  intro h
  rcases (callsVariable_rewrite h).2 with hreplaced | ⟨-, -, hother⟩
  · rcases hcallee with hcallee | hcallee
    · simp [hcallee] at hreplaced
    · exact hp.member (Option.some.inj (hcallee.symm.trans hreplaced))
  · exact hother ⟨hmarkup, rfl⟩

theorem secureCallee?_routeCallee (hp : Separated p) :
    secureCallee? p (routeCallee p.names) = none := by
  unfold routeCallee memberOf
  split <;> simp [secureCallee?, Ast.of, Ast.leaf, hp.router]

theorem Gentle.secureCallee?_eq_none {f : Ast → Ast} (hf : Gentle f) {callee : Ast}
    (h : secureCallee? p callee = none) : secureCallee? p (f callee) = none := by
  rw [Option.eq_none_iff_forall_ne_some]
  intro secure hsecure
  obtain ⟨method, optional, l, ol, parts, hcallee, hmethod, -⟩ :=
    secureCallee?_eq_some_iff.mp hsecure
  obtain ⟨k, cl, cps⟩ := callee
  obtain rfl : k = .member method optional := (hf.kind _).symm.trans (congrArg Ast.kind hcallee)
  rw [hf.inert cl cps rfl] at hcallee
  injection hcallee with _ _ hparts
  obtain ⟨object, rfl, hobject⟩ := List.map_eq_singleton_iff.mp hparts
  obtain ⟨k, ol', ops⟩ := object
  obtain rfl : k = .reference _ := (hf.kind _).symm.trans (congrArg Ast.kind hobject)
  have hstorage := secureCallee?_eq_some_iff.mpr ⟨method, optional, cl, ol', ops, rfl, hmethod, rfl⟩
  simp [hstorage] at h

/-- No call of the web storage is left. -/
theorem Separated.secureCallee?_convertedCallee (hp : Separated p) (w : Surroundings)
    (callee : Ast) :
    secureCallee? p (convertedCallee p w callee (rewrite p { w with callee := none } callee)) =
      none := by
  unfold convertedCallee
  cases w.callee with
  | some name =>
    dsimp only
    split
    · exact secureCallee?_routeCallee hp
    · rfl
  | none =>
    dsimp only
    cases hrole : callRole p w callee with
    | storage secure =>
      obtain ⟨_, _, _, _, _, -, -, rfl⟩ :=
        secureCallee?_eq_some_iff.mp (callRole_eq_storage_iff.mp hrole)
      simp [secureCallee?, Ast.leaf, hp.store]
    | navigation => exact secureCallee?_routeCallee hp
    | other =>
      exact (gentle_rewrite p rfl).secureCallee?_eq_none (callRole_eq_other_iff.mp hrole).1

/-- A sweep without a breach leaves nothing to convert. -/
theorem Separated.settled_rewrite (hp : Separated p) (hwell : t.WellFormed)
    (haccepts : t.All (Accepts p)) (hw : w.callee = none) : Settled p (rewrite p w t) := by
  refine all_rewrite (fun w => w.callee = none ∨ w.callee = some (p.names .routerHook))
    (fun k l parts h => isSettled_of_not_touched p h l) (fun w _ => .inl rfl)
    (fun w c _ hc => hc) (fun w n _ _ => .inl rfl) ?_ (.inl hw) hwell haccepts (.inl hw)
  rintro w k l parts htouched hcallee hwell haccepts hw
  obtain ⟨hshaped, hparts⟩ := Ast.wellFormed_node.mp hwell
  obtain ⟨hroot, haccept⟩ := Ast.all_node.mp haccepts
  induction k, parts using touched_cases with
  | element parts =>
    have hgentle := gentle_rewrite p (w := { w with inMarkup := true, callee := none }) rfl
    rw [rewrite_elementParts p w l (hshaped.1 rfl)]
    have helement : isPlatformElement p ((convertElement p parts).1.map
        (rewrite p { w with inMarkup := true, callee := none })) = true :=
      (hgentle.isPlatformElement _).trans
        (hp.isPlatformElement_convertElement (hshaped.1 rfl) hroot)
    have hcalls := all_convertElement (fun n hn => ?_) hgentle p (hshaped.1 rfl) hparts fun t ht =>
      hp.neverCalls_rewrite (w := { w with inMarkup := true, callee := none }) rfl (hparts t ht)
        (haccept t ht) rfl
    · rw [isSettled, helement, Bool.true_and, List.all_eq_true]
      exact fun t ht => List.all_eq_true.mpr (hcalls t ht)
    · cases n with
      | node k l parts => exact callsVariable_of_not_touched _ (isTouched_of_isInert hn parts) l
  | declarator d pattern type value =>
    rw [rewrite]
    split
    · rw [isSettled, Bool.not_eq_true', Bool.eq_false_iff]
      intro hcalls
      rcases (callsVariable_rewrite hcalls).2 with hreplaced | ⟨hnone, -⟩
      · exact hp.hook (Option.some.inj hreplaced)
      · cases hnone
    · next hvalue =>
      rw [isSettled, Bool.not_eq_true', Bool.eq_false_iff]
      intro hcalls
      rcases (callsVariable_rewrite hcalls).2 with hreplaced | ⟨-, hbefore, -⟩
      · cases hreplaced
      · exact hvalue hbefore
  | call o q c callee rest =>
    rw [rewrite_call]
    exact Option.isNone_iff_eq_none.mpr (hp.secureCallee?_convertedCallee w callee)
  | other k parts h => simp [h] at htouched

end Sweep

/-! ## Sweeps of settled trees -/

/-- A computation that starts without a breach ends without one, and gives the value. -/
def Passes {α : Type} (m : StateM CombinedState α) (v : α) : Prop :=
  ∀ s, s.breach = none → (m.run s).1 = v ∧ (m.run s).2.breach = none

section Passes

variable {α β : Type}

theorem passes_pure (v : α) : Passes (pure v) v := fun _ h => ⟨rfl, h⟩

theorem passes_bind {m : StateM CombinedState α} {a : α} {f : α → StateM CombinedState β} {b : β}
    (hm : Passes m a) (hf : Passes (f a) b) : Passes (m >>= f) b := by
  intro s h
  obtain ⟨rfl, hmid⟩ := hm s h
  exact hf (m.run s).2 hmid

theorem passes_count {m : StateM CombinedState α} {v : α} {f : CombinedState → CombinedState}
    (hf : ∀ s, (f s).breach = s.breach) (hm : Passes m v) : Passes (do modify f; m) v :=
  fun s h => hm (f s) ((hf s).trans h)

theorem passes_guard {m : StateM CombinedState α} {unchanged v : α} (hm : Passes m v) :
    Passes (do if (← get).breach.isSome then return unchanged else m) v := by
  intro s h
  rw [run_guard, h]
  exact hm s h

end Passes

theorem passes_sweepTrees {p : Profile} {w : Surroundings} {parts : List Ast}
    (h : ∀ t ∈ parts, Passes (sweepTree p w t) t) : Passes (sweepTrees p w parts) parts := by
  induction parts with
  | nil => exact passes_pure _
  | cons t rest ih =>
    rw [sweepTrees]
    exact passes_bind (h t List.mem_cons_self) (passes_bind
      (ih fun t ht => h t (List.mem_cons_of_mem _ ht)) (passes_pure _))

/-- Without aliases only the bare name goes to a page, inside markup. -/
theorem isNavigation_nil {names : Names} {inMarkup : Bool} {callee : Ast}
    (h : isNavigation names [] inMarkup callee = true) : inMarkup = true ∧ ∃ name l parts,
      callee = .node (.reference name) l parts ∧ name = names .navigateMember := by
  unfold isNavigation at h
  split at h
  · simp only [List.contains_nil, Bool.false_or, Bool.and_eq_true, decide_eq_true_eq] at h
    exact ⟨h.1, _, _, _, rfl, h.2⟩
  · cases h

/-- A sweep of a settled tree changes nothing, when no name stands for the result of the hook. -/
theorem Settled.passes_sweepTree {p : Profile} {t : Ast} (h : Settled p t) (inMarkup : Bool)
    (hmarkup : inMarkup = true → NeverCalls (p.names .navigateMember) t) :
    Passes (sweepTree p ⟨[], inMarkup, none⟩ t) t := by
  induction t using Ast.induct generalizing inMarkup with
  | node k l parts ih =>
    obtain ⟨hroot, hparts⟩ := Ast.all_node.mp h
    have hnever (hm : inMarkup = true) := Ast.all_node.mp (hmarkup hm)
    have hpart (t : Ast) (ht : t ∈ parts) : Passes (sweepTree p ⟨[], inMarkup, none⟩ t) t :=
      ih t ht (hparts t ht) inMarkup fun hm => (hnever hm).2 t ht
    induction k, parts using touched_cases with
    | element parts =>
      simp only [isSettled, Bool.and_eq_true, List.all_eq_true] at hroot
      have hconvert := convertElement_of_isPlatformElement hroot.1
      have hall := passes_sweepTrees fun t ht =>
        ih t ht (hparts t ht) true fun _ => hroot.2 t ht
      unfold sweepTree
      refine passes_guard ?_
      rw [hconvert]
      refine passes_count (fun _ => rfl) (passes_bind hall ?_)
      rw [hconvert]
      exact passes_pure _
    | declarator d pattern type value =>
      have hvalue : callsVariable (p.names .navigationHook) value = false := by
        simpa [isSettled] using hroot
      unfold sweepTree
      refine passes_guard ?_
      rw [hvalue]
      exact passes_bind (hpart pattern (by simp)) (passes_bind (hpart type (by simp))
        (passes_bind (hpart value (by simp)) (passes_pure _)))
    | call o q c callee rest =>
      have hrole : callRole p ⟨[], inMarkup, none⟩ callee = .other := by
        refine callRole_eq_other_iff.mpr ⟨by simpa [isSettled] using hroot, ?_⟩
        rw [Bool.eq_false_iff]
        intro hnavigation
        obtain ⟨hm, name, nl, np, rfl, hname⟩ := isNavigation_nil hnavigation
        have hcalls := (hnever hm).1
        simp [callsVariable, hname] at hcalls
      unfold sweepTree
      refine passes_guard ?_
      rw [hrole]
      exact passes_bind (hpart callee (by simp)) (passes_bind
        (passes_sweepTrees fun t ht => hpart t (List.mem_cons_of_mem _ ht)) (passes_pure _))
    | other k parts hother =>
      rw [sweepTree_other p _ l hother]
      exact passes_bind (passes_sweepTrees hpart) (passes_pure _)

/-! ## Programs -/

section Programs

variable {p : Profile} {t : Ast}

/-- In a settled program no name stands for the result of the hook. -/
theorem Settled.navigationAliases_eq_nil (h : Settled p t) : navigationAliases p.names t = [] := by
  have hnone : t.nodes.filterMap (hookAlias? (p.names .navigationHook)) = [] := by
    refine List.filterMap_eq_nil_iff.mpr fun n hn => ?_
    have hsettled := h n hn
    unfold hookAlias?
    split
    · simp_all [isSettled]
    · rfl
  rw [navigationAliases, hnone]
  rfl

theorem settled_program {hashbang : Option String} {d : List Directive} {c l : List Comment}
    {parts : List Ast} :
    Settled p (.node (.program hashbang d c) l parts) ↔ ∀ s ∈ parts, Settled p s := by
  refine ⟨fun h => (Ast.all_node.mp h).2, fun h => Ast.all_node.mpr ⟨rfl, h⟩⟩

theorem Settled.withImportsConverted (h : Settled p t) : Settled p (withImportsConverted p t) := by
  unfold Conversion.withImportsConverted withStatements
  split
  · refine settled_program.mpr fun s' hs' => ?_
    obtain ⟨s, hs, hconvert⟩ := List.mem_filterMap.mp hs'
    have hsettled := settled_program.mp h s hs
    unfold convertStatement? at hconvert
    split at hconvert
    · split at hconvert
      · cases hconvert
        exact Ast.all_node.mpr ⟨rfl, (Ast.all_node.mp hsettled).2⟩
      · cases hconvert
    · cases hconvert
      exact hsettled
  · exact h

/-- A combined sweep of a settled program converts its imports and nothing else. -/
theorem Settled.combinedSweep_apply (h : Settled p t)
    (himports : ∀ s ∈ statements t, isAcceptable p s) :
    ∃ tally, (combinedSweep p (navigationAliases p.names t)).apply t =
      (.ok tally, Conversion.withImportsConverted p t) := by
  obtain ⟨hsame, hbreach⟩ := h.withImportsConverted.passes_sweepTree false nofun {} rfl
  rcases hrun : (sweepTree p ⟨[], false, none⟩ (Conversion.withImportsConverted p t)).run {} with
    ⟨u, state⟩
  rw [hrun] at hsame hbreach
  dsimp only at hsame hbreach
  obtain ⟨removed, happly⟩ := Conversion.combinedSweep_apply himports hrun
  rw [hbreach, hsame] at happly
  rw [h.navigationAliases_eq_nil]
  exact ⟨_, happly⟩

end Programs

end Nativize.Conversion
