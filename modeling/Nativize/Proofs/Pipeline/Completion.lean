import Nativize.Conversion.Pipeline
import Nativize.Proofs.Pipeline.Templates

/-!
# Completion

After the sweep a conversion completes the program: it binds the stylesheet, provides imports,
declares types and loads fonts. `complete` is what becomes of the statements of a program. Main
statements: `convertAll_apply`, a conversion is a sweep and a completion; `settled_complete`, there
is nothing left to convert in a completed program; and `complete_complete`, a completed program that
binds no further style table is complete.
-/

namespace Nativize.Conversion

open Syntax

/-- The statements with all that a program starts with, and the stylesheet bound. -/
def withPreamble (p : Profile) (parts : List Ast) : List Ast :=
  (declareTypes (typeStatements p) ((storeProvision p.names).provide
    ((fontProvision p.names).provide (bindStylesheet p parts)))).map (withFonts p (fontStatement p))

/-- The names that the statements need from the platform. -/
def needs (p : Profile) (parts : List Ast) : List String :=
  (parts.flatMap fun s => s.nodes.flatMap (nodeUses p)).eraseDups

/-- The statements of a completed program. -/
def complete (p : Profile) (parts : List Ast) : List Ast :=
  (platformProvision p.names (needs p (withPreamble p parts))).provide (withPreamble p parts)

/-! ## Declarators -/

/-- The declarator binds a stylesheet. -/
def bindsStylesheet (names : Names) (d : Ast) : Bool :=
  ((valueFor? (names .stylesBinding) d).map (isStylesheetCall names)).getD false

section Declarators

variable {p : Profile} (statement : Ast)

theorem valueFor?_withFonts (name : String) (d : Ast) :
    valueFor? name (withFonts p statement d) = (valueFor? name d).map (withFonts p statement) := by
  obtain ⟨k, l, parts⟩ := d
  cases k with
  | declarator isDefinite =>
    rw [withFonts_of_kind p statement (k := .declarator isDefinite) (by simp)]
    match parts with
    | [] | [_] | [_, _] | _ :: _ :: _ :: _ :: _ => simp [valueFor?]
    | [.node k bl ps, type, value] =>
      obtain ⟨bl', ps', h⟩ := (gentle_withFonts p statement).exists_eq k bl ps
      simp only [List.map_cons, List.map_nil, h]
      cases k <;> first | rfl | (simp only [valueFor?]; split <;> rfl)
  | _ =>
    obtain ⟨l', parts', h⟩ := (gentle_withFonts p statement).exists_eq _ l parts
    rw [h]
    rfl

theorem bindsTable_withFonts (name : String) (d : Ast) :
    bindsTable name (withFonts p statement d) = bindsTable name d := by
  have hobject (value : Ast) : (objectEntries? (withFonts p statement value)).isSome =
      (objectEntries? value).isSome := by
    rw [(gentle_withFonts p statement).objectEntries?, Option.isSome_map]
  unfold bindsTable tableOf?
  rw [valueFor?_withFonts]
  cases valueFor? name d with
  | none => rfl
  | some value => exact hobject value

theorem isStylesheetCall_withFonts (names : Names) (value : Ast) :
    isStylesheetCall names (withFonts p statement value) = isStylesheetCall names value := by
  have hf := gentle_withFonts p statement
  obtain ⟨k, l, parts⟩ := value
  cases k with
  | call o q c =>
    rw [withFonts_of_kind p statement (k := .call o q c) (by simp)]
    match parts with
    | [] => rfl
    | .node k cl objects :: rest =>
      cases k with
      | member method optional =>
        rw [List.map_cons, hf.inert cl objects rfl]
        match objects with
        | [] | _ :: _ :: _ => simp [isStylesheetCall]
        | [.node k ol ps] =>
          obtain ⟨ol', ps', h⟩ := hf.exists_eq k ol ps
          rw [List.map_singleton, h]
          cases k <;> rfl
      | _ =>
        obtain ⟨cl', objects', h⟩ := hf.exists_eq _ cl objects
        rw [List.map_cons, h]
        rfl
  | _ =>
    obtain ⟨l', parts', h⟩ := hf.exists_eq _ l parts
    rw [h]
    rfl

theorem bindsStylesheet_withFonts (names : Names) (d : Ast) :
    bindsStylesheet names (withFonts p statement d) = bindsStylesheet names d := by
  unfold bindsStylesheet
  rw [valueFor?_withFonts]
  cases valueFor? (names .stylesBinding) d with
  | none => rfl
  | some value => exact isStylesheetCall_withFonts statement names value

end Declarators

section Run

variable {p : Profile} {parts : List Ast}

theorem usedNames_program (p : Profile) (hashbang : Option String) (directives : List Directive)
    (c l : List Comment) (parts : List Ast) :
    usedNames p (.node (.program hashbang directives c) l parts) = needs p parts := by
  rw [usedNames, Ast.nodes_node, List.flatMap_cons, List.flatMap_assoc]
  rfl

theorem mem_usableNames {name : String} (h : name ∈ needs p parts) : name ∈ usableNames p := by
  simp only [needs, List.mem_eraseDups, List.mem_flatMap] at h
  obtain ⟨s, -, n, -, hname⟩ := h
  unfold nodeUses at hname
  unfold usableNames
  split at hname
  · dsimp only at hname
    split at hname
    · next hrecognized =>
      simp only [List.mem_cons, List.not_mem_nil, or_false] at hname
      rcases hname with rfl | rfl
      · exact List.mem_append_left _ (List.contains_iff_mem.mp hrecognized)
      · simp
    · cases hname
  · split at hname
    · next hreferenced =>
      obtain rfl := List.mem_singleton.mp hname
      exact List.mem_append_right _ (List.mem_cons_of_mem _ (List.contains_iff_mem.mp hreferenced))
    · cases hname
  · cases hname

/-- The declarators of the completed program are those with the stylesheet bound and fonts loaded.
-/
theorem topDeclarators_withPreamble (hp : Readable p) :
    (withPreamble p parts).flatMap topDeclarators =
      ((bindStylesheet p parts).flatMap topDeclarators).map (withFonts p (fontStatement p)) := by
  have htypes : ∀ s ∈ typeStatements p, topDeclarators s = [] := fun s hs => by
    have hs := hp.isTypeDeclaration s hs
    simp only [isTypeDeclaration, Bool.and_eq_true, List.isEmpty_iff] at hs
    exact hs.1.2
  have hmap (ts : List Ast) : (ts.map (withFonts p (fontStatement p))).flatMap topDeclarators =
      (ts.flatMap topDeclarators).map (withFonts p (fontStatement p)) := by
    simp only [List.flatMap_map, List.map_flatMap, (gentle_withFonts p _).topDeclarators]
  rw [withPreamble, hmap, flatMap_declareTypes htypes,
    Provision.flatMap_provide (fun _ _ _ _ => rfl) rfl,
    Provision.flatMap_provide (fun _ _ _ _ => rfl) rfl]

theorem topDeclarators_complete (hp : Readable p) :
    (complete p parts).flatMap topDeclarators =
      ((bindStylesheet p parts).flatMap topDeclarators).map (withFonts p (fontStatement p)) := by
  rw [complete, Provision.flatMap_provide (fun _ _ _ _ => rfl) rfl, topDeclarators_withPreamble hp]

/-- One style table less is bound in the completed program. -/
theorem countP_complete (hp : Readable p) :
    ((complete p parts).flatMap topDeclarators).countP (bindsTable (p.names .stylesBinding)) =
      (parts.flatMap topDeclarators).countP (bindsTable (p.names .stylesBinding)) - 1 := by
  rw [topDeclarators_complete hp, List.countP_map, ← countP_bindStylesheet]
  congr 1
  funext d
  exact bindsTable_withFonts _ _ d

theorem hasStylesheet_of_topDeclarators {ts : List Ast}
    (h : ts.flatMap topDeclarators =
      ((bindStylesheet p parts).flatMap topDeclarators).map (withFonts p (fontStatement p))) :
    hasStylesheet p.names ts = true := by
  have hbound : hasStylesheet p.names (bindStylesheet p parts) = true :=
    hasStylesheet_bindStylesheet
  change (ts.flatMap topDeclarators).any (bindsStylesheet p.names) = true
  change ((bindStylesheet p parts).flatMap topDeclarators).any (bindsStylesheet p.names) = true
    at hbound
  rw [h, List.any_map, ← hbound]
  congr 1
  funext d
  exact bindsStylesheet_withFonts _ _ d

/-- In the declarators of a program that does not need a name nothing uses it. -/
theorem all_not_uses {name : String} (hneeds : name ∉ needs p parts) {d : Ast}
    (hd : d ∈ parts.flatMap topDeclarators) :
    d.All fun n => (!(nodeUses p n).contains name) = true := by
  obtain ⟨s, hs, hd⟩ := List.mem_flatMap.mp hd
  have hall : s.All fun n => (!(nodeUses p n).contains name) = true := by
    intro n hn
    rw [Bool.not_eq_true', Bool.eq_false_iff]
    intro hcontains
    refine hneeds (List.mem_eraseDups.mpr (List.mem_flatMap.mpr ⟨s, hs, ?_⟩))
    exact List.mem_flatMap.mpr ⟨n, hn, List.contains_iff_mem.mp hcontains⟩
  exact all_topDeclarators hall d hd

/-- A program with a stylesheet needs the stylesheet API. -/
theorem api_mem_needs (hp : Readable p) (h : hasStylesheet p.names parts = true) :
    p.names .stylesheetApi ∈ needs p parts := by
  obtain ⟨d, hd, hbinds⟩ := List.any_eq_true.mp h
  refine Classical.byContradiction fun hneeds => ?_
  have hall := all_not_uses hneeds hd
  cases hvalue : valueFor? (p.names .stylesBinding) d with
  | none => simp [hvalue] at hbinds
  | some value =>
    simp only [hvalue, Option.map_some, Option.getD_some] at hbinds
    have hvalue := all_of_valueFor? hvalue hall
    unfold isStylesheetCall at hbinds
    split at hbinds
    · next method ml object ol ps rest =>
      simp only [Bool.and_eq_true, decide_eq_true_eq] at hbinds
      have hcallee := (Ast.all_node.mp hvalue).2 _ List.mem_cons_self
      have hobject := ((Ast.all_node.mp hcallee).2 _ List.mem_cons_self).root
      simp [nodeUses, hbinds.1, hp.api] at hobject
    · cases hbinds

/-- What a program needs is not changed by imports. -/
theorem needs_provide (r : Provision) (parts : List Ast) :
    needs p (r.provide parts) = needs p parts := by
  refine congrArg List.eraseDups (Provision.flatMap_provide (fun d l ps _ => ?_) rfl parts)
  simp [Ast.nodes_node, nodeUses]

theorem api_mem_needs_withPreamble (hp : Readable p) (parts : List Ast) :
    p.names .stylesheetApi ∈ needs p (withPreamble p parts) :=
  api_mem_needs hp (hasStylesheet_of_topDeclarators (topDeclarators_withPreamble hp))

/-- A conversion is a sweep and a completion. -/
theorem convertAll_apply (hp : Readable p) {t : Ast} {tally : Tally} {hashbang : Option String}
    {directives : List Directive} {c l : List Comment}
    (h : (combinedSweep p (navigationAliases p.names t)).apply t =
      (.ok tally, .node (.program hashbang directives c) l parts)) :
    (convertAll p).apply t = (.ok (needs p (withPreamble p parts)),
      .node (.program hashbang directives c) l (complete p parts)) := by
  obtain ⟨outcome, hstylesheet⟩ :=
    convertStylesheet_apply hp.stylesheet hashbang directives c l parts
  have hleading := addLeadingImports_apply hp.fontImport hp.storeImport (Ne.symm hp.fontStore)
    hashbang directives c l (bindStylesheet p parts)
  have htypes := addTypeDeclaration_apply hp.typeText hp.types hashbang directives c l
    ((storeProvision p.names).provide ((fontProvision p.names).provide (bindStylesheet p parts)))
  have hfonts :=
    addFontLoading_apply hp.fontTargets hp.fonts (.node (.program hashbang directives c) l
    (declareTypes (typeStatements p) ((storeProvision p.names).provide
      ((fontProvision p.names).provide (bindStylesheet p parts)))))
  rw [withFonts_of_kind p (fontStatement p) (k := .program hashbang directives c)
    (by simp)] at hfonts
  have hne := List.ne_nil_of_mem (api_mem_needs_withPreamble hp parts)
  have hplatform := addPlatformImports_apply hne
    (templateStatement_namedImportText hne (fun n hn => hp.usable n (mem_usableNames hn))
      (p.names .platformUiModule))
    hashbang directives c l (withPreamble p parts)
  unfold convertAll
  simp only [Pass.apply_bind, Pass.apply_get, h, hstylesheet, hleading, htypes, hfonts]
  rw [← withPreamble, usedNames_program]
  simp only [hplatform, Pass.apply_pure]
  rfl

end Run

/-! ## Nothing left to convert -/

section Settled

variable {p : Profile} {parts : List Ast}

/-- Only elements, declarators and calls are looked at. -/
theorem isSettled_of_isInert (p : Profile) {n : Ast} (h : n.kind.isInert = true) :
    isSettled p n = true := by
  obtain ⟨k, l, parts⟩ := n
  exact isSettled_of_not_touched p (isTouched_of_isInert h parts) l

theorem all_fontStatement (hp : Readable p) : (fontStatement p).All fun n => isSettled p n = true ∧
    callsVariable (p.names .navigateMember) n = false ∧ isFontTarget p n = false := by
  have hloader := hp.isFontLoader
  simp only [Conversion.isFontLoader, Bool.and_eq_true, List.all_eq_true] at hloader
  intro n hn
  simpa [and_assoc] using hloader.2 n hn

theorem callsVariable_withFonts (statement : Ast) (name : String) (n : Ast) :
    callsVariable name (withFonts p statement n) = callsVariable name n := by
  obtain ⟨k, l, parts⟩ := n
  cases k with
  | call o q c =>
    rw [withFonts_of_kind p statement (k := .call o q c) (by simp)]
    match parts with
    | [] => rfl
    | .node k cl ps :: rest =>
      obtain ⟨cl', ps', h⟩ := (gentle_withFonts p statement).exists_eq k cl ps
      rw [List.map_cons, h]
      cases k <;> rfl
  | _ =>
    obtain ⟨l', parts', h⟩ := (gentle_withFonts p statement).exists_eq _ l parts
    rw [h]
    rfl

theorem neverCalls_withFonts (hp : Readable p) {t : Ast}
    (h : NeverCalls (p.names .navigateMember) t) :
    NeverCalls (p.names .navigateMember) (withFonts p (fontStatement p) t) := by
  refine all_withFonts ((all_fontStatement hp).mono fun n hn => by simp [hn.2.1])
    (fun _ _ _ _ => rfl) fun n hn => ?_
  rw [callsVariable_withFonts]
  exact h n hn

/-- Loading fonts brings nothing to convert. -/
theorem settled_withFonts (hp : Readable p) {t : Ast} (h : Settled p t) :
    Settled p (withFonts p (fontStatement p) t) := by
  refine all_withFonts ((all_fontStatement hp).mono fun n hn => hn.1) (fun _ _ _ _ => rfl)
    fun n hmem => ?_
  have hn := h n hmem
  have hf := gentle_withFonts p (fontStatement p)
  obtain ⟨k, l, parts⟩ := n
  induction k, parts using touched_cases with
  | element parts =>
    simp only [isSettled, Bool.and_eq_true, List.all_eq_true] at hn
    rw [withFonts_of_kind p _ (k := .element) (by simp)]
    simp only [isSettled, hf.isPlatformElement, hn.1, Bool.true_and, List.all_eq_true]
    intro t' ht'
    obtain ⟨t, ht, rfl⟩ := List.mem_map.mp ht'
    exact neverCalls_withFonts hp (hn.2 t ht)
  | declarator d pattern type value =>
    rw [withFonts_of_kind p _ (k := .declarator d) (by simp)]
    simpa [isSettled, callsVariable_withFonts] using hn
  | call o q c callee rest =>
    rw [withFonts_of_kind p _ (k := .call o q c) (by simp)]
    simp only [isSettled, Option.isNone_iff_eq_none, List.map_cons] at hn ⊢
    exact hf.secureCallee?_eq_none hn
  | other k parts hother =>
    rw [withFonts_node]
    cases htarget : isFontTarget p (.node k l parts) with
    | true =>
      obtain ⟨facts, _, _, _, _, _, _, _, _, rfl, -, -⟩ := isFontTarget_iff.mp htarget
      rfl
    | false => exact isSettled_of_not_touched p ((isTouched_map _ _ _).trans hother) l

/-- There is nothing left to convert in a completed program. -/
theorem settled_complete (hp : Readable p) (h : ∀ s ∈ parts, Settled p s) :
    ∀ s ∈ complete p parts, Settled p s := by
  have himport (d : ImportDecl) (l : List Comment) (ps : List Ast) :
      Settled p (.node (.importDecl d) l ps) ↔ ∀ t ∈ ps, Settled p t :=
    ⟨fun h => (Ast.all_node.mp h).2, fun h => Ast.all_node.mpr ⟨rfl, h⟩⟩
  have hprovide (r : Provision) {ts : List Ast} (h : ∀ s ∈ ts, Settled p s) :
      ∀ s ∈ r.provide ts, Settled p s :=
    Provision.forall_provide (fun d l ps _ hs => (himport _ l ps).mpr ((himport d l ps).mp hs))
      ((himport _ _ _).mpr (by simp)) h
  have hbound : ∀ s ∈ bindStylesheet p parts, Settled p s :=
    all_bindStylesheet (fun n hn => isSettled_of_isInert p hn)
      (fun table => by simp [isSettled, stylesheetCall, secureCallee?, Ast.of, Ast.leaf,
        hp.apiStorage])
      (fun table => rfl) h
  refine hprovide _ fun s' hs' => ?_
  obtain ⟨s, hs, rfl⟩ := List.mem_map.mp hs'
  refine settled_withFonts hp ?_
  rcases mem_declareTypes hs with hs | hs
  · exact hprovide _ (hprovide _ hbound) s hs
  · have hinert := hp.isTypeDeclaration s hs
    simp only [Conversion.isTypeDeclaration, Bool.and_eq_true, List.all_eq_true] at hinert
    exact fun n hn => isSettled_of_isInert p (hinert.2 n hn).1

end Settled

/-! ## Imports -/

section Imports

variable {p : Profile} {parts : List Ast}

/-- Types and fonts bring no imports. -/
theorem imports_withPreamble (hp : Readable p) :
    (withPreamble p parts).filterMap importOf? = ((storeProvision p.names).provide
      ((fontProvision p.names).provide (bindStylesheet p parts))).filterMap importOf? := by
  have htypes : ∀ s ∈ typeStatements p, importOf? s = none := fun s hs => by
    have hs := hp.isTypeDeclaration s hs
    simp only [Conversion.isTypeDeclaration, Bool.and_eq_true, Option.isNone_iff_eq_none] at hs
    exact hs.1.1.2
  have hmap (ts : List Ast) : (ts.map (withFonts p (fontStatement p))).filterMap importOf? =
      ts.filterMap importOf? := by
    rw [List.filterMap_map]
    exact congrArg (List.filterMap · ts) (funext (gentle_withFonts p _).importOf?)
  rw [withPreamble, hmap, filterMap_declareTypes htypes]

/-- What holds of the imports of the program holds of those of the completed one, if it holds of
what is added and completed. -/
theorem forall_imports_complete (hp : Readable p) {property : ImportDecl → Prop}
    (hprovision : ∀ r ∈ [fontProvision p.names, storeProvision p.names,
        platformProvision p.names (needs p (withPreamble p parts))],
      property r.fresh ∧ ∀ d, r.fits d = true → property d → property (r.complete d))
    (h : ∀ d ∈ parts.filterMap importOf?, property d) :
    ∀ d ∈ (complete p parts).filterMap importOf?, property d := by
  simp only [List.forall_mem_cons, List.not_mem_nil, false_imp_iff, implies_true, and_true]
    at hprovision
  obtain ⟨hfont, hstore, hplatform⟩ := hprovision
  refine Provision.forall_imports_provide hplatform.2 hplatform.1 ?_
  rw [imports_withPreamble hp]
  refine Provision.forall_imports_provide hstore.2 hstore.1
    (Provision.forall_imports_provide hfont.2 hfont.1 ?_)
  rw [imports_bindStylesheet]
  exact h

end Imports

/-! ## Completed programs -/

section Complete

variable {p : Profile} {parts : List Ast}

theorem isProvided_complete (hp : Readable p) {r : Provision}
    (h : r.IsProvided ((storeProvision p.names).provide
      ((fontProvision p.names).provide (bindStylesheet p parts))))
    (hmodule : r.module ≠ p.names .platformUiModule) : r.IsProvided (complete p parts) := by
  refine Provision.IsProvided.provide ?_ _ hmodule
  obtain ⟨d, hfind, hcomplete⟩ := h
  exact ⟨d, by rw [imports_withPreamble hp, hfind], hcomplete⟩

theorem declaredTypes_complete (hp : Readable p) : ∀ s ∈ typeStatements p,
    ∃ name ∈ (complete p parts).filterMap declaredType?, declaredType? s = some name := by
  intro s hs
  have htype := hp.isTypeDeclaration s hs
  simp only [Conversion.isTypeDeclaration, Bool.and_eq_true] at htype
  obtain ⟨name, hname⟩ := Option.isSome_iff_exists.mp htype.1.1.1
  refine ⟨name, ?_, hname⟩
  have hmap (ts : List Ast) : (ts.map (withFonts p (fontStatement p))).filterMap declaredType? =
      ts.filterMap declaredType? := by
    rw [List.filterMap_map]
    exact congrArg (List.filterMap · ts) (funext (gentle_withFonts p _).declaredType?)
  rw [complete, Provision.filterMap_provide (fun _ _ _ _ => rfl) rfl, withPreamble, hmap]
  exact mem_declaredTypes hs hname

theorem withFonts_of_mem_complete (hp : Readable p) :
    ∀ s ∈ complete p parts, withFonts p (fontStatement p) s = s := by
  have hloader := hp.isFontLoader
  simp only [Conversion.isFontLoader, Bool.and_eq_true] at hloader
  refine Provision.forall_provide (fun d l ps _ hs => ?_) rfl fun s' hs' => ?_
  · have hf := gentle_withFonts p (fontStatement p)
    rw [hf.inert l ps rfl] at hs ⊢
    rw [(Ast.node.inj hs).2.2]
  · obtain ⟨s, -, rfl⟩ := List.mem_map.mp hs'
    exact withFonts_withFonts hloader.1 ((all_fontStatement hp).mono fun n hn => hn.2.2) s

/-- A completed program that binds no further style table has its preamble. -/
theorem withPreamble_complete (hp : Readable p)
    (htables : (parts.flatMap topDeclarators).countP (bindsTable (p.names .stylesBinding)) ≤ 1) :
    withPreamble p (complete p parts) = complete p parts := by
  have hbound : bindStylesheet p (complete p parts) = complete p parts := by
    refine bindStylesheet_eq_self ?_ (hasStylesheet_of_topDeclarators (topDeclarators_complete hp))
    rw [countP_complete hp]
    omega
  have hfont : (fontProvision p.names).IsProvided (complete p parts) :=
    isProvided_complete hp ((fontProvision p.names).isProvided_provide _ |>.provide _ hp.fontStore)
      hp.fontPlatform
  have hstore : (storeProvision p.names).IsProvided (complete p parts) :=
    isProvided_complete hp ((storeProvision p.names).isProvided_provide _) hp.storePlatform
  have hfonts :
      (complete p parts).map (withFonts p (fontStatement p)) = (complete p parts).map id :=
    List.map_congr_left (withFonts_of_mem_complete hp)
  rw [withPreamble, hbound, hfont.provide_eq, hstore.provide_eq,
    declareTypes_eq_self (declaredTypes_complete hp), hfonts, List.map_id]

/-- A completed program that binds no further style table is complete. -/
theorem complete_complete (hp : Readable p)
    (htables : (parts.flatMap topDeclarators).countP (bindsTable (p.names .stylesBinding)) ≤ 1) :
    complete p (complete p parts) = complete p parts := by
  have hneeds : needs p (complete p parts) = needs p (withPreamble p parts) := needs_provide _ _
  have hplatform := (platformProvision p.names (needs p (withPreamble p parts))).isProvided_provide
    (withPreamble p parts)
  rw [complete.eq_def p (complete p parts), withPreamble_complete hp htables, hneeds]
  exact hplatform.provide_eq

end Complete

/-! ## Runs -/

/-- The statements of a program after a sweep. -/
def sweptStatements (p : Profile) (t : Ast) : List Ast :=
  ((statements t).filterMap (convertStatement? p)).map
    (rewrite p ⟨navigationAliases p.names t, false, none⟩)

section Runs

variable {p : Profile} {t t' : Ast} {used : List String}

theorem statements_of_isProgram (hprogram : t.isProgram = true) (parts : List Ast) :
    statements (withStatements t parts) = parts := by
  obtain ⟨hashbang, directives, c, l, _, rfl⟩ := Ast.isProgram_iff.mp hprogram
  rfl

theorem rewrite_withImportsConverted (p : Profile) (hprogram : t.isProgram = true) :
    rewrite p ⟨navigationAliases p.names t, false, none⟩ (withImportsConverted p t) =
      withStatements t (sweptStatements p t) := by
  obtain ⟨hashbang, directives, c, l, parts, rfl⟩ := Ast.isProgram_iff.mp hprogram
  exact (gentle_rewrite p rfl).inert l _ rfl

/-- A conversion succeeds when the sweep does. -/
theorem convertAll_of_combinedSweep (hp : Readable p) (hwell : t.WellFormed)
    (hprogram : t.isProgram = true) {tally : Tally}
    (h : ((combinedSweep p (navigationAliases p.names t)).apply t).1 = .ok tally) :
    (convertAll p).apply t = (.ok (needs p (withPreamble p (sweptStatements p t))),
      withStatements t (complete p (sweptStatements p t))) := by
  have hsweep := Pass.apply_eq_of_ok h
  obtain ⟨-, -, hswept⟩ := combinedSweep_ok hwell hsweep
  rw [hswept, rewrite_withImportsConverted p hprogram] at hsweep
  obtain ⟨hashbang, directives, c, l, parts, rfl⟩ := Ast.isProgram_iff.mp hprogram
  exact convertAll_apply hp hsweep

/-- A conversion that succeeds sweeps the statements and completes them, and refuses no import. -/
theorem convertAll_ok (hp : Readable p) (hwell : t.WellFormed) (hprogram : t.isProgram = true)
    (h : (convertAll p).apply t = (.ok used, t')) :
    (∀ s ∈ statements t, isAcceptable p s) ∧ (∀ s ∈ sweptStatements p t, Settled p s) ∧
      used = needs p (withPreamble p (sweptStatements p t)) ∧
      t' = withStatements t (complete p (sweptStatements p t)) := by
  obtain ⟨_, u, hget, hrest⟩ := Pass.apply_bind_ok h
  cases hget
  obtain ⟨tally, swept, hsweep, -⟩ := Pass.apply_bind_ok hrest
  obtain ⟨hacceptable, haccepts, -⟩ := combinedSweep_ok hwell hsweep
  have hsettled := hp.settled_rewrite (w := ⟨navigationAliases p.names t, false, none⟩)
    (wellFormed_withImportsConverted p hwell) haccepts rfl
  rw [rewrite_withImportsConverted p hprogram] at hsettled
  rw [convertAll_of_combinedSweep hp hwell hprogram (congrArg Prod.fst hsweep)] at h
  cases h
  refine ⟨hacceptable, ?_, rfl, rfl⟩
  obtain ⟨hashbang, directives, c, l, parts, rfl⟩ := Ast.isProgram_iff.mp hprogram
  exact settled_program.mp hsettled

theorem imports_sweptStatements (p : Profile) (t : Ast) :
    (sweptStatements p t).filterMap importOf? =
      ((statements t).filterMap importOf?).filterMap (keptImport? p) := by
  rw [sweptStatements, List.filterMap_map, ← imports_convertStatement?]
  exact congrArg (List.filterMap · _) (funext (gentle_rewrite p rfl).importOf?)

/-- An import of the swept program was kept. -/
theorem mem_imports_sweptStatements {d' : ImportDecl} :
    d' ∈ (sweptStatements p t).filterMap importOf? ↔
      ∃ d ∈ (statements t).filterMap importOf?, convertImport p d = .ok (.keep d') := by
  rw [imports_sweptStatements]
  simp only [List.mem_filterMap (f := keptImport? p), keptImport?_eq_some_iff]

end Runs

end Nativize.Conversion
