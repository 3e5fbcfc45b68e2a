import Nativize.Proofs.Attributes
import Nativize.Proofs.Pipeline.Completion
import Nativize.Proofs.Sweep.Tables

/-!
# Class lists and the stylesheet

A class list becomes a reference to members of the stylesheet, one for each of its words with the
first letter in upper case. The rules of the stylesheet keep the names that they have in the style
table. Main statement: which members the elements of a converted program refer to, and which the
stylesheet has.
-/

namespace Nativize.Conversion

open Syntax

/-! ## Class lists -/

/-- What takes the place of an attribute as far as class lists go. One without a word goes, and one
with words becomes an attribute for the style that refers to the members for them. Any other
attribute has one in its place. -/
inductive ClassResolved (names : Names) : Ast → List Ast → Prop
  | empty {t : Ast} {text : String} (hclass : classList? names t = some text)
      (hwords : Text.SplitsInto text.toList []) : ClassResolved names t []
  | style {t reference : Ast} {text : String} {words : List (List Char)} {l nl : List Comment}
      {np : List Ast} (hclass : classList? names t = some text)
      (hwords : Text.SplitsInto text.toList words)
      (hreference : RefersTo (names .stylesBinding) words reference) :
      ClassResolved names t [.node .markupAttribute l
        [.node (.markupName (names .styleAttribute)) nl np, .of .container [reference]]]
  | other {t t' : Ast} (hname : attributeName? t ≠ some (names .classAttribute)) :
      ClassResolved names t [t']

/-- The attributes of the second element are what takes the place of those of the first, in turn. -/
def ClassesResolved (names : Names) (element converted : Ast) : Prop :=
  ∃ groups, attributesOf converted = groups.flatten ∧
    List.Forall₂ (ClassResolved names) (attributesOf element) groups

section Elements

variable {p : Profile}

theorem RefersTo.isInert {names : Names} {text : String} {words : List (List Char)} {t : Ast}
    (hwords : Text.SplitsInto text.toList words) (h : RefersTo (names .stylesBinding) words t) :
    IsInert t := by
  rw [← (refersTo_iff hwords h.ne_nil).mp h]
  exact isInert_styleReference _ _

/-- What a rule gives resolves the class list of an attribute, and a gentle map keeps it so. -/
theorem AttributeRule.classResolved {mapped : Option String} {t : Ast} {ts : List Ast}
    (h : AttributeRule p mapped t ts) {f : Ast → Ast} (hf : Gentle f) :
    ClassResolved p.names t (ts.map f) := by
  cases h with
  | noClass htext hwords => exact .empty (by simp [classList?, htext]) hwords
  | @classes l nl np value reference text words htext hwords hreference =>
    have hstyle : f (.node .markupAttribute l
        [.node (.markupName (p.names .styleAttribute)) nl np, .of .container [reference]]) =
        .node .markupAttribute l [.node (.markupName (p.names .styleAttribute)) nl (np.map f),
          .of .container [reference]] := by
      rw [hf.inert l _ rfl, List.map_cons, hf.inert nl np rfl, List.map_singleton, Ast.of,
        hf.inert _ _ rfl, List.map_singleton, hf.eq_self (hreference.isInert hwords)]
    rw [List.map_singleton, hstyle]
    exact .style (by simp [classList?, htext]) hwords hreference
  | click hclass _ => exact .other (by simpa [attributeName?] using hclass)
  | change hclass _ _ => exact .other (by simpa [attributeName?] using hclass)
  | other hclass _ _ => exact .other hclass

theorem classesResolved_rewrite {w : Surroundings} {l : List Comment} {parts : List Ast}
    (hparts : Ast.ElementParts parts) (hnone : (convertElement p parts).2 = none) :
    ClassesResolved p.names (.node .element l parts) (rewrite p w (.node .element l parts)) := by
  have hgentle := gentle_rewrite p (w := { w with inMarkup := true, callee := none }) rfl
  rw [rewrite_elementParts p w l hparts]
  obtain ⟨generics, al, attributes, cl, children, -, -⟩ := hparts
  rcases hconvert : convertElement p _ with ⟨parts, breach⟩
  rw [hconvert] at hnone
  subst hnone
  obtain ⟨opening', closing', groups, rfl, hgroups⟩ := convertElement_eq_flatten hconvert
  refine ⟨groups.map (List.map (rewrite p { w with inMarkup := true, callee := none })), ?_, ?_⟩
  · simp only [List.map_cons, hgentle.inert (k := .group) al _ rfl, List.map_flatten]
    rfl
  · rw [List.forall₂_map_right_iff]
    exact hgroups.imp fun _ _ h => h.classResolved hgentle

/-- The elements of a program after a sweep are those of the source with their class lists resolved,
in order. -/
theorem forall₂_elements_combinedSweep {aliases : List String} {t t' : Ast} {tally : Tally}
    (hwell : t.WellFormed) (hprogram : t.isProgram = true)
    (h : (combinedSweep p aliases).apply t = (.ok tally, t')) :
    List.Forall₂ (ClassesResolved p.names) (elements t) (elements t') :=
  elements_combinedSweep (fun _ _ _ hparts hnone => classesResolved_rewrite hparts hnone) hwell
    hprogram h

end Elements

/-! ## The stylesheet of a converted program -/

section Stylesheet

variable {p : Profile} {t : Ast}

theorem entries_takeTable_sweptStatements (p : Profile) (t : Ast) (binding : String) :
    (takeTable binding (sweptStatements p t)).map (·.entries) =
      ((takeTable binding (statements t)).map (·.entries)).map (·.map fun e =>
        (e.1, rewrite p ⟨navigationAliases p.names t, false, none⟩ e.2)) := by
  rw [entries_takeTable, entries_takeTable, sweptStatements, topDeclarators_swept p rfl,
    List.findSome?_map, List.map_findSome?]
  exact congrArg (List.findSome? · _) (funext (tableOf?_rewrite p rfl binding))

theorem withFonts_stylesheetDeclarator (p : Profile) (statement : Ast) (names : Names)
    (rules : List (String × Ast)) :
    withFonts p statement (stylesheetDeclarator names (objectOf rules)) =
      stylesheetDeclarator names
        (objectOf (rules.map fun e => (e.1, withFonts p statement e.2))) := by
  have hf := gentle_withFonts p statement
  have hleaf (name : String) :
      withFonts p statement (.leaf (.binding name)) = .leaf (.binding name) :=
    hf.inert _ _ rfl
  have habsent : withFonts p statement .absent = .absent := hf.inert _ _ rfl
  have hcallee : withFonts p statement (.of (.member (names .stylesheetCreate) false)
      [.leaf (.reference (names .stylesheetApi))]) = .of (.member (names .stylesheetCreate) false)
      [.leaf (.reference (names .stylesheetApi))] :=
    hf.eq_self (by simp [IsInert, Ast.of, Ast.leaf, Ast.all_node, Ast.kind, Kind.isInert])
  have hcall : withFonts p statement (stylesheetCall names (objectOf rules)) =
      stylesheetCall names (objectOf (rules.map fun e => (e.1, withFonts p statement e.2))) := by
    rw [stylesheetCall, Ast.of, withFonts_of_kind p statement (k := .call false false []) (by simp)]
    simp only [List.map_cons, List.map_nil, hcallee, habsent, hf.objectOf]
    rfl
  rw [stylesheetDeclarator, Ast.of, withFonts_of_kind p statement (k := .declarator false)
    (by simp)]
  simp only [List.map_cons, List.map_nil, hleaf, habsent, hcall]
  rfl

/-- A table that is bound becomes the stylesheet that is bound last, and the rules that survive keep
their names. -/
theorem getLast?_topDeclarators_complete (hp : Readable p) {taken : TakenTable}
    (htable : takeTable (p.names .stylesBinding) (statements t) = some taken) :
    ∃ rules, ((complete p (sweptStatements p t)).flatMap topDeclarators).getLast? =
        some (stylesheetDeclarator p.names (objectOf rules)) ∧
      rules.map Prod.fst =
        (taken.entries.filter fun e => (resolveRule? p.tables e).isSome).map Prod.fst := by
  have hswept := entries_takeTable_sweptStatements p t (p.names .stylesBinding)
  rw [htable] at hswept
  obtain ⟨taken', htaken, hentries⟩ := Option.map_eq_some_iff.mp hswept
  have hgentle := gentle_rewrite p (w := ⟨navigationAliases p.names t, false, none⟩) rfl
  refine ⟨(resolveRules p.tables taken'.entries).map fun e =>
    (e.1, withFonts p (fontStatement p) e.2), ?_, ?_⟩
  · rw [topDeclarators_complete hp, bindStylesheet, htaken]
    simp [withFonts_stylesheetDeclarator]
  · rw [List.map_map, hentries, hgentle.resolveRules, List.map_map, ← names_resolveRules]
    rfl

end Stylesheet

/-- For the default profile and a program with a style table: the elements after the sweep refer,
for each word of a class list, to the member with the first letter in upper case, and the stylesheet
that is bound last has the rules that survive, under the names that they have in the table. -/
theorem class_members_and_stylesheet_names {source : List Char} {t t' : Ast} {used : List String}
    (hparse : parseProgram source = some t)
    (h : (convertAll .default).apply t = (.ok used, t')) {taken : TakenTable}
    (htable : takeTable "styles" (statements t) = some taken) :
    ∃ tally swept table rules,
      (combinedSweep .default (navigationAliases Role.defaultName t)).apply t = (.ok tally, swept) ∧
      List.Forall₂ (ClassesResolved Role.defaultName) (elements t) (elements swept) ∧
      ((statements t').flatMap topDeclarators).getLast? =
        some (stylesheetDeclarator Role.defaultName table) ∧
      IsObject rules table ∧
      rules.map Prod.fst = (taken.entries.filter fun e =>
        (resolveRule? Profile.default.tables e).isSome).map Prod.fst := by
  obtain ⟨hwell, hprogram⟩ := parseProgram_wellFormed hparse
  obtain ⟨rules, hlast, hnames⟩ := getLast?_topDeclarators_complete readable_default htable
  obtain ⟨-, -, -, rfl⟩ := convertAll_ok readable_default hwell hprogram h
  obtain ⟨_, _, hget, hrest⟩ := Pass.apply_bind_ok h
  cases hget
  obtain ⟨tally, swept, hsweep, -⟩ := Pass.apply_bind_ok hrest
  refine ⟨tally, swept, objectOf rules, rules, hsweep,
    forall₂_elements_combinedSweep hwell hprogram hsweep, ?_, isObject_objectOf rules, hnames⟩
  rw [statements_of_isProgram hprogram]
  exact hlast

/-- Two rules whose names differ in the first letter, one that is left empty, and a class list with
all of their names. -/
def styledProgram : List Char :=
  ("const styles = \x7b box: \x7b color: 'red' \x7d, Box: \x7b padding: '10px' \x7d, " ++
    "gone: \x7b cursor: 'x' \x7d \x7d; " ++
    "const a = <div className='box gone'><p className='Box' /></div>;").toList

theorem class_members_in_styledProgram : ∃ t used t' taken tally swept table rules,
    parseProgram styledProgram = some t ∧ (convertAll .default).apply t = (.ok used, t') ∧
    takeTable "styles" (statements t) = some taken ∧
    (combinedSweep .default (navigationAliases Role.defaultName t)).apply t = (.ok tally, swept) ∧
    (elements t).length = 2 ∧
    List.Forall₂ (ClassesResolved Role.defaultName) (elements t) (elements swept) ∧
    ((statements t').flatMap topDeclarators).getLast? =
      some (stylesheetDeclarator Role.defaultName table) ∧
    IsObject rules table ∧ rules.map Prod.fst = ["box", "Box"] := by
  have hrun : ∃ t ∈ parseProgram styledProgram,
      ((combinedSweep .default (navigationAliases Role.defaultName t)).apply t).1 =
        .ok ⟨0, 2, 0, 0, 0⟩ ∧ (elements t).length = 2 ∧
      ∃ taken ∈ takeTable "styles" (statements t), (taken.entries.filter fun e =>
        (resolveRule? Profile.default.tables e).isSome).map Prod.fst = ["box", "Box"] := by
    decide +kernel
  obtain ⟨t, hparse, hok, helements, taken, htable, hnames⟩ := hrun
  obtain ⟨hwell, hprogram⟩ := parseProgram_wellFormed hparse
  have hconvert := convertAll_of_combinedSweep readable_default hwell hprogram hok
  obtain ⟨tally, swept, table, rules, hsweep, hresolved, hlast, hobject, hrules⟩ :=
    class_members_and_stylesheet_names hparse hconvert htable
  exact ⟨t, _, _, taken, tally, swept, table, rules, hparse, hconvert, htable, hsweep, helements,
    hresolved, hlast, hobject, hrules.trans hnames⟩

/-- A rule that is named as a class is, in lower case. -/
def boxProgram : List Char :=
  "const styles = \x7b box: \x7b color: 'red' \x7d \x7d; const a = <div className='box' />;".toList

/-- A class whose rule survives may name a member that the stylesheet lacks. -/
theorem class_member_missing_in_boxProgram :
    ¬∀ (source : List Char) (t t' : Ast) (used : List String)
    (taken : TakenTable) (table : Ast) (rules : List (String × Ast)), parseProgram source = some t →
      (convertAll .default).apply t = (.ok used, t') →
      takeTable "styles" (statements t) = some taken →
      ((statements t').flatMap topDeclarators).getLast? =
        some (stylesheetDeclarator Role.defaultName table) → IsObject rules table →
      ∀ e ∈ elements t, ∀ a ∈ attributesOf e, ∀ text, classList? Role.defaultName a = some text →
        ∀ words, Text.SplitsInto text.toList words → ∀ word ∈ words,
          (∃ r ∈ taken.entries, r.1 = String.ofList word ∧
            (resolveRule? Profile.default.tables r).isSome) →
          ∀ name, Text.Capitalizes word name → String.ofList name ∈ rules.map Prod.fst := by
  have hrun : ∃ t ∈ parseProgram boxProgram,
      ((combinedSweep .default (navigationAliases Role.defaultName t)).apply t).1 =
        .ok ⟨0, 1, 0, 0, 0⟩ ∧
      (∃ e ∈ elements t, ∃ a ∈ attributesOf e, classList? Role.defaultName a = some "box") ∧
      ∃ taken ∈ takeTable "styles" (statements t), (taken.entries.filter fun e =>
        (resolveRule? Profile.default.tables e).isSome).map Prod.fst = ["box"] := by
    decide +kernel
  obtain ⟨t, hparse, hok, ⟨e, he, a, ha, hclass⟩, taken, htable, hnames⟩ := hrun
  obtain ⟨hwell, hprogram⟩ := parseProgram_wellFormed hparse
  have hconvert := convertAll_of_combinedSweep readable_default hwell hprogram hok
  obtain ⟨rules, hlast, hrules⟩ := getLast?_topDeclarators_complete readable_default htable
  have hbox : "box" ∈ (taken.entries.filter fun e =>
      (resolveRule? Profile.default.tables e).isSome).map Prod.fst := by
    rw [hnames]
    exact List.mem_cons_self
  obtain ⟨r, hr, hname⟩ := List.mem_map.mp hbox
  intro hall
  have hlast' :
      ((statements (withStatements t (complete .default (sweptStatements .default t)))).flatMap
      topDeclarators).getLast? = some (stylesheetDeclarator Role.defaultName (objectOf rules)) := by
    rw [statements_of_isProgram hprogram]
    exact hlast
  have hwords : Text.SplitsInto "box".toList ["box".toList] := Text.splitsInto_iff.mpr (by decide)
  have hcapital : Text.Capitalizes "box".toList "Box".toList :=
    (Text.capitalizes_iff (by decide)).mpr (by decide +kernel)
  have hkey := hall boxProgram t _ _ taken _ rules hparse hconvert htable hlast'
    (isObject_objectOf rules) e he a ha "box" hclass _ hwords _ List.mem_cons_self
    ⟨r, (List.mem_filter.mp hr).1, hname, (List.mem_filter.mp hr).2⟩ _ hcapital
  rw [hrules, hnames] at hkey
  exact absurd hkey (by decide)

end Nativize.Conversion
