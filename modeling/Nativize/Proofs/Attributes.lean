import Mathlib.Data.List.Forall2
import Nativize.Proofs.Sweep.Elements
import Nativize.Proofs.Syntax.Parser.Program
import Nativize.Proofs.Text.Words

/-!
# Attributes

An element is converted attribute by attribute. `AttributeRule` says what takes the place of one:
nothing, a reference to the stylesheet, the attribute under another name, or the attribute itself.
Main statements: the attributes of a converted element are what the rules give, one after the other,
and when their names stay distinct.
-/

namespace Nativize.Conversion

open Syntax

/-! ## Rules -/

/-- The attributes of an element. -/
def attributesOf : Ast → List Ast
  | .node .element _ [_, _, .node .group _ attributes, _, _] => attributes
  | _ => []

/-- The static class list that an attribute holds. -/
def classList? (names : Names) : Ast → Option String
  | .node .markupAttribute _ [.node (.markupName name) _ _, value] =>
    if name = names .classAttribute then classText? value else none
  | _ => none

/-- The name of an attribute that has a plain one. -/
def attributeName? : Ast → Option String
  | .node .markupAttribute _ [.node (.markupName name) _ _, _] => some name
  | _ => none

/-- The tree is the member of the stylesheet for a class: the one whose name is the class with its
first character in upper case. -/
def IsClassMember (styles : String) (word : List Char) (t : Ast) : Prop :=
  ∃ name, Text.Capitalizes word name ∧ IsMember styles (String.ofList name) t

/-- The tree refers to the member of the stylesheet for one class, or to the members for several. -/
inductive RefersTo (styles : String) : List (List Char) → Ast → Prop
  | one {word : List Char} {member : Ast} (h : IsClassMember styles word member) :
      RefersTo styles [word] member
  | several {words : List (List Char)} {members : List Ast} (hmany : 2 ≤ words.length)
      (h : List.Forall₂ (IsClassMember styles) words members) :
      RefersTo styles words (.of .array members)

theorem RefersTo.ne_nil {styles : String} {words : List (List Char)} {t : Ast}
    (h : RefersTo styles words t) : words ≠ [] := by
  rintro rfl
  rcases h with _ | ⟨hmany, -⟩
  simp at hmany

theorem isClassMember_iff {styles : String} {word : List Char} (hne : word ≠ []) {t : Ast} :
    IsClassMember styles word t ↔ memberOf styles (String.ofList (Text.capitalize word)) = t := by
  simp [IsClassMember, Text.capitalizes_iff hne, isMember_iff]

theorem forall₂_isClassMember_iff {styles : String} {words : List (List Char)}
    (hne : ∀ word ∈ words, word ≠ []) {members : List Ast} :
    List.Forall₂ (IsClassMember styles) words members ↔
      words.map (fun word => memberOf styles (String.ofList (Text.capitalize word))) = members := by
  rw [← List.forall₂_eq_eq_eq, List.forall₂_map_left_iff]
  induction words generalizing members with
  | nil => cases members <;> simp
  | cons word rest ih =>
    cases members with
    | nil => simp
    | cons member members =>
      rw [List.forall₂_cons, List.forall₂_cons, isClassMember_iff (hne word (by simp)),
        ih fun word hword => hne word (by simp [hword])]

/-- What is made of the members that a class list names refers to them. -/
theorem refersTo_iff {names : Names} {text : String} {words : List (List Char)} {t : Ast}
    (hwords : Text.SplitsInto text.toList words) (hne : words ≠ []) :
    RefersTo (names .stylesBinding) words t ↔
      styleReference names (Style.classMembers text) = t := by
  have hnonempty : ∀ word ∈ words, word ≠ [] := fun _ => hwords.ne_nil
  rw [Style.classMembers, Text.splitsInto_iff.mp hwords]
  match words, hne with
  | [word], _ =>
    constructor
    · rintro (h | ⟨hmany, -⟩)
      · exact (isClassMember_iff (hnonempty word (by simp))).mp h
      · simp at hmany
    · intro h
      exact .one ((isClassMember_iff (hnonempty word (by simp))).mpr h)
  | first :: second :: rest, _ =>
    constructor
    · rintro (_ | ⟨-, h⟩)
      rw [← (forall₂_isClassMember_iff hnonempty).mp h]
      simp [styleReference, Function.comp_def]
    · rintro rfl
      refine .several (by simp) ((forall₂_isClassMember_iff hnonempty).mpr ?_)
      simp

/-- What takes the place of an attribute, by the rule that fits it. The element was mapped to the
component, if to any. -/
inductive AttributeRule (p : Profile) (mapped : Option String) : Ast → List Ast → Prop
  | noClass {l nl : List Comment} {np : List Ast} {value : Ast} {text : String}
      (htext : classText? value = some text) (hwords : Text.SplitsInto text.toList []) :
      AttributeRule p mapped
        (.node .markupAttribute l [.node (.markupName (p.names .classAttribute)) nl np, value]) []
  | classes {l nl : List Comment} {np : List Ast} {value reference : Ast} {text : String}
      {words : List (List Char)} (htext : classText? value = some text)
      (hwords : Text.SplitsInto text.toList words)
      (hreference : RefersTo (p.names .stylesBinding) words reference) :
      AttributeRule p mapped
        (.node .markupAttribute l [.node (.markupName (p.names .classAttribute)) nl np, value])
        [.node .markupAttribute l
          [.node (.markupName (p.names .styleAttribute)) nl np, .of .container [reference]]]
  | click {l nl : List Comment} {np : List Ast} {value : Ast}
      (hclass : p.names .clickAttribute ≠ p.names .classAttribute)
      (hmapped : mapped = some (p.names .pressableComponent)) :
      AttributeRule p mapped
        (.node .markupAttribute l [.node (.markupName (p.names .clickAttribute)) nl np, value])
        [.node .markupAttribute l [.node (.markupName (p.names .pressAttribute)) nl np, value]]
  | change {l nl : List Comment} {np : List Ast} {value : Ast}
      (hclass : p.names .changeAttribute ≠ p.names .classAttribute)
      (hclick : ¬(p.names .changeAttribute = p.names .clickAttribute ∧
        mapped = some (p.names .pressableComponent)))
      (hmapped : mapped = some (p.names .textInputComponent)) :
      AttributeRule p mapped
        (.node .markupAttribute l [.node (.markupName (p.names .changeAttribute)) nl np, value])
        [.node .markupAttribute l [.node (.markupName (p.names .changeTextAttribute)) nl np, value]]
  | other {t : Ast} (hclass : attributeName? t ≠ some (p.names .classAttribute))
      (hclick : ¬(attributeName? t = some (p.names .clickAttribute) ∧
        mapped = some (p.names .pressableComponent)))
      (hchange : ¬(attributeName? t = some (p.names .changeAttribute) ∧
        mapped = some (p.names .textInputComponent))) :
      AttributeRule p mapped t [t]

section Rules

variable {p : Profile} {t : Ast} {ts : List Ast}

theorem attributeName?_of_not_named (h : isNamedAttribute t = false) : attributeName? t = none := by
  unfold attributeName?
  split
  · cases h
  · rfl

/-- What a rule gives is what an attribute is converted to. -/
theorem AttributeRule.convertAttribute (target : ElementTarget)
    (h : AttributeRule p target.mapped t ts) : convertAttribute p target t = .ok ts := by
  cases h with
  | noClass htext hwords =>
    simp [Conversion.convertAttribute, htext, Style.classMembers, Text.splitsInto_iff.mp hwords]
  | @classes _ _ _ _ _ text words htext hwords hreference =>
    have hne := hreference.ne_nil
    have hmembers : Style.classMembers text ≠ [] := by
      simpa [Style.classMembers, Text.splitsInto_iff.mp hwords] using hne
    obtain ⟨first, rest, hcons⟩ := List.exists_cons_of_ne_nil hmembers
    rw [← (refersTo_iff hwords hne).mp hreference]
    simp [Conversion.convertAttribute, htext, hcons]
  | click hclass hmapped => simp [Conversion.convertAttribute, hclass, hmapped]
  | change hclass hclick hmapped =>
    rw [hmapped] at hclick
    simp only [Conversion.convertAttribute, if_neg hclass, hmapped]
    rw [if_neg (by simpa using hclick)]
    simp
  | other hclass hclick hchange =>
    cases hnamed : isNamedAttribute t with
    | false => exact convertAttribute_of_not_named p target hnamed
    | true =>
      obtain ⟨l, name, nl, np, value, rfl⟩ := isNamedAttribute_iff.mp hnamed
      simp only [attributeName?, ne_eq, Option.some.injEq] at hclass hclick hchange
      simp [Conversion.convertAttribute, hclass, hclick, hchange]

/-- A rule fits every attribute that is not refused. -/
theorem attributeRule_of_ok {target : ElementTarget} (h : convertAttribute p target t = .ok ts) :
    AttributeRule p target.mapped t ts := by
  cases hnamed : isNamedAttribute t with
  | false =>
    rw [convertAttribute_of_not_named p target hnamed] at h
    cases h
    have hname := attributeName?_of_not_named hnamed
    exact .other (by simp [hname]) (by simp [hname]) (by simp [hname])
  | true =>
    obtain ⟨l, name, nl, np, value, rfl⟩ := isNamedAttribute_iff.mp hnamed
    simp only [convertAttribute, Bool.and_eq_true, decide_eq_true_eq] at h
    split at h
    · next hclass =>
      subst hclass
      split at h
      · cases h
      · next text htext =>
        split at h
        · next hempty =>
          cases h
          refine .noClass htext (Text.splitsInto_iff.mpr ?_)
          simpa [Style.classMembers] using hempty
        · next hmembers =>
          cases h
          have hne : Text.words text.toList ≠ [] := by
            simpa [Style.classMembers] using hmembers
          have hwords : Text.SplitsInto text.toList (Text.words text.toList) :=
            Text.splitsInto_iff.mpr rfl
          exact .classes htext hwords ((refersTo_iff hwords hne).mpr rfl)
    · next hclass =>
      split at h
      · next hclick =>
        cases h
        obtain ⟨rfl, hmapped⟩ := hclick
        exact .click hclass hmapped
      · next hclick =>
        split at h
        · next hchange =>
          cases h
          obtain ⟨rfl, hmapped⟩ := hchange
          exact .change hclass hclick hmapped
        · next hchange =>
          cases h
          exact .other (by simpa [attributeName?] using hclass)
            (by simpa [attributeName?] using hclick) (by simpa [attributeName?] using hchange)

theorem AttributeRule.rightUnique (p : Profile) (mapped : Option String) :
    Relator.RightUnique (AttributeRule p mapped) := by
  intro t ts ts' h h'
  have hok := AttributeRule.convertAttribute ⟨"", mapped⟩ h
  rw [AttributeRule.convertAttribute ⟨"", mapped⟩ h'] at hok
  exact (Except.ok.inj hok).symm

/-- Where no attribute is refused, what becomes of them stands one after the other. -/
theorem convertAttributes_eq_flatten {target : ElementTarget} {attributes : List Ast}
    (h : (convertAttributes p target attributes).2 = none) :
    ∃ groups, (convertAttributes p target attributes).1 = groups.flatten ∧
      List.Forall₂ (AttributeRule p target.mapped) attributes groups := by
  induction attributes with
  | nil => exact ⟨[], rfl, .nil⟩
  | cons t rest ih =>
    rw [convertAttributes] at h ⊢
    cases hconvert : convertAttribute p target t with
    | error b => simp [hconvert] at h
    | ok ts =>
      simp only [hconvert] at h ⊢
      obtain ⟨groups, hflatten, hgroups⟩ := ih h
      exact ⟨ts :: groups, by rw [hflatten]; rfl, .cons (attributeRule_of_ok hconvert) hgroups⟩

end Rules

/-- A converted element has what becomes of its attributes, and between its names all else is the
same. -/
theorem convertElement_eq_flatten {p : Profile} {opening generics children closing : Ast} {k : Kind}
    {al : List Comment} {attributes parts : List Ast}
    (h : convertElement p [opening, generics, .node k al attributes, children, closing] =
      (parts, none)) :
    ∃ opening' closing' groups,
      parts = [opening', generics, .node k al groups.flatten, children, closing'] ∧
      List.Forall₂ (AttributeRule p (p.tables.tagMap.get? (elementText opening))) attributes
        groups := by
  cases hmismatch : tagMismatch? opening closing with
  | some b => simp [convertElement, hmismatch] at h
  | none =>
    simp only [convertElement, hmismatch] at h
    obtain ⟨rfl, hnone⟩ := Prod.mk.inj h
    obtain ⟨groups, hflatten, hgroups⟩ := convertAttributes_eq_flatten hnone
    exact ⟨_, _, groups, by rw [hflatten], hgroups⟩

/-- The attributes of a converted element are what the rules give for those of the source, one after
the other. There is one way to apply the rules. -/
theorem attributes_converted_in_turn {p : Profile} {opening generics children closing : Ast}
    {k : Kind}
    {al : List Comment} {attributes parts : List Ast}
    (h : convertElement p [opening, generics, .node k al attributes, children, closing] =
      (parts, none)) :
    ∃ opening' closing' groups,
      parts = [opening', generics, .node k al groups.flatten, children, closing'] ∧
      ∀ others, List.Forall₂ (AttributeRule p (p.tables.tagMap.get? (elementText opening)))
        attributes others ↔ others = groups := by
  obtain ⟨opening', closing', groups, hparts, hgroups⟩ := convertElement_eq_flatten h
  refine ⟨opening', closing', groups, hparts, fun others => ⟨fun hothers => ?_, ?_⟩⟩
  · exact List.right_unique_forall₂' (AttributeRule.rightUnique p _) hothers hgroups
  · rintro rfl
    exact hgroups

/-- An element of a program and what it is converted to, by their parts. -/
theorem exists_parts_of_mem {p : Profile} {t e : Ast} (hwell : t.WellFormed) (he : e ∈ elements t)
    (hnone : (convertElement p e.parts).2.isNone = true) :
    ∃ l opening generics al attributes children closing parts,
      e = .node .element l [opening, generics, .node .group al attributes, children, closing] ∧
      convertElement p [opening, generics, .node .group al attributes, children, closing] =
        (parts, none) := by
  obtain ⟨hnode, helement⟩ := List.mem_filter.mp he
  have hshaped := hwell e hnode
  unfold isElement at helement
  split at helement
  · obtain ⟨opening, generics, al, attributes, children, closing, rfl⟩ :=
      (hshaped.1 rfl).hasAttributes
    exact ⟨_, opening, generics, al, attributes, children, closing, _, rfl,
      Prod.ext rfl (Option.isNone_iff_eq_none.mp hnone)⟩
  · cases helement

/-- An element with class lists of no, one and several words and with attributes that are renamed,
that are kept, and that have no plain name. -/
def buttonProgram : List Char :=
  ("const a = <button className='' className='main-box' className=\x7b`b  c`\x7d " ++
    "onClick=\x7bf\x7d onChange=\x7bg\x7d svg:id='1' \x7b...rest\x7d className />;").toList

theorem attributes_converted_in_buttonProgram :
    ∃ t l opening generics al attributes children closing
    opening' closing' groups, parseProgram buttonProgram = some t ∧
    .node .element l [opening, generics, .node .group al attributes, children, closing] ∈
      elements t ∧
    convertElement .default [opening, generics, .node .group al attributes, children, closing] =
      ([opening', generics, .node .group al groups.flatten, children, closing'], none) ∧
    List.Forall₂ (AttributeRule .default (some "TouchableOpacity")) attributes groups ∧
    attributes.length = 8 ∧ groups.flatten.length = 6 := by
  have hrun : ∃ t ∈ parseProgram buttonProgram, ∃ e ∈ elements t,
      (convertElement .default e.parts).2.isNone = true ∧
      Profile.default.tables.tagMap.get? (elementText (e.part 0)) = some "TouchableOpacity" ∧
      (attributesOf e).length = 8 ∧
      (attributesOf (.of .element (convertElement .default e.parts).1)).length = 6 := by
    decide +kernel
  obtain ⟨t, hparse, e, he, hnone, hmapped, hbefore, hafter⟩ := hrun
  obtain ⟨l, opening, generics, al, attributes, children, closing, parts, rfl, hconvert⟩ :=
    exists_parts_of_mem (parseProgram_wellFormed hparse).1 he hnone
  obtain ⟨opening', closing', groups, rfl, hrules⟩ := attributes_converted_in_turn hconvert
  simp only [Ast.parts, hconvert] at hafter
  exact ⟨t, l, opening, generics, al, attributes, children, closing, opening', closing', groups,
    hparse, he, hconvert, hmapped ▸ (hrules groups).mpr rfl, hbefore, hafter⟩

/-! ## Names -/

/-- The names of the attributes that have a plain name. -/
def attributeNames (attributes : List Ast) : List String := attributes.filterMap attributeName?

/-- The attribute is a class list without a word. -/
def isEmptyClass (names : Names) (t : Ast) : Bool :=
  (classList? names t).any fun text => (Style.classMembers text).isEmpty

/-- The attributes that have an attribute in the converted element. -/
def lasting (names : Names) (attributes : List Ast) : List Ast :=
  attributes.filter fun t => !isEmptyClass names t

/-- The name that an attribute gets. -/
def renamed (p : Profile) (mapped : Option String) (name : String) : String :=
  if name = p.names .classAttribute then p.names .styleAttribute
  else if name = p.names .clickAttribute ∧ mapped = some (p.names .pressableComponent) then
    p.names .pressAttribute
  else if name = p.names .changeAttribute ∧ mapped = some (p.names .textInputComponent) then
    p.names .changeTextAttribute
  else name

section Names

variable {p : Profile} {mapped : Option String}

theorem isEmptyClass_of_ne {t : Ast} (h : attributeName? t ≠ some (p.names .classAttribute)) :
    isEmptyClass p.names t = false := by
  have hnone : classList? p.names t = none := by
    unfold classList?
    split
    · rw [if_neg (by simpa [attributeName?] using h)]
    · rfl
  rw [isEmptyClass, hnone]
  rfl

theorem lasting_of_ne {t : Ast} (h : attributeName? t ≠ some (p.names .classAttribute)) :
    lasting p.names [t] = [t] := by
  simp [lasting, isEmptyClass_of_ne h]

theorem lasting_class {l nl : List Comment} {np : List Ast} {value : Ast} {text : String}
    {words : List (List Char)} (htext : classText? value = some text)
    (hwords : Text.SplitsInto text.toList words) :
    attributeNames (lasting p.names
      [.node .markupAttribute l [.node (.markupName (p.names .classAttribute)) nl np, value]]) =
      if words = [] then [] else [p.names .classAttribute] := by
  have hempty : isEmptyClass p.names
      (.node .markupAttribute l [.node (.markupName (p.names .classAttribute)) nl np, value]) =
        words.isEmpty := by
    simp [isEmptyClass, classList?, htext, Style.classMembers, Text.splitsInto_iff.mp hwords]
  cases words <;> simp [lasting, hempty, attributeNames, attributeName?]

/-- What takes the place of an attribute that lasts has the name that the attribute gets. -/
theorem AttributeRule.names {t : Ast} {ts : List Ast} (h : AttributeRule p mapped t ts) :
    attributeNames ts = (attributeNames (lasting p.names [t])).map (renamed p mapped) := by
  cases h with
  | noClass htext hwords =>
    rw [lasting_class htext hwords]
    rfl
  | classes htext hwords hreference =>
    rw [lasting_class htext hwords, if_neg hreference.ne_nil]
    simp [attributeNames, attributeName?, renamed]
  | click hclass hmapped =>
    rw [lasting_of_ne (by simpa [attributeName?] using hclass)]
    simp [attributeNames, attributeName?, renamed, hclass, hmapped]
  | change hclass hclick hmapped =>
    rw [lasting_of_ne (by simpa [attributeName?] using hclass)]
    have hrenamed : renamed p mapped (p.names .changeAttribute) = p.names .changeTextAttribute := by
      rw [renamed, if_neg hclass, if_neg hclick, if_pos ⟨rfl, hmapped⟩]
    simp [attributeNames, attributeName?, hrenamed]
  | other hclass hclick hchange =>
    rw [lasting_of_ne hclass]
    cases hname : attributeName? t with
    | none => simp [attributeNames, hname]
    | some name =>
      simp only [hname, ne_eq, Option.some.injEq] at hclass hclick hchange
      simp [attributeNames, hname, renamed, hclass, hclick, hchange]

theorem attributeNames_flatten {attributes : List Ast} {groups : List (List Ast)}
    (h : List.Forall₂ (AttributeRule p mapped) attributes groups) :
    attributeNames groups.flatten =
      (attributeNames (lasting p.names attributes)).map (renamed p mapped) := by
  induction h with
  | nil => rfl
  | @cons t ts rest groups hrule _ ih =>
    have hsplit : lasting p.names (t :: rest) = lasting p.names [t] ++ lasting p.names rest :=
      List.filter_append [t] rest
    rw [List.flatten_cons, hsplit, attributeNames, List.filterMap_append, attributeNames,
      List.filterMap_append, List.map_append]
    exact congrArg₂ _ hrule.names ih

theorem sublist_lasting (names : Names) (attributes : List Ast) :
    (attributeNames (lasting names attributes)).Sublist (attributeNames attributes) :=
  List.filter_sublist.filterMap _

/-- Only a class list does not last. -/
theorem mem_names_lasting {name : String} (h : name ≠ p.names .classAttribute)
    (attributes : List Ast) :
    name ∈ attributeNames (lasting p.names attributes) ↔ name ∈ attributeNames attributes := by
  refine ⟨fun hname => (sublist_lasting _ _).subset hname, fun hname => ?_⟩
  obtain ⟨t, ht, hname⟩ := List.mem_filterMap.mp hname
  have hlasts := isEmptyClass_of_ne (p := p) (t := t) (by simpa [hname] using h)
  exact List.mem_filterMap.mpr ⟨t, List.mem_filter.mpr ⟨ht, by simp [hlasts]⟩, hname⟩

end Names

/-- With the default names, two attributes get one name when one of them gets the name that the
other keeps. -/
theorem renamed_injective_iff (mapped : Option String) (names : List String) :
    (∀ x ∈ names, ∀ y ∈ names, renamed .default mapped x = renamed .default mapped y → x = y) ↔
      ¬("className" ∈ names ∧ "style" ∈ names) ∧
      ¬(mapped = some "TouchableOpacity" ∧ "onClick" ∈ names ∧ "onPress" ∈ names) ∧
      ¬(mapped = some "TextInput" ∧ "onChange" ∈ names ∧ "onChangeText" ∈ names) := by
  constructor
  · intro h
    refine ⟨fun ⟨hclass, hstyle⟩ => ?_, fun ⟨hmapped, hclick, hpress⟩ => ?_,
      fun ⟨hmapped, hchange, htext⟩ => ?_⟩
    · exact absurd (h _ hclass _ hstyle rfl) (by decide)
    · subst hmapped
      exact absurd (h _ hclick _ hpress rfl) (by decide)
    · subst hmapped
      exact absurd (h _ hchange _ htext rfl) (by decide)
  · rintro ⟨hclass, hclick, hchange⟩ x hx y hy h
    simp only [renamed, Profile.default, Role.defaultName] at h
    grind

/-- For the default profile and an element without two attributes of one name: the converted element
has two exactly when the element has a class list with a word and a style, or has both handlers of a
press, or of a change of the text, and is mapped to the component that knows the second. -/
theorem attribute_names_distinct_iff {opening generics children closing opening' closing' : Ast}
    {k : Kind}
    {al : List Comment} {attributes attributes' : List Ast}
    (hdistinct : (attributeNames attributes).Nodup)
    (h : convertElement .default [opening, generics, .node k al attributes, children, closing] =
      ([opening', generics, .node k al attributes', children, closing'], none)) :
    (attributeNames attributes').Nodup ↔
      ¬("className" ∈ attributeNames (lasting Role.defaultName attributes) ∧
        "style" ∈ attributeNames attributes) ∧
      ¬(Tables.default.tagMap.get? (elementText opening) = some "TouchableOpacity" ∧
        "onClick" ∈ attributeNames attributes ∧ "onPress" ∈ attributeNames attributes) ∧
      ¬(Tables.default.tagMap.get? (elementText opening) = some "TextInput" ∧
        "onChange" ∈ attributeNames attributes ∧ "onChangeText" ∈ attributeNames attributes) := by
  obtain ⟨_, _, groups, hparts, hgroups⟩ := convertElement_eq_flatten h
  obtain ⟨-, rfl, -⟩ : opening' = _ ∧ attributes' = groups.flatten ∧ closing' = _ := by
    simpa using hparts
  have hnames :
      attributeNames groups.flatten = (attributeNames (lasting Role.defaultName attributes)).map
      (renamed .default (Tables.default.tagMap.get? (elementText opening))) :=
    attributeNames_flatten hgroups
  have hlasting : (attributeNames (lasting Role.defaultName attributes)).Nodup :=
    hdistinct.sublist (sublist_lasting _ _)
  have hmem (name : String) (hname : name ≠ "className") :
      name ∈ attributeNames (lasting Role.defaultName attributes) ↔
        name ∈ attributeNames attributes :=
    mem_names_lasting (p := .default) hname attributes
  rw [hnames, List.nodup_map_iff_inj_on hlasting, renamed_injective_iff, hmem "style" (by decide),
    hmem "onClick" (by decide), hmem "onPress" (by decide), hmem "onChange" (by decide),
    hmem "onChangeText" (by decide)]

/-- An element with both handlers of a press that is not mapped to a pressable component, and with a
style beside a class list without a word. -/
def handledProgram : List Char :=
  "const a = <div className=' ' style=\x7bs\x7d onClick=\x7bf\x7d onPress=\x7bg\x7d />;".toList

theorem attribute_names_distinct_handledProgram :
    ∃ t l opening generics al attributes children closing
    opening' attributes' closing', parseProgram handledProgram = some t ∧
    .node .element l [opening, generics, .node .group al attributes, children, closing] ∈
      elements t ∧
    (attributeNames attributes).Nodup ∧
    attributeNames attributes = ["className", "style", "onClick", "onPress"] ∧
    convertElement .default [opening, generics, .node .group al attributes, children, closing] =
      ([opening', generics, .node .group al attributes', children, closing'], none) ∧
    (attributeNames attributes').Nodup := by
  have hrun : ∃ t ∈ parseProgram handledProgram, ∃ e ∈ elements t,
      (convertElement .default e.parts).2.isNone = true ∧
      Tables.default.tagMap.get? (elementText (e.part 0)) = some "View" ∧
      attributeNames (attributesOf e) = ["className", "style", "onClick", "onPress"] ∧
      attributeNames (lasting Role.defaultName (attributesOf e)) =
        ["style", "onClick", "onPress"] := by
    decide +kernel
  obtain ⟨t, hparse, e, he, hnone, hmapped, hnames, hlasting⟩ := hrun
  obtain ⟨l, opening, generics, al, attributes, children, closing, parts, rfl, hconvert⟩ :=
    exists_parts_of_mem (parseProgram_wellFormed hparse).1 he hnone
  obtain ⟨opening', closing', groups, rfl, -⟩ := convertElement_eq_flatten hconvert
  change Tables.default.tagMap.get? (elementText opening) = _ at hmapped
  change attributeNames attributes = _ at hnames
  change attributeNames (lasting Role.defaultName attributes) = _ at hlasting
  have hdistinct : (attributeNames attributes).Nodup := by
    rw [hnames]
    decide
  refine ⟨t, l, opening, generics, al, attributes, children, closing, opening', groups.flatten,
    closing', hparse, he, hdistinct, hnames, hconvert,
    (attribute_names_distinct_iff hdistinct hconvert).mpr ?_⟩
  rw [hmapped, hnames, hlasting]
  decide

/-- An element with a class list and a style. -/
def styledBoxProgram : List Char := "const a = <div className='box' style=\x7bs\x7d />;".toList

/-- A converted element may have two attributes of one name. -/
theorem attribute_name_twice_in_styledBoxProgram :
    ¬∀ (source : List Char) (t : Ast) (l al : List Comment)
    (opening generics children closing opening' closing' : Ast) (attributes attributes' : List Ast),
    parseProgram source = some t →
    .node .element l [opening, generics, .node .group al attributes, children, closing] ∈
      elements t →
    (attributeNames attributes).Nodup →
    convertElement .default [opening, generics, .node .group al attributes, children, closing] =
      ([opening', generics, .node .group al attributes', children, closing'], none) →
    (attributeNames attributes').Nodup := by
  have hrun : ∃ t ∈ parseProgram styledBoxProgram, ∃ e ∈ elements t,
      (convertElement .default e.parts).2.isNone = true ∧
      attributeNames (attributesOf e) = ["className", "style"] ∧
      attributeNames (attributesOf (.of .element (convertElement .default e.parts).1)) =
        ["style", "style"] := by
    decide +kernel
  obtain ⟨t, hparse, e, he, hnone, hnames, htwice⟩ := hrun
  obtain ⟨l, opening, generics, al, attributes, children, closing, parts, rfl, hconvert⟩ :=
    exists_parts_of_mem (parseProgram_wellFormed hparse).1 he hnone
  obtain ⟨opening', closing', groups, rfl, -⟩ := convertElement_eq_flatten hconvert
  simp only [Ast.parts, hconvert] at htwice
  change attributeNames groups.flatten = _ at htwice
  change attributeNames attributes = _ at hnames
  intro hall
  have hdistinct := hall styledBoxProgram t l al opening generics children closing opening' closing'
    attributes groups.flatten hparse he (by rw [hnames]; decide) hconvert
  rw [htwice] at hdistinct
  exact absurd hdistinct (by decide)

end Nativize.Conversion
