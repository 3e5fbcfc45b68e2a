import Mathlib.Data.List.Induction
import Mathlib.Data.Prod.Lex
import Nativize.Proofs.Pipeline.Completion
import Nativize.Proofs.Syntax.Parser.Program

/-!
# Names in use

The names that a program needs are recorded while its nodes are visited: a name that was recorded
before is not recorded again. Main statement: which names are recorded, that each is recorded once,
and that they stand in the order of their first occurrences; and that a converted program always
needs the stylesheet API.
-/

namespace Nativize.Conversion

open Syntax

/-! ## Recording -/

section Recording

variable {α ι : Type}

/-- Where a value stands among those that are listed for each item. -/
theorem exists_place_of_flatMap_eq {f : ι → List α} {items : List ι} {before after : List α} {a : α}
    (h : items.flatMap f = before ++ a :: after) :
    ∃ i n k, items[i]? = some n ∧ (f n)[k]? = some a ∧
      before = (items.take i).flatMap f ++ (f n).take k := by
  induction items generalizing before with
  | nil => simp at h
  | cons n rest ih =>
    rw [List.flatMap_cons] at h
    have hlater (before' : List α) (hbefore : before = f n ++ before')
        (hrest : rest.flatMap f = before' ++ a :: after) : ∃ i m k, (n :: rest)[i]? = some m ∧
          (f m)[k]? = some a ∧ before = ((n :: rest).take i).flatMap f ++ (f m).take k := by
      obtain ⟨i, m, k, hitem, ha, rfl⟩ := ih hrest
      exact ⟨i + 1, m, k, by simpa using hitem, ha, by simp [hbefore]⟩
    rcases List.append_eq_append_iff.mp h with ⟨before', hbefore, hrest⟩ | ⟨others, hn, hrest⟩
    · exact hlater before' hbefore hrest
    · cases others with
      | nil => exact hlater [] (by simp [hn]) hrest.symm
      | cons b others =>
        obtain ⟨rfl, -⟩ := List.cons.inj hrest
        exact ⟨0, n, before.length, rfl, by simp [hn], by simp [hn]⟩

variable [BEq α] [LawfulBEq α]

/-- A new name is recorded at the end, and any other is not. -/
theorem eraseDups_concat (xs : List α) (x : α) :
    (xs ++ [x]).eraseDups = if xs.contains x then xs.eraseDups else xs.eraseDups ++ [x] := by
  rw [List.eraseDups_append]
  cases h : xs.contains x <;> simp_all [List.removeAll, List.eraseDups_cons]

theorem nodup_eraseDups (xs : List α) : xs.eraseDups.Nodup := by
  induction xs using List.reverseRecOn with
  | nil => simp
  | append_singleton xs x ih =>
    rw [eraseDups_concat]
    split
    · exact ih
    · next hnew =>
      refine List.nodup_append.mpr ⟨ih, by simp, fun a ha b hb heq => hnew ?_⟩
      rw [← List.mem_singleton.mp hb, ← heq, List.contains_iff_mem]
      exact List.mem_eraseDups.mp ha

/-- Of two names that were recorded, the first one occurs before the other does. -/
theorem pairwise_eraseDups (xs : List α) : xs.eraseDups.Pairwise fun a b =>
    ∃ before after, xs = before ++ a :: after ∧ b ∉ before ++ [a] := by
  induction xs using List.reverseRecOn with
  | nil => simp
  | append_singleton xs x ih =>
    have hkept : xs.eraseDups.Pairwise fun a b =>
        ∃ before after, xs ++ [x] = before ++ a :: after ∧ b ∉ before ++ [a] := by
      refine ih.imp ?_
      rintro a b ⟨before, after, rfl, hb⟩
      exact ⟨before, after ++ [x], by simp, hb⟩
    rw [eraseDups_concat]
    split
    · exact hkept
    · next hnew =>
      refine List.pairwise_append.mpr ⟨hkept, by simp, fun a ha b hb => ?_⟩
      obtain rfl := List.mem_singleton.mp hb
      obtain ⟨before, after, rfl⟩ := List.append_of_mem (List.mem_eraseDups.mp ha)
      refine ⟨before, after ++ [b], by simp, fun hmem => hnew ?_⟩
      simp only [List.contains_iff_mem, List.mem_append, List.mem_cons] at hmem ⊢
      tauto

/-- The values that are listed for the items, in the order of their first places. -/
theorem pairwise_eraseDups_flatMap (f : ι → List α) (items : List ι) :
    (items.flatMap f).eraseDups.Pairwise fun a b =>
      ∃ (i : Nat) (n : ι) (k : Nat), items[i]? = some n ∧ (f n)[k]? = some a ∧
      ∀ j m k', items[j]? = some m → (f m)[k']? = some b → toLex (i, k) < toLex (j, k') := by
  refine (pairwise_eraseDups (items.flatMap f)).imp ?_
  rintro a b ⟨before, after, hsplit, hb⟩
  obtain ⟨i, n, k, hn, ha, rfl⟩ := exists_place_of_flatMap_eq hsplit
  refine ⟨i, n, k, hn, ha, fun j m k' hm hplace => ?_⟩
  simp only [List.mem_append, not_or, List.mem_flatMap, List.mem_singleton] at hb
  obtain ⟨⟨hearlier, hhere⟩, hne⟩ := hb
  rw [Prod.Lex.toLex_lt_toLex]
  rcases Nat.lt_trichotomy i j with hlt | rfl | hgt
  · exact .inl hlt
  · obtain rfl := Option.some.inj (hn.symm.trans hm)
    refine .inr ⟨rfl, Nat.lt_of_not_le fun hle => ?_⟩
    rcases Nat.lt_or_eq_of_le hle with hlt | rfl
    · exact hhere (List.mem_of_getElem? (by rwa [List.getElem?_take_of_lt hlt]))
    · exact hne (Option.some.inj (hplace.symm.trans ha))
  · have hm : m ∈ items.take i := List.mem_of_getElem? (by rwa [List.getElem?_take_of_lt hgt])
    exact absurd ⟨m, hm, List.mem_of_getElem? hplace⟩ hearlier

end Recording

/-! ## Occurrences -/

/-- A name occurs at a place: at the node with the given number among those of the tree, as its
first or as its second name. An element of the platform is an occurrence of its tag, and then one of
the stylesheet API. -/
inductive OccursAt (p : Profile) (t : Ast) (name : String) : Nat ×ₗ Nat → Prop
  | tag {i : Nat} {l : List Comment} {opening : Ast} {rest : List Ast}
      (hnode : t.nodes[i]? = some (.node .element l (opening :: rest)))
      (htag : elementText opening = name) (h : name ∈ p.tables.recognizedComponents) :
      OccursAt p t name (toLex (i, 0))
  | api {i : Nat} {l : List Comment} {opening : Ast} {rest : List Ast}
      (hnode : t.nodes[i]? = some (.node .element l (opening :: rest)))
      (h : elementText opening ∈ p.tables.recognizedComponents)
      (hname : p.names .stylesheetApi = name) :
      OccursAt p t name (toLex (i, 1))
  | reference {i : Nat} {l : List Comment} {parts : List Ast}
      (hnode : t.nodes[i]? = some (.node (.reference name) l parts))
      (h : name ∈ p.tables.referencedIdentifiers) : OccursAt p t name (toLex (i, 0))

section Occurrences

variable {p : Profile} {t : Ast} {name : String}

theorem isRecognized_iff {tables : Tables} {tag : String} :
    tables.isRecognized tag = true ↔ tag ∈ tables.recognizedComponents :=
  List.contains_iff_mem

/-- The names of a node are those that occur at it. -/
theorem occursAt_iff {i k : Nat} : OccursAt p t name (toLex (i, k)) ↔
    ∃ n, t.nodes[i]? = some n ∧ (nodeUses p n)[k]? = some name := by
  constructor
  · intro h
    generalize hplace : toLex (i, k) = place at h
    cases h with
    | tag hnode htag h =>
      cases hplace
      exact ⟨_, hnode, by simp [nodeUses, htag, isRecognized_iff.mpr h]⟩
    | api hnode h hname =>
      cases hplace
      exact ⟨_, hnode, by simp [nodeUses, hname, isRecognized_iff.mpr h]⟩
    | reference hnode h =>
      cases hplace
      exact ⟨_, hnode, by simp [nodeUses, h]⟩
  · rintro ⟨n, hnode, hname⟩
    unfold nodeUses at hname
    split at hname
    · dsimp only at hname
      split at hname
      · next h =>
        rw [isRecognized_iff] at h
        rcases k with - | - | k
        · obtain rfl := Option.some.inj hname
          exact .tag hnode rfl h
        · exact .api hnode h (Option.some.inj hname)
        · cases hname
      · cases hname
    · split at hname
      · next h =>
        cases k with
        | zero =>
          obtain rfl := Option.some.inj hname
          exact .reference hnode (List.contains_iff_mem.mp h)
        | succ k => cases hname
      · cases hname
    · cases hname

theorem mem_tags_iff {tag : String} : tag ∈ tags t ↔
    ∃ l opening rest, .node .element l (opening :: rest) ∈ t.nodes ∧ elementText opening = tag := by
  unfold tags
  rw [List.mem_filterMap]
  constructor
  · rintro ⟨n, hn, htag⟩
    split at htag
    · exact ⟨_, _, _, hn, Option.some.inj htag⟩
    · cases htag
  · rintro ⟨l, opening, rest, hn, rfl⟩
    exact ⟨_, hn, rfl⟩

theorem mem_usedNames_iff_occursAt : name ∈ usedNames p t ↔ ∃ place, OccursAt p t name place := by
  rw [usedNames, List.mem_eraseDups, List.mem_flatMap]
  constructor
  · rintro ⟨n, hn, hname⟩
    obtain ⟨i, hi⟩ := List.getElem?_of_mem hn
    obtain ⟨k, hk⟩ := List.getElem?_of_mem hname
    exact ⟨toLex (i, k), occursAt_iff.mpr ⟨n, hi, hk⟩⟩
  · rintro ⟨⟨i, k⟩, h⟩
    obtain ⟨n, hn, hname⟩ := occursAt_iff.mp h
    exact ⟨n, List.mem_of_getElem? hn, List.mem_of_getElem? hname⟩

/-- Which names a program needs. -/
theorem mem_usedNames_iff : name ∈ usedNames p t ↔
    (name ∈ tags t ∧ name ∈ p.tables.recognizedComponents) ∨
    (name = p.names .stylesheetApi ∧ ∃ tag ∈ tags t, tag ∈ p.tables.recognizedComponents) ∨
    (name ∈ p.tables.referencedIdentifiers ∧ ∃ l parts,
      .node (.reference name) l parts ∈ t.nodes) := by
  rw [mem_usedNames_iff_occursAt]
  simp only [mem_tags_iff]
  constructor
  · rintro ⟨place, h⟩
    cases h with
    | tag hnode htag h => exact .inl ⟨⟨_, _, _, List.mem_of_getElem? hnode, htag⟩, h⟩
    | api hnode h hname =>
      exact .inr (.inl ⟨hname.symm, _, ⟨_, _, _, List.mem_of_getElem? hnode, rfl⟩, h⟩)
    | reference hnode h => exact .inr (.inr ⟨h, _, _, List.mem_of_getElem? hnode⟩)
  · rintro (⟨⟨l, opening, rest, hn, htag⟩, h⟩ | ⟨hname, tag, ⟨l, opening, rest, hn, rfl⟩, h⟩ |
      ⟨h, l, parts, hn⟩)
    · obtain ⟨i, hi⟩ := List.getElem?_of_mem hn
      exact ⟨_, .tag hi htag h⟩
    · obtain ⟨i, hi⟩ := List.getElem?_of_mem hn
      exact ⟨_, .api hi h hname.symm⟩
    · obtain ⟨i, hi⟩ := List.getElem?_of_mem hn
      exact ⟨_, .reference hi h⟩

/-- The names that a program needs stand in the order of their first occurrences. -/
theorem pairwise_usedNames (p : Profile) (t : Ast) : (usedNames p t).Pairwise fun a b =>
    ∃ place, OccursAt p t a place ∧ ∀ later, OccursAt p t b later → place < later := by
  refine (pairwise_eraseDups_flatMap (nodeUses p) t.nodes).imp ?_
  rintro a b ⟨i, n, k, hn, ha, hfirst⟩
  refine ⟨toLex (i, k), occursAt_iff.mpr ⟨n, hn, ha⟩, ?_⟩
  rintro ⟨j, k'⟩ hb
  obtain ⟨m, hm, hb⟩ := occursAt_iff.mp hb
  exact hfirst j m k' hm hb

example : ∃ t ∈ parseProgram
      "Alert.alert('x'); const a = <View><Text>x</Text><View /><Alert /></View>;".toList,
    usedNames .default t = ["Alert", "View", "StyleSheet", "Text"] := by
  decide +kernel

end Occurrences

/-- The names that a program needs are those of the elements of the platform, the stylesheet API
with them, and the identifiers that are referred to; each is listed once, in the order of first
occurrences. What a conversion with the default profile answers are the names that the converted
program needs, and the stylesheet API is always among them. -/
theorem used_names_by_first_occurrence :
    (∀ (p : Profile) (t : Ast), (usedNames p t).Nodup ∧
      (∀ name, name ∈ usedNames p t ↔
        (name ∈ tags t ∧ name ∈ p.tables.recognizedComponents) ∨
        (name = p.names .stylesheetApi ∧ ∃ tag ∈ tags t, tag ∈ p.tables.recognizedComponents) ∨
        (name ∈ p.tables.referencedIdentifiers ∧
          ∃ l parts, .node (.reference name) l parts ∈ t.nodes)) ∧
      (usedNames p t).Pairwise fun a b =>
        ∃ place, OccursAt p t a place ∧ ∀ later, OccursAt p t b later → place < later) ∧
    ∀ (source : List Char) (t t' : Ast) (used : List String), parseProgram source = some t →
      (convertAll .default).apply t = (.ok used, t') →
      used = usedNames .default t' ∧ "StyleSheet" ∈ used := by
  constructor
  · exact fun p t => ⟨nodup_eraseDups _, fun name => mem_usedNames_iff, pairwise_usedNames p t⟩
  · intro source t t' used hparse h
    obtain ⟨hwell, hprogram⟩ := parseProgram_wellFormed hparse
    obtain ⟨-, -, rfl, rfl⟩ := convertAll_ok readable_default hwell hprogram h
    refine ⟨?_, api_mem_needs_withPreamble readable_default _⟩
    obtain ⟨hashbang, directives, c, l, parts, rfl⟩ := Ast.isProgram_iff.mp hprogram
    rw [withStatements_program, usedNames_program, complete, needs_provide]

/-- Programs with a style table, with neither table nor stylesheet, and with a stylesheet, and what
becomes of the stylesheet of each. -/
def styledPrograms : List (String × StylesheetOutcome) :=
  [("const styles = \x7b box: \x7b color: 'red' \x7d \x7d; const a = <div><Alert /></div>;",
    .converted 1),
   ("const a = <span>hi</span>;", .empty),
   ("export const styles = StyleSheet.create(\x7b\x7d);", .already)]

theorem used_names_of_styledPrograms : ∀ e ∈ styledPrograms, ∃ t used t',
    parseProgram e.1.toList = some t ∧
    ((combinedSweep .default (navigationAliases Role.defaultName t) >>=
      fun _ => convertStylesheet .default).apply t).1 = .ok e.2 ∧
    (convertAll .default).apply t = (.ok used, t') ∧
    used = usedNames .default t' ∧ "StyleSheet" ∈ used := by
  have hrun : ∀ e ∈ styledPrograms, ∃ t ∈ parseProgram e.1.toList,
      ((combinedSweep .default (navigationAliases Role.defaultName t) >>=
        fun _ => convertStylesheet .default).apply t).1 = .ok e.2 := by
    decide +kernel
  intro e he
  obtain ⟨t, hparse, hok⟩ := hrun e he
  obtain ⟨tally, swept, hsweep, -⟩ := Pass.apply_bind_ok (Pass.apply_eq_of_ok hok)
  obtain ⟨hwell, hprogram⟩ := parseProgram_wellFormed hparse
  have hconvert :=
    convertAll_of_combinedSweep readable_default hwell hprogram (congrArg Prod.fst hsweep)
  exact ⟨t, _, _, hparse, hok, hconvert, used_names_by_first_occurrence.2 _ t _ _ hparse hconvert⟩

end Nativize.Conversion
