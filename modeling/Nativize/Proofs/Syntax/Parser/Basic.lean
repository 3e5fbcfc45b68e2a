import Mathlib
import Nativize.Proofs.Syntax.WellFormed

/-!
# What parsers give

A parser gives sound results when every tree in what it reads is well-formed. One law for each way
to combine parsers makes a rule of the grammar sound as soon as the rules it refers to are.
-/

namespace Nativize.Syntax

open Std.Do

set_option mvcgen.warning false

/-- Values that a parser reads, with what is asked of the trees in them. -/
class Readable (α : Type) where
  sound : α → Prop

open Readable (sound)

/-- Data without trees. -/
instance (priority := low) Readable.data (α : Type) : Readable α := ⟨fun _ => True⟩

instance : Readable Ast := ⟨Ast.WellFormed⟩

instance {α : Type} [Readable α] : Readable (List α) := ⟨fun xs => ∀ x ∈ xs, sound x⟩

instance {α : Type} [Readable α] : Readable (Option α) := ⟨fun o => ∀ x ∈ o, sound x⟩

instance {α β : Type} [Readable α] [Readable β] : Readable (α × β) :=
  ⟨fun p => sound p.1 ∧ sound p.2⟩

section Sound

variable {α β : Type} [Readable α] [Readable β]

@[simp] theorem sound_data {γ : Type} (x : γ) : @sound γ (Readable.data γ) x := trivial

@[simp] theorem sound_nil : sound ([] : List α) := by simp [sound]

@[simp] theorem sound_cons {x : α} {xs : List α} : sound (x :: xs) ↔ sound x ∧ sound xs := by
  simp [sound]

@[simp] theorem sound_append {xs ys : List α} : sound (xs ++ ys) ↔ sound xs ∧ sound ys := by
  simp [sound, or_imp, forall_and]

@[simp] theorem sound_none : sound (none : Option α) := by simp [sound]

@[simp] theorem sound_toList {o : Option α} : sound o.toList ↔ sound o := by simp [sound]

@[simp] theorem sound_some {x : α} : sound (some x) ↔ sound x := by simp [sound]

@[simp] theorem sound_getD {o : Option α} {x : α} (ho : sound o) (hx : sound x) :
    sound (o.getD x) := by
  cases o with
  | none => exact hx
  | some y => exact sound_some.mp ho

@[simp] theorem sound_map {o : Option α} {f : α → β} (ho : sound o)
    (hf : ∀ x, sound x → sound (f x)) : sound (o.map f) := by
  cases o <;> simp_all

theorem sound_bind {o : Option α} {f : α → Option β} (ho : sound o)
    (hf : ∀ x, sound x → sound (f x)) : sound (o.bind f) := by
  cases o <;> simp_all

@[simp] theorem sound_ite {c : Prop} [Decidable c] {x y : α} (hx : sound x) (hy : sound y) :
    sound (if c then x else y) := by
  split
  · exact hx
  · exact hy

@[simp] theorem sound_prod {p : α × β} : sound p ↔ sound p.1 ∧ sound p.2 := Iff.rfl

@[simp] theorem sound_withLead {comments : List Comment} {t : Ast} :
    sound (t.withLead comments) ↔ sound t :=
  Ast.wellFormed_withLead

attribute [simp] Kind.isInner Kind.isLeaf

@[simp] theorem sound_node {k : Kind} {l : List Comment} {parts : List Ast} (h : k.isInner = true) :
    sound (Ast.node k l parts) ↔ sound parts :=
  Ast.wellFormed_inner h

@[simp] theorem sound_childless {k : Kind} {l : List Comment} :
    sound (Ast.node k l []) ↔ k ≠ .element :=
  Ast.wellFormed_childless

@[simp] theorem sound_of {k : Kind} {parts : List Ast} (h : k.isInner = true) :
    sound (Ast.of k parts) ↔ sound parts :=
  sound_node h

@[simp] theorem sound_leaf {k : Kind} : sound (Ast.leaf k) ↔ k ≠ .element := sound_childless

@[simp] theorem sound_absent : sound Ast.absent := sound_leaf.mpr nofun

end Sound

namespace Parse

/-- Whatever the parser reads is sound. -/
abbrev Gives {α : Type} [Readable α] (m : Parse α) : Prop := ⦃⌜True⌝⦄ m ⦃⇓? x => ⌜sound x⌝⦄

section Gives

variable {α : Type} [Readable α]

/-- What holds of whatever a parser reads, by its runs. -/
theorem reads_iff {β : Type} {property : β → Prop} {m : Parse β} :
    ⦃⌜True⌝⦄ m ⦃⇓? x => ⌜property x⌝⦄ ↔ ∀ s x s', m s = some (x, s') → property x := by
  constructor
  · intro h s x s' hm
    have hpost := h s trivial
    simp only [WP.wp, PredTrans.pushArg, PredTrans.apply, StateT.run, hm] at hpost
    exact hpost
  · intro h s _
    simp only [WP.wp, PredTrans.pushArg, PredTrans.apply, StateT.run]
    cases hm : m s with
    | none => exact trivial
    | some r => exact h s r.1 r.2 hm

/-- A parser of data without trees gives sound results. -/
theorem gives_data (m : Parse α) (h : ∀ x : α, sound x := by simp [sound]) : Gives m :=
  reads_iff.mpr fun _ x _ _ => h x

@[spec] theorem gives_failure : Gives (failure : Parse α) :=
  reads_iff.mpr fun _ _ _ h => nomatch h

@[spec] theorem gives_within {f : Context → Context} {m : Parse α} (h : Gives m) :
    Gives (within f m) := by
  mvcgen [within, context, h]

@[spec] theorem gives_attempt {m : Parse α} (h : Gives m) : Gives (attempt m) := by
  refine reads_iff.mpr fun s x s' hx => ?_
  unfold attempt at hx
  split at hx
  · next y t hm =>
    obtain ⟨rfl, rfl⟩ : some y = x ∧ t = s' := by simpa using hx
    exact sound_some.mpr (reads_iff.mp h s y t hm)
  · obtain ⟨rfl, rfl⟩ : none = x ∧ s = s' := by simpa using hx
    exact sound_none

theorem gives_repeatFor {step : Parse (Option α)} (h : Gives step) (fuel : Nat) :
    Gives (repeatFor step fuel) := by
  induction fuel with
  | zero => exact gives_failure
  | succ fuel ih =>
    mvcgen [repeatFor, h, ih]
    all_goals simp_all

@[spec] theorem gives_many {step : Parse (Option α)} (h : Gives step) : Gives (many step) := by
  have hrounds := gives_repeatFor h
  mvcgen [many, hrounds]

theorem gives_iterateFor {step : α → Parse (Option α)} (h : ∀ x, sound x → Gives (step x))
    (fuel : Nat) (x : α) (hx : sound x) : Gives (iterateFor step fuel x) := by
  induction fuel generalizing x with
  | zero => exact gives_failure
  | succ fuel ih =>
    have hstep := h x hx
    mvcgen [iterateFor, hstep, ih]
    all_goals simp_all

@[spec] theorem gives_iterate {start : α} {step : α → Parse (Option α)} (hstart : sound start)
    (h : ∀ x, sound x → Gives (step x)) : Gives (iterate start step) := by
  have hrounds := gives_iterateFor h
  mvcgen [iterate, hrounds]

end Gives

section Primitives

variable (p w : String)

@[spec] theorem gives_token : Gives token := gives_data _

@[spec] theorem gives_lexeme : Gives lexeme := gives_data _

@[spec] theorem gives_context : Gives context := gives_data _

@[spec] theorem gives_advance : Gives advance := gives_data _

@[spec] theorem gives_reread (f : Token → Token) : Gives (reread f) := gives_data _

@[spec] theorem gives_lookahead (m : Parse Bool) : Gives (lookahead m) := gives_data _

@[spec] theorem gives_discard {β : Type} (m : Parse β) : Gives (discard m) := gives_data _

@[spec] theorem gives_isPunct : Gives (isPunct p) := gives_data _

@[spec] theorem gives_isWord : Gives (isWord w) := gives_data _

@[spec] theorem gives_isFinish : Gives isFinish := gives_data _

@[spec] theorem gives_afterBreak : Gives afterBreak := gives_data _

@[spec] theorem gives_lead : Gives lead := gives_data _

@[spec] theorem gives_eat : Gives (eat p) := gives_data _

@[spec] theorem gives_eatWord : Gives (eatWord w) := gives_data _

@[spec] theorem gives_expect : Gives (expect p) := gives_data _

@[spec] theorem gives_expectWord : Gives (expectWord w) := gives_data _

@[spec] theorem gives_ensure (b : Bool) : Gives (ensure b) := gives_data _

@[spec] theorem gives_nextIsPunct : Gives (nextIsPunct p) := gives_data _

@[spec] theorem gives_semicolon : Gives semicolon := gives_data _

@[spec] theorem gives_atSemicolon : Gives atSemicolon := gives_data _

@[spec] theorem gives_variableName? : Gives variableName? := gives_data _

@[spec] theorem gives_atVariableName : Gives atVariableName := gives_data _

@[spec] theorem gives_variableName : Gives variableName := gives_data _

@[spec] theorem gives_anyName : Gives anyName := gives_data _

end Primitives

section Lists

variable {α : Type} [Readable α]

@[spec] theorem gives_itemsUntil {close : String} {item : Parse α} (h : Gives item) :
    Gives (itemsUntil close item) := by
  mvcgen [itemsUntil, h] with simp [*]

@[spec] theorem gives_listUntil {close : String} {item : Parse α} (h : Gives item) :
    Gives (listUntil close item) := by
  mvcgen [listUntil, h]

@[spec] theorem gives_separated {separator : String} {item : Parse α} (h : Gives item) :
    Gives (separated separator item) := by
  mvcgen [separated, h] with simp [*]

@[spec] theorem gives_mapM {β : Type} {f : β → Parse α} {xs : List β} (h : ∀ x, Gives (f x)) :
    Gives (xs.mapM f) := by
  induction xs with
  | nil =>
    rw [List.mapM_nil]
    mvcgen
    simp
  | cons x xs ih =>
    rw [List.mapM_cons]
    mvcgen [h, ih] with simp [*]

@[spec] theorem gives_listElement {item : Parse Ast} (h : Gives item) :
    Gives (listElement item) := by
  mvcgen [listElement, h] with simp [*]

end Lists

@[spec] theorem gives_bindingName : Gives bindingName := by
  mvcgen [bindingName] with simp

end Parse

end Nativize.Syntax
