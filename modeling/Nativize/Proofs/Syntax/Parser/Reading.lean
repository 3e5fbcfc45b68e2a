import Nativize.Proofs.Syntax.Lexer.Token
import Nativize.Syntax.Parser.Grammar

/-!
# Reading a phrase

That a parser reads a given tree from given tokens, whatever the context is. There is a law for each
combinator, so that the reading of a phrase is put together from the readings of its parts, and a
program of one statement from that statement (`parseProgram_of_reads`).
-/

namespace Nativize.Syntax

/-! ## Parsers at a token -/

/-- The state at the next token. -/
def ParseState.forward (s : ParseState) : ParseState := { s with token := s.token.next }

namespace Parse

section Steps

variable {α β : Type} (s : ParseState)

theorem bind_apply (x : Parse α) (f : α → Parse β) :
    (x >>= f) s = (x s).bind fun r => f r.1 r.2 := rfl

theorem map_apply (f : α → β) (x : Parse α) :
    (f <$> x) s = (x s).map fun r => (f r.1, r.2) := by
  cases h : x s <;> simp [Functor.map, StateT.map, h]

theorem token_apply : token s = some (s.token, s) := rfl

theorem lexeme_apply : lexeme s = some (s.token.lexeme, s) := rfl

theorem advance_apply : advance s = some ((), s.forward) := rfl

theorem isPunct_apply (p : String) : isPunct p s = some (s.token.lexeme == .punct p, s) := rfl

theorem isWord_apply (w : String) : isWord w s = some (s.token.lexeme == .word w false, s) := rfl

theorem eat_apply (p : String) :
    eat p s = if s.token.lexeme == .punct p then some (true, s.forward) else some (false, s) := by
  rw [eat, bind_apply, isPunct_apply]
  cases s.token.lexeme == .punct p <;> rfl

theorem eatWord_apply (w : String) :
    eatWord w s = if s.token.lexeme == .word w false then some (true, s.forward)
      else some (false, s) := by
  rw [eatWord, bind_apply, isWord_apply]
  cases s.token.lexeme == .word w false <;> rfl

theorem expect_apply {p : String} (h : s.token.lexeme = .punct p) :
    expect p s = some ((), s.forward) := by
  rw [expect, bind_apply, eat_apply]
  simp [h]
  rfl

theorem expectWord_apply {w : String} (h : s.token.lexeme = .word w false) :
    expectWord w s = some ((), s.forward) := by
  rw [expectWord, bind_apply, eatWord_apply]
  simp [h]
  rfl

end Steps

/-! ## Readings -/

/-- In every context the parser reads the value from the first token on, up to the second. The
budget bounds the rounds of its loops. -/
abbrev Reads {α : Type} (budget : Nat) (m : Parse α) (t : Token) (x : α) (t' : Token) : Prop :=
  ∀ c, m ⟨t, c, budget⟩ = some (x, ⟨t', c, budget⟩)

section Laws

variable {α β : Type} {budget : Nat} {t t' t'' : Token}

theorem reads_pure (x : α) : Reads budget (pure x) t x t := fun _ => rfl

theorem Reads.bind {m : Parse α} {f : α → Parse β} {x : α} {y : β} (hm : Reads budget m t x t')
    (hf : Reads budget (f x) t' y t'') : Reads budget (m >>= f) t y t'' := fun c => by
  rw [bind_apply, hm c]
  exact hf c

theorem reads_within (f : Context → Context) {m : Parse α} {x : α} (h : Reads budget m t x t') :
    Reads budget (within f m) t x t' := fun c => by
  change ((m ⟨t, f c, budget⟩).bind fun r => some (r.1, { r.2 with context := c })) = _
  rw [h]
  rfl

/-- What is read does not depend on the context. -/
theorem reads_context_bind {f : Context → Parse β} {y : β} (h : ∀ c, Reads budget (f c) t y t') :
    Reads budget (context >>= f) t y t' := fun c => h c c

theorem reads_token : Reads budget token t t t := fun _ => rfl

theorem reads_lexeme : Reads budget lexeme t t.lexeme t := fun _ => rfl

theorem reads_lead : Reads budget lead t t.lead t := fun _ => rfl

theorem reads_isPunct (p : String) : Reads budget (isPunct p) t (t.lexeme == .punct p) t :=
  fun _ => rfl

theorem reads_expect {p : String} (h : t.lexeme = .punct p) : Reads budget (expect p) t () t.next :=
  fun c => expect_apply ⟨t, c, budget⟩ h

theorem reads_eat {p : String} (h : t.lexeme = .punct p) : Reads budget (eat p) t true t.next :=
  fun c => by
  simp [eat_apply, h, ParseState.forward]

theorem reads_eat_other {p : String} (h : t.lexeme ≠ .punct p) : Reads budget (eat p) t false t :=
  fun c => by simp [eat_apply, h]

theorem reads_iterate_stop {start : α} {step : α → Parse (Option α)} (hbudget : 0 < budget)
    (hstop : Reads budget (step start) t none t) : Reads budget (iterate start step) t start t := by
  intro c
  obtain ⟨n, rfl⟩ := Nat.exists_eq_add_one_of_ne_zero (Nat.ne_of_gt hbudget)
  change iterateFor step (n + 1) start _ = _
  rw [iterateFor, bind_apply, hstop c]
  rfl

theorem reads_iterate_once {start x : α} {step : α → Parse (Option α)} (hbudget : 1 < budget)
    (hstep : Reads budget (step start) t (some x) t') (hstop : Reads budget (step x) t' none t') :
    Reads budget (iterate start step) t x t' := by
  intro c
  obtain ⟨n, rfl⟩ : ∃ n, budget = n + 2 := ⟨budget - 2, by omega⟩
  change iterateFor step (n + 2) start _ = _
  rw [iterateFor, bind_apply, hstep c]
  simp only [Option.bind_some]
  rw [iterateFor, bind_apply, hstop c]
  rfl

/-- The step gives the values in turn, and then nothing. -/
inductive Repeats (budget : Nat) (step : Parse (Option α)) : List α → Token → Token → Prop
  | stop {t : Token} (h : Reads budget step t none t) : Repeats budget step [] t t
  | more {x : α} {xs : List α} {t t' t'' : Token} (h : Reads budget step t (some x) t')
      (hrest : Repeats budget step xs t' t'') : Repeats budget step (x :: xs) t t''

theorem Repeats.repeatFor {step : Parse (Option α)} {xs : List α} (h : Repeats budget step xs t t')
    {fuel : Nat} (hfuel : xs.length < fuel) : Reads budget (repeatFor step fuel) t xs t' := by
  induction h generalizing fuel with
  | stop h =>
    obtain ⟨n, rfl⟩ := Nat.exists_eq_add_one_of_ne_zero (Nat.ne_zero_of_lt hfuel)
    rw [Parse.repeatFor]
    exact h.bind (reads_pure _)
  | more h _ ih =>
    obtain ⟨n, rfl⟩ := Nat.exists_eq_add_one_of_ne_zero (Nat.ne_zero_of_lt hfuel)
    rw [Parse.repeatFor]
    exact h.bind ((ih (by simpa using hfuel)).bind (reads_pure _))

theorem Repeats.many {step : Parse (Option α)} {xs : List α} (h : Repeats budget step xs t t')
    (hbudget : xs.length < budget) : Reads budget (many step) t xs t' :=
  h.repeatFor hbudget

theorem reads_itemsUntil_one {close : String} {item : Parse α} {x : α}
    (hopen : t.lexeme ≠ .punct close)
    (h : Reads budget item t x t') (hclose : t'.lexeme = .punct close) (hbudget : 1 < budget) :
    Reads budget (itemsUntil close item) t [x] t'.next := by
  refine Reads.bind (Repeats.many (.more ?_ (.stop ?_)) hbudget)
    ((reads_expect hclose).bind (reads_pure _))
  · refine (reads_isPunct close).bind ?_
    simp only [beq_eq_false_iff_ne.mpr hopen, Bool.false_eq_true, if_false]
    exact h.bind (reads_pure _)
  · refine (reads_isPunct close).bind ?_
    simp only [hclose, beq_self_eq_true, if_true]
    exact reads_pure _

theorem reads_separated_one {separator : String} {item : Parse α} {x : α}
    (h : Reads budget item t x t')
    (hend : t'.lexeme ≠ .punct separator) (hbudget : 0 < budget) :
    Reads budget (separated separator item) t [x] t' := by
  refine h.bind (Reads.bind (Repeats.many (.stop ?_) hbudget) (reads_pure _))
  exact (reads_eat_other hend).bind (reads_pure _)

/-- An item and the comma after it, if it is not the last one. -/
def listItem (close : String) (item : Parse α) : Parse α := do
  let x ← item
  unless ← isPunct close do expect ","
  return x

/-- One round of a list. -/
def listStep (close : String) (item : Parse α) : Parse (Option α) := do
  if ← isPunct close then return none else return some (← listItem close item)

/-- The tokens from the first to the last are items with commas between them, up to a closing sign.
-/
inductive Listed (budget : Nat) (close : String) (item : Parse α) : List α → Token → Token → Prop
  | nil {t : Token} (h : t.lexeme = .punct close) : Listed budget close item [] t t
  | last {x : α} {t t' : Token} (hopen : t.lexeme ≠ .punct close) (h : Reads budget item t x t')
      (hclose : t'.lexeme = .punct close) : Listed budget close item [x] t t'
  | cons {x : α} {xs : List α} {t t' t'' : Token} (hopen : t.lexeme ≠ .punct close)
      (h : Reads budget item t x t') (hclose : t'.lexeme ≠ .punct close)
      (hcomma : t'.lexeme = .punct ",")
      (hrest : Listed budget close item xs t'.next t'') : Listed budget close item (x :: xs) t t''

theorem Listed.lexeme_close {close : String} {item : Parse α} {xs : List α}
    (h : Listed budget close item xs t t') : t'.lexeme = .punct close := by
  induction h with
  | nil h => exact h
  | last _ _ hclose => exact hclose
  | cons _ _ _ _ _ ih => exact ih

section Steps

variable {close : String} {item : Parse α} {x : α} {xs : List α}

theorem reads_listStep_close (h : t.lexeme = .punct close) :
    Reads budget (listStep close item) t none t := by
  refine (reads_isPunct close).bind ?_
  simp only [h, beq_self_eq_true, if_true]
  exact reads_pure _

theorem reads_listStep_last (hopen : t.lexeme ≠ .punct close) (h : Reads budget item t x t')
    (hclose : t'.lexeme = .punct close) : Reads budget (listStep close item) t (some x) t' := by
  refine (reads_isPunct close).bind ?_
  simp only [beq_eq_false_iff_ne.mpr hopen, Bool.false_eq_true, if_false]
  refine Reads.bind (h.bind ((reads_isPunct close).bind ?_)) (reads_pure _)
  simp only [hclose, beq_self_eq_true, if_true]
  exact reads_pure _

theorem reads_listStep_comma (hopen : t.lexeme ≠ .punct close) (h : Reads budget item t x t')
    (hclose : t'.lexeme ≠ .punct close) (hcomma : t'.lexeme = .punct ",") :
    Reads budget (listStep close item) t (some x) t'.next := by
  refine (reads_isPunct close).bind ?_
  simp only [beq_eq_false_iff_ne.mpr hopen, Bool.false_eq_true, if_false]
  refine Reads.bind (h.bind ((reads_isPunct close).bind ?_)) (reads_pure _)
  simp only [beq_eq_false_iff_ne.mpr hclose, Bool.false_eq_true, if_false]
  exact (reads_expect hcomma).bind (reads_pure _)

theorem Listed.repeats (h : Listed budget close item xs t t') :
    Repeats budget (listStep close item) xs t t' := by
  induction h with
  | nil h => exact .stop (reads_listStep_close h)
  | last hopen h hclose =>
    exact .more (reads_listStep_last hopen h hclose) (.stop (reads_listStep_close hclose))
  | cons hopen h hclose hcomma _ ih => exact .more (reads_listStep_comma hopen h hclose hcomma) ih

theorem Listed.reads (h : Listed budget close item xs t t') (hbudget : xs.length < budget) :
    Reads budget (listUntil close item) t xs t'.next :=
  (h.repeats.many hbudget).bind ((reads_expect h.lexeme_close).bind (reads_pure _))

end Steps

end Laws

/-! ## Programs -/

/-- A statement that is not a string, up to the end, is a program. -/
theorem reads_program {s : Ast} {rules : Rules} {budget : Nat} {t t' : Token}
    (hstart : ∀ v raw, t.lexeme ≠ .string v raw) (hopen : t.lexeme ≠ .finish)
    (h : Reads budget (rules .statement) t s t') (hfinish : t'.lexeme = .finish)
    (hlead : t'.lead = [])
    (hbudget : 1 < budget) :
    Reads budget (program rules none) t (.of (.program none [] []) [s]) t' := by
  have hdirectives : Reads budget (directives rules) t [] t := by
    refine Repeats.many (.stop (reads_lexeme.bind ?_)) (Nat.lt_trans Nat.zero_lt_one hbudget)
    split
    · next heq => exact absurd heq (hstart _ _)
    · exact reads_pure _
  have hend : Reads budget (do let c ← lead; return Ast.of (.program none [] c) [s]) t'
      (.of (.program none [] []) [s]) t' :=
    reads_lead.bind (by rw [hlead]; exact reads_pure _)
  have hfinish? (t : Token) : Reads budget isFinish t (t.lexeme == .finish) t := fun _ => rfl
  refine hdirectives.bind (Reads.bind (Repeats.many (.more ?_ (.stop ?_)) hbudget) hend)
  · refine (hfinish? t).bind ?_
    simp only [beq_eq_false_iff_ne.mpr hopen, Bool.false_eq_true, if_false]
    exact h.bind (reads_pure _)
  · refine (hfinish? t').bind ?_
    simp only [hfinish, beq_self_eq_true, if_true]
    exact reads_pure _

end Parse

open Parse

/-- The text of one statement is a program. -/
theorem parseProgram_of_reads {text : List Char} {s : Ast} {t' : Token}
    (hhashbang : hashbang text = (none, text))
    (hstart : ∀ v raw, (firstToken text).lexeme ≠ .string v raw)
    (hopen : (firstToken text).lexeme ≠ .finish)
    (h : Reads (text.length + 2) (grammar (depthFor text.length) .statement) (firstToken text) s t')
    (hfinish : t'.Is .finish) (hs : s.anyKind isCoverDefault = false) :
    parseProgram text = some (.of (.program none [] []) [s]) := by
  have hprogram := reads_program hstart hopen h hfinish.lexeme hfinish.lead (by omega) {}
  rw [parseProgram, hhashbang]
  dsimp only
  rw [hprogram]
  simp [Ast.of, Ast.anyKind, Ast.anyKindOf, hs, isCoverDefault]

end Nativize.Syntax
