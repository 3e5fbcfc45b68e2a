import Nativize.Proofs.Syntax.Parser.Reading

/-!
# Reading a constant

What is read from the tokens of strings, names, objects and calls, and of a constant that is bound
to one of these. An expression without operators passes through the levels of the grammar unchanged
(`reads_grammar_assignment`).
-/

namespace Nativize.Syntax.Parse

/-! ## Operands -/

section Operands

variable {budget : Nat} {t t' : Token} {rules : Rules}

theorem reads_primary_string {v : StringValue} {raw : String} (h : t.Is (.string v raw)) :
    Reads budget (primary rules) t (.leaf (.string v)) t.next := by
  intro c
  simp [primary, bind_apply, map_apply, token_apply, h.lexeme, advance_apply, ParseState.forward]

/-- The word is a name wherever an expression starts. -/
def isPlainVariable (w : String) : Bool := !(isReserved w || ["await", "yield", "async"].contains w)

theorem reads_variableName? {w : String} (hw : isPlainVariable w = true)
    (h : t.lexeme = .word w false) :
    Reads budget variableName? t (some w) t := by
  intro c
  simp only [isPlainVariable, Bool.not_eq_true', List.contains_cons, Bool.or_eq_false_iff,
    beq_eq_false_iff_ne] at hw
  simp [variableName?, bind_apply, lexeme_apply, h, hw]
  rfl

theorem reads_variableName {w : String} (hw : isPlainVariable w = true)
    (h : t.lexeme = .word w false) :
    Reads budget variableName t w t.next := by
  intro c
  rw [variableName, bind_apply, reads_variableName? hw h c]
  rfl

theorem reads_primary_name {w : String} (hw : isPlainVariable w = true) (h : t.Is (.word w false)) :
    Reads budget (primary rules) t (.leaf (.reference w)) t.next := by
  intro c
  have hname : Reads budget variableName t w t.next := reads_variableName hw h.lexeme
  simp [isPlainVariable, isReserved, reservedWords] at hw
  simp [primary, bind_apply, token_apply, h.lexeme, hw, hname, map_apply]

theorem reads_primary_object {xs : List Ast} (h : t.Is (.punct "\x7b"))
    (hitems : Listed budget "\x7d" (property rules) xs t.next t') (hbudget : xs.length < budget) :
    Reads budget (primary rules) t (.of .object xs) t'.next := by
  have hliteral : Reads budget (objectLiteral rules) t (.of .object xs) t'.next := by
    refine reads_within _ (reads_lead.bind ((reads_expect h.lexeme).bind ?_))
    rw [h.lead]
    exact (hitems.reads hbudget).bind (reads_pure _)
  intro c
  rw [primary, bind_apply, token_apply]
  simp only [Option.bind_some, h.lexeme]
  exact hliteral c

/-- The token starts an expression without operators: a string, an object or a name. -/
inductive StartsOperand (t : Token) : Prop
  | string {v : StringValue} {raw : String} (h : t.Is (.string v raw))
  | object (h : t.Is (.punct "\x7b"))
  | name {w : String} (hw : isPlainVariable w = true) (h : t.Is (.word w false))

/-- The token ends an expression: a separator or a closing sign. -/
inductive EndsOperand (t : Token) : Prop
  | comma (h : t.lexeme = .punct ",")
  | paren (h : t.lexeme = .punct ")")
  | brace (h : t.lexeme = .punct "\x7d")
  | semicolon (h : t.lexeme = .punct ";")

theorem reads_chainStep_end (h : EndsOperand t) (read : Chain) :
    Reads budget (chainStep rules true read) t none t := by
  intro c
  rcases h with h | h | h | h <;> simp [chainStep, bind_apply, token_apply, h] <;> rfl

theorem reads_chainHead {e : Ast} (hstart : StartsOperand t)
    (h : Reads budget (primary rules) t e t') :
    Reads budget (chainHead rules) t e t' := by
  intro c
  have hword : (t.lexeme == .word "new" false) = false := by
    rcases hstart with h | h | ⟨hw, h⟩
    · simp [h.lexeme]
    · simp [h.lexeme]
    · rw [h.lexeme, beq_eq_false_iff_ne]
      rintro ⟨⟩
      exact absurd hw (by decide)
  simp [chainHead, bind_apply, isWord_apply, hword, h c]

theorem reads_leftHandSide {e : Ast} (hstart : StartsOperand t)
    (h : Reads budget (primary rules) t e t')
    (hend : EndsOperand t') (hbudget : 0 < budget) : Reads budget (leftHandSide rules) t e t' :=
  (reads_chainHead hstart h).bind
    ((reads_iterate_stop hbudget (reads_chainStep_end hend _)).bind (reads_pure _))

theorem reads_leftHandSide_call {e : Ast} {items : List Ast} {t₁ : Token} (hstart : StartsOperand t)
    (h : Reads budget (primary rules) t e t₁) (hopen : t₁.lexeme = .punct "(")
    (hitems : Reads budget (arguments rules) t₁ (items, []) t') (hend : EndsOperand t')
    (hbudget : 1 < budget) :
    Reads budget (leftHandSide rules) t (.of (.call false false []) (e :: .absent :: items))
      t' := by
  have hstep : Reads budget (chainStep rules true ⟨e, false⟩) t₁
      (some ⟨.of (.call false false []) (e :: .absent :: items), false⟩) t' := by
    intro c
    rw [chainStep, bind_apply, token_apply]
    simp [hopen, callAfter, map_apply, hitems c]
  exact (reads_chainHead hstart h).bind
    ((reads_iterate_once hbudget hstep (reads_chainStep_end hend _)).bind (reads_pure _))

theorem StartsOperand.impure (h : StartsOperand t) : t.isPure = false := by
  rcases h with h | h | ⟨-, h⟩ <;> exact h.impure

theorem StartsOperand.loud (h : StartsOperand t) : t.isQuiet = false := by
  rcases h with h | h | ⟨-, h⟩ <;> exact h.loud

theorem reads_counted {e : Ast} (hstart : StartsOperand t)
    (h : Reads budget (rules .leftHandSide) t e t')
    (hend : EndsOperand t') : Reads budget (unary.counted rules) t e t' := by
  have hless : t.isPunct "<" = false := by
    rcases hstart with h | h | ⟨-, h⟩ <;> simp [Token.isPunct, h.lexeme]
  have hcount : (t'.isPunct "++" || t'.isPunct "--") = false := by
    rcases hend with h | h | h | h <;> simp [Token.isPunct, h]
  refine reads_token.bind ?_
  simp only [hless, Bool.false_and, Bool.false_eq_true, if_false]
  refine h.bind (reads_token.bind ?_)
  simp only [hcount, Bool.and_false, Bool.false_eq_true, if_false]
  exact reads_pure _

theorem reads_unary {e : Ast} (hstart : StartsOperand t)
    (h : Reads budget (rules .leftHandSide) t e t')
    (hend : EndsOperand t') : Reads budget (unary rules) t e t' := by
  have hcounted := reads_counted hstart h hend
  refine reads_lexeme.bind ?_
  rcases hstart with h | h | ⟨hw, h⟩
  · simpa [h.lexeme] using hcounted
  · simpa [h.lexeme, unaryOperators] using hcounted
  · simp [isPlainVariable, isReserved, reservedWords] at hw
    simpa [h.lexeme, hw, unaryWords] using hcounted

theorem reads_operator?_end (h : EndsOperand t) : Reads budget operator? t none t := by
  intro c
  rcases h with h | h | h | h <;>
    simp [operator?, bind_apply, isPunct_apply, token_apply, h, bindingLevel] <;> rfl

theorem reads_binary {e : Ast} (hstart : StartsOperand t) (h : Reads budget (rules .unary) t e t')
    (hend : EndsOperand t') (hbudget : 0 < budget) (level : Nat) :
    Reads budget (binary rules level) t e t' := by
  have hoperand : Reads budget (operand rules) t e t' := by
    refine reads_token.bind (h.bind ?_)
    simp only [hstart.impure, Bool.false_eq_true, if_false]
    exact reads_pure _
  refine reads_token.bind ?_
  rcases hstart with h | h | ⟨-, h⟩ <;> simp only [h.lexeme] <;>
    exact hoperand.bind
      (reads_iterate_stop hbudget ((reads_operator?_end hend).bind (reads_pure _)))

theorem reads_assignment {e : Ast} (hstart : StartsOperand t)
    (h : Reads budget (rules (.binary 0)) t e t')
    (hend : EndsOperand t') : Reads budget (assignment rules false) t e t' := by
  have hword {w : String} (hw : isPlainVariable w = false) : t.isWord w = false := by
    rcases hstart with h | h | ⟨hplain, h⟩
    · simp [Token.isWord, h.lexeme]
    · simp [Token.isWord, h.lexeme]
    · rw [Token.isWord, h.lexeme, beq_eq_false_iff_ne]
      rintro ⟨⟩
      simp [hw] at hplain
  have hyield := hword (w := "yield") (by decide)
  have hasync := hword (w := "async") (by decide)
  have houtlook : arrowOutlook t = some false := by
    have hsign (p : String) (hp : p ≠ "\x7b") : t.isPunct p = false := by
      rcases hstart with h | h | ⟨-, h⟩ <;> simp [Token.isPunct, h.lexeme, hp.symm]
    simp [arrowOutlook, arrowOutlook.fromOpening, hasync, hsign "(" (by decide),
      hsign "<" (by decide)]
  have harrow : Reads budget (arrow? rules false) t none t := by
    refine reads_token.bind ?_
    rw [houtlook]
    exact reads_pure _
  have hsimple : Reads budget (asyncSimpleArrow? rules false) t none t := by
    refine reads_token.bind ?_
    simp only [hasync, Bool.false_and, Bool.false_eq_true, if_false]
    exact reads_pure _
  have hbare : Reads budget (bareAssignment rules false) t e t' := by
    refine reads_token.bind (reads_context_bind fun c => ?_)
    simp only [hyield, Bool.false_and, Bool.false_eq_true, if_false]
    refine harrow.bind (hsimple.bind (h.bind (reads_token.bind ?_)))
    rcases hend with h | h | h | h <;> simp [h, assignmentOperators] <;> exact reads_pure _
  refine reads_token.bind (hbare.bind ?_)
  simp only [hstart.impure, hstart.loud, Bool.false_eq_true, if_false]
  exact reads_pure _

/-- A member chain is an expression of its own where a separator or closing sign follows. -/
theorem reads_grammar_assignment {e : Ast} {depth : Nat} (hstart : StartsOperand t)
    (h : Reads budget (leftHandSide (grammar depth)) t e t') (hend : EndsOperand t')
    (hbudget : 0 < budget) :
    Reads budget (grammar (depth + 4) .assignment) t e t' := by
  have hunary : Reads budget (grammar (depth + 2) .unary) t e t' := reads_unary hstart h hend
  have hbinary : Reads budget (grammar (depth + 3) (.binary 0)) t e t' :=
    reads_binary hstart hunary hend hbudget 0
  exact reads_assignment hstart hbinary hend

theorem StartsOperand.lead (h : StartsOperand t) : t.lead = [] := by
  rcases h with h | h | ⟨-, h⟩ <;> exact h.lead

theorem StartsOperand.ne_punct (h : StartsOperand t) {p : String} (hp : p ≠ "\x7b") :
    t.lexeme ≠ .punct p := by
  rcases h with h | h | ⟨-, h⟩ <;> simp [h.lexeme, hp.symm]

theorem reads_arguments {e : Ast} (hopen : t.lexeme = .punct "(") (hstart : StartsOperand t.next)
    (h : Reads budget (rules .assignment) t.next e t') (he : e.withLead [] = e)
    (hclose : t'.Is (.punct ")"))
    (hbudget : 1 < budget) : Reads budget (arguments rules) t ([e], []) t'.next := by
  have hargument : Reads budget (argument rules) t.next e t' := by
    refine reads_lead.bind ((reads_eat_other (hstart.ne_punct (by decide))).bind ?_)
    simp only [hstart.lead, Bool.false_eq_true, if_false]
    refine h.bind ?_
    rw [he]
    exact reads_pure _
  refine reads_within _ ((reads_expect hopen).bind ?_)
  have hend :
      Reads budget (do let closing ← lead; expect ")"; pure ([e], closing)) t' ([e], []) t'.next :=
    reads_lead.bind ((reads_expect hclose.lexeme).bind (by rw [hclose.lead]; exact reads_pure _))
  refine Reads.bind (Repeats.many (.more ?_ (.stop ?_)) hbudget) hend
  · refine (reads_isPunct ")").bind ?_
    simp only [beq_eq_false_iff_ne.mpr (hstart.ne_punct (p := ")") (by decide)),
      Bool.false_eq_true, if_false]
    refine hargument.bind ((reads_isPunct ")").bind ?_)
    simp only [hclose.lexeme, beq_self_eq_true, if_true]
    exact reads_pure _
  · refine (reads_isPunct ")").bind ?_
    simp only [hclose.lexeme, beq_self_eq_true, if_true]
    exact reads_pure _

theorem reads_property {v : StringValue} {raw : String} {e : Ast} (h : t.Is (.string v raw))
    (hcolon : t.next.lexeme = .punct ":")
    (hvalue : Reads budget (rules .assignment) t.next.next e t') :
    Reads budget (property rules) t (.of (.property {}) [.leaf (.string v), e]) t' := by
  have hmodifier (w : String) : t.isModifier w = false := by
    simp [Token.isModifier, Token.isWord, h.lexeme]
  have hname : Reads budget variableName? t none t :=
    reads_lexeme.bind (by rw [h.lexeme]; exact reads_pure _)
  have hkey : Reads budget (propertyKey rules) t (.leaf (.string v), false) t.next :=
    reads_lexeme.bind (by rw [h.lexeme]; exact fun _ => rfl)
  intro c
  have hdots : Reads budget (eat "...") t false t := reads_eat_other (by simp [h.lexeme])
  have hstar : Reads budget (eat "*") t false t := reads_eat_other (by simp [h.lexeme])
  simp [property, bind_apply, map_apply, hdots c, hstar c, token_apply, hmodifier, hname c, hkey c,
    isPunct_apply, hcolon, eat_apply, ParseState.forward, hvalue c]

/-! ## Expressions -/

/-- A string is an expression. -/
theorem reads_string {v : StringValue} {raw : String} (h : t.Is (.string v raw))
    (hend : EndsOperand t.next)
    (hbudget : 0 < budget) (depth : Nat) :
    Reads budget (grammar (depth + 4) .assignment) t (.leaf (.string v)) t.next :=
  reads_grammar_assignment (.string h)
    (reads_leftHandSide (.string h) (reads_primary_string h) hend hbudget) hend hbudget

/-- An object is an expression when its properties are read. -/
theorem reads_object {xs : List Ast} {depth : Nat} (h : t.Is (.punct "\x7b"))
    (hitems : Listed budget "\x7d" (property (grammar depth)) xs t.next t')
    (hend : EndsOperand t'.next)
    (hbudget : xs.length < budget) :
    Reads budget (grammar (depth + 4) .assignment) t (.of .object xs) t'.next :=
  have hpositive := Nat.zero_lt_of_lt hbudget
  reads_grammar_assignment (.object h)
    (reads_leftHandSide (.object h) (reads_primary_object h hitems hbudget) hend hpositive)
    hend hpositive

/-- The call of a function by its name, with one argument. -/
def callOf (name : String) (e : Ast) : Ast :=
  .of (.call false false []) [.leaf (.reference name), .absent, e]

/-- A call is an expression when its argument is. -/
theorem reads_callOf {w : String} {e : Ast} {depth : Nat} (hw : isPlainVariable w = true)
    (h : t.Is (.word w false)) (hopen : t.next.lexeme = .punct "(")
    (hstart : StartsOperand t.next.next)
    (he : Reads budget (grammar (depth + 4) .assignment) t.next.next e t')
    (hlead : e.withLead [] = e)
    (hclose : t'.Is (.punct ")")) (hend : EndsOperand t'.next) (hbudget : 1 < budget) :
    Reads budget (grammar (depth + 8) .assignment) t (callOf w e) t'.next := by
  have harguments := reads_arguments hopen hstart he hlead hclose hbudget
  exact reads_grammar_assignment (.name hw h)
    (reads_leftHandSide_call (.name hw h) (reads_primary_name hw h) hopen harguments hend hbudget)
    hend
    (Nat.zero_lt_of_lt hbudget)

end Operands

/-! ## Constants -/

section Constants

variable {budget : Nat} {t t' : Token}

theorem reads_pattern_name {w : String} {rules : Rules} (hw : isPlainVariable w = true)
    (h : t.lexeme = .word w false) :
    Reads budget (pattern rules) t (.leaf (.binding w)) t.next := by
  refine (reads_eat_other (by simp [h])).bind ?_
  simp only [Bool.false_eq_true, if_false]
  refine (reads_eat_other (by simp [h])).bind ?_
  simp only [Bool.false_eq_true, if_false]
  exact (reads_variableName hw h).bind (reads_pure _)

/-- The tokens are a list pattern with one name. -/
structure Singleton (w : String) (t : Token) : Prop where
  opening : t.lexeme = .punct "["
  name : t.next.lexeme = .word w false
  close : t.next.next.lexeme = .punct "]"

theorem reads_pattern_singleton {w : String} (hw : isPlainVariable w = true) (h : Singleton w t)
    (hbudget : 1 < budget) (depth : Nat) :
    Reads budget (grammar (depth + 2) .pattern) t (.of .arrayPattern [.leaf (.binding w)])
      t.next.next.next := by
  have helement : Reads budget (patternElement (grammar (depth + 1))) t.next (.leaf (.binding w))
      t.next.next := by
    refine Reads.bind (reads_pattern_name hw h.name) ((reads_eat_other (by simp [h.close])).bind ?_)
    exact reads_pure _
  have hitem : Reads budget (patternListItem (grammar (depth + 1))) t.next (.leaf (.binding w))
      t.next.next :=
    (reads_eat_other (by simp [h.name])).bind helement
  have hlisted : Reads budget (listElement (patternListItem (grammar (depth + 1)))) t.next
      (.leaf (.binding w)) t.next.next := by
    refine (reads_eat_other (by simp [h.name])).bind (hitem.bind ((reads_isPunct "]").bind ?_))
    simp only [h.close, beq_self_eq_true, if_true]
    exact reads_pure _
  refine (reads_eat_other (by simp [h.opening])).bind ?_
  simp only [Bool.false_eq_true, if_false]
  refine (reads_eat h.opening).bind ?_
  simp only [if_true]
  refine Reads.bind (reads_itemsUntil_one (by simp [h.name]) hlisted h.close hbudget) (reads_pure _)

theorem reads_declarator {p e : Ast} {t₁ : Token} {rules : Rules} (hp : isPatternNode p = true)
    (he : e.isAbsent = false) (hpattern : Reads budget (rules .pattern) t p t₁)
    (hsign : t₁.lexeme = .punct "=") (hvalue : Reads budget (rules .assignment) t₁.next e t')
    (isAmbient : Bool) :
    Reads budget (declarator rules "const" .statement isAmbient) t
      (.of (.declarator false) [p, .absent, e]) t' := by
  have htype : Reads budget ( typeAnnotation rules) t₁ .absent t₁ :=
    (reads_eat_other (by simp [hsign])).bind (reads_pure _)
  have hinitializer : Reads budget (initializer rules) t₁ e t' := (reads_eat hsign).bind hvalue
  have hbreak : Reads budget afterBreak t₁ t₁.afterBreak t₁ := reads_token.bind (reads_pure _)
  refine hpattern.bind (Reads.bind (reads_pure _) (hbreak.bind ?_))
  simp only [hp, Bool.true_or, if_true]
  refine Reads.bind (reads_pure _) (htype.bind (hinitializer.bind (Reads.bind (reads_pure _) ?_)))
  simp only [he, Bool.false_and, Bool.false_eq_true, if_false]
  exact reads_pure _

theorem reads_variableDecl {item : Ast} {rules : Rules} (h : t.lexeme = .word "const" false)
    (hitem : ∀ isAmbient,
      Reads budget (declarator rules "const" .statement isAmbient) t.next item t')
    (hend : t'.lexeme = .punct ";") (hbudget : 0 < budget) :
    Reads budget (variableDecl rules .statement false) t
      (.of (.variableDecl "const" false) [item]) t' := by
  have hkeyword : Reads budget anyName t "const" t.next :=
    reads_lexeme.bind (by rw [h]; exact fun _ => rfl)
  refine hkeyword.bind (Reads.bind (reads_pure _) (reads_context_bind fun c => ?_))
  exact Reads.bind (reads_separated_one (hitem _) (by simp [hend]) hbudget) (reads_pure _)

/-- A constant is declared by a statement of its own. -/
theorem reads_statement_const {item : Ast} {rules : Rules} (h : t.Is (.word "const" false))
    (hopen : t.next.lexeme = .punct "[")
    (hitem : ∀ isAmbient,
      Reads budget (declarator rules "const" .statement isAmbient) t.next item t')
    (hend : t'.lexeme = .punct ";") (hbudget : 0 < budget) :
    Reads budget (statement rules) t (.of (.variableDecl "const" false) [item]) t'.next := by
  have hdecl := reads_variableDecl h.lexeme hitem hend hbudget
  have hnext (w : String) : t.next.isWord w = false := by simp [Token.isWord, hopen]
  have hsemicolon : Reads budget semicolon t' () t'.next := (reads_eat hend).bind (reads_pure _)
  have hvariables : Reads budget (declaration?.variableStatement rules false) t
      (some (.of (.variableDecl "const" false) [item])) t'.next := by
    refine reads_token.bind ?_
    simp only [startsVariables, Token.isWord, h.lexeme, hopen]
    exact hdecl.bind (hsemicolon.bind (reads_pure _))
  have hdeclaration : Reads budget (declaration? rules false) t
      (some (.of (.variableDecl "const" false) [item])) t'.next := by
    refine reads_token.bind ?_
    simp only [h.lexeme, hnext, Bool.false_eq_true, if_false]
    exact hvariables
  have hdeclared : Reads budget (declared? rules) t none t := by
    refine reads_token.bind ?_
    simp only [hopen, Bool.and_false, Bool.false_eq_true, if_false]
    exact reads_pure _
  have hbare :
      Reads budget (bareStatement rules) t (.of (.variableDecl "const" false) [item]) t'.next := by
    refine reads_lexeme.bind ?_
    rw [h.lexeme]
    exact hdeclared.bind (hdeclaration.bind (reads_pure _))
  refine reads_token.bind ?_
  have hsign : t.isPunct "@" = false := by simp [Token.isPunct, h.lexeme]
  simp only [hsign, h.lead, h.loud, Bool.false_eq_true, if_false]
  exact hbare.bind (Reads.bind (reads_pure _) (reads_pure _))

end Constants

end Nativize.Syntax.Parse
