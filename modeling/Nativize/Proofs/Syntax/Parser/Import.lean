import Nativize.Proofs.Syntax.Parser.Reading

/-!
# Reading an import

What a program is that consists of one import of named values. Main statement: its tree has the
names in their order, whatever their number, and the module, whatever its name.
-/

namespace Nativize.Syntax

namespace Parse

/-! ## Names -/

/-- The name can be imported as it is. -/
def isImportName (name : String) : Bool := isPlainWord name.toList && isBindable name

section Names

variable {budget : Nat} {t : Token} {name p : String}

theorem reads_listedName (h : t.Is (.word name false)) :
    Reads budget listedName t ⟨.ident name, []⟩ t.next := by
  refine reads_lead.bind ?_
  rw [h.lead]
  refine Reads.bind (reads_lexeme.bind ?_) (reads_pure _)
  rw [h.lexeme]
  exact fun _ => rfl

/-- Before a sign each word is a name, also one that would change what follows it. -/
theorem reads_specifier (h : t.Is (.word name false)) (hnext : t.next.lexeme = .punct p) :
    Reads budget specifier t ⟨⟨.ident name, []⟩, none, false⟩ t.next := by
  have has : Reads budget (isWord "as") t.next false t.next := fun c => by
    simp [isWord_apply, hnext]
  have heat : Reads budget (eatWord "as") t.next false t.next := fun c => by
    simp [eatWord_apply, hnext]
  refine (reads_listedName h).bind ?_
  by_cases htype : name = "type"
  · simp only [htype, if_true]
    refine has.bind fun c => ?_
    simp only [Bool.false_eq_true, if_false, bind_apply, lexeme_apply, hnext, Option.bind_some]
    rfl
  · simp only [ModuleName.ident.injEq, htype, if_false]
    exact heat.bind (reads_pure _)

theorem reads_importSpecifier (hname : isBindable name = true) (h : t.Is (.word name false))
    (hnext : t.next.lexeme = .punct p) :
    Reads budget (importSpecifier false) t (.byName (.ident name) name false) t.next := by
  refine (reads_specifier h hnext).bind (Reads.bind (reads_pure _) ?_)
  simp only [Option.getD_none, ensure, hname, if_true]
  exact Reads.bind (reads_pure _) (reads_pure _)

end Names

/-- The token of a name in a list, and what follows it. -/
theorem scans_name {name : String} (hname : isPlainWord name.toList = true) {d : Char}
    (hd : endsWord d = true) (rest : List Char) :
    Scans (' ' :: (name.toList ++ d :: rest)) (.word name false) (d :: rest) := by
  have hscans := (scans_word hname hd rest).blank
  rwa [String.ofList_toList] at hscans

/-- The names of a list are read one after the other. -/
theorem listed_listText {names : List String} (hne : names ≠ [])
    (hnames : ∀ n ∈ names, isImportName n = true) {d : Char} {tail rest : List Char}
    (hd : endsWord d = true) (hclose : Scans (d :: tail) (.punct "\x7d") rest)
    (budget : Nat) {g : Gap}
    (hg : g.Bare) :
    ∃ l, Listed budget "\x7d" (importSpecifier false)
      (names.map fun n => .byName (.ident n) n false)
      (.scan g (listText (d :: tail) names)) (.scan (.after l) (d :: tail)) := by
  fun_induction listText (d :: tail) names generalizing g with
  | case1 => exact absurd rfl hne
  | case2 name =>
    have hname := hnames name List.mem_cons_self
    simp only [isImportName, Bool.and_eq_true] at hname
    have hscans := scans_name hname.1 hd tail
    have hbrace := (hclose.is (Gap.bare_after (.word name false))).lexeme
    rw [← hscans.next g] at hbrace
    refine ⟨.word name false, ?_⟩
    rw [← hscans.next g]
    exact .last (by simp [(hscans.is hg).lexeme])
      (reads_importSpecifier hname.2 (hscans.is hg) hbrace) hbrace
  | case3 name rest' hrest ih =>
    have hname := hnames name List.mem_cons_self
    simp only [isImportName, Bool.and_eq_true] at hname
    have hcomma := scans_sign (c := ',') (by decide) (listText (d :: tail) rest')
    have hscans := scans_name hname.1 (d := ',') rfl (listText (d :: tail) rest')
    have hsign := (hcomma.is (Gap.bare_after (.word name false))).lexeme
    obtain ⟨l, hlisted⟩ :=
      ih (by simpa using hrest) (fun n hn => hnames n (List.mem_cons_of_mem _ hn))
      (Gap.bare_after (.punct ","))
    rw [← hscans.next g] at hsign
    have hnext :
        (Token.scan g (' ' :: (name.toList ++ ',' :: listText (d :: tail) rest'))).next.next =
        .scan (.after (.punct ",")) (listText (d :: tail) rest') := by
      rw [hscans.next g]
      exact hcomma.next _
    exact ⟨l, .cons (by simp [(hscans.is hg).lexeme])
      (reads_importSpecifier hname.2 (hscans.is hg) hsign)
      (by rw [hsign]; decide) hsign (hnext ▸ hlisted)⟩

/-! ## Imports -/

/-- The tree of an import of named values. -/
def namedImport (names : List String) (source : StringValue) : Ast :=
  .leaf (.importDecl ⟨some (names.map fun n => .byName (.ident n) n false), source, false,
    none, none⟩)

/-- The tokens of an import of named values, from the keyword to the end. -/
structure ImportTokens (budget : Nat) (names : List String) (source : StringValue)
    (t close : Token) :
    Prop where
  word : t.Is (.word "import" false)
  opening : t.next.lexeme = .punct "\x7b"
  names :
    Listed budget "\x7d" (importSpecifier false) (names.map fun n => .byName (.ident n) n false)
    t.next.next close
  fromWord : close.next.lexeme = .word "from" false
  source : ∃ raw, close.next.next.lexeme = .string source raw
  semicolon : close.next.next.next.lexeme = .punct ";"

section Imports

variable {budget : Nat} {names : List String} {source : StringValue} {t close : Token}

theorem reads_importBindings (h : ImportTokens budget names source t close)
    (hbudget : names.length < budget) :
    Reads budget (importBindings false) t.next (names.map fun n => .byName (.ident n) n false)
      close.next := by
  have hname : Reads budget variableName? t.next none t.next :=
    reads_lexeme.bind (by rw [h.opening]; exact reads_pure _)
  have hvariable : Reads budget atVariableName t.next false t.next := hname.bind (reads_pure _)
  refine hvariable.bind
    ((reads_eat_other (by simp [h.opening])).bind ((reads_expect h.opening).bind ?_))
  exact h.names.reads (by simpa using hbudget)

theorem reads_importDeclaration (h : ImportTokens budget names source t close)
    (hbudget : names.length < budget) :
    Reads budget importDeclaration t (namedImport names source) close.next.next.next.next := by
  obtain ⟨raw, hsource⟩ := h.source
  have hbindings := reads_importBindings h hbudget
  have hvariable : t.next.isVariableName = false := by simp [Token.isVariableName, h.opening]
  have hword (w : String) : t.next.isWord w = false := by simp [Token.isWord, h.opening]
  have hattributes :
      Reads budget moduleAttributes? close.next.next.next none close.next.next.next := by
    refine reads_token.bind ?_
    simp only [Token.isWord, h.semicolon]
    exact reads_pure _
  have hend : Reads budget semicolon close.next.next.next () close.next.next.next.next :=
    (reads_eat h.semicolon).bind (reads_pure _)
  intro c
  rw [importDeclaration, bind_apply, expectWord_apply _ h.word.lexeme]
  simp [ParseState.forward, bind_apply, map_apply, lexeme_apply, h.opening, token_apply, hword,
    hvariable, hbindings c, expectWord_apply ⟨close.next, c, budget⟩ h.fromWord, moduleSource,
    hsource, hattributes c, hend c, advance_apply, namedImport]

theorem reads_importStatement (h : ImportTokens budget names source t close)
    (hbudget : names.length < budget)
    (depth : Nat) :
    Reads budget (grammar (depth + 2) .statement) t (namedImport names source)
      close.next.next.next.next := by
  have himport := reads_importDeclaration h hbudget
  have hitem : Reads budget (grammar (depth + 1) .moduleItem) t (namedImport names source)
      close.next.next.next.next := fun c => by
    change moduleItem (grammar depth) _ = _
    rw [moduleItem, bind_apply, isWord_apply]
    simp [h.word.lexeme, himport c]
  have hbare : Reads budget (bareStatement (grammar (depth + 1))) t (namedImport names source)
      close.next.next.next.next := fun c => by
    rw [bareStatement, bind_apply, lexeme_apply]
    simp only [Option.bind_some, h.word.lexeme]
    simp [nextIsPunct, nextIs, bind_apply, map_apply, token_apply, h.opening, hitem c]
  refine reads_token.bind ?_
  have hsign : t.isPunct "@" = false := by simp [Token.isPunct, h.word.lexeme]
  simp only [hsign, h.word.lead, h.word.loud, Bool.false_eq_true, if_false]
  exact hbare.bind (Reads.bind (reads_pure _) (reads_pure _))

end Imports

/-- What follows the names in an import of named values. -/
def importClosing (module : String) : List Char :=
  ' ' :: '\x7d' :: ' ' :: (['f', 'r', 'o', 'm'] ++ ' ' :: (Text.quotedChars module.toList ++ [';']))

/-- The text of an import of named values. -/
def importText (names : List String) (module : String) : List Char :=
  ['i', 'm', 'p', 'o', 'r', 't'] ++ ' ' :: '\x7b' :: listText (importClosing module) names

theorem importTokens_scan {names : List String} {module : String} (hne : names ≠ [])
    (hnames : ∀ n ∈ names, isImportName n = true) (budget : Nat) :
    ∃ close, ImportTokens budget names ⟨module, false⟩
      (.scan .atStart (importText names module)) close ∧
      close.next.next.next.next.Is .finish := by
  have hspace : endsWord ' ' = true := rfl
  have hkeyword : isPlainWord ['i', 'm', 'p', 'o', 'r', 't'] = true := rfl
  have hword : isPlainWord ['f', 'r', 'o', 'm'] = true := rfl
  -- the tokens of the text in turn
  have himport := scans_word hkeyword hspace
    ('\x7b' :: listText (importClosing module) names)
  have hopening :=
    (scans_sign (c := '\x7b') (by decide) (listText (importClosing module) names)).blank
  have hclose := (scans_sign (c := '\x7d') (by decide)
    (' ' :: (['f', 'r', 'o', 'm'] ++ ' ' :: (Text.quotedChars module.toList ++ [';'])))).blank
  have hfrom := (scans_word hword hspace
    (Text.quotedChars module.toList ++ [';'])).blank
  have hsource := (scans_quoted module [';']).blank
  have hend := scans_sign (c := ';') (by decide) []
  obtain ⟨l, hlisted⟩ :=
    listed_listText hne hnames hspace hclose budget (Gap.bare_after (.punct "\x7b"))
  refine ⟨.scan (.after l) (importClosing module),
    ⟨himport.is Gap.bare_atStart, ?_, ?_, ?_, ?_, ?_⟩, ?_⟩
  · rw [importText, himport.next]
    exact (hopening.is (Gap.bare_after _)).lexeme
  · rw [importText, himport.next, hopening.next]
    exact hlisted
  · rw [importClosing, hclose.next]
    exact (hfrom.is (Gap.bare_after _)).lexeme
  · rw [importClosing, hclose.next, hfrom.next]
    exact ⟨_, (hsource.is (Gap.bare_after _)).lexeme⟩
  · rw [importClosing, hclose.next, hfrom.next, hsource.next]
    exact (hend.is (Gap.bare_after _)).lexeme
  · rw [importClosing, hclose.next, hfrom.next, hsource.next, hend.next]
    exact scans_finish.is (Gap.bare_after _)

end Parse

open Parse

/-- A program that imports named values and does nothing else. -/
theorem parseProgram_importText {names : List String} {module : String} (hne : names ≠ [])
    (hnames : ∀ n ∈ names, isImportName n = true) :
    parseProgram (importText names module) =
      some (.of (.program none [] []) [namedImport names ⟨module, false⟩]) := by
  obtain ⟨close, htokens, hfinish⟩ :=
    importTokens_scan hne hnames ((importText names module).length + 2)
  have hlength : names.length < (importText names module).length + 2 := by
    have hnames := length_le_listText (importClosing module) names
    simp only [importText, List.length_append, List.length_cons]
    omega
  have hlexeme := htokens.word.lexeme
  refine parseProgram_of_reads rfl (fun v raw => ?_) ?_ (reads_importStatement htokens hlength _)
    hfinish rfl
  · rw [firstToken, hlexeme]
    exact Lexeme.noConfusion
  · rw [firstToken, hlexeme]
    exact Lexeme.noConfusion

end Nativize.Syntax
