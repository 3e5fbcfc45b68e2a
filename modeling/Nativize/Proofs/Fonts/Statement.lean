import Nativize.Conversion.Preamble
import Nativize.Proofs.Syntax.Parser.Constant
import Nativize.Proofs.Syntax.Tree
import Nativize.Proofs.Template

/-!
# The statement that loads fonts

The template of the statement is read as it is meant, whatever the faces are and how many of them
there are (`templateStatement_fontText`). The tokens of the text are followed from its parts to the
whole: a face, the faces of an object, the call of the hook, the statement.
-/

namespace Nativize.Conversion

open Syntax

/-! ## Trees and texts -/

/-- A face in the argument of the hook. -/
def faceProperty (f : FontFace) : Ast :=
  .of (.property {})
    [.leaf (.string ⟨f.family, false⟩), Parse.callOf "require" (.leaf (.string ⟨f.path, false⟩))]

/-- The statement that binds what the hook says about the faces. -/
def fontLoader (binding hook : String) (faces : List FontFace) : Ast :=
  .of (.variableDecl "const" false) [.of (.declarator false)
    [.of .arrayPattern [.leaf (.binding binding)], .absent,
      Parse.callOf hook (.of .object (faces.map faceProperty))]]

/-- The written form of a face. -/
def faceText (f : FontFace) : String :=
  Text.quoted f.family ++ ": require(" ++ Text.quoted f.path ++ ")"

/-- The written form of the call of the hook, and of the end of the statement. -/
def callText (hook : String) (faces : List FontFace) : List Char :=
  hook.toList ++ '(' :: '\x7b' :: listText [' ', '\x7d', ')', ';'] (faces.map faceText)

/-- The written form of what is bound, up to what follows it. -/
def boundText (binding : String) (rest : List Char) : List Char :=
  '[' :: (binding.toList ++ ']' :: rest)

/-- The written form of the statement. -/
def loaderText (binding hook : String) (faces : List FontFace) : List Char :=
  ['c', 'o', 'n', 's', 't'] ++ ' ' :: boundText binding (' ' :: '=' :: ' ' :: callText hook faces)

theorem toList_fontText (p : Profile) :
    (fontText p).toList =
      loaderText (p.names .fontsLoadedBinding) (p.names .fontHook) p.tables.fontFaces := by
  rw [loaderText, boundText, callText, ← toList_intercalate]
  simp [fontText, faceText, Function.comp_def]

/-- What follows the family in the written form of a face. -/
def requireText (f : FontFace) (rest : List Char) : List Char :=
  ':' :: ' ' :: (['r', 'e', 'q', 'u', 'i', 'r', 'e'] ++
    '(' :: (Text.quotedChars f.path.toList ++ ')' :: rest))

theorem toList_faceText (f : FontFace) (rest : List Char) :
    (faceText f).toList ++ rest = Text.quotedChars f.family.toList ++ requireText f rest := by
  simp [faceText, requireText, Text.quoted]

/-! ## Readings -/

open Parse in
/-- The call for a face is read up to what follows it. -/
theorem reads_requireText (f : FontFace) {rest : List Char}
    (hend : EndsOperand (.scan (.after (.punct ")")) rest)) {budget : Nat} (hbudget : 1 < budget)
    (depth : Nat) {g : Gap} (hg : g.Bare) :
    (Token.scan g (requireText f rest)).lexeme = .punct ":" ∧
      Reads budget (grammar (depth + 8) .assignment) (Token.scan g (requireText f rest)).next
        (callOf "require" (.leaf (.string ⟨f.path, false⟩)))
        (.scan (.after (.punct ")")) rest) := by
  have hrequire : isPlainWord ['r', 'e', 'q', 'u', 'i', 'r', 'e'] = true := rfl
  have hcolon := scans_sign (c := ':') (by decide) (' ' ::
    (['r', 'e', 'q', 'u', 'i', 'r', 'e'] ++ '(' :: (Text.quotedChars f.path.toList ++ ')' :: rest)))
  have hword := (scans_word hrequire (d := '(') rfl
    (Text.quotedChars f.path.toList ++ ')' :: rest)).blank
  have hopen := scans_sign (c := '(') (by decide) (Text.quotedChars f.path.toList ++ ')' :: rest)
  have hpath := scans_quoted f.path (')' :: rest)
  have hclose := scans_sign (c := ')') (by decide) rest
  have hargument := reads_string (hpath.is (Gap.bare_after (.punct "(")))
    (.paren (by rw [hpath.next]; exact (hclose.is (Gap.bare_after _)).lexeme))
    (Nat.zero_lt_of_lt hbudget) depth
  have hcall := reads_callOf (w := "require") (by decide) (hword.is (Gap.bare_after (.punct ":")))
    (by rw [hword.next]; exact (hopen.is (Gap.bare_after _)).lexeme)
    (by rw [hword.next, hopen.next]; exact .string (hpath.is (Gap.bare_after _)))
    (by rw [hword.next, hopen.next]; exact hargument) rfl
    (by rw [hpath.next]; exact hclose.is (Gap.bare_after _))
    (by rw [hpath.next, hclose.next]; exact hend) hbudget
  rw [hpath.next, hclose.next] at hcall
  refine ⟨(hcolon.is hg).lexeme, ?_⟩
  rw [requireText, hcolon.next]
  exact hcall

open Parse in
/-- A face is read as a property, up to the sign after it. -/
theorem reads_face (f : FontFace) {rest : List Char}
    (hend : EndsOperand (.scan (.after (.punct ")")) rest))
    {budget : Nat} (hbudget : 1 < budget) (depth : Nat) {g : Gap} (hg : g.Bare) :
    (Token.scan g (' ' :: ((faceText f).toList ++ rest))).lexeme ≠ .punct "\x7d" ∧
      Reads budget (property (grammar (depth + 8))) (.scan g (' ' :: ((faceText f).toList ++ rest)))
        (faceProperty f) (.scan (.after (.punct ")")) rest) := by
  have hfamily := (scans_quoted f.family (requireText f rest)).blank
  rw [← toList_faceText] at hfamily
  have hrequire := reads_requireText f hend hbudget depth (Gap.bare_after
    (.string ⟨f.family, false⟩ (String.ofList (f.family.toList.flatMap Text.quotedChar))))
  rw [← hfamily.next g] at hrequire
  refine ⟨?_, reads_property (hfamily.is hg) hrequire.1 hrequire.2⟩
  rw [(hfamily.is hg).lexeme]
  exact Lexeme.noConfusion

open Parse in
/-- The faces are read one after the other, up to a closing brace. -/
theorem listed_faces (faces : List FontFace) {tail rest : List Char}
    (hclose : Scans tail (.punct "\x7d") rest) {budget : Nat} (hbudget : 1 < budget) (depth : Nat)
    {g : Gap} (hg : g.Bare) :
    ∃ close : Token, Listed budget "\x7d" (property (grammar (depth + 8))) (faces.map faceProperty)
      (.scan g (listText tail (faces.map faceText))) close ∧
      close.next = .scan (.after (.punct "\x7d")) rest := by
  induction faces generalizing g with
  | nil => exact ⟨_, .nil (hclose.blank.is hg).lexeme, hclose.blank.next g⟩
  | cons f others ih =>
    cases others with
    | nil =>
      have hbrace := (hclose.is (Gap.bare_after (.punct ")"))).lexeme
      obtain ⟨hopen, hface⟩ := reads_face f (.brace hbrace) hbudget depth hg
      exact ⟨_, .last hopen hface hbrace, hclose.next _⟩
    | cons other others =>
      obtain ⟨close, hlisted, hnext⟩ := ih (Gap.bare_after (.punct ","))
      have hcomma :=
        scans_sign (c := ',') (by decide) (listText tail ((other :: others).map faceText))
      have hsign := (hcomma.is (Gap.bare_after (.punct ")"))).lexeme
      obtain ⟨hopen, hface⟩ := reads_face f (.comma hsign) hbudget depth hg
      refine ⟨close, .cons hopen hface ?_ hsign ?_, hnext⟩
      · rw [hsign]
        decide
      · rw [hcomma.next]
        exact hlisted

/-- The word is a name and nothing else. -/
def isVariableWord (w : String) : Bool := isPlainWord w.toList && Parse.isPlainVariable w

open Parse in
/-- The call of the hook is read up to the end of the statement. -/
theorem reads_callText {hook : String} (hhook : isVariableWord hook = true) (faces : List FontFace)
    {budget : Nat} (hbudget : faces.length + 1 < budget) (depth : Nat) {g : Gap} (hg : g.Bare) :
    Reads budget (grammar (depth + 16) .assignment) (.scan g (' ' :: callText hook faces))
      (callOf hook (.of .object (faces.map faceProperty))) (.scan (.after (.punct ")")) [';']) := by
  simp only [isVariableWord, Bool.and_eq_true] at hhook
  have hword := (scans_word hhook.1 (d := '(') rfl
    ('\x7b' :: listText [' ', '\x7d', ')', ';'] (faces.map faceText))).blank
  rw [String.ofList_toList] at hword
  have hopen := scans_sign (c := '(') (by decide)
    ('\x7b' :: listText [' ', '\x7d', ')', ';'] (faces.map faceText))
  have hbrace :=
    scans_sign (c := '\x7b') (by decide) (listText [' ', '\x7d', ')', ';'] (faces.map faceText))
  have hunbrace := (scans_sign (c := '\x7d') (by decide) [')', ';']).blank
  have hclose := scans_sign (c := ')') (by decide) [';']
  have hend := scans_sign (c := ';') (by decide) []
  obtain ⟨close, hlisted, hnext⟩ :=
    listed_faces faces hunbrace (Nat.lt_of_le_of_lt (Nat.le_add_left 1 _) hbudget) depth
      (Gap.bare_after (.punct "\x7b"))
  have hobject := reads_object (hbrace.is (Gap.bare_after (.punct "(")))
    (by rw [hbrace.next]; exact hlisted)
    (.paren (by rw [hnext]; exact (hclose.is (Gap.bare_after _)).lexeme))
    (by rw [List.length_map]; omega)
  have hcall := reads_callOf hhook.2 (hword.is hg)
    (by rw [hword.next]; exact (hopen.is (Gap.bare_after _)).lexeme)
    (by rw [hword.next, hopen.next]; exact .object (hbrace.is (Gap.bare_after _)))
    (by rw [hword.next, hopen.next]; exact hobject) rfl
    (by rw [hnext]; exact hclose.is (Gap.bare_after _))
    (.semicolon (by rw [hnext, hclose.next]; exact (hend.is (Gap.bare_after _)).lexeme)) (by omega)
  rwa [hnext, hclose.next] at hcall

open Parse in
/-- What is bound is read as a pattern. -/
theorem reads_boundText {binding : String} (hbinding : isVariableWord binding = true)
    (rest : List Char)
    {budget : Nat} (hbudget : 1 < budget) (depth : Nat) {g : Gap} (hg : g.Bare) :
    (Token.scan g (' ' :: boundText binding rest)).lexeme = .punct "[" ∧
      Reads budget (grammar (depth + 2) .pattern) (.scan g (' ' :: boundText binding rest))
        (.of .arrayPattern [.leaf (.binding binding)]) (.scan (.after (.punct "]")) rest) := by
  simp only [isVariableWord, Bool.and_eq_true] at hbinding
  have hopening := (scans_sign (c := '[') (by decide) (binding.toList ++ ']' :: rest)).blank
  have hname := scans_word hbinding.1 (d := ']') rfl rest
  rw [String.ofList_toList] at hname
  have hclosing := scans_sign (c := ']') (by decide) rest
  have hsingleton : Singleton binding (.scan g (' ' :: boundText binding rest)) :=
    { opening := (hopening.is hg).lexeme
      name := by
        rw [boundText, hopening.next]
        exact (hname.is (Gap.bare_after _)).lexeme
      close := by
        rw [boundText, hopening.next, hname.next]
        exact (hclosing.is (Gap.bare_after _)).lexeme }
  have hpattern := reads_pattern_singleton hbinding.2 hsingleton hbudget depth
  rw [boundText, hopening.next, hname.next, hclosing.next] at hpattern
  exact ⟨(hopening.is hg).lexeme, hpattern⟩

section Statement

variable {binding hook : String} (hbinding : isVariableWord binding = true)
  (hhook : isVariableWord hook = true) (faces : List FontFace)

theorem scans_loaderText (binding hook : String) (faces : List FontFace) :
    Scans (loaderText binding hook faces) (.word "const" false)
      (' ' :: boundText binding (' ' :: '=' :: ' ' :: callText hook faces)) := by
  have hkeyword : isPlainWord ['c', 'o', 'n', 's', 't'] = true := rfl
  exact scans_word hkeyword rfl _

include hbinding hhook

open Parse in
theorem reads_loaderText {budget : Nat} (hbudget : faces.length + 1 < budget) (depth : Nat) :
    Reads budget (grammar (depth + 17) .statement) (.scan .atStart (loaderText binding hook faces))
      (fontLoader binding hook faces) (.scan (.after (.punct ";")) []) := by
  have hconst := scans_loaderText binding hook faces
  have hequals := (scans_equals (callText hook faces)).blank
  have hend := scans_sign (c := ';') (by decide) []
  obtain ⟨hopening, hpattern⟩ := reads_boundText hbinding (' ' :: '=' :: ' ' :: callText hook faces)
    (Nat.lt_of_le_of_lt (Nat.le_add_left 1 _) hbudget) (depth + 14)
    (Gap.bare_after (.word "const" false))
  have hitem := reads_declarator rfl rfl hpattern (hequals.is (Gap.bare_after _)).lexeme
    (by rw [hequals.next]; exact reads_callText hhook faces hbudget depth (Gap.bare_after _))
  have hstatement := reads_statement_const (hconst.is Gap.bare_atStart)
    (by rw [hconst.next]; exact hopening) (by rw [hconst.next]; exact hitem)
    (hend.is (Gap.bare_after _)).lexeme (Nat.zero_lt_of_lt hbudget)
  rwa [hend.next] at hstatement

theorem parseProgram_loaderText :
    parseProgram (loaderText binding hook faces) =
      some (.of (.program none [] []) [fontLoader binding hook faces]) := by
  have hlexeme : (firstToken (loaderText binding hook faces)).lexeme = .word "const" false :=
    ((scans_loaderText binding hook faces).is Gap.bare_atStart).lexeme
  have hlength : faces.length + 1 < (loaderText binding hook faces).length + 2 := by
    have hfaces := length_le_listText [' ', '\x7d', ')', ';'] (faces.map faceText)
    simp only [loaderText, boundText, callText, List.length_append, List.length_cons,
      List.length_map]
      at hfaces ⊢
    omega
  have hkind : (fontLoader binding hook faces).anyKind isCoverDefault = false := by
    simp [fontLoader, faceProperty, Parse.callOf, Ast.of, Ast.leaf, Ast.absent, Ast.anyKind,
      Ast.anyKindOf_eq, isCoverDefault]
  exact parseProgram_of_reads rfl (by simp [hlexeme]) (by simp [hlexeme])
    (reads_loaderText hbinding hhook faces hlength
      (16 * (loaderText binding hook faces).length + 47))
    (scans_finish.is (Gap.bare_after _)) hkind

end Statement

/-- The template of the statement is read as it is meant, for all faces. -/
theorem templateStatement_fontText {p : Profile}
    (hbinding : isVariableWord (p.names .fontsLoadedBinding) = true)
    (hhook : isVariableWord (p.names .fontHook) = true) :
    templateStatement (fontText p) =
      .ok (fontLoader (p.names .fontsLoadedBinding) (p.names .fontHook) p.tables.fontFaces) := by
  refine templateStatement_of_parse ?_ ?_
  · rw [toList_fontText, parseProgram_loaderText hbinding hhook]
  · simp [fontLoader, faceProperty, Parse.callOf, Ast.of, Ast.leaf, Ast.absent, Ast.withoutComments,
      Ast.mapKinds, Ast.mapKindsOf_eq, Kind.withoutComments, Function.comp_def]

end Nativize.Conversion
