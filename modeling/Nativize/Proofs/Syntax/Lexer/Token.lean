import Nativize.Proofs.Syntax.Lexer.Quotation

/-!
# Scanned tokens

What the tokens of a text are when the text is put together from words, quoted texts and signs, with
blanks between them. Each law says what a text starts with and what is left of it, so that the
tokens of a longer text follow one after the other.
-/

namespace Nativize.Syntax

/-! ## Words -/

/-- The text is an identifier, written without escapes. -/
def isPlainWord : List Char → Bool
  | c :: tail => Text.isIdentifierStart c && tail.all Text.isIdentifierPart
  | [] => false

/-- The character ends a word. -/
def endsWord (c : Char) : Bool := !Text.isIdentifierPart c && c != '\\'

/-- The blanks and line breaks beyond ASCII. -/
def blankRanges : List Text.CharRange :=
  [(0x85, 0x85), (0xA0, 0xA0), (0x1680, 0x1680), (0x2000, 0x200B), (0x2028, 0x2029),
   (0x202F, 0x202F), (0x205F, 0x205F), (0x3000, 0x3000), (0xFEFF, 0xFEFF)]

theorem exists_blankRange {c : Char} (hc : 0x80 ≤ c.toNat) (h : isLineBreak c || isProgramBlank c) :
    ∃ b ∈ blankRanges, b.1 ≤ c.toNat ∧ c.toNat ≤ b.2 := by
  have hascii (d : Char) (hd : d.toNat < 0x80) : c ≠ d := by
    rintro rfl
    omega
  simp only [isLineBreak, isProgramBlank, Bool.or_eq_true, Bool.and_eq_true, beq_iff_eq,
    decide_eq_true_eq, hascii '\n' (by decide), hascii '\r' (by decide), hascii ' ' (by decide),
    hascii '\t' (by decide), false_or] at h
  simp only [blankRanges, List.mem_cons, List.not_mem_nil, or_false, exists_eq_or_imp,
    exists_eq_left]
  omega

/-- No letter that starts an identifier is a blank. -/
theorem disjoint_blankRanges :
    ∀ r ∈ Text.identifierStartRanges, ∀ b ∈ blankRanges, r.2 < b.1 ∨ b.2 < r.1 := by
  decide +kernel

/-- What starts an identifier starts nothing else. -/
structure StartsWord (c : Char) : Prop where
  part : Text.isIdentifierPart c = true
  solid : (isLineBreak c || isProgramBlank c) = false
  noDigit : c.isDigit = false
  noSign : c ∉ ['/', '"', '\'', '\x60', '#', '.', '\\']

theorem startsWord_ascii : ∀ n < 0x80, Text.isIdentifierStart (Char.ofNat n) = true →
    Text.isIdentifierPart (Char.ofNat n) = true ∧
    (isLineBreak (Char.ofNat n) || isProgramBlank (Char.ofNat n)) = false ∧
    (Char.ofNat n).isDigit = false ∧ Char.ofNat n ∉ ['/', '"', '\'', '\x60', '#', '.', '\\'] := by
  decide +kernel

theorem startsWord {c : Char} (h : Text.isIdentifierStart c = true) : StartsWord c := by
  by_cases hc : c.toNat < 0x80
  · have hascii := startsWord_ascii c.toNat hc
    rw [Char.ofNat_toNat] at hascii
    obtain ⟨hpart, hsolid, hdigit, hsign⟩ := hascii h
    exact ⟨hpart, hsolid, hdigit, hsign⟩
  · have hlarge (d : Char) (hd : d.toNat < 0x80) : c ≠ d := by
      rintro rfl
      exact hc hd
    rw [Text.isIdentifierStart, if_neg hc] at h
    obtain ⟨r, hr, hlow, hhigh⟩ := Text.CharRange.anyContains_iff.mp h
    refine ⟨?_, ?_, ?_, ?_⟩
    · rw [Text.isIdentifierPart, if_neg hc, h]
      rfl
    · rw [Bool.eq_false_iff]
      intro hblank
      obtain ⟨b, hb, hblow, hbhigh⟩ := exists_blankRange (Nat.le_of_not_lt hc) hblank
      have hdisjoint := disjoint_blankRanges r hr b hb
      omega
    · rw [Bool.eq_false_iff]
      intro hdigit
      simp only [Char.isDigit, Bool.and_eq_true, decide_eq_true_eq] at hdigit
      have hle : c.toNat ≤ 57 := hdigit.2
      omega
    · simp only [List.mem_cons, List.not_mem_nil, or_false, not_or]
      exact ⟨hlarge _ (by decide), hlarge _ (by decide), hlarge _ (by decide), hlarge _ (by decide),
        hlarge _ (by decide), hlarge _ (by decide), hlarge _ (by decide)⟩

theorem ne_backslash {c : Char} (h : Text.isIdentifierPart c = true) : c ≠ '\\' := by
  rintro rfl
  exact absurd h (by decide +kernel)

theorem nameExtent_cons {c : Char} (hc : c ≠ '\\') (fuel : Nat) (rest : List Char) :
    nameExtent (fuel + 1) (c :: rest) =
      if Text.isIdentifierPart c then
        (nameExtent fuel rest).map fun (name, escaped, after) => (c :: name, escaped, after)
      else some ([], false, c :: rest) := by
  rw [nameExtent] <;> simp [hc]

theorem nameExtent_append {name : List Char} {d : Char} {rest : List Char} {fuel : Nat}
    (hname : name.all Text.isIdentifierPart) (hd : endsWord d = true) (hfuel : name.length < fuel) :
    nameExtent fuel (name ++ d :: rest) = some (name, false, d :: rest) := by
  obtain ⟨fuel, rfl⟩ := Nat.exists_eq_succ_of_ne_zero (Nat.ne_zero_of_lt hfuel)
  induction name generalizing fuel with
  | nil =>
    simp only [endsWord, Bool.and_eq_true, Bool.not_eq_true', bne_iff_ne] at hd
    simp [nameExtent_cons hd.2, hd.1]
  | cons c tail ih =>
    simp only [List.all_cons, Bool.and_eq_true] at hname
    obtain ⟨fuel, rfl⟩ := Nat.exists_eq_succ_of_ne_zero
      (show fuel ≠ 0 by simp only [List.length_cons] at hfuel; omega)
    rw [List.cons_append, nameExtent_cons (ne_backslash hname.1), if_pos hname.1,
      ih hname.2 fuel (by simp only [List.length_cons] at hfuel; omega)]
    rfl

/-- A word before a character that ends it is scanned as a word. -/
theorem scanLexeme_word {name : List Char} {d : Char} (hname : isPlainWord name = true)
    (hd : endsWord d = true) (rest : List Char) :
    scanLexeme (name ++ d :: rest) = (.word (String.ofList name) false, d :: rest) := by
  cases name with
  | nil => cases hname
  | cons c tail =>
    simp only [isPlainWord, Bool.and_eq_true] at hname
    obtain ⟨hpart, -, hdigit, hsign⟩ := startsWord hname.1
    have hscan : scanName (c :: (tail ++ d :: rest)) =
        some (String.ofList (c :: tail), false, d :: rest) := by
      have hparts : (c :: tail).all Text.isIdentifierPart = true := by
        rw [List.all_cons, hpart, hname.2]
        rfl
      rw [scanName, ← List.cons_append, nameExtent_append hparts hd (by simp)]
      simp only [Option.bind_some, hname.1, hname.2, Bool.and_self, if_true]
    rw [List.cons_append, scanLexeme]
    · simp [hdigit, hname.1, hscan]
    all_goals simp_all

theorem scanGap_word {name : List Char} (hname : isPlainWord name = true) (g : Gap)
    (rest : List Char) : scanGap g .between (name ++ rest) = some (g, name ++ rest) := by
  cases name with
  | nil => cases hname
  | cons c tail =>
    simp only [isPlainWord, Bool.and_eq_true] at hname
    obtain ⟨-, hsolid, -, hsign⟩ := startsWord hname.1
    rw [Bool.or_eq_false_iff] at hsolid
    simp only [List.mem_cons, List.not_mem_nil, or_false, not_or] at hsign
    rw [List.cons_append, scanGap] <;> simp [hsolid, hsign]

/-! ## Tokens -/

/-- The token is the lexeme, without comments and marks before it. -/
structure Token.Is (t : Token) (l : Lexeme) : Prop where
  lexeme : t.lexeme = l
  lead : t.lead = []
  impure : t.isPure = false
  loud : t.isQuiet = false

/-- No comment has been seen between two lexemes. -/
structure Gap.Bare (g : Gap) : Prop where
  pending : g.pending = []
  impure : g.isPure = false
  loud : g.isQuiet = false

theorem Gap.bare_after (l : Lexeme) : (Gap.after l).Bare := ⟨rfl, rfl, rfl⟩

theorem Gap.bare_atStart : Gap.atStart.Bare := ⟨rfl, rfl, rfl⟩

/-- After nothing but blanks the text has the lexeme, and the rest follows. -/
def Scans (text : List Char) (l : Lexeme) (rest : List Char) : Prop :=
  ∃ start, (∀ g, scanGap g .between text = some (g, start)) ∧ scanLexeme start = (l, rest)

namespace Scans

variable {text rest : List Char} {l : Lexeme} {g : Gap}

theorem is (h : Scans text l rest) (hg : g.Bare) : (Token.scan g text).Is l := by
  obtain ⟨start, hgap, hlexeme⟩ := h
  rw [Token.scan, hgap]
  simp only [hlexeme]
  exact ⟨rfl, by simp [hg.pending], hg.impure, hg.loud⟩

theorem next (h : Scans text l rest) (g : Gap) :
    (Token.scan g text).next = .scan (.after l) rest := by
  obtain ⟨start, hgap, hlexeme⟩ := h
  rw [Token.scan, hgap]
  simp only [hlexeme]
  rfl

theorem blank (h : Scans text l rest) : Scans (' ' :: text) l rest := by
  obtain ⟨start, hgap, hlexeme⟩ := h
  refine ⟨start, fun g => ?_, hlexeme⟩
  rw [scanGap] <;> simp [isLineBreak, isProgramBlank, hgap]

end Scans

theorem scans_finish : Scans [] .finish [] := ⟨[], fun _ => rfl, rfl⟩

theorem scans_word {name : List Char} {d : Char} (hname : isPlainWord name = true)
    (hd : endsWord d = true) (rest : List Char) :
    Scans (name ++ d :: rest) (.word (String.ofList name) false) (d :: rest) :=
  ⟨_, fun g => scanGap_word hname g _, scanLexeme_word hname hd rest⟩

theorem scans_quoted (text : String) (rest : List Char) :
    Scans (Text.quotedChars text.toList ++ rest)
      (.string ⟨text, false⟩ (String.ofList (text.toList.flatMap Text.quotedChar))) rest := by
  refine ⟨_, fun g => ?_, scanLexeme_quoted text rest⟩
  rw [Text.quotedChars, List.cons_append, scanGap] <;> simp [isLineBreak, isProgramBlank]

/-- The signs that no longer sign starts with. -/
def loneSigns : List Char := ['\x7b', '\x7d', '(', ')', '[', ']', ';', ',', ':']

theorem scans_sign {c : Char} (hc : c ∈ loneSigns) (rest : List Char) :
    Scans (c :: rest) (.punct c.toString) rest := by
  simp only [loneSigns, List.mem_cons, List.not_mem_nil, or_false] at hc
  rcases hc with rfl | rfl | rfl | rfl | rfl | rfl | rfl | rfl | rfl <;>
    exact ⟨_, fun _ => rfl, rfl⟩

theorem scans_equals (rest : List Char) : Scans ('=' :: ' ' :: rest) (.punct "=") (' ' :: rest) :=
  ⟨_, fun _ => rfl, rfl⟩

/-! ## Lists -/

/-- Items with commas between them and a blank before each. Where there is none the blank stands
alone. -/
def listText (tail : List Char) : List String → List Char
  | [] => ' ' :: tail
  | [item] => ' ' :: (item.toList ++ tail)
  | item :: rest => ' ' :: (item.toList ++ ',' :: listText tail rest)

theorem toList_intercalate (tail : List Char) (items : List String) :
    ' ' :: ((String.intercalate ", " items).toList ++ tail) = listText tail items := by
  fun_induction listText tail items with
  | case1 => rfl
  | case2 item => simp
  | case3 item rest hrest ih =>
    obtain ⟨other, rest, rfl⟩ := List.exists_cons_of_ne_nil (show rest ≠ [] by simpa using hrest)
    rw [← ih]
    simp

theorem length_le_listText (tail : List Char) (items : List String) :
    items.length + tail.length ≤ (listText tail items).length := by
  fun_induction listText tail items with
  | case1 => simp
  | case2 item =>
    simp only [List.length_cons, List.length_append, List.length_nil]
    omega
  | case3 item rest hrest ih =>
    simp only [List.length_cons, List.length_append] at ih ⊢
    omega

end Nativize.Syntax
