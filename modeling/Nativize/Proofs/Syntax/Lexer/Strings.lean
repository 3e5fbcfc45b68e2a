import Nativize.Proofs.Syntax.Lexer.Token

/-!
# The strings of a text

The lexemes of a text are read one after the other, each where the one before ends, and its strings
are those of them that are string literals. `HasStrings` follows this reading from the end of the
text to its start, so that there is one law for each way in which a text is put together: a blank, a
word, a sign or a quoted text before another text.
-/

namespace Nativize.Syntax

/-- The value of a string literal. -/
def Lexeme.stringValue? : Lexeme → Option StringValue
  | .string value _ => some value
  | _ => none

/-- The lexemes from the token on, up to the end of the text or the given number. -/
def Token.lexemes : Nat → Token → List Lexeme
  | 0, _ => []
  | count + 1, t => if t.lexeme = .finish then [] else t.lexeme :: Token.lexemes count t.next

/-- The values of the string literals of a text, in their order. A text has no more lexemes than
characters. -/
def stringValues (text : List Char) : List StringValue :=
  ((Token.scan .atStart text).lexemes text.length).filterMap Lexeme.stringValue?

/-- The text starts with the lexeme, after blanks or comments, and goes on with the rest. -/
def Starts (text : List Char) (l : Lexeme) (rest : List Char) : Prop :=
  ∀ g, (Token.scan g text).lexeme = l ∧ (Token.scan g text).rest = rest

theorem Scans.starts {text rest : List Char} {l : Lexeme} (h : Scans text l rest) :
    Starts text l rest := by
  obtain ⟨start, hgap, hlexeme⟩ := h
  intro g
  rw [Token.scan, hgap]
  simp only [hlexeme, and_self]

theorem Starts.blank {text rest : List Char} {l : Lexeme} (h : Starts text l rest) :
    Starts (' ' :: text) l rest := by
  intro g
  have hgap : scanGap g .between (' ' :: text) = scanGap g .between text := by
    rw [scanGap] <;> simp [isLineBreak, isProgramBlank]
  have hstart := h g
  unfold Token.scan at hstart ⊢
  rw [hgap]
  cases hscan : scanGap g .between text with
  | none => simpa [hscan] using hstart
  | some found => simpa [hscan] using hstart

/-- The text is read to its end, and its string literals have the values. -/
inductive HasStrings : List Char → List StringValue → Prop
  | finish {text rest : List Char} (h : Starts text .finish rest) : HasStrings text []
  | string {text rest : List Char} {value : StringValue} {raw : String} {values : List StringValue}
      (h : Starts text (.string value raw) rest) (hlt : rest.length < text.length)
      (hrest : HasStrings rest values) : HasStrings text (value :: values)
  | other {text rest : List Char} {l : Lexeme} {values : List StringValue} (h : Starts text l rest)
      (hfinish : l ≠ .finish) (hstring : l.stringValue? = none) (hlt : rest.length < text.length)
      (hrest : HasStrings rest values) : HasStrings text values

namespace HasStrings

variable {text rest : List Char} {values : List StringValue}

theorem filterMap_lexemes (h : HasStrings text values) (g : Gap) {count : Nat}
    (hcount : text.length ≤ count) :
    ((Token.scan g text).lexemes count).filterMap Lexeme.stringValue? = values := by
  induction h generalizing g count with
  | finish h =>
    cases count with
    | zero => rfl
    | succ count => rw [Token.lexemes, if_pos (h g).1]; rfl
  | @string text rest value raw values h hlt hrest ih =>
    have hvalue : (Lexeme.string value raw).stringValue? = some value := rfl
    obtain ⟨count, rfl⟩ := Nat.exists_eq_add_one_of_ne_zero (n := count) (by omega)
    rw [Token.lexemes, Token.next, (h g).1, (h g).2, if_neg Lexeme.noConfusion,
      List.filterMap_cons_some hvalue, ih _ (by omega)]
  | other h hfinish hstring hlt hrest ih =>
    obtain ⟨count, rfl⟩ := Nat.exists_eq_add_one_of_ne_zero (n := count) (by omega)
    rw [Token.lexemes, Token.next, (h g).1, (h g).2, if_neg hfinish,
      List.filterMap_cons_none hstring]
    exact ih _ (by omega)

theorem stringValues_eq (h : HasStrings text values) : stringValues text = values :=
  h.filterMap_lexemes .atStart (Nat.le_refl _)

theorem blank (h : HasStrings text values) : HasStrings (' ' :: text) values := by
  cases h with
  | finish h => exact .finish h.blank
  | string h hlt hrest => exact .string h.blank (Nat.lt_succ_of_lt hlt) hrest
  | other h hfinish hstring hlt hrest =>
    exact .other h.blank hfinish hstring (Nat.lt_succ_of_lt hlt) hrest

theorem nil : HasStrings [] [] := .finish scans_finish.starts

theorem quoted (value : String) (h : HasStrings rest values) :
    HasStrings (Text.quotedChars value.toList ++ rest) (⟨value, false⟩ :: values) :=
  .string (scans_quoted value rest).starts (by simp [Text.quotedChars]; omega) h

theorem sign {c : Char} (h : HasStrings rest values) (hc : c ∈ loneSigns := by decide) :
    HasStrings (c :: rest) values :=
  .other (scans_sign hc rest).starts Lexeme.noConfusion rfl (by simp) h

theorem equals (h : HasStrings rest values) : HasStrings ('=' :: ' ' :: rest) values :=
  .other (scans_equals rest).starts Lexeme.noConfusion rfl (by simp) h.blank

theorem star (h : HasStrings rest values) : HasStrings ('*' :: ' ' :: rest) values := by
  have hscans : Scans ('*' :: ' ' :: rest) (.punct "*") (' ' :: rest) := ⟨_, fun _ => rfl, rfl⟩
  exact .other hscans.starts Lexeme.noConfusion rfl (by simp) h.blank

theorem word {name : List Char} {d : Char} (hname : isPlainWord name = true)
    (hd : endsWord d = true)
    (h : HasStrings (d :: rest) values) : HasStrings (name ++ d :: rest) values := by
  have hne : name ≠ [] := by
    rintro rfl
    cases hname
  have hpos := List.length_pos_iff.mpr hne
  exact .other (scans_word hname hd rest).starts Lexeme.noConfusion rfl (by simp; omega) h

end HasStrings

end Nativize.Syntax
