import Nativize.Syntax.Lexer.Scan

/-!
# Scanning a quoted text

The quoted form of a text is a string literal. Main statement: the literal ends where the quoted
form does, whatever follows, and its value is the text.
-/

namespace Nativize.Syntax

open Text

theorem hex4?_low {n : Nat} (h : n < 256) (rest : List Char) :
    hex4? ('0' :: '0' :: hexDigit (n / 16) :: hexDigit (n % 16) :: rest) = some (n, rest) := by
  have hzero : hexValue? '0' = some 0 := by decide +kernel
  have hhigh := hexValue?_hexDigit (n / 16) (by omega)
  have hlow := hexValue?_hexDigit (n % 16) (by omega)
  simp only [hex4?, hzero, hhigh, hlow, Option.some.injEq, Prod.mk.injEq, and_true]
  omega

/-- A unit this low is not joined with what follows. -/
theorem unitEscape?_low {n : Nat} (h : n < 256) (rest : List Char) :
    unitEscape? ('0' :: '0' :: hexDigit (n / 16) :: hexDigit (n % 16) :: rest) =
      some (n, rest) := by
  have hhalf : isHighHalf n = false := by
    simp only [isHighHalf, Bool.and_eq_false_iff, decide_eq_false_iff_not]
    omega
  rw [unitEscape?, hex4?_low h, Option.map_some]
  dsimp only
  split
  · split <;> simp [hhalf]
  · rfl

/-- The character stands for itself between double quotes. -/
def isPlain (c : Char) : Bool := c ≠ '"' && c ≠ '\\' && c ≠ '\n' && c ≠ '\r'

theorem isPlain_hexDigit : ∀ n < 16, isPlain (hexDigit n) = true := by decide +kernel

/-- A character is written as itself, or as an escape that stands for it. -/
theorem quotedChar_cases (c : Char) :
    (quotedChar c = [c] ∧ isPlain c = true) ∨
    ∃ d tail, quotedChar c = '\\' :: d :: tail ∧ d ≠ '\r' ∧ (∀ x ∈ tail, isPlain x = true) ∧
      ∀ rest, escape? false (d :: (tail ++ rest)) = some ([c.toNat], rest) := by
  unfold quotedChar
  split
  · next h => subst h; exact .inr ⟨'"', [], rfl, by decide, by simp, fun rest => rfl⟩
  split
  · next h => subst h; exact .inr ⟨'\\', [], rfl, by decide, by simp, fun rest => rfl⟩
  split
  · next h => rw [h]; exact .inr ⟨'b', [], rfl, by decide, by simp, fun rest => rfl⟩
  split
  · next h => rw [h]; exact .inr ⟨'f', [], rfl, by decide, by simp, fun rest => rfl⟩
  split
  · next h => subst h; exact .inr ⟨'n', [], rfl, by decide, by simp, fun rest => rfl⟩
  split
  · next h => subst h; exact .inr ⟨'r', [], rfl, by decide, by simp, fun rest => rfl⟩
  split
  · next h => subst h; exact .inr ⟨'t', [], rfl, by decide, by simp, fun rest => rfl⟩
  split
  · next h =>
    have hzero : isPlain '0' = true := by decide
    have hhigh := isPlain_hexDigit (c.toNat / 16) (by omega)
    have hlow := isPlain_hexDigit (c.toNat % 16) (by omega)
    refine .inr ⟨'u', ['0', '0', hexDigit (c.toNat / 16), hexDigit (c.toNat % 16)], rfl, by decide,
      by simp [hzero, hhigh, hlow], fun rest => ?_⟩
    simp [escape?, unitEscape?_low (Nat.lt_trans h (by decide : 32 < 256))]
  · next hquote hbackslash _ _ hfeed hreturn _ _ =>
    exact .inl ⟨rfl, by simp [isPlain, hquote, hbackslash, hfeed, hreturn]⟩

/-! ## The extent of the literal -/

theorem stringExtent_plain {c : Char} (h : isPlain c = true) (rest : List Char) :
    stringExtent '"' (c :: rest) =
      (stringExtent '"' rest).map fun (body, after) => (c :: body, after) := by
  simp only [isPlain, Bool.and_eq_true, decide_eq_true_eq] at h
  obtain ⟨⟨⟨hquote, hbackslash⟩, hfeed⟩, hreturn⟩ := h
  rw [stringExtent] <;> simp_all

theorem stringExtent_plains {cs : List Char} (h : ∀ c ∈ cs, isPlain c = true) (rest : List Char) :
    stringExtent '"' (cs ++ rest) =
      (stringExtent '"' rest).map fun (body, after) => (cs ++ body, after) := by
  induction cs with
  | nil =>
    rw [List.nil_append]
    cases stringExtent '"' rest <;> rfl
  | cons c cs ih =>
    rw [List.cons_append, stringExtent_plain (h c List.mem_cons_self),
      ih fun d hd => h d (List.mem_cons_of_mem _ hd)]
    cases stringExtent '"' rest <;> rfl

theorem stringExtent_quotedChar (c : Char) (rest : List Char) :
    stringExtent '"' (quotedChar c ++ rest) =
      (stringExtent '"' rest).map fun (body, after) => (quotedChar c ++ body, after) := by
  rcases quotedChar_cases c with ⟨hc, hplain⟩ | ⟨d, tail, hc, hd, htail, -⟩
  · rw [hc]
    exact stringExtent_plain hplain rest
  · have hescape : stringExtent '"' ('\\' :: d :: (tail ++ rest)) =
        (stringExtent '"' (tail ++ rest)).map fun (body, after) => ('\\' :: d :: body, after) := by
      rw [stringExtent]
      simp_all
    rw [hc, List.cons_append, List.cons_append, hescape, stringExtent_plains htail]
    cases stringExtent '"' rest <;> rfl

/-- The text of the literal is all that was written. -/
theorem stringExtent_quoted (text rest : List Char) :
    stringExtent '"' (text.flatMap quotedChar ++ '"' :: rest) =
      some (text.flatMap quotedChar, rest) := by
  induction text with
  | nil => simp [stringExtent]
  | cons c text ih => simp [List.append_assoc, stringExtent_quotedChar, ih]

/-! ## The value of the literal -/

theorem unitsOf_quotedChar (c : Char) (fuel : Nat) (rest : List Char) :
    unitsOf false (fuel + 1) (quotedChar c ++ rest) =
      (unitsOf false fuel rest).map (c.toNat :: ·) := by
  rcases quotedChar_cases c with ⟨hc, hplain⟩ | ⟨d, tail, hc, -, -, hescape⟩
  · have hbackslash : c ≠ '\\' := by
      rintro rfl
      cases hplain
    rw [hc, List.singleton_append, unitsOf]
    simpa using hbackslash
  · rw [hc, List.cons_append, List.cons_append, unitsOf, hescape]
    rfl

theorem unitsOf_quoted (text : List Char) {fuel : Nat} (h : text.length ≤ fuel) :
    unitsOf false fuel (text.flatMap quotedChar) = some (text.map Char.toNat) := by
  induction text generalizing fuel with
  | nil => cases fuel <;> rfl
  | cons c text ih =>
    obtain ⟨fuel, rfl⟩ := Nat.exists_eq_add_one_of_ne_zero (n := fuel) (by simp at h; omega)
    rw [List.flatMap_cons, unitsOf_quotedChar, ih (by simpa using h)]
    rfl

/-- No character is half of a pair. -/
theorem not_isHalf (c : Char) : (isHighHalf c.toNat || isLowHalf c.toNat) = false := by
  have hvalid : c.toNat < 0xD800 ∨ 0xDFFF < c.toNat ∧ c.toNat < 0x110000 := c.valid
  simp only [isHighHalf, isLowHalf, Bool.or_eq_false_iff, Bool.and_eq_false_iff,
    decide_eq_false_iff_not]
  omega

theorem stringValue_toNat (text : List Char) :
    stringValue (text.map Char.toNat) = ⟨String.ofList text, false⟩ := by
  have hhalf : ((text.map Char.toNat).any fun n => isHighHalf n || isLowHalf n) = false := by
    simp [not_isHalf, -Bool.or_eq_false_iff]
  have hchars : (text.map Char.toNat).map Char.ofNat = text := by
    simp [Function.comp_def]
  rw [stringValue, hhalf, hchars]
  rfl

/-- The quoted form of a text is scanned as a string with the text as its value, and no more is
taken. -/
theorem scanLexeme_quoted (text : String) (rest : List Char) :
    scanLexeme (quotedChars text.toList ++ rest) =
      (.string ⟨text, false⟩ (String.ofList (text.toList.flatMap quotedChar)), rest) := by
  have hextent := stringExtent_quoted text.toList rest
  have hunits := unitsOf_quoted text.toList (length_le_quoted text.toList)
  rw [quotedChars, List.cons_append, List.append_assoc, scanLexeme, scanString,
    List.singleton_append, hextent]
  simp only [hunits, stringValue_toNat, String.ofList_toList]

end Nativize.Syntax
