import Mathlib.Data.Nat.Digits.Defs
import Nativize.Proofs.Style.Numeral

/-!
# The number at the front of a text

A numeral of ASCII digits says a number: the rules of `Denotes` read its digits in base ten, and the
nearest number is taken as given. Main statement: the number at the front of a text is what the
longest numeral there says, and NaN is the answer where there is no numeral or the longest one has a
digit that is not of ASCII.
-/

namespace Nativize.Style

open Text

/-! ## What a numeral says -/

/-- The natural that digits say in base ten. -/
def decimalValue (digits : List Char) : Nat := Nat.ofDigits 10 (digits.map digitValue).reverse

/-- All characters are the digits `0` to `9`. -/
def AllAscii (text : List Char) : Prop := ∀ c ∈ text, c.isDigit = true

/-- The text is an exponent, or nothing, which stands for zero. -/
inductive DenotesPower : List Char → Int → Prop
  | absent : DenotesPower [] 0
  | present {mark : Char} {sign digits : List Char} (hmark : mark = 'e' ∨ mark = 'E')
      (hsign : sign ∈ Numeral.sign) (hne : digits ≠ []) (hdigits : AllAscii digits) :
      DenotesPower (mark :: (sign ++ digits))
        (if sign = ['-'] then -(decimalValue digits : Int) else decimalValue digits)

/-- The text has digits of the value, the given number of them after a point. -/
inductive DenotesDigits : List Char → Nat → Nat → Prop
  | whole {digits : List Char} (hne : digits ≠ []) (hdigits : AllAscii digits) :
      DenotesDigits digits (decimalValue digits) 0
  | point {whole fraction : List Char} (hne : whole ≠ [] ∨ fraction ≠ []) (hwhole : AllAscii whole)
      (hfraction : AllAscii fraction) :
      DenotesDigits (whole ++ '.' :: fraction) (decimalValue (whole ++ fraction)) fraction.length

/-- The text is a numeral that says the number. -/
inductive Denotes : List Char → Number → Prop
  | infinity {sign : List Char} (hsign : sign ∈ Numeral.sign) :
      Denotes (sign ++ "Infinity".toList) (.infinite (sign = ['-']))
  | decimal {sign mantissa power : List Char} {value places : Nat} {exponent : Int}
      (hsign : sign ∈ Numeral.sign) (hmantissa : DenotesDigits mantissa value places)
      (hpower : DenotesPower power exponent) :
      Denotes (sign ++ (mantissa ++ power)) (.ofDecimal (sign = ['-']) value (exponent - places))

theorem digitsValue_eq (digits : List Char) : digitsValue digits = decimalValue digits := by
  induction digits using List.reverseRecOn with
  | nil => rfl
  | append_singleton digits c ih =>
    simp only [digitsValue, decimalValue] at ih ⊢
    rw [List.foldl_append, ih]
    simp [Nat.ofDigits_cons]
    omega

theorem toList_eq_minus_iff {sign : Option Char} : sign.toList = ['-'] ↔ sign = some '-' := by
  cases sign <;> simp

/-! ## ASCII digits -/

theorem isDigit_of_ascii :
    ∀ n < 128, isDecimalDigit (Char.ofNat n) = true → (Char.ofNat n).isDigit = true := by
  decide +kernel

theorem isDigit_iff {c : Char} (h : isDecimalDigit c = true) :
    c.isDigit = true ↔ c.toNat < 128 := by
  constructor
  · intro hdigit
    simp only [Char.isDigit, Bool.and_eq_true, decide_eq_true_eq] at hdigit
    have hle : c.toNat ≤ 57 := hdigit.2
    omega
  · intro hlt
    have hascii := isDigit_of_ascii c.toNat hlt
    rw [Char.ofNat_toNat] at hascii
    exact hascii h

theorem isDecimalDigit_of_isDigit {c : Char} (h : c.isDigit = true) : isDecimalDigit c = true := by
  simp only [Char.isDigit, Bool.and_eq_true, decide_eq_true_eq] at h
  exact CharRange.anyContains_iff.mpr ⟨(0x30, 0x39), by decide, h⟩

theorem AllAscii.allDigits {text : List Char} (h : AllAscii text) : AllDigits text :=
  fun c hc => isDecimalDigit_of_isDigit (h c hc)

section Digits

variable {c : Char} (hc : isDecimalDigit c = true)

include hc

theorem not_mem_sign {sign : Option Char} (h : IsSign sign) : c ∉ sign.toList := by
  have hmarks := not_mem_marks hc
  rcases h with rfl | rfl | rfl <;> simp_all [marks]

theorem mem_mantissaText_iff {whole fraction : List Char} {point : Bool}
    (h : IsMantissa whole point fraction) :
    c ∈ mantissaText whole point fraction ↔ c ∈ whole ++ fraction := by
  have hpoint : c ≠ '.' := by
    rintro rfl
    exact not_mem_marks hc (by decide)
  cases point with
  | true => simp [mantissaText, hpoint]
  | false => simp [mantissaText, h.pointless rfl]

theorem mem_powerText_iff {power : Option (Char × Option Char × List Char)} (h : IsPower power) :
    c ∈ powerText power ↔ c ∈ (power.map (·.2.2)).getD [] := by
  cases h with
  | absent => rfl
  | @present mark sign digits hmark hsign hne hdigits =>
    have hletter : c ≠ mark := by
      rintro rfl
      exact not_mem_marks hc (by rcases hmark with rfl | rfl <;> decide)
    simp [powerText, hletter, not_mem_sign hc hsign]

/-- The digits of a written form are those of its parts. -/
theorem mem_text_iff {n : NumberText} (h : n.WellFormed) : c ∈ n.text ↔ c ∈ n.digits := by
  cases h with
  | infinity hsign =>
    have hword : c ∉ "Infinity".toList :=
      fun hmem => not_mem_marks hc (List.mem_append_right _ hmem)
    rw [NumberText.text, List.mem_append]
    exact iff_of_false (not_or_intro (not_mem_sign hc hsign) hword) List.not_mem_nil
  | decimal hsign hmantissa hpower =>
    rw [NumberText.text, NumberText.digits, List.mem_append, List.mem_append, List.mem_append,
      mem_mantissaText_iff hc hmantissa, mem_powerText_iff hc hpower]
    exact or_iff_right (not_mem_sign hc hsign)

end Digits

theorem allDigits_digits {n : NumberText} (h : n.WellFormed) : AllDigits n.digits := by
  cases h with
  | infinity hsign => exact fun c hc => absurd hc List.not_mem_nil
  | decimal hsign hmantissa hpower =>
    refine List.forall_mem_append.mpr ⟨List.forall_mem_append.mpr
      ⟨hmantissa.allWhole, hmantissa.allFraction⟩, ?_⟩
    cases hpower with
    | absent => exact fun c hc => absurd hc List.not_mem_nil
    | present hmark hsign hne hdigits => exact hdigits

theorem ofDecimal_ne_nan (negative : Bool) (digits : Nat) (exponent : Int) :
    Number.ofDecimal negative digits exponent ≠ .nan := by
  simp only [Number.ofDecimal, Number.ofRatio, Number.ofRank]
  grind

theorem value_infinity (sign : Option Char) :
    (NumberText.infinity sign).value = .infinite (sign = some '-') := rfl

theorem value_decimal {sign : Option Char} {whole fraction : List Char} {point : Bool}
    {power : Option (Char × Option Char × List Char)}
    (h : AllAscii (NumberText.decimal sign whole point fraction power).digits) :
    (NumberText.decimal sign whole point fraction power).value =
      .ofDecimal (sign = some '-') (digitsValue (whole ++ fraction))
        (powerValue power - fraction.length) :=
  if_pos (List.all_eq_true.mpr h)

theorem value_eq_nan_iff {n : NumberText} : n.value = .nan ↔ ¬ AllAscii n.digits := by
  by_cases hascii : AllAscii n.digits
  · refine iff_of_false ?_ (not_not_intro hascii)
    cases n with
    | infinity sign => exact Number.noConfusion
    | decimal sign whole point fraction power =>
      rw [value_decimal hascii]
      exact ofDecimal_ne_nan _ _ _
  · refine iff_of_true ?_ hascii
    exact if_neg fun hall => hascii (List.all_eq_true.mp hall)

/-! ## Reading the written form -/

theorem denotesPower_powerText {power : Option (Char × Option Char × List Char)} (h : IsPower power)
    (hascii : AllAscii ((power.map (·.2.2)).getD [])) :
    DenotesPower (powerText power) (powerValue power) := by
  cases h with
  | absent => exact .absent
  | @present mark sign digits hmark hsign hne hdigits =>
    have hpower := DenotesPower.present hmark (mem_sign_iff.mpr ⟨sign, hsign, rfl⟩) hne hascii
    rw [powerText, powerValue, digitsValue_eq]
    simpa only [toList_eq_minus_iff] using hpower

/-- An exponent says what its parts do. -/
theorem DenotesPower.exists_powerText {text : List Char} {exponent : Int}
    (h : DenotesPower text exponent) :
    ∃ power, IsPower power ∧ AllAscii ((power.map (·.2.2)).getD []) ∧ powerText power = text ∧
      powerValue power = exponent := by
  cases h with
  | absent => exact ⟨none, .absent, by simp [AllAscii], rfl, rfl⟩
  | @present mark sign digits hmark hsign hne hdigits =>
    obtain ⟨s, hs, rfl⟩ := mem_sign_iff.mp hsign
    refine ⟨some (mark, s, digits), .present hmark hs hne hdigits.allDigits, hdigits, rfl, ?_⟩
    rw [powerValue, digitsValue_eq]
    simp only [toList_eq_minus_iff]

theorem denotesDigits_mantissaText {whole fraction : List Char} {point : Bool}
    (h : IsMantissa whole point fraction) (hwhole : AllAscii whole)
    (hfraction : AllAscii fraction) :
    DenotesDigits (mantissaText whole point fraction) (digitsValue (whole ++ fraction))
      fraction.length := by
  rw [digitsValue_eq]
  cases point with
  | true => exact .point h.digit hwhole hfraction
  | false =>
    cases h.pointless rfl
    rw [mantissaText, if_neg Bool.false_ne_true, List.append_nil]
    exact .whole (by simpa using h.digit) hwhole

/-- Digits say what their parts do. -/
theorem DenotesDigits.exists_mantissaText {text : List Char} {value places : Nat}
    (h : DenotesDigits text value places) :
    ∃ whole point fraction, IsMantissa whole point fraction ∧ AllAscii (whole ++ fraction) ∧
      mantissaText whole point fraction = text ∧ digitsValue (whole ++ fraction) = value ∧
      fraction.length = places := by
  cases h with
  | whole hne hdigits =>
    refine ⟨text, false, [], ⟨hdigits.allDigits, by simp [AllDigits], .inl hne, fun _ => rfl⟩, ?_,
      ?_, ?_, rfl⟩
    · simpa using hdigits
    · simp [mantissaText]
    · rw [List.append_nil, digitsValue_eq]
  | @point whole fraction hne hwhole hfraction =>
    refine ⟨whole, true, fraction, ⟨hwhole.allDigits, hfraction.allDigits, hne, by simp⟩, ?_, rfl,
      digitsValue_eq _, rfl⟩
    exact List.forall_mem_append.mpr ⟨hwhole, hfraction⟩

theorem denotes_text {n : NumberText} (h : n.WellFormed) (hascii : AllAscii n.digits) :
    Denotes n.text n.value := by
  cases h with
  | @infinity sign hsign =>
    have hdenotes := Denotes.infinity (mem_sign_iff.mpr ⟨sign, hsign, rfl⟩)
    simp only [toList_eq_minus_iff] at hdenotes
    exact hdenotes
  | @decimal sign whole point fraction power hsign hmantissa hpower =>
    rw [value_decimal hascii]
    simp only [NumberText.digits, AllAscii, List.forall_mem_append] at hascii
    obtain ⟨⟨hwhole, hfraction⟩, hdigits⟩ := hascii
    have hdenotes := Denotes.decimal (mem_sign_iff.mpr ⟨sign, hsign, rfl⟩)
      (denotesDigits_mantissaText hmantissa hwhole hfraction)
      (denotesPower_powerText hpower hdigits)
    simp only [toList_eq_minus_iff] at hdenotes
    exact hdenotes

/-- A numeral says what its parts do. -/
theorem Denotes.exists_text {w : List Char} {x : Number} (h : Denotes w x) :
    ∃ n : NumberText, n.WellFormed ∧ n.text = w ∧ n.value = x := by
  cases h with
  | infinity hsign =>
    obtain ⟨s, hs, rfl⟩ := mem_sign_iff.mp hsign
    refine ⟨.infinity s, .infinity hs, rfl, ?_⟩
    simp only [value_infinity, toList_eq_minus_iff]
  | decimal hsign hmantissa hpower =>
    obtain ⟨s, hs, rfl⟩ := mem_sign_iff.mp hsign
    obtain ⟨whole, point, fraction, hm, hdigits, rfl, rfl, rfl⟩ := hmantissa.exists_mantissaText
    obtain ⟨power, hp, hascii, rfl, rfl⟩ := hpower.exists_powerText
    refine ⟨.decimal s whole point fraction power, .decimal hs hm hp, rfl, ?_⟩
    rw [value_decimal (List.forall_mem_append.mpr ⟨hdigits, hascii⟩)]
    simp only [toList_eq_minus_iff]

/-- A numeral says one number. -/
theorem denotes_text_iff {n : NumberText} (h : n.WellFormed) (hascii : AllAscii n.digits)
    {x : Number} :
    Denotes n.text x ↔ x = n.value := by
  constructor
  · intro hx
    obtain ⟨n', hn', htext, hvalue⟩ := hx.exists_text
    have hsame : some n' = some n := by rw [← scanNumber_text hn', htext, scanNumber_text h]
    cases hsame
    exact hvalue.symm
  · rintro rfl
    exact denotes_text h hascii

/-! ## The longest numeral -/

/-- The text starts with the word, and with no longer word of the language. -/
structure IsLongest (language : Language Char) (text word : List Char) : Prop where
  starts : word <+: text
  mem : word ∈ language
  longest : ∀ other, other <+: text → other ∈ language → other.length ≤ word.length

theorem IsLongest.unique {language : Language Char} {text word other : List Char}
    (h : IsLongest language text word) (hother : IsLongest language text other) : word = other := by
  have hle := h.longest other hother.starts hother.mem
  have hge := hother.longest word h.starts h.mem
  exact (List.prefix_of_prefix_length_le h.starts hother.starts hge).eq_of_length (by omega)

theorem isLongest_of_scanNumber {text : List Char} {n : NumberText} (h : scanNumber text = some n) :
    IsLongest numeral text n.text := by
  obtain ⟨hn, hstarts⟩ := scanNumber_spec h
  refine ⟨hstarts, mem_numeral_iff.mpr ⟨n, hn, rfl⟩, ?_⟩
  rintro _ ⟨rest, rfl⟩ hword
  obtain ⟨m, hm, rfl⟩ := mem_numeral_iff.mp hword
  obtain ⟨n', hscan, hlength⟩ := scanNumber_append hm rest
  rw [h] at hscan
  cases hscan
  exact hlength

theorem not_mem_of_scanNumber {text : List Char} (h : scanNumber text = none) (word : List Char)
    (hstarts : word <+: text) : word ∉ numeral := by
  obtain ⟨rest, rfl⟩ := hstarts
  intro hword
  obtain ⟨m, hm, rfl⟩ := mem_numeral_iff.mp hword
  obtain ⟨n, hscan, -⟩ := scanNumber_append hm rest
  rw [h] at hscan
  cases hscan

/-- The digit is one of another script. -/
def IsForeignDigit (c : Char) : Prop := isDecimalDigit c = true ∧ 128 ≤ c.toNat

instance (c : Char) : Decidable (IsForeignDigit c) := inferInstanceAs (Decidable (_ ∧ _))

theorem not_allAscii_digits_iff {n : NumberText} (h : n.WellFormed) :
    ¬ AllAscii n.digits ↔ ∃ c ∈ n.text, IsForeignDigit c := by
  simp only [AllAscii, not_forall]
  constructor
  · rintro ⟨c, hc, hascii⟩
    have hdigit := allDigits_digits h c hc
    rw [isDigit_iff hdigit] at hascii
    exact ⟨c, (mem_text_iff hdigit h).mpr hc, hdigit, by omega⟩
  · rintro ⟨c, hc, hdigit, hforeign⟩
    refine ⟨c, (mem_text_iff hdigit h).mp hc, ?_⟩
    rw [isDigit_iff hdigit]
    omega

/-- The number at the front of a text, after blanks, is the one that the longest numeral there says.
It is NaN if and only if the text has no numeral there, or the longest one has a digit of another
script. -/
theorem leadingNumber_reads_longest (text : List Char) :
    (leadingNumber text = .nan ↔
      (∀ word, word <+: trimLeft text → word ∉ numeral) ∨
        ∃ word, IsLongest numeral (trimLeft text) word ∧ ∃ c ∈ word, IsForeignDigit c) ∧
    ∀ word, IsLongest numeral (trimLeft text) word → (∀ c ∈ word, ¬ IsForeignDigit c) →
      ∀ x, Denotes word x ↔ x = leadingNumber text := by
  cases hscan : scanNumber (trimLeft text) with
  | none =>
    have hnone := not_mem_of_scanNumber hscan
    have hnan : leadingNumber text = .nan := by rw [leadingNumber, hscan]; rfl
    refine ⟨iff_of_true hnan (.inl hnone), ?_⟩
    intro word hword
    exact absurd hword.mem (hnone word hword.starts)
  | some n =>
    obtain ⟨hn, hstarts⟩ := scanNumber_spec hscan
    have hlongest := isLongest_of_scanNumber hscan
    have hvalue : leadingNumber text = n.value := by rw [leadingNumber, hscan]; rfl
    rw [hvalue, value_eq_nan_iff, not_allAscii_digits_iff hn]
    refine ⟨⟨fun hforeign => .inr ⟨n.text, hlongest, hforeign⟩, ?_⟩, ?_⟩
    · rintro (hnone | ⟨word, hword, hforeign⟩)
      · exact absurd hlongest.mem (hnone _ hstarts)
      · rwa [hlongest.unique hword]
    · intro word hword hascii x
      rw [← hlongest.unique hword] at hascii ⊢
      refine denotes_text_iff hn ?_
      by_contra hforeign
      obtain ⟨c, hc, hc'⟩ := (not_allAscii_digits_iff hn).mp hforeign
      exact hascii c hc hc'

/-- A numeral is read up to what it cannot hold: a second point, or the digit of another script
within it. -/
theorem leadingNumber_reads_longest_secondPoint :
    (IsLongest numeral (trimLeft " -2.e+3.5px".toList) "-2.e+3".toList ∧
      Denotes "-2.e+3".toList (.ofDecimal true 2 3) ∧
      leadingNumber " -2.e+3.5px".toList = .ofDecimal true 2 3) ∧
    IsLongest numeral (trimLeft "1٣.5px".toList) "1٣.5".toList ∧
      leadingNumber "1٣.5px".toList = .nan := by
  have hpoint : IsLongest numeral (trimLeft " -2.e+3.5px".toList) "-2.e+3".toList :=
    isLongest_of_scanNumber (n := .decimal (some '-') ['2'] true [] (some ('e', some '+', ['3'])))
      rfl
  have hscript : IsLongest numeral (trimLeft "1٣.5px".toList) "1٣.5".toList :=
    isLongest_of_scanNumber (n := .decimal none ['1', '٣'] true ['5'] none) rfl
  have hvalue : leadingNumber " -2.e+3.5px".toList = .ofDecimal true 2 3 := by decide +kernel
  have hascii : ∀ c ∈ "-2.e+3".toList, ¬ IsForeignDigit c := by simp [IsForeignDigit]
  have hreads := (leadingNumber_reads_longest " -2.e+3.5px".toList).2 _ hpoint hascii
  have hforeign : ∃ c ∈ "1٣.5".toList, IsForeignDigit c := ⟨'٣', by decide, rfl, by decide⟩
  exact ⟨⟨hpoint, (hreads _).mpr hvalue.symm, hvalue⟩, hscript,
    (leadingNumber_reads_longest _).1.mpr (.inr ⟨_, hscript, hforeign⟩)⟩

end Nativize.Style
