import Mathlib.Computability.Language
import Nativize.Style.Measure

/-!
# Numerals

The language of numerals, and the scan for one at the start of a text. The parts of a scanned number
are put together again as its written form. Main statements: the numerals are the written forms
(`mem_numeral_iff`), what is scanned is one at the start of the text (`scanNumber_spec`), it is no
shorter than any other numeral there (`scanNumber_append`), and the scan of a written form gives its
parts back (`scanNumber_text`).
-/

namespace Nativize.Style

open Text

/-! ## The language -/

/-- All characters are decimal digits. -/
def AllDigits (text : List Char) : Prop := ∀ c ∈ text, isDecimalDigit c = true

namespace Numeral

def digits : Language Char := {w | w ≠ [] ∧ AllDigits w}

def sign : Language Char := 1 + {['+']} + {['-']}

/-- Digits, which a point may follow and digits after it; or a point and digits. -/
def mantissa : Language Char := digits * (1 + {['.']} * (1 + digits)) + {['.']} * digits

def power : Language Char := 1 + ({['e']} + {['E']}) * (sign * digits)

end Numeral

/-- An optional sign, then `Infinity` or a decimal with an optional exponent. -/
def numeral : Language Char :=
  Numeral.sign * ({"Infinity".toList} + Numeral.mantissa * Numeral.power)

/-! ## Written forms -/

def IsSign (sign : Option Char) : Prop := sign = none ∨ sign = some '+' ∨ sign = some '-'

/-- Digits with or without a point, at least one of them. -/
structure IsMantissa (whole : List Char) (point : Bool) (fraction : List Char) : Prop where
  allWhole : AllDigits whole
  allFraction : AllDigits fraction
  digit : whole ≠ [] ∨ fraction ≠ []
  pointless : point = false → fraction = []

inductive IsPower : Option (Char × Option Char × List Char) → Prop
  | absent : IsPower none
  | present {mark : Char} {sign : Option Char} {digits : List Char}
      (hmark : mark = 'e' ∨ mark = 'E')
      (hsign : IsSign sign) (hne : digits ≠ []) (hdigits : AllDigits digits) :
      IsPower (some (mark, sign, digits))

/-- The written form of the digits before the exponent. -/
def mantissaText (whole : List Char) (point : Bool) (fraction : List Char) : List Char :=
  whole ++ if point then '.' :: fraction else []

/-- The written form of an exponent. -/
def powerText : Option (Char × Option Char × List Char) → List Char
  | none => []
  | some (mark, sign, digits) => mark :: (sign.toList ++ digits)

namespace NumberText

/-- The parts are those of a number. -/
inductive WellFormed : NumberText → Prop
  | infinity {sign : Option Char} (hsign : IsSign sign) : WellFormed (.infinity sign)
  | decimal {sign : Option Char} {whole : List Char} {point : Bool} {fraction : List Char}
      {power : Option (Char × Option Char × List Char)} (hsign : IsSign sign)
      (hmantissa : IsMantissa whole point fraction) (hpower : IsPower power) :
      WellFormed (.decimal sign whole point fraction power)

/-- The written form of a number. -/
def text : NumberText → List Char
  | .infinity sign => sign.toList ++ "Infinity".toList
  | .decimal sign whole point fraction power =>
    sign.toList ++ (mantissaText whole point fraction ++ powerText power)

end NumberText

theorem mem_sign_iff {w : List Char} : w ∈ Numeral.sign ↔ ∃ s, IsSign s ∧ s.toList = w := by
  constructor
  · rintro ((rfl | rfl) | rfl)
    · exact ⟨none, .inl rfl, rfl⟩
    · exact ⟨some '+', .inr (.inl rfl), rfl⟩
    · exact ⟨some '-', .inr (.inr rfl), rfl⟩
  · rintro ⟨s, rfl | rfl | rfl, rfl⟩
    · exact .inl (.inl rfl)
    · exact .inl (.inr rfl)
    · exact .inr rfl

theorem mem_mantissa_iff {w : List Char} :
    w ∈ Numeral.mantissa ↔
      ∃ whole point fraction, IsMantissa whole point fraction ∧
        mantissaText whole point fraction = w := by
  constructor
  · rintro (⟨whole, ⟨hne, hwhole⟩, _, rfl | ⟨_, rfl, fraction, hfraction, rfl⟩, rfl⟩ |
      ⟨_, rfl, fraction, ⟨hne, hfraction⟩, rfl⟩)
    · exact ⟨whole, false, [], ⟨hwhole, by simp [AllDigits], .inl hne, fun _ => rfl⟩, rfl⟩
    · refine ⟨whole, true, fraction, ⟨hwhole, ?_, .inl hne, by simp⟩, rfl⟩
      rcases hfraction with rfl | ⟨-, hfraction⟩
      · simp [AllDigits]
      · exact hfraction
    · exact ⟨[], true, fraction, ⟨by simp [AllDigits], hfraction, .inr hne, by simp⟩, rfl⟩
  · rintro ⟨whole, point, fraction, ⟨hwhole, hfraction, hdigit, hpoint⟩, rfl⟩
    cases point with
    | false =>
      cases hpoint rfl
      exact .inl ⟨whole, ⟨by simpa using hdigit, hwhole⟩, [], .inl rfl, rfl⟩
    | true =>
      by_cases hwhole' : whole = []
      · subst hwhole'
        exact .inr ⟨['.'], rfl, fraction, ⟨by simpa using hdigit, hfraction⟩, rfl⟩
      · by_cases hfraction' : fraction = []
        · subst hfraction'
          exact .inl ⟨whole, ⟨hwhole', hwhole⟩, ['.'], .inr ⟨['.'], rfl, [], .inl rfl, rfl⟩, rfl⟩
        · exact .inl ⟨whole, ⟨hwhole', hwhole⟩, '.' :: fraction,
            .inr ⟨['.'], rfl, fraction, .inr ⟨hfraction', hfraction⟩, rfl⟩, rfl⟩

theorem mem_power_iff {w : List Char} :
    w ∈ Numeral.power ↔ ∃ power, IsPower power ∧ powerText power = w := by
  constructor
  · rintro (rfl | ⟨_, hmark, _, ⟨_, hsign, digits, ⟨hne, hdigits⟩, rfl⟩, rfl⟩)
    · exact ⟨none, .absent, rfl⟩
    · obtain ⟨s, hs, rfl⟩ := mem_sign_iff.mp hsign
      rcases hmark with rfl | rfl
      · exact ⟨_, .present (.inl rfl) hs hne hdigits, rfl⟩
      · exact ⟨_, .present (.inr rfl) hs hne hdigits, rfl⟩
  · rintro ⟨_, hpower, rfl⟩
    cases hpower with
    | absent => exact .inl rfl
    | @present mark s digits hmark hsign hne hdigits =>
      refine .inr ⟨[mark], ?_, _, ⟨_, mem_sign_iff.mpr ⟨s, hsign, rfl⟩, digits, ⟨hne, hdigits⟩,
        rfl⟩, rfl⟩
      rcases hmark with rfl | rfl
      · exact .inl rfl
      · exact .inr rfl

theorem mem_numeral_iff {w : List Char} :
    w ∈ numeral ↔ ∃ n : NumberText, n.WellFormed ∧ n.text = w := by
  constructor
  · rintro ⟨_, hsign, _, rfl | ⟨_, hmantissa, _, hpower, rfl⟩, rfl⟩
    · obtain ⟨s, hs, rfl⟩ := mem_sign_iff.mp hsign
      exact ⟨_, .infinity hs, rfl⟩
    · obtain ⟨s, hs, rfl⟩ := mem_sign_iff.mp hsign
      obtain ⟨whole, point, fraction, hm, rfl⟩ := mem_mantissa_iff.mp hmantissa
      obtain ⟨power, hp, rfl⟩ := mem_power_iff.mp hpower
      exact ⟨_, .decimal hs hm hp, rfl⟩
  · rintro ⟨_, hn, rfl⟩
    cases hn with
    | infinity hsign => exact ⟨_, mem_sign_iff.mpr ⟨_, hsign, rfl⟩, _, .inl rfl, rfl⟩
    | decimal hsign hmantissa hpower =>
      exact ⟨_, mem_sign_iff.mpr ⟨_, hsign, rfl⟩, _,
        .inr ⟨_, mem_mantissa_iff.mpr ⟨_, _, _, hmantissa, rfl⟩,
        _, mem_power_iff.mpr ⟨_, hpower, rfl⟩, rfl⟩, rfl⟩

/-! ## Scanning the parts -/

/-- What a numeral has beside its digits. -/
def marks : List Char := ['+', '-', '.', 'e', 'E'] ++ "Infinity".toList

theorem not_mem_marks {c : Char} (h : isDecimalDigit c = true) : c ∉ marks := by
  have hnone : (marks.all fun d => !isDecimalDigit d) = true := rfl
  intro hc
  have hout := List.all_eq_true.mp hnone c hc
  rw [h] at hout
  cases hout

/-- The character may stand in the digits before the exponent. -/
def isMantissaChar (c : Char) : Bool := isDecimalDigit c || c == '.'

theorem scanDigits_eq (text : List Char) :
    scanDigits text = (text.takeWhile isDecimalDigit, text.dropWhile isDecimalDigit) :=
  List.span_eq_takeWhile_dropWhile _ _

theorem scanDigits_append {digits : List Char} (h : AllDigits digits) (rest : List Char) :
    scanDigits (digits ++ rest) = (digits ++ (scanDigits rest).1, (scanDigits rest).2) := by
  simp only [scanDigits_eq, List.takeWhile_append_of_pos h, List.dropWhile_append_of_pos h]

/-- The digits are digits, and with the rest they are the text. -/
theorem scanDigits_spec (text : List Char) :
    AllDigits (scanDigits text).1 ∧ (scanDigits text).1 ++ (scanDigits text).2 = text := by
  rw [scanDigits_eq]
  exact ⟨List.all_eq_true.mp List.all_takeWhile, List.takeWhile_append_dropWhile⟩

theorem scanSign_append {sign : Option Char} (h : IsSign sign) {c : Char} (hplus : c ≠ '+')
    (hminus : c ≠ '-') (rest : List Char) :
    scanSign (sign.toList ++ c :: rest) = (sign, c :: rest) := by
  rcases h with rfl | rfl | rfl
  · rw [Option.toList_none, List.nil_append, scanSign] <;> simp [hplus, hminus]
  · rfl
  · rfl

theorem scanSign_spec (text : List Char) :
    IsSign (scanSign text).1 ∧ (scanSign text).1.toList ++ (scanSign text).2 = text := by
  fun_cases scanSign text with
  | case1 rest => exact ⟨.inr (.inl rfl), rfl⟩
  | case2 rest => exact ⟨.inr (.inr rfl), rfl⟩
  | case3 rest hplus hminus => exact ⟨.inl rfl, rfl⟩

theorem scanPower_append {mark : Char} {sign : Option Char} {digits : List Char}
    (h : IsPower (some (mark, sign, digits))) (rest : List Char) :
    scanPower (powerText (some (mark, sign, digits)) ++ rest) =
      some (mark, sign, digits ++ (scanDigits rest).1) := by
  cases h with
  | present hmark hsign hne hdigits =>
    obtain ⟨d, tail, rfl⟩ := List.exists_cons_of_ne_nil hne
    have hmarks := not_mem_marks (hdigits d List.mem_cons_self)
    have hplus : d ≠ '+' := by
      rintro rfl
      exact hmarks (by decide)
    have hminus : d ≠ '-' := by
      rintro rfl
      exact hmarks (by decide)
    rw [powerText, List.cons_append, scanPower, if_pos (by simpa using hmark), List.append_assoc,
      List.cons_append, scanSign_append hsign hplus hminus, ← List.cons_append]
    simp only [scanDigits_append hdigits]
    rw [if_neg (by simp)]

/-- Where a text starts with an exponent, one is scanned that is no shorter. -/
theorem length_le_scanPower {power : Option (Char × Option Char × List Char)} (h : IsPower power)
    (rest : List Char) :
    (powerText power).length ≤ (powerText (scanPower (powerText power ++ rest))).length := by
  cases h with
  | absent => exact Nat.zero_le _
  | present hmark hsign hne hdigits =>
    rw [scanPower_append (.present hmark hsign hne hdigits)]
    simp only [powerText, List.length_cons, List.length_append]
    omega

theorem scanPower_powerText {power : Option (Char × Option Char × List Char)} (h : IsPower power) :
    scanPower (powerText power) = power := by
  cases h with
  | absent => rfl
  | @present mark sign digits hmark hsign hne hdigits =>
    have hscan := scanPower_append (.present hmark hsign hne hdigits) []
    rw [List.append_nil] at hscan
    rw [hscan, show scanDigits [] = ([], []) from rfl, List.append_nil]

theorem scanPower_spec (text : List Char) :
    IsPower (scanPower text) ∧ powerText (scanPower text) <+: text := by
  cases text with
  | nil => exact ⟨.absent, List.nil_prefix⟩
  | cons c rest =>
    rw [scanPower]
    split
    · next hmark =>
      obtain ⟨hsign, hsigned⟩ := scanSign_spec rest
      obtain ⟨hdigits, hrest⟩ := scanDigits_spec (scanSign rest).2
      dsimp only
      split
      · exact ⟨.absent, List.nil_prefix⟩
      · next hne =>
        refine ⟨.present (by simpa using hmark) hsign (by simpa using hne) hdigits, ?_⟩
        rw [powerText, List.cons_prefix_cons]
        refine ⟨rfl, (scanDigits (scanSign rest).2).2, ?_⟩
        rw [List.append_assoc, hrest, hsigned]
    · exact ⟨.absent, List.nil_prefix⟩

/-- What follows the digits of a number does not continue them. -/
def EndsMantissa (rest : List Char) : Prop := ∀ c ∈ rest.head?, isMantissaChar c = false

theorem scanDigits_of_endsMantissa {rest : List Char} (h : EndsMantissa rest) :
    scanDigits rest = ([], rest) := by
  cases rest with
  | nil => rfl
  | cons c rest =>
    have hc := h c rfl
    simp only [isMantissaChar, Bool.or_eq_false_iff] at hc
    simp [scanDigits_eq, hc.1]

theorem scanDigits_point (rest : List Char) : scanDigits ('.' :: rest) = ([], '.' :: rest) := by
  have hpoint : isDecimalDigit '.' = false := rfl
  simp [scanDigits_eq, hpoint]

/-- After the digits at its front a text goes on with a point, or with nothing that continues a
number. -/
theorem exists_digits_append (text : List Char) :
    ∃ digits rest, AllDigits digits ∧ digits ++ rest = text ∧
      ((∃ after, rest = '.' :: after) ∨ EndsMantissa rest) := by
  refine ⟨_, _, (scanDigits_spec text).1, (scanDigits_spec text).2, ?_⟩
  rw [scanDigits_eq]
  cases hrest : text.dropWhile isDecimalDigit with
  | nil => exact .inr (by simp [EndsMantissa])
  | cons c rest =>
    by_cases hpoint : c = '.'
    · exact .inl ⟨rest, by rw [hpoint]⟩
    · have hdigit := List.head?_dropWhile_not isDecimalDigit text
      rw [hrest] at hdigit
      exact .inr (by simpa [EndsMantissa, isMantissaChar, hpoint] using hdigit)

section Mantissa

variable {whole fraction : List Char} {point : Bool}

theorem scanMantissa_point (h : AllDigits whole) (rest : List Char) :
    scanMantissa (whole ++ '.' :: rest) =
      if whole.isEmpty && (scanDigits rest).1.isEmpty then none
      else some (whole, true, (scanDigits rest).1, (scanDigits rest).2) := by
  simp only [scanMantissa, scanDigits_append h, scanDigits_point, List.append_nil]

theorem scanMantissa_whole (h : AllDigits whole) {rest : List Char} (hrest : EndsMantissa rest) :
    scanMantissa (whole ++ rest) =
      if whole.isEmpty then none else some (whole, false, [], rest) := by
  simp only [scanMantissa, scanDigits_append h, scanDigits_of_endsMantissa hrest, List.append_nil]
  split
  · have hpoint := hrest '.' rfl
    simp [isMantissaChar] at hpoint
  · rfl

theorem isMantissaChar_of_mem {c : Char} (h : IsMantissa whole point fraction)
    (hc : c ∈ mantissaText whole point fraction) : isMantissaChar c = true := by
  rw [isMantissaChar, Bool.or_eq_true, beq_iff_eq]
  rcases List.mem_append.mp hc with hc | hc
  · exact .inl (h.allWhole c hc)
  · cases point with
    | false => cases hc
    | true =>
      rcases List.mem_cons.mp hc with hc | hc
      · exact .inr hc
      · exact .inl (h.allFraction c hc)

/-- What is scanned is written at the front of the text. -/
theorem scanMantissa_spec {text tail : List Char}
    (h : scanMantissa text = some (whole, point, fraction, tail)) :
    IsMantissa whole point fraction ∧ mantissaText whole point fraction ++ tail = text := by
  obtain ⟨digits, rest, hdigits, rfl, ⟨after, rfl⟩ | hrest⟩ := exists_digits_append text
  · obtain ⟨hafter, htail⟩ := scanDigits_spec after
    rw [scanMantissa_point hdigits, Option.ite_none_left_eq_some] at h
    obtain ⟨hne, h⟩ := h
    cases h
    refine ⟨⟨hdigits, hafter, ?_, by simp⟩, ?_⟩
    · simpa [-not_and, not_and_or] using hne
    · simp [mantissaText, htail]
  · rw [scanMantissa_whole hdigits hrest, Option.ite_none_left_eq_some] at h
    obtain ⟨hne, h⟩ := h
    cases h
    exact ⟨⟨hdigits, by simp [AllDigits], .inl (by simpa using hne), fun _ => rfl⟩,
      by simp [mantissaText]⟩

/-- All digits of a number are scanned where a text starts with it, and those that continue it. -/
theorem scanMantissa_append (h : IsMantissa whole point fraction) (rest : List Char) :
    ∃ whole' point' fraction' more tail,
      scanMantissa (mantissaText whole point fraction ++ rest) =
        some (whole', point', fraction', tail) ∧
      mantissaText whole' point' fraction' = mantissaText whole point fraction ++ more ∧
      more ++ tail = rest := by
  obtain ⟨hwhole, hfraction, hdigit, hpointless⟩ := h
  cases point with
  | true =>
    obtain ⟨-, hrest⟩ := scanDigits_spec rest
    refine ⟨whole, true, fraction ++ (scanDigits rest).1, (scanDigits rest).1, (scanDigits rest).2,
      ?_, by simp [mantissaText], hrest⟩
    rw [mantissaText, if_pos rfl, List.append_assoc, List.cons_append, scanMantissa_point hwhole,
      scanDigits_append hfraction, if_neg]
    rcases hdigit with hdigit | hdigit <;> simp [hdigit]
  | false =>
    cases hpointless rfl
    have hne : whole ≠ [] := by simpa using hdigit
    -- the digits that follow belong to the whole ones, and the point may come after them
    obtain ⟨digits, tail, hdigits, rfl, hend⟩ := exists_digits_append rest
    have hall : AllDigits (whole ++ digits) := List.forall_mem_append.mpr ⟨hwhole, hdigits⟩
    rw [mantissaText, if_neg Bool.false_ne_true, List.append_nil, ← List.append_assoc]
    rcases hend with ⟨after, rfl⟩ | hend
    · obtain ⟨-, hafter⟩ := scanDigits_spec after
      refine ⟨whole ++ digits, true, (scanDigits after).1, digits ++ '.' :: (scanDigits after).1,
        (scanDigits after).2, ?_, by simp [mantissaText], by simp [hafter]⟩
      rw [scanMantissa_point hall, if_neg]
      simp [hne]
    · refine ⟨whole ++ digits, false, [], digits, tail, ?_, by simp [mantissaText], rfl⟩
      rw [scanMantissa_whole hall hend, if_neg]
      simp [hne]

/-- The digits of a number are scanned up to what ends them. -/
theorem scanMantissa_of_endsMantissa (h : IsMantissa whole point fraction) {rest : List Char}
    (hrest : EndsMantissa rest) :
    scanMantissa (mantissaText whole point fraction ++ rest) =
      some (whole, point, fraction, rest) := by
  obtain ⟨hwhole, hfraction, hdigit, hpointless⟩ := h
  cases point with
  | true =>
    rw [mantissaText, if_pos rfl, List.append_assoc, List.cons_append, scanMantissa_point hwhole,
      scanDigits_append hfraction, scanDigits_of_endsMantissa hrest, List.append_nil, if_neg]
    rcases hdigit with hdigit | hdigit <;> simp [hdigit]
  | false =>
    cases hpointless rfl
    rw [mantissaText, if_neg Bool.false_ne_true, List.append_nil, scanMantissa_whole hwhole hrest,
      if_neg (by simpa using hdigit)]

end Mantissa

/-! ## Scanning the whole -/

/-- Neither a sign nor a letter stands among the digits before the exponent. -/
theorem not_mem_of_isMantissaChar {c : Char} (h : isMantissaChar c = true) :
    c ∉ ['+', '-', 'I', 'e', 'E'] := by
  rw [isMantissaChar, Bool.or_eq_true, beq_iff_eq] at h
  rcases h with hdigit | rfl
  · have hmarks := not_mem_marks hdigit
    simp only [marks, List.mem_append, List.mem_cons, not_or] at hmarks ⊢
    simp_all
  · decide

theorem IsMantissa.exists_cons {whole fraction : List Char} {point : Bool}
    (h : IsMantissa whole point fraction) :
    ∃ c tail, mantissaText whole point fraction = c :: tail ∧ c ∉ ['+', '-', 'I', 'e', 'E'] := by
  have hne : mantissaText whole point fraction ≠ [] := by
    rcases h.digit with hwhole | hfraction
    · simp [mantissaText, hwhole]
    · have hpoint : point = true := by
        rw [← Bool.not_eq_false]
        exact mt h.pointless hfraction
      simp [mantissaText, hpoint]
  obtain ⟨c, tail, htext⟩ := List.exists_cons_of_ne_nil hne
  exact ⟨c, tail, htext, not_mem_of_isMantissaChar (isMantissaChar_of_mem h (by simp [htext]))⟩

/-- An exponent starts with a letter. -/
theorem IsPower.endsMantissa {power : Option (Char × Option Char × List Char)} (h : IsPower power) :
    EndsMantissa (powerText power) := by
  cases h with
  | absent => simp [EndsMantissa, powerText]
  | present hmark hsign hne hdigits =>
    have hsmall : isMantissaChar 'e' = false := rfl
    have hlarge : isMantissaChar 'E' = false := rfl
    rcases hmark with rfl | rfl <;> simp [EndsMantissa, powerText, hsmall, hlarge]

/-- Where more digits were scanned than stand before an exponent, the exponent is empty. -/
theorem length_powerText_le {power : Option (Char × Option Char × List Char)} (h : IsPower power)
    {more tail rest : List Char} (hmore : ∀ c ∈ more, isMantissaChar c = true)
    (htext : more ++ tail = powerText power ++ rest) :
    (powerText power).length ≤ more.length + (powerText (scanPower tail)).length := by
  cases more with
  | nil =>
    rw [List.nil_append] at htext
    rw [htext, List.length_nil, Nat.zero_add]
    exact length_le_scanPower h rest
  | cons c more =>
    -- an exponent that is not empty would start with `c`, which is no letter
    have hend := h.endsMantissa
    cases hpower : powerText power with
    | nil => exact Nat.zero_le _
    | cons d after =>
      rw [hpower, List.cons_append, List.cons_append, List.cons.injEq] at htext
      have hletter : isMantissaChar c = false := by
        rw [htext.1]
        exact hend d (by rw [hpower]; rfl)
      rw [hmore c List.mem_cons_self] at hletter
      cases hletter

theorem scanNumber_infinity {sign : Option Char} (h : IsSign sign) (rest : List Char) :
    scanNumber (sign.toList ++ ("Infinity".toList ++ rest)) = some (.infinity sign) := by
  have hfront : "Infinity".toList.isPrefixOf ("Infinity".toList ++ rest) = true := by simp
  have hsign := scanSign_append h (c := 'I') (by decide) (by decide) ("nfinity".toList ++ rest)
  change scanSign (sign.toList ++ ("Infinity".toList ++ rest)) =
    (sign, "Infinity".toList ++ rest) at hsign
  simp only [scanNumber, hsign, hfront, if_true]

/-- After the sign the digits are scanned, since they are not the word. -/
theorem scanNumber_decimal {sign : Option Char} (h : IsSign sign) {whole fraction : List Char}
    {point : Bool}
    (hmantissa : IsMantissa whole point fraction) (rest : List Char) :
    scanNumber (sign.toList ++ (mantissaText whole point fraction ++ rest)) =
      (scanMantissa (mantissaText whole point fraction ++ rest)).map
        fun (whole, point, fraction, tail) =>
          .decimal sign whole point fraction (scanPower tail) := by
  obtain ⟨c, tail, htext, hc⟩ := hmantissa.exists_cons
  simp only [List.mem_cons, List.not_mem_nil, or_false, not_or] at hc
  have hsign := scanSign_append h hc.1 hc.2.1 (tail ++ rest)
  have hword : "Infinity".toList.isPrefixOf (c :: (tail ++ rest)) = false := by
    simp [List.isPrefixOf, Ne.symm hc.2.2.1]
  rw [htext, List.cons_append, scanNumber, hsign]
  simp only [hword, Bool.false_eq_true, if_false]

/-- What is scanned is a number that is written at the front of the text. -/
theorem scanNumber_spec {text : List Char} {n : NumberText} (h : scanNumber text = some n) :
    n.WellFormed ∧ n.text <+: text := by
  obtain ⟨hsign, hrest⟩ := scanSign_spec text
  unfold scanNumber at h
  dsimp only at h
  split at h
  · next hword =>
    cases h
    refine ⟨.infinity hsign, ?_⟩
    conv => rhs; rw [← hrest]
    exact (List.prefix_append_right_inj _).mpr (List.isPrefixOf_iff_prefix.mp hword)
  · obtain ⟨⟨whole, point, fraction, tail⟩, hscan, rfl⟩ := Option.map_eq_some_iff.mp h
    obtain ⟨hmantissa, htail⟩ := scanMantissa_spec hscan
    obtain ⟨hpower, hfront⟩ := scanPower_spec tail
    refine ⟨.decimal hsign hmantissa hpower, ?_⟩
    conv => rhs; rw [← hrest, ← htail]
    exact (List.prefix_append_right_inj _).mpr ((List.prefix_append_right_inj _).mpr hfront)

/-- Where a text starts with a number, a number is scanned that is no shorter. -/
theorem scanNumber_append {n : NumberText} (h : n.WellFormed) (rest : List Char) :
    ∃ n', scanNumber (n.text ++ rest) = some n' ∧ n.text.length ≤ n'.text.length := by
  cases h with
  | infinity hsign =>
    refine ⟨_, ?_, le_rfl⟩
    rw [NumberText.text, List.append_assoc, scanNumber_infinity hsign]
  | @decimal sign whole point fraction power hsign hmantissa hpower =>
    obtain ⟨whole', point', fraction', more, tail, hscan, htext, hmore⟩ :=
      scanMantissa_append hmantissa (powerText power ++ rest)
    refine ⟨.decimal sign whole' point' fraction' (scanPower tail), ?_, ?_⟩
    · rw [NumberText.text, List.append_assoc, List.append_assoc,
        scanNumber_decimal hsign hmantissa, hscan]
      rfl
    · have hchars : ∀ c ∈ more, isMantissaChar c = true := fun c hc =>
        isMantissaChar_of_mem (scanMantissa_spec hscan).1 (by simp [htext, hc])
      have hlength := length_powerText_le hpower hchars hmore
      simp only [NumberText.text, List.length_append, htext]
      omega

/-- A written form has the parts that it was put together from. -/
theorem scanNumber_text {n : NumberText} (h : n.WellFormed) : scanNumber n.text = some n := by
  cases h with
  | @infinity sign hsign => simpa [NumberText.text] using scanNumber_infinity hsign []
  | @decimal sign whole point fraction power hsign hmantissa hpower =>
    rw [NumberText.text, scanNumber_decimal hsign hmantissa,
      scanMantissa_of_endsMantissa hmantissa hpower.endsMantissa, Option.map_some]
    simp only [scanPower_powerText hpower]

end Nativize.Style
