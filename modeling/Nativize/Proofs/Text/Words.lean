import Mathlib.Data.List.Pairwise
import Nativize.Text.CharClass
import Nativize.Text.UpperCase

/-!
# Words and capitals

The words of a text (`SplitsInto`), the upper-case form of a character (`HasUpperCase`) and a word
with its first character in upper case (`Capitalizes`) are described apart from the functions that
compute them. Main statements: the functions compute what is described.
-/

namespace Nativize.Text

/-! ## Words -/

/-- The words of a text: its maximal runs of characters that are not blank, in order. -/
inductive SplitsInto : List Char → List (List Char) → Prop
  | nil : SplitsInto [] []
  | blank {c : Char} {text : List Char} {words : List (List Char)} (hc : isBlank c = true)
      (h : SplitsInto text words) : SplitsInto (c :: text) words
  | word {word rest : List Char} {words : List (List Char)} (hne : word ≠ [])
      (hword : ∀ c ∈ word, isBlank c = false) (hend : ∀ c ∈ rest.head?, isBlank c = true)
      (h : SplitsInto rest words) : SplitsInto (word ++ rest) (word :: words)

theorem splitsInto_wordsFrom (run text : List Char)
    (hrun : ∀ c ∈ run, isBlank c = false) : SplitsInto (run ++ text) (wordsFrom run text) := by
  -- The run that is being read is what the text starts with.
  induction text generalizing run with
  | nil =>
    rw [wordsFrom]
    cases run with
    | nil => exact .nil
    | cons c run => exact .word (by simp) hrun (by simp) .nil
  | cons c rest ih =>
    rw [wordsFrom]
    split
    · next hc =>
      have hrest : SplitsInto (c :: rest) (wordsFrom [] rest) := .blank hc (ih [] (by simp))
      cases run with
      | nil => exact hrest
      | cons d run => exact .word (by simp) hrun (by simpa using hc) hrest
    · next hc =>
      rw [List.append_cons]
      refine ih _ fun d hd => ?_
      rcases List.mem_append.mp hd with hd | hd
      · exact hrun d hd
      · simpa [List.mem_singleton.mp hd] using hc

theorem wordsFrom_append (run : List Char) {word : List Char} (rest : List Char)
    (h : ∀ c ∈ word, isBlank c = false) :
    wordsFrom run (word ++ rest) = wordsFrom (run ++ word) rest := by
  induction word generalizing run with
  | nil => simp
  | cons c word ih =>
    obtain ⟨hc, hword⟩ := List.forall_mem_cons.mp h
    rw [List.cons_append, wordsFrom, if_neg (by simp [hc]), ih _ hword, List.append_assoc]
    rfl

theorem SplitsInto.ne_nil {text word : List Char} {words : List (List Char)}
    (h : SplitsInto text words) (hword : word ∈ words) : word ≠ [] := by
  induction h with
  | nil => cases hword
  | blank _ _ ih => exact ih hword
  | word hne _ _ _ ih =>
    rcases List.mem_cons.mp hword with rfl | hword
    · exact hne
    · exact ih hword

/-- A text has its words and no others. -/
theorem splitsInto_iff {text : List Char} {ws : List (List Char)} :
    SplitsInto text ws ↔ words text = ws := by
  constructor
  · intro h
    unfold words
    induction h with
    | nil => rfl
    | blank hc h ih => rw [wordsFrom, if_pos hc]; exact ih
    | @word word rest ws hne hword hend h ih =>
      rw [wordsFrom_append [] rest hword, List.nil_append, ← ih]
      cases rest with
      | nil => simp [wordsFrom, hne]
      | cons c rest => simp [wordsFrom, hne, hend c (by simp)]
  · rintro rfl
    exact splitsInto_wordsFrom [] text (by simp)

/-! ## Upper case -/

/-- The code is in the run. -/
def CaseRun.Holds (run : CaseRun) (code : Nat) : Prop :=
  run.first ≤ code ∧ code ≤ run.last ∧ run.step ∣ code - run.first

/-- The upper-case form of a character: that of ASCII, or the one that the tables give. A character
that they do not have is its own. -/
inductive HasUpperCase (c : Char) : List Char → Prop
  | ascii (h : c.toNat < 128) : HasUpperCase c [c.toUpper]
  | expanded {codes : List Nat} (h : (c.toNat, codes) ∈ upperCaseExpansions) :
      HasUpperCase c (codes.map Char.ofNat)
  | paired {run : CaseRun} {upper : Char} (hascii : 128 ≤ c.toNat)
      (hexpanded : ∀ codes, (c.toNat, codes) ∉ upperCaseExpansions)
      (hrun : run ∈ upperCaseRuns) (hholds : run.Holds c.toNat)
      (hupper : (upper.toNat : Int) = c.toNat + run.distance) : HasUpperCase c [upper]
  | alone (hascii : 128 ≤ c.toNat) (hexpanded : ∀ codes, (c.toNat, codes) ∉ upperCaseExpansions)
      (hrun : ∀ run ∈ upperCaseRuns, ¬run.Holds c.toNat) : HasUpperCase c [c]

section UpperCase

theorem CaseRun.contains_iff {run : CaseRun} {code : Nat} :
    run.contains code = true ↔ run.Holds code := by
  simp [CaseRun.contains, CaseRun.Holds, Nat.dvd_iff_mod_eq_zero, and_assoc]

/-- The runs have no code in common: one ends before the other starts, or one has the even and the
other the odd codes. -/
def CaseRun.Apart (r s : CaseRun) : Prop :=
  r.last < s.first ∨ s.last < r.first ∨ r.step = 2 ∧ s.step = 2 ∧ r.first % 2 ≠ s.first % 2

instance (r s : CaseRun) : Decidable (r.Apart s) :=
  inferInstanceAs (Decidable (_ ∨ _))

theorem pairwise_upperCaseRuns : upperCaseRuns.Pairwise CaseRun.Apart := by
  decide +kernel

theorem CaseRun.Apart.not_holds {r s : CaseRun} {code : Nat} (h : r.Apart s) (hr : r.Holds code) :
    ¬s.Holds code := by
  rintro ⟨hfirst, hlast, hstep⟩
  obtain ⟨hfirst', hlast', hstep'⟩ := hr
  rcases h with h | h | ⟨htwo, htwo', hparity⟩
  · omega
  · omega
  · rw [htwo] at hstep'
    rw [htwo'] at hstep
    omega

theorem eq_of_holds {r s : CaseRun} {code : Nat} (hr : r ∈ upperCaseRuns) (hs : s ∈ upperCaseRuns)
    (hrholds : r.Holds code) (hsholds : s.Holds code) : r = s := by
  have : Std.Symm CaseRun.Apart := ⟨fun r s h => by unfold CaseRun.Apart at *; omega⟩
  by_contra hne
  exact (pairwise_upperCaseRuns.forall hr hs hne).not_holds hrholds hsholds

/-- The run that is found for a code is the one that has it. -/
theorem find?_upperCaseRuns {code : Nat} {run : CaseRun} :
    upperCaseRuns.find? (·.contains code) = some run ↔ run ∈ upperCaseRuns ∧ run.Holds code := by
  constructor
  · intro hfound
    exact ⟨List.mem_of_find?_eq_some hfound,
      CaseRun.contains_iff.mp (by simpa using List.find?_some hfound)⟩
  · rintro ⟨hrun, hholds⟩
    cases hfound : upperCaseRuns.find? (·.contains code) with
    | none => exact absurd (CaseRun.contains_iff.mpr hholds) (List.find?_eq_none.mp hfound run hrun)
    | some found =>
      have hcontains : found.contains code = true := by simpa using List.find?_some hfound
      rw [eq_of_holds (List.mem_of_find?_eq_some hfound) hrun
        (CaseRun.contains_iff.mp hcontains) hholds]

theorem find?_upperCaseRuns_eq_none {code : Nat} :
    upperCaseRuns.find? (·.contains code) = none ↔ ∀ run ∈ upperCaseRuns, ¬run.Holds code := by
  simp [List.find?_eq_none, CaseRun.contains_iff]

theorem toNat_ofNat_of_isValidChar {n : Nat} (h : n.isValidChar) : (Char.ofNat n).toNat = n := by
  rw [Char.ofNat, dif_pos h]
  rfl

/-- The partners of the letters in a run are characters. -/
theorem toNat_partner {run : CaseRun} {code : Nat} (hrun : run ∈ upperCaseRuns)
    (hholds : run.Holds code) :
    ((Char.ofNat (code + run.distance).toNat).toNat : Int) = code + run.distance := by
  have hcodes : ∀ run ∈ upperCaseRuns, 0 ≤ run.first + run.distance ∧
      (run.last + run.distance < 0xD800 ∨
        0xDFFF < run.first + run.distance ∧ run.last + run.distance < 0x110000) := by
    decide +kernel
  have hbounds := hcodes run hrun
  obtain ⟨hfirst, hlast, -⟩ := hholds
  rw [toNat_ofNat_of_isValidChar]
  · omega
  · unfold Nat.isValidChar
    omega

theorem lookup_upperCaseExpansions {code : Nat} {codes : List Nat} :
    upperCaseExpansions.lookup code = some codes ↔ (code, codes) ∈ upperCaseExpansions := by
  have hkeys : (upperCaseExpansions.map Prod.fst).IsChain (· < ·) := by decide +kernel
  have hsorted := List.pairwise_map.mp (List.isChain_iff_pairwise.mp hkeys)
  rw [List.lookup_eq_some_iff]
  constructor
  · rintro ⟨before, after, hsplit, -⟩
    simp [hsplit]
  · intro hmem
    obtain ⟨before, after, hsplit⟩ := List.append_of_mem hmem
    rw [hsplit] at hsorted
    refine ⟨before, after, hsplit, fun e he => ?_⟩
    have hlt := (List.pairwise_append.mp hsorted).2.2 e he (code, codes) List.mem_cons_self
    simpa using Nat.ne_of_gt hlt

theorem lookup_upperCaseExpansions_eq_none {code : Nat} :
    upperCaseExpansions.lookup code = none ↔ ∀ codes, (code, codes) ∉ upperCaseExpansions := by
  simp [Option.eq_none_iff_forall_ne_some, lookup_upperCaseExpansions]

/-- Among the ASCII characters only the small letters change. -/
theorem upperCase_of_ascii {c : Char} (h : c.toNat < 128) : upperCase c = [c.toUpper] := by
  have hexpansions : ∀ e ∈ upperCaseExpansions, 128 ≤ e.1 := by decide +kernel
  have hruns : ∀ run ∈ upperCaseRuns, run.first = 0x61 ∧ run.last = 0x7A ∨ 128 ≤ run.first := by
    decide +kernel
  have hsmall : ∃ run ∈ upperCaseRuns, run.first = 0x61 ∧ run.last = 0x7A ∧ run.step = 1 ∧
      run.distance = -32 := by
    decide +kernel
  have hupper : ∀ n < 128, (Char.ofNat n).toUpper =
      if 0x61 ≤ n ∧ n ≤ 0x7A then Char.ofNat (n - 32) else Char.ofNat n := by
    decide +kernel
  have hc := hupper c.toNat h
  have hnone : upperCaseExpansions.lookup c.toNat = none := by
    rw [lookup_upperCaseExpansions_eq_none]
    intro codes hcodes
    have := hexpansions _ hcodes
    omega
  rw [Char.ofNat_toNat] at hc
  by_cases hletter : 0x61 ≤ c.toNat ∧ c.toNat ≤ 0x7A
  · obtain ⟨run, hrun, hfirst, hlast, hstep, hdistance⟩ := hsmall
    have hholds : run.Holds c.toNat := ⟨by omega, by omega, by simp [hstep]⟩
    have hcode : (c.toNat + run.distance).toNat = c.toNat - 32 := by omega
    simp only [upperCase, hnone, find?_upperCaseRuns.mpr ⟨hrun, hholds⟩, hcode, hc, if_pos hletter]
  · have hfound : upperCaseRuns.find? (·.contains c.toNat) = none := by
      rw [find?_upperCaseRuns_eq_none]
      rintro run hrun ⟨hfirst, hlast, -⟩
      have := hruns run hrun
      omega
    simp only [upperCase, hnone, hfound, hc, if_neg hletter]

/-- What is computed is the upper-case form. -/
theorem hasUpperCase_iff {c : Char} {form : List Char} :
    HasUpperCase c form ↔ upperCase c = form := by
  constructor
  · intro h
    cases h with
    | ascii h => exact upperCase_of_ascii h
    | expanded h => rw [upperCase, lookup_upperCaseExpansions.mpr h]
    | paired hascii hexpanded hrun hholds hupper =>
      simp only [upperCase, lookup_upperCaseExpansions_eq_none.mpr hexpanded,
        find?_upperCaseRuns.mpr ⟨hrun, hholds⟩]
      rw [← hupper, Int.toNat_natCast, Char.ofNat_toNat]
    | alone hascii hexpanded hrun =>
      simp only [upperCase, lookup_upperCaseExpansions_eq_none.mpr hexpanded,
        find?_upperCaseRuns_eq_none.mpr hrun]
  · rintro rfl
    by_cases hascii : c.toNat < 128
    · rw [upperCase_of_ascii hascii]
      exact .ascii hascii
    · have hcode : 128 ≤ c.toNat := by omega
      unfold upperCase
      split
      · next codes hcodes => exact .expanded (lookup_upperCaseExpansions.mp hcodes)
      · next hnone =>
        have hexpanded := lookup_upperCaseExpansions_eq_none.mp hnone
        split
        · next run hfound =>
          obtain ⟨hrun, hholds⟩ := find?_upperCaseRuns.mp hfound
          exact .paired hcode hexpanded hrun hholds (toNat_partner hrun hholds)
        · next hfound => exact .alone hcode hexpanded (find?_upperCaseRuns_eq_none.mp hfound)

/-- The text is the word with its first character in upper case. -/
inductive Capitalizes : List Char → List Char → Prop
  | intro {c : Char} {rest form : List Char} (h : HasUpperCase c form) :
      Capitalizes (c :: rest) (form ++ rest)

theorem capitalizes_iff {word text : List Char} (hne : word ≠ []) :
    Capitalizes word text ↔ capitalize word = text := by
  obtain ⟨c, rest, rfl⟩ := List.exists_cons_of_ne_nil hne
  constructor
  · rintro ⟨h⟩
    rw [capitalize, hasUpperCase_iff.mp h]
  · rintro rfl
    exact .intro (hasUpperCase_iff.mpr rfl)

end UpperCase

end Nativize.Text
