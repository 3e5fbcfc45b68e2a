import Nativize.Style.Resolution

/-!
# Camel case as a normal form

A dash directly before a small letter is a pair that camel case merges. Two such pairs never share a
character, and a merged letter is no longer small, so that one pass from the left merges all of them
and makes no new ones. Main statement: a text in camel case has no pair, camel case leaves exactly
such texts as they are, and it can be computed at each place of the text by itself.
-/

namespace Nativize.Style

/-! ## Letters -/

theorem bigLetter_ascii : ∀ n < 128, isSmallLetter (Char.ofNat n) = true →
    bigLetter (Char.ofNat n) = (Char.ofNat n).toUpper ∧
      isSmallLetter (bigLetter (Char.ofNat n)) = false ∧ bigLetter (Char.ofNat n) ≠ '-' := by
  decide +kernel

theorem bigLetter_spec {c : Char} (h : isSmallLetter c = true) :
    bigLetter c = c.toUpper ∧ isSmallLetter (bigLetter c) = false ∧ bigLetter c ≠ '-' := by
  have hbound : c.toNat ≤ 122 := by
    simp only [isSmallLetter, Bool.and_eq_true, decide_eq_true_eq] at h
    exact h.2
  have hascii := bigLetter_ascii c.toNat (by omega)
  rw [Char.ofNat_toNat] at hascii
  exact hascii h

theorem ne_dash_of_isSmallLetter {c : Char} (h : isSmallLetter c = true) : c ≠ '-' := by
  rintro rfl
  exact absurd h (by decide)

/-! ## Pairs -/

/-- A dash stands at the place, and directly after it a letter `a` to `z`. -/
def PairAt (text : List Char) (i : Nat) : Prop :=
  text[i]? = some '-' ∧ ∃ c, text[i + 1]? = some c ∧ isSmallLetter c = true

instance (text : List Char) (i : Nat) : Decidable (PairAt text i) :=
  decidable_of_iff (text[i]? = some '-' ∧ text[i + 1]?.any isSmallLetter = true)
    (and_congr_right' (by simp [Option.any_eq_true]))

/-- No dash stands directly before a letter `a` to `z`. -/
def IsPairless (text : List Char) : Prop := ∀ i, ¬ PairAt text i

section Pairs

variable {c : Char} {rest : List Char}

@[simp] theorem pairAt_cons_succ (i : Nat) : PairAt (c :: rest) (i + 1) ↔ PairAt rest i := by
  simp [PairAt]

theorem pairAt_cons_zero :
    PairAt (c :: rest) 0 ↔ c = '-' ∧ ∃ d, rest.head? = some d ∧ isSmallLetter d = true := by
  simp [PairAt, List.head?_eq_getElem?]

theorem isPairless_nil : IsPairless [] := fun i => by simp [PairAt]

theorem isPairless_cons : IsPairless (c :: rest) ↔ ¬ PairAt (c :: rest) 0 ∧ IsPairless rest := by
  constructor
  · intro h
    exact ⟨h 0, fun i hi => h (i + 1) ((pairAt_cons_succ i).mpr hi)⟩
  · rintro ⟨hzero, hrest⟩ i
    cases i with
    | zero => exact hzero
    | succ i => exact fun hi => hrest i ((pairAt_cons_succ i).mp hi)

end Pairs

/-! ## The normal form -/

/-- A small letter at the front was there before. -/
theorem head?_camelChars {text : List Char} {c : Char} (h : (camelChars text).head? = some c)
    (hc : isSmallLetter c = true) : text.head? = some c := by
  fun_cases camelChars text with
  | case1 d rest hd =>
    rw [camelChars, if_pos hd] at h
    cases h
    rw [(bigLetter_spec hd).2.1] at hc
    cases hc
  | case2 d rest hd =>
    rw [camelChars, if_neg hd] at h
    exact h
  | case3 d rest hrest =>
    rw [camelChars] at h
    · exact h
    · exact hrest
  | case4 => cases h

theorem isPairless_camelChars (text : List Char) : IsPairless (camelChars text) := by
  fun_induction camelChars text with
  | case1 d rest hd ih =>
    have hdash : bigLetter d ≠ '-' := (bigLetter_spec hd).2.2
    exact isPairless_cons.mpr ⟨fun hpair => hdash (pairAt_cons_zero.mp hpair).1, ih⟩
  | case2 d rest hd ih =>
    refine isPairless_cons.mpr ⟨fun hpair => ?_, ih⟩
    obtain ⟨-, e, hhead, he⟩ := pairAt_cons_zero.mp hpair
    cases head?_camelChars hhead he
    exact hd he
  | case3 d rest hrest ih =>
    refine isPairless_cons.mpr ⟨fun hpair => ?_, ih⟩
    obtain ⟨hdash, e, hhead, he⟩ := pairAt_cons_zero.mp hpair
    obtain ⟨tail, rfl⟩ := List.head?_eq_some_iff.mp (head?_camelChars hhead he)
    exact hrest e tail hdash rfl
  | case4 => exact isPairless_nil

/-- A text without pairs stays as it is. -/
theorem camelChars_of_isPairless {text : List Char} (h : IsPairless text) :
    camelChars text = text := by
  fun_induction camelChars text with
  | case1 d rest hd ih => exact absurd (pairAt_cons_zero.mpr ⟨rfl, d, rfl, hd⟩) (h 0)
  | case2 d rest hd ih => rw [ih (isPairless_cons.mp h).2]
  | case3 d rest hrest ih => rw [ih (isPairless_cons.mp h).2]
  | case4 => rfl

theorem camelChars_eq_self_iff {text : List Char} : camelChars text = text ↔ IsPairless text := by
  constructor
  · intro h
    rw [← h]
    exact isPairless_camelChars text
  · exact camelChars_of_isPairless

/-! ## Each place by itself -/

/-- What the character at the place becomes. A dash goes where a small letter follows, the letter is
put in upper case, and every other character stays. -/
def mergedAt (text : List Char) (i : Nat) : List Char :=
  if PairAt text i then []
  else if 0 < i ∧ PairAt text (i - 1) then (text[i]?.map Char.toUpper).toList
  else text[i]?.toList

theorem mergedAt_cons_succ {c : Char} {rest : List Char} (h : ¬ PairAt (c :: rest) 0) (i : Nat) :
    mergedAt (c :: rest) (i + 1) = mergedAt rest i := by
  cases i with
  | zero => simp [mergedAt, h]
  | succ i => simp [mergedAt]

/-- The places of a text, each replaced by what it becomes. -/
def mergedPlaces (text : List Char) : List Char := (List.range text.length).flatMap (mergedAt text)

theorem flatMap_range_succ (f : Nat → List Char) (n : Nat) :
    (List.range (n + 1)).flatMap f = f 0 ++ (List.range n).flatMap fun i => f (i + 1) := by
  rw [List.range_succ_eq_map, List.flatMap_cons, List.flatMap_map]

/-- The first character stays where no pair begins, and the rest does not depend on it. -/
theorem mergedPlaces_cons_of_not_pairAt {c : Char} {rest : List Char} (h : ¬ PairAt (c :: rest) 0) :
    mergedPlaces (c :: rest) = c :: mergedPlaces rest := by
  have hfirst : mergedAt (c :: rest) 0 = [c] := by simp [mergedAt, h]
  rw [mergedPlaces, List.length_cons, flatMap_range_succ, hfirst]
  simp only [mergedAt_cons_succ h]
  rfl

theorem mergedPlaces_pair {d : Char} (hd : isSmallLetter d = true) (rest : List Char) :
    mergedPlaces ('-' :: d :: rest) = bigLetter d :: mergedPlaces rest := by
  have hpair : PairAt ('-' :: d :: rest) 0 := pairAt_cons_zero.mpr ⟨rfl, d, rfl, hd⟩
  -- the letter is no dash, so the next pair begins after it at the earliest
  have hnext : ¬ PairAt (d :: rest) 0 :=
    fun h => ne_dash_of_isSmallLetter hd (pairAt_cons_zero.mp h).1
  have hdash : mergedAt ('-' :: d :: rest) 0 = [] := if_pos hpair
  have hletter : mergedAt ('-' :: d :: rest) 1 = [bigLetter d] := by
    simp [mergedAt, hpair, hnext, (bigLetter_spec hd).1]
  have htail (i : Nat) : mergedAt ('-' :: d :: rest) (i + 1 + 1) = mergedAt rest i := by
    rw [← mergedAt_cons_succ hnext]
    simp [mergedAt]
  rw [mergedPlaces, List.length_cons, List.length_cons, flatMap_range_succ, flatMap_range_succ,
    hdash, hletter]
  simp only [htail]
  rfl

theorem camelChars_eq_mergedPlaces (text : List Char) : camelChars text = mergedPlaces text := by
  fun_induction camelChars text with
  | case1 d rest hd ih => rw [mergedPlaces_pair hd, ih]
  | case2 d rest hd ih =>
    have hpair : ¬ PairAt ('-' :: d :: rest) 0 := by simpa [pairAt_cons_zero] using hd
    rw [mergedPlaces_cons_of_not_pairAt hpair, ih]
  | case3 d rest hrest ih =>
    have hpair : ¬ PairAt (d :: rest) 0 := by
      intro h
      obtain ⟨hdash, c, hhead, -⟩ := pairAt_cons_zero.mp h
      obtain ⟨tail, rfl⟩ := List.head?_eq_some_iff.mp hhead
      exact hrest c tail hdash rfl
    rw [mergedPlaces_cons_of_not_pairAt hpair, ih]
  | case4 => rfl

/-- A text in camel case has no dash directly before a letter `a` to `z`, so that putting it in
camel case again changes nothing. The texts that are in camel case are those without such a pair. In
any other each pair becomes the letter in upper case, wherever it stands, and all else stays in its
order. -/
theorem camelCase_merges_pairs (property : String) :
    IsPairless (camelCase property).toList ∧
    camelCase (camelCase property) = camelCase property ∧
    (camelCase property = property ↔ IsPairless property.toList) ∧
    (camelCase property).toList = mergedPlaces property.toList := by
  have hpairless := isPairless_camelChars property.toList
  refine ⟨by simpa [camelCase] using hpairless, ?_, ?_, ?_⟩
  · rw [camelCase, camelCase, String.toList_ofList, camelChars_of_isPairless hpairless]
  · rw [← camelChars_eq_self_iff, ← String.toList_inj]
    simp [camelCase]
  · rw [camelCase, String.toList_ofList, camelChars_eq_mergedPlaces]

example : camelCase "--box-flex-Group-" = "-BoxFlex-Group-" := by decide

end Nativize.Style
