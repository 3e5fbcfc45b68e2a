import Mathlib.Data.List.Basic
import Nativize.Json.Document

/-!
# Reading what was written

A reader takes the written form of a value from the front of any document and leaves what follows it
(`Reads`). This holds of strings whatever characters they are made of, and it passes from the parts
of a list, an object or a record to the whole. What is read from a document that was written in
another way still has every property that the fields of its records keep (`Record.Keeps`).
-/

namespace Nativize.Json

variable {α β : Type}

/-! ## Running readers -/

theorem run_bind_ok {m : Reader α} {f : α → Reader β} {s s' : List Char} {a : α}
    (h : m.run s = .ok (a, s')) : (m >>= f).run s = (f a).run s' := by
  rw [StateT.run_bind, h]
  rfl

@[simp] theorem run_pure (a : α) (s : List Char) : (pure a : Reader α).run s = .ok (a, s) := rfl

@[simp] theorem run_get (s : List Char) : (get : Reader (List Char)).run s = .ok (s, s) := rfl

@[simp] theorem run_set (s s' : List Char) : (set s' : Reader PUnit).run s = .ok (⟨⟩, s') := rfl

@[simp] theorem run_skip (c : Char) (rest : List Char) :
    skip.run (c :: rest) = .ok ((), rest) := rfl

@[simp] theorem run_next? (c : Char) (rest : List Char) :
    next?.run (c :: rest) = .ok (some c, rest) := rfl

theorem run_peek {c : Char} (h : isSpace c = false) (rest : List Char) :
    peek.run (c :: rest) = .ok (some c, c :: rest) := by
  simp [peek, StateT.run, h]

/-! ## Strings -/

theorem run_readHex4_low {n : Nat} (h : n < 256) (rest : List Char) :
    readHex4.run ('0' :: '0' :: Text.hexDigit (n / 16) :: Text.hexDigit (n % 16) :: rest) =
      .ok (n, rest) := by
  have hhigh := Text.hexValue?_hexDigit (n / 16) (by omega)
  have hlow := Text.hexValue?_hexDigit (n % 16) (by omega)
  have hzero : Text.hexValue? '0' = some 0 := by decide +kernel
  rw [readHex4, run_bind_ok (run_get _)]
  simp only [hzero, hhigh, hlow]
  rw [run_bind_ok (run_set _ _), run_pure]
  congr 2
  omega

theorem run_readEscape_low {n : Nat} (h : n < 256) (rest : List Char) :
    (readEscape true).run
        ('u' :: '0' :: '0' :: Text.hexDigit (n / 16) :: Text.hexDigit (n % 16) :: rest) =
      .ok (Char.ofNat n, rest) := by
  -- a character this low is no half of a pair
  have hlow : ¬0xDC00 ≤ n := by omega
  have hsmall : n < 0xD800 := by omega
  rw [readEscape, run_bind_ok (run_next? _ _)]
  change (readUnicodeEscape true).run _ = _
  rw [readUnicodeEscape, run_bind_ok (run_readHex4_low h rest)]
  simp only [hlow, hsmall, Bool.not_true, Bool.false_eq_true, if_false, decide_false,
    Bool.false_and, decide_true, Bool.true_or, if_true, run_pure]

theorem run_readStringRest_escape {c : Char} {tail rest : List Char}
    (h : (readEscape true).run tail = .ok (c, rest)) (fuel : Nat) (read : List Char) :
    (readStringRest true (fuel + 1) read).run ('\\' :: tail) =
      (readStringRest true fuel (c :: read)).run rest := by
  rw [readStringRest, run_bind_ok (run_next? _ _)]
  exact run_bind_ok h

theorem run_readStringRest_plain {c : Char} (hquote : c ≠ '"') (hbackslash : c ≠ '\\')
    (hvisible : ¬c.toNat < 0x20) (fuel : Nat) (read rest : List Char) :
    (readStringRest true (fuel + 1) read).run (c :: rest) =
      (readStringRest true fuel (c :: read)).run rest := by
  rw [readStringRest, run_bind_ok (run_next? _ _)]
  split
  · next heq => cases heq
  · next heq => exact absurd (Option.some.inj heq) hquote
  · next heq => exact absurd (Option.some.inj heq) hbackslash
  · next heq =>
    cases heq
    rw [if_neg hvisible]

/-- Reading the written form of a character gives the character. -/
theorem run_readStringRest_quotedChar (c : Char) (fuel : Nat) (read rest : List Char) :
    (readStringRest true (fuel + 1) read).run (Text.quotedChar c ++ rest) =
      (readStringRest true fuel (c :: read)).run rest := by
  have hchar {n : Nat} (h : c.toNat = n) : c = Char.ofNat n := h ▸ (Char.ofNat_toNat c).symm
  unfold Text.quotedChar
  split
  · next h => subst h; exact run_readStringRest_escape rfl _ _
  split
  · next h => subst h; exact run_readStringRest_escape rfl _ _
  split
  · next h => rw [hchar h]; exact run_readStringRest_escape rfl _ _
  split
  · next h => rw [hchar h]; exact run_readStringRest_escape rfl _ _
  split
  · next h => subst h; exact run_readStringRest_escape rfl _ _
  split
  · next h => subst h; exact run_readStringRest_escape rfl _ _
  split
  · next h => subst h; exact run_readStringRest_escape rfl _ _
  split
  · next h =>
    have hescape := run_readEscape_low (Nat.lt_trans h (by decide)) rest
    rw [Char.ofNat_toNat] at hescape
    exact run_readStringRest_escape hescape _ _
  · next hquote hbackslash _ _ _ _ _ hvisible =>
    exact run_readStringRest_plain hquote hbackslash hvisible _ _ _

/-- Reading the written form of a text, up to its closing quote, gives the text. -/
theorem run_readStringRest_quoted (text read rest : List Char) {fuel : Nat}
    (h : text.length < fuel) :
    (readStringRest true fuel read).run (text.flatMap Text.quotedChar ++ '"' :: rest) =
      .ok (read.reverse ++ text, rest) := by
  induction text generalizing fuel read with
  | nil =>
    obtain ⟨fuel, rfl⟩ := Nat.exists_eq_add_one_of_ne_zero (Nat.ne_zero_of_lt h)
    rw [readStringRest, List.flatMap_nil, List.nil_append, run_bind_ok (run_next? _ _),
      List.append_nil]
    rfl
  | cons c text ih =>
    obtain ⟨fuel, rfl⟩ := Nat.exists_eq_add_one_of_ne_zero (Nat.ne_zero_of_lt h)
    rw [List.flatMap_cons, List.append_assoc, run_readStringRest_quotedChar,
      ih _ (by simpa using h)]
    simp

theorem run_readStringBody (text : String) (rest : List Char) :
    readStringBody.run (text.toList.flatMap Text.quotedChar ++ '"' :: rest) = .ok (text, rest) := by
  have hfuel : text.toList.length <
      (text.toList.flatMap Text.quotedChar ++ '"' :: rest).length + 1 := by
    have := Text.length_le_quoted text.toList
    simp only [List.length_append]
    omega
  rw [readStringBody, run_bind_ok (run_get _), run_bind_ok (run_readStringRest_quoted _ _ _ hfuel),
    run_pure, List.reverse_nil, List.nil_append, String.ofList_toList]

/-! ## Values -/

/-- The reader takes the text from the front of any document, and gives the value. The text does not
begin like the end of a list. -/
structure Reads (reader : Reader α) (text : List Char) (value : α) : Prop where
  starts : ∃ c rest, text = c :: rest ∧ isSpace c = false ∧ c ≠ ']'
  run : ∀ rest, reader.run (text ++ rest) = .ok (value, rest)

theorem Reads.map {reader : Reader α} {text : List Char} {value : α} (h : Reads reader text value)
    (f : α → β) : Reads (do let a ← reader; return f a) text (f value) where
  starts := h.starts
  run rest := by rw [run_bind_ok (h.run rest), run_pure]

theorem reads_readString (text : String) :
    Reads readString (Text.quotedChars text.toList) text where
  starts := ⟨'"', _, rfl, rfl, by decide⟩
  run rest := by
    rw [readString, Text.quotedChars, List.cons_append, run_bind_ok (run_peek rfl _)]
    change (do skip; readStringBody).run _ = _
    rw [run_bind_ok (run_skip _ _), List.append_assoc]
    exact run_readStringBody text rest

/-! ## Lists -/

/-- The comma before an item that is not the first. -/
def separator (first : Bool) : List Char := if first then [] else [',']

/-- Written items in a row, the first of them after a comma unless it is the first of all. -/
def joined (first : Bool) : List (List Char) → List Char
  | [] => []
  | item :: rest => separator first ++ item ++ joined false rest

theorem intercalate_eq_joined (items : List (List Char)) :
    List.intercalate [','] items = joined true items := by
  cases items with
  | nil => rfl
  | cons item rest =>
    induction rest generalizing item with
    | nil => simp [joined, separator]
    | cons next rest ih => simp [joined, separator, List.intercalate_cons_cons, ih next]

theorem length_le_joined {items : List (List Char)} (h : ∀ x ∈ items, x ≠ []) (first : Bool) :
    items.length ≤ (joined first items).length := by
  induction items generalizing first with
  | nil => simp
  | cons item rest ih =>
    have hitem := List.length_pos_iff.mpr (h item (by simp))
    have hrest := ih (fun x hx => h x (by simp [hx])) false
    simp only [joined, List.length_append, List.length_cons]
    omega

/-- The length of a document bounds the rounds that its items take. -/
theorem length_lt_joined {items : List (List Char)} (h : ∀ x ∈ items, x ≠ []) (rest : List Char) :
    items.length < (joined true items ++ rest).length + 1 := by
  have hitems := length_le_joined h true
  rw [List.length_append]
  omega

theorem run_nextItem_more {c : Char} (hspace : isSpace c = false) (hc : c ≠ ']') (first : Bool)
    (rest : List Char) :
    (nextItem first).run (separator first ++ c :: rest) = .ok (true, c :: rest) := by
  cases first with
  | true =>
    rw [nextItem, separator, if_pos rfl, List.nil_append, run_bind_ok (run_peek hspace _)]
    split
    · next heq => cases heq
    · next heq => exact absurd (Option.some.inj heq) hc
    · rfl
  | false =>
    rw [nextItem, separator, if_neg (by decide), List.singleton_append,
      run_bind_ok (run_peek rfl _)]
    split
    · next heq => cases heq
    · next heq => exact absurd (Option.some.inj heq) (by decide)
    · next heq =>
      cases heq
      rw [if_neg (by decide), if_pos rfl, run_bind_ok (run_skip _ _),
        run_bind_ok (run_peek hspace _)]
      split
      · next heq => cases heq
      · next heq => exact absurd (Option.some.inj heq) hc
      · rfl

theorem run_nextItem_end (first : Bool) (rest : List Char) :
    (nextItem first).run (']' :: rest) = .ok (false, ']' :: rest) := by
  rw [nextItem, run_bind_ok (run_peek rfl _)]
  rfl

section List

variable {item : Reader α} {chars : α → List Char} {items : List α}

theorem run_readItems (h : ∀ x ∈ items, Reads item (chars x) x) {fuel : Nat}
    (hfuel : items.length < fuel) (first : Bool) (rest : List Char) :
    (readItems item fuel first).run (joined first (items.map chars) ++ ']' :: rest) =
      .ok (items, ']' :: rest) := by
  obtain ⟨fuel, rfl⟩ := Nat.exists_eq_add_one_of_ne_zero (Nat.ne_zero_of_lt hfuel)
  induction items generalizing fuel first with
  | nil =>
    rw [readItems, List.map_nil, joined, List.nil_append, run_bind_ok (run_nextItem_end _ _)]
    rfl
  | cons x items ih =>
    have hx := h x (by simp)
    obtain ⟨c, tail, hchars, hspace, hc⟩ := hx.starts
    have hread := hx.run (joined false (items.map chars) ++ ']' :: rest)
    rw [readItems, List.map_cons, joined, List.append_assoc, List.append_assoc]
    rw [hchars, List.cons_append] at hread ⊢
    rw [run_bind_ok (run_nextItem_more hspace hc first _), if_pos rfl, run_bind_ok hread]
    obtain ⟨fuel, rfl⟩ :=
      Nat.exists_eq_add_one_of_ne_zero (n := fuel) (by rintro rfl; simp at hfuel)
    rw [run_bind_ok (ih (fun y hy => h y (by simp [hy])) false fuel (by simpa using hfuel)),
      run_pure]

/-- The written form of a list is read. -/
theorem reads_readList (h : ∀ x ∈ items, Reads item (chars x) x) :
    Reads (readList item) (listChars (items.map chars)) items where
  starts := ⟨'[', _, rfl, rfl, by decide⟩
  run rest := by
    have hne : ∀ text ∈ items.map chars, text ≠ [] := by
      intro text htext
      obtain ⟨x, hx, rfl⟩ := List.mem_map.mp htext
      obtain ⟨c, tail, hchars, -⟩ := (h x hx).starts
      simp [hchars]
    have hfuel := length_lt_joined hne (']' :: rest)
    rw [List.length_map] at hfuel
    rw [readList, listChars, intercalate_eq_joined, List.cons_append, List.append_assoc,
      run_bind_ok (run_peek rfl _)]
    change (do
      skip
      let s ← get
      let items ← readItems item (s.length + 1) true
      endList
      return items : Reader (List α)).run _ = _
    rw [run_bind_ok (run_skip _ _), run_bind_ok (run_get _), List.singleton_append,
      run_bind_ok (run_readItems h hfuel true rest)]
    have hend : endList.run (']' :: rest) = .ok ((), rest) := by
      rw [endList, run_bind_ok (run_peek rfl _)]
      rfl
    rw [run_bind_ok hend, run_pure]

end List

/-! ## Objects -/

theorem run_nextKey_more (first : Bool) (rest : List Char) :
    (nextKey first).run (separator first ++ '"' :: rest) = .ok (true, rest) := by
  cases first with
  | true =>
    rw [nextKey, separator, if_pos rfl, List.nil_append, run_bind_ok (run_peek rfl _)]
    rfl
  | false =>
    rw [nextKey, separator, if_neg (by decide), List.singleton_append, run_bind_ok (run_peek rfl _)]
    split
    · next heq => cases heq
    · next heq => exact absurd (Option.some.inj heq) (by decide)
    · next heq =>
      cases heq
      rw [if_neg (by decide), if_pos rfl, run_bind_ok (run_skip _ _), run_bind_ok (run_peek rfl _)]
      rfl

theorem run_nextKey_end (first : Bool) (rest : List Char) :
    (nextKey first).run ('\x7d' :: rest) = .ok (false, '\x7d' :: rest) := by
  rw [nextKey, run_bind_ok (run_peek rfl _)]
  rfl

theorem run_readColon (rest : List Char) : readColon.run (':' :: rest) = .ok ((), rest) := by
  rw [readColon, run_bind_ok (run_peek rfl _)]
  rfl

theorem entryChars_eq (key : String) (text : List Char) :
    entryChars (key, text) = '"' :: (key.toList.flatMap Text.quotedChar ++ '"' :: ':' :: text) := by
  simp [entryChars, Text.quotedChars]

theorem entryChars_ne_nil (entries : List (String × List Char)) :
    ∀ text ∈ entries.map entryChars, text ≠ [] := by
  intro text htext
  obtain ⟨e, -, rfl⟩ := List.mem_map.mp htext
  simp [entryChars, Text.quotedChars]

section Map

variable {value : Reader α} {chars : α → List Char} {entries : List (String × α)}

theorem run_readEntries (h : ∀ e ∈ entries, Reads value (chars e.2) e.2) {fuel : Nat}
    (hfuel : entries.length < fuel) (first : Bool) (rest : List Char) :
    (readEntries value fuel first).run
        (joined first ((entries.map fun e => (e.1, chars e.2)).map entryChars) ++ '\x7d' :: rest) =
      .ok (entries, '\x7d' :: rest) := by
  obtain ⟨fuel, rfl⟩ := Nat.exists_eq_add_one_of_ne_zero (Nat.ne_zero_of_lt hfuel)
  induction entries generalizing fuel first with
  | nil =>
    rw [readEntries, List.map_nil, List.map_nil, joined, List.nil_append,
      run_bind_ok (run_nextKey_end _ _)]
    rfl
  | cons e entries ih =>
    have hread := (h e (by simp)).run
      (joined false ((entries.map fun e => (e.1, chars e.2)).map entryChars) ++ '\x7d' :: rest)
    obtain ⟨fuel, rfl⟩ :=
      Nat.exists_eq_add_one_of_ne_zero (n := fuel) (by rintro rfl; simp at hfuel)
    have hrest := ih (fun x hx => h x (by simp [hx])) false fuel (by simpa using hfuel)
    rw [readEntries, List.map_cons, List.map_cons, joined, entryChars_eq]
    simp only [List.append_assoc, List.cons_append]
    rw [run_bind_ok (run_nextKey_more first _), if_pos rfl, run_bind_ok (run_readStringBody _ _),
      run_bind_ok (run_readColon _), run_bind_ok hread, run_bind_ok hrest, run_pure]

/-- The written form of an object is read. -/
theorem reads_readMap (h : ∀ e ∈ entries, Reads value (chars e.2) e.2) :
    Reads (readMap value) (objectChars (entries.map fun e => (e.1, chars e.2))) entries where
  starts := ⟨'\x7b', _, rfl, rfl, by decide⟩
  run rest := by
    have hfuel := length_lt_joined
      (entryChars_ne_nil (entries.map fun e => (e.1, chars e.2))) ('\x7d' :: rest)
    rw [List.length_map, List.length_map] at hfuel
    rw [readMap, objectChars, intercalate_eq_joined, List.cons_append, List.append_assoc,
      run_bind_ok (run_peek rfl _)]
    change (do
      skip
      let s ← get
      let entries ← readEntries value (s.length + 1) true
      skip
      return entries : Reader (List (String × α))).run _ = _
    rw [run_bind_ok (run_skip _ _), run_bind_ok (run_get _), List.singleton_append,
      run_bind_ok (run_readEntries h hfuel true rest), run_bind_ok (run_skip _ _), run_pure]

end Map

/-! ## Records -/

/-- A written field of a record: its key, its written value, and the change that it makes to the
value being built. -/
structure WrittenField (α : Type) where
  key : String
  chars : List Char
  change : α → α

/-- The record has the field, and reads its written value. -/
def Record.Accepts (r : Record α) (f : WrittenField α) : Prop :=
  ∃ field, r.fields.lookup f.key = some field ∧ Reads field f.chars f.change

/-- The value with the changes of the fields made one after the other. -/
def built (start : α) (fields : List (WrittenField α)) : α :=
  fields.foldl (fun value f => f.change value) start

section Record

variable {r : Record α} {fields : List (WrittenField α)}

theorem run_readNamed (h : ∀ f ∈ fields, r.Accepts f) (hkeys : (fields.map (·.key)).Nodup)
    {seen : List String} (hseen : ∀ f ∈ fields, f.key ∉ seen) {fuel : Nat}
    (hfuel : fields.length < fuel) (first : Bool) (value : α) (rest : List Char) :
    (r.readNamed fuel first seen value).run
        (joined first ((fields.map fun f => (f.key, f.chars)).map entryChars) ++ '\x7d' :: rest) =
      .ok (((fields.map (·.key)).reverse ++ seen, built value fields), '\x7d' :: rest) := by
  obtain ⟨fuel, rfl⟩ := Nat.exists_eq_add_one_of_ne_zero (Nat.ne_zero_of_lt hfuel)
  induction fields generalizing fuel first seen value with
  | nil =>
    rw [Record.readNamed, List.map_nil, List.map_nil, joined, List.nil_append,
      run_bind_ok (run_nextKey_end _ _)]
    rfl
  | cons f fields ih =>
    obtain ⟨field, hfield, hreads⟩ := h f (by simp)
    have hread := hreads.run
      (joined false ((fields.map fun f => (f.key, f.chars)).map entryChars) ++ '\x7d' :: rest)
    obtain ⟨fuel, rfl⟩ :=
      Nat.exists_eq_add_one_of_ne_zero (n := fuel) (by rintro rfl; simp at hfuel)
    obtain ⟨hnew, hkeys⟩ := List.nodup_cons.mp hkeys
    have hunseen : ∀ g ∈ fields, g.key ∉ f.key :: seen := by
      intro g hg hmem
      rcases List.mem_cons.mp hmem with heq | hmem
      · exact hnew (List.mem_map.mpr ⟨g, hg, heq⟩)
      · exact hseen g (by simp [hg]) hmem
    have hrest := ih (fun g hg => h g (by simp [hg])) hkeys hunseen false (f.change value) fuel
      (by simpa using hfuel)
    have hfresh : seen.contains f.key = false := by simpa using hseen f (by simp)
    rw [Record.readNamed, List.map_cons, List.map_cons, joined, entryChars_eq]
    simp only [List.append_assoc, List.cons_append]
    rw [run_bind_ok (run_nextKey_more first _), if_pos rfl, run_bind_ok (run_readStringBody _ _)]
    simp only [hfield, hfresh, Bool.false_eq_true, if_false]
    rw [run_bind_ok (run_readColon _), run_bind_ok hread, hrest]
    simp [built]

/-- The written form of a record is read, if no field is written twice and none is left out that has
to be there. -/
theorem Record.reads (h : ∀ f ∈ fields, r.Accepts f) (hkeys : (fields.map (·.key)).Nodup)
    (hcomplete : r.optional = true ∨ ∀ f ∈ r.fields, f.1 ∈ fields.map (·.key)) (start : α) :
    Reads (r.read start) (objectChars (fields.map fun f => (f.key, f.chars)))
      (built start fields) where
  starts := ⟨'\x7b', _, rfl, rfl, by decide⟩
  run rest := by
    have hfuel := length_lt_joined
      (entryChars_ne_nil (fields.map fun f => (f.key, f.chars))) ('\x7d' :: rest)
    rw [List.length_map, List.length_map] at hfuel
    have hnamed := run_readNamed h hkeys (fun _ _ => List.not_mem_nil) hfuel true start rest
    have hmissing : r.optional = true ∨
        (r.fields.find? fun f => !((fields.map WrittenField.key).reverse ++ []).contains f.1) =
          none :=
      hcomplete.imp_right fun hall => List.find?_eq_none.mpr fun f hf => by simpa using hall f hf
    rw [Record.read, objectChars, intercalate_eq_joined, List.cons_append, List.append_assoc,
      run_bind_ok (run_peek rfl _)]
    split
    · next heq => cases heq
    · next heq => exact absurd (Option.some.inj heq) (by decide)
    · rw [run_bind_ok (run_skip _ _), run_bind_ok (run_get _), List.singleton_append,
        run_bind_ok hnamed]
      rcases hmissing with hoptional | hnone
      · simp only [hoptional, Bool.not_true, Bool.false_eq_true, if_false]
        rw [run_bind_ok (run_skip _ _), run_pure]
      · simp only [hnone, ite_self]
        rw [run_bind_ok (run_skip _ _), run_pure]
    · next hobject heq => exact absurd (Option.some.inj heq).symm hobject

/-- A record whose fields may be left out reads any of them. -/
theorem Record.reads_map {ι : Type} {written : ι → WrittenField α} {items : List ι}
    (hoptional : r.optional = true) (h : ∀ x ∈ items, r.Accepts (written x))
    (hkeys : (items.map fun x => (written x).key).Nodup) (start : α) :
    Reads (r.read start) (objectChars (items.map fun x => ((written x).key, (written x).chars)))
      (built start (items.map written)) := by
  have haccepts : ∀ f ∈ items.map written, r.Accepts f := by
    intro f hf
    obtain ⟨x, hx, rfl⟩ := List.mem_map.mp hf
    exact h x hx
  have hnodup : ((items.map written).map (·.key)).Nodup := by
    rw [List.map_map]
    exact hkeys
  have hreads := Record.reads haccepts hnodup (.inl hoptional) start
  rw [List.map_map] at hreads
  exact hreads

end Record

/-- A document that holds a written value is read. -/
theorem Reads.readDocument {reader : Reader α} {text : List Char} {value : α}
    (h : Reads reader text value) : readDocument reader text = .ok value := by
  have hrun := h.run []
  rw [List.append_nil] at hrun
  rw [Json.readDocument, hrun]
  rfl

/-! ## What readers give -/

/-- Every value that the reader gives has the property. -/
def Yields (reader : Reader α) (P : α → Prop) : Prop :=
  ∀ s a s', reader.run s = .ok (a, s') → P a

theorem yields_pure {P : α → Prop} {a : α} (h : P a) : Yields (pure a) P := by
  rintro s _ _ ⟨⟩
  exact h

theorem yields_fail (fault : Fault) (P : α → Prop) : Yields (fail fault) P := by
  rintro s _ _ ⟨⟩

theorem Yields.bind {m : Reader α} {f : α → Reader β} {P : α → Prop} {Q : β → Prop}
    (hm : Yields m P)
    (h : ∀ a, P a → Yields (f a) Q) : Yields (m >>= f) Q := by
  intro s b s' hrun
  rw [StateT.run_bind] at hrun
  cases hfirst : m.run s with
  | error fault => simp [hfirst, Bind.bind, Except.bind] at hrun
  | ok first =>
    rw [hfirst] at hrun
    exact h first.1 (hm s _ _ hfirst) _ _ _ hrun

theorem Yields.after {m : Reader α} {f : α → Reader β} {Q : β → Prop}
    (h : ∀ a, Yields (f a) Q) : Yields (m >>= f) Q :=
  Yields.bind (P := fun _ => True) (fun _ _ _ _ => trivial) fun a _ => h a

theorem yields_wrongType (wanted : String) (P : α → Prop) : Yields (wrongType wanted) P := by
  refine .after fun c => ?_
  split
  · exact yields_fail _ _
  · exact .after fun _ => .after fun _ => yields_fail _ _
  · exact .after fun _ => .after fun _ => yields_fail _ _
  · exact .after fun _ => .after fun _ => yields_fail _ _
  · exact .after fun _ => .after fun _ => yields_fail _ _
  · exact yields_fail _ _
  · exact yields_fail _ _
  · exact .after fun _ => .after fun _ => yields_fail _ _
  · split
    · exact .after fun _ => yields_fail _ _
    · exact yields_fail _ _

/-- The changes that the fields of the record make keep the property. -/
def Record.Keeps (r : Record α) (P : α → Prop) : Prop :=
  ∀ f ∈ r.fields, Yields f.2 fun change => ∀ a, P a → P (change a)

section Keeps

variable {r : Record α} {P : α → Prop}

theorem Record.Keeps.readNamed (h : r.Keeps P) (fuel : Nat) (first : Bool) (seen : List String)
    {value : α} (hvalue : P value) :
    Yields (r.readNamed fuel first seen value) fun result => P result.2 := by
  induction fuel generalizing first seen value with
  | zero => exact yields_fail _ _
  | succ fuel ih =>
    rw [Record.readNamed]
    refine .after fun more => ?_
    split
    · refine .after fun key => ?_
      split
      · next field hfield =>
        obtain ⟨before, after, hfields, -⟩ := List.lookup_eq_some_iff.mp hfield
        have hchange := h (key, field) (by simp [hfields])
        have hrest (tail : Bool) (seen : List String) :
            Yields (field >>= fun change => r.readNamed fuel tail seen (change value))
              fun result => P result.2 :=
          hchange.bind fun change hkeep => ih tail seen (hkeep value hvalue)
        split
        · exact .after fun _ => .after fun _ => hrest _ _
        · exact .after fun _ => hrest _ _
      · exact .after fun _ => .after fun _ => .after fun _ => ih _ _ hvalue
    · exact yields_pure hvalue

theorem Record.Keeps.readPlaced (h : r.Keeps P) {fields : List (String × Reader (α → α))}
    (hfields : fields ⊆ r.fields) (index : Nat) {value : α} (hvalue : P value) :
    Yields (r.readPlaced fields index value) P := by
  induction fields generalizing index value with
  | nil => exact yields_pure hvalue
  | cons field fields ih =>
    obtain ⟨hfield, hfields⟩ := List.cons_subset.mp hfields
    refine .after fun more => ?_
    split
    · exact (h field hfield).bind fun change hkeep => ih hfields _ (hkeep _ hvalue)
    · split
      · exact yields_pure hvalue
      · exact yields_fail _ _

/-- What holds at the start and is kept by every field holds of what the record gives. -/
theorem Record.Keeps.read (h : r.Keeps P) {start : α} (hstart : P start) :
    Yields (r.read start) P := by
  refine .after fun c => ?_
  split
  · exact yields_fail _ _
  · exact .after fun _ => (h.readPlaced (List.Subset.refl _) 0 hstart).bind fun value hvalue =>
      .after fun _ => yields_pure hvalue
  · refine .after fun _ => .after fun s =>
      (h.readNamed _ true [] hstart).bind fun ⟨seen, value⟩ hvalue => ?_
    have hend : Yields (do skip; return value) P := .after fun _ => yields_pure hvalue
    dsimp only
    split
    · split
      · exact .after fun _ => hend
      · exact hend
    · exact hend
  · exact yields_wrongType _ _

end Keeps

theorem Yields.of_readDocument {reader : Reader α} {P : α → Prop} (h : Yields reader P)
    {text : List Char} {a : α} (hread : readDocument reader text = .ok a) : P a := by
  rw [Json.readDocument] at hread
  cases hrun : reader.run text with
  | error fault => simp [hrun, Bind.bind, Except.bind] at hread
  | ok result =>
    obtain ⟨value, rest⟩ := result
    simp only [hrun, Bind.bind, Except.bind] at hread
    split at hread
    · obtain rfl : value = a := by simpa [pure, Except.pure] using hread
      exact h _ _ _ hrun
    · cases hread

end Nativize.Json
