import Nativize.OrderedMap

/-!
# Laws of maps that remember the order of insertion

What insertion does to the keys and to values that are changed one by one. A map that was built by
insertions has no key twice, so its entries build the same map again. Its keys stand in the order in
which they came first, and each has the value that came last.
-/

namespace Nativize.OrderedMap

variable {α β : Type}

@[simp] theorem entries_empty : (empty : OrderedMap α).entries = [] := rfl

@[simp] theorem insertAll_nil (m : OrderedMap α) : m.insertAll [] = m := rfl

@[simp] theorem insertAll_cons (m : OrderedMap α) (p : String × α) (pairs : List (String × α)) :
    m.insertAll (p :: pairs) = (m.insert p.1 p.2).insertAll pairs := rfl

theorem mem_entries_of_get? {m : OrderedMap α} {key : String} {value : α}
    (h : m.get? key = some value) : (key, value) ∈ m.entries := by
  obtain ⟨entries⟩ := m
  change entries.lookup key = some value at h
  induction entries with
  | nil => cases h
  | cons e rest ih =>
    rw [List.lookup_cons] at h
    split at h
    · next heq =>
      obtain rfl := Option.some.inj h
      obtain rfl : key = e.1 := by simpa using heq
      exact List.mem_cons_self
    · exact List.mem_cons_of_mem _ (ih h)

theorem mem_insertEntry {key : String} {value : α} {entries : List (String × α)}
    {e : String × α} (h : e ∈ insertEntry key value entries) :
    e = (key, value) ∨ e ∈ entries := by
  induction entries with
  | nil => simpa [insertEntry] using h
  | cons first rest ih =>
    unfold insertEntry at h
    split at h
    · grind
    · grind

theorem mem_entries_insertAll {m : OrderedMap α} {pairs : List (String × α)} {e : String × α}
    (h : e ∈ (m.insertAll pairs).entries) : e ∈ m.entries ∨ e ∈ pairs := by
  induction pairs generalizing m with
  | nil => exact .inl h
  | cons p rest ih =>
    rcases ih h with h | h
    · rcases mem_insertEntry h with rfl | h
      · exact .inr (by simp)
      · exact .inl h
    · exact .inr (by simp [h])

/-- What a map holds was inserted. -/
theorem mem_entries_ofList {pairs : List (String × α)} {e : String × α}
    (h : e ∈ (ofList pairs).entries) : e ∈ pairs := by
  rcases mem_entries_insertAll h with h | h
  · simp at h
  · exact h

/-! ## Changing the values -/

theorem insertEntry_map (f : α → β) (key : String) (value : α) (entries : List (String × α)) :
    insertEntry key (f value) (entries.map fun e => (e.1, f e.2)) =
      (insertEntry key value entries).map fun e => (e.1, f e.2) := by
  induction entries with
  | nil => rfl
  | cons first rest ih =>
    by_cases h : first.1 = key
    · simp [insertEntry, h]
    · simp [insertEntry, h, ih]

@[simp] theorem map_insert (f : α → β) (m : OrderedMap α) (key : String) (value : α) :
    (m.insert key value).map f = (m.map f).insert key (f value) := by
  simp [insert, map, insertEntry_map]

theorem map_insertAll (f : α → β) (m : OrderedMap α) (pairs : List (String × α)) :
    (m.insertAll pairs).map f = (m.map f).insertAll (pairs.map fun e => (e.1, f e.2)) := by
  induction pairs generalizing m with
  | nil => rfl
  | cons p rest ih => simp [ih]

/-- Values may be changed before they are inserted or after. -/
theorem map_ofList (f : α → β) (pairs : List (String × α)) :
    (ofList pairs).map f = ofList (pairs.map fun e => (e.1, f e.2)) :=
  map_insertAll f empty pairs

@[simp] theorem isEmpty_map (f : α → β) (m : OrderedMap α) : (m.map f).isEmpty = m.isEmpty := by
  simp [isEmpty, map]

/-! ## Keys -/

theorem keys_insertEntry (key : String) (value : α) (entries : List (String × α)) :
    (insertEntry key value entries).map (·.1) =
      if key ∈ entries.map (·.1) then entries.map (·.1) else entries.map (·.1) ++ [key] := by
  induction entries with
  | nil => simp [insertEntry]
  | cons first rest ih =>
    by_cases h : first.1 = key
    · simp [insertEntry, h]
    · rw [insertEntry, if_neg h, List.map_cons, ih, List.map_cons]
      simp only [List.mem_cons, Ne.symm h, false_or]
      split <;> rfl

theorem keys_insert (m : OrderedMap α) (key : String) (value : α) :
    (m.insert key value).keys = if key ∈ m.keys then m.keys else m.keys ++ [key] :=
  keys_insertEntry key value m.entries

theorem keys_insertAll (m : OrderedMap α) (pairs : List (String × α)) :
    (m.insertAll pairs).keys = m.keys ++ ((pairs.map (·.1)).removeAll m.keys).eraseDups := by
  induction pairs generalizing m with
  | nil => simp
  | cons p rest ih =>
    rw [insertAll_cons, ih, keys_insert, List.map_cons, List.cons_removeAll]
    by_cases h : p.1 ∈ m.keys
    · simp [h]
    · have hrest : (rest.map (·.1)).removeAll (m.keys ++ [p.1]) =
          ((rest.map (·.1)).removeAll m.keys).filter (fun key => !key == p.1) := by
        simp [List.removeAll, List.filter_filter, Bool.and_comm, Bool.beq_eq_decide_eq]
      simp [h, List.eraseDups_cons, hrest]

/-- The keys stand in the order in which they came first. -/
theorem keys_ofList (pairs : List (String × α)) :
    (ofList pairs).keys = (pairs.map (·.1)).eraseDups := by
  rw [ofList, keys_insertAll]
  simp [keys]

theorem nodup_keys_insert {m : OrderedMap α} (h : m.keys.Nodup) (key : String) (value : α) :
    (m.insert key value).keys.Nodup := by
  rw [keys_insert]
  split
  · exact h
  · next hkey => exact List.nodup_append.mpr ⟨h, by simp, by grind⟩

theorem nodup_keys_insertAll {m : OrderedMap α} (h : m.keys.Nodup) (pairs : List (String × α)) :
    (m.insertAll pairs).keys.Nodup := by
  induction pairs generalizing m with
  | nil => exact h
  | cons p rest ih => exact ih (nodup_keys_insert h p.1 p.2)

/-- No key stands twice in a map that was built by insertions. -/
theorem nodup_keys_ofList (pairs : List (String × α)) : (ofList pairs).keys.Nodup :=
  nodup_keys_insertAll (by simp [keys]) pairs

theorem insertEntry_of_notMem {key : String} {value : α} {entries : List (String × α)}
    (h : key ∉ entries.map (·.1)) : insertEntry key value entries = entries ++ [(key, value)] := by
  induction entries with
  | nil => rfl
  | cons first rest ih =>
    simp only [List.map_cons, List.mem_cons, not_or] at h
    simp [insertEntry, Ne.symm h.1, ih h.2]

theorem entries_insertAll_of_nodup {m : OrderedMap α} {pairs : List (String × α)}
    (h : ((m.entries ++ pairs).map (·.1)).Nodup) :
    (m.insertAll pairs).entries = m.entries ++ pairs := by
  induction pairs generalizing m with
  | nil => simp
  | cons p rest ih =>
    have hp : p.1 ∉ m.entries.map (·.1) := by
      intro hmem
      have := List.nodup_append.mp (List.map_append ▸ h)
      exact this.2.2 _ hmem p.1 (by simp) rfl
    have hinsert : (m.insert p.1 p.2).entries = m.entries ++ [p] := insertEntry_of_notMem hp
    rw [insertAll_cons, ih (by simpa [hinsert] using h), hinsert, List.append_assoc]
    rfl

/-- The entries of a map without repeated keys build it again. -/
theorem ofList_entries {m : OrderedMap α} (h : m.keys.Nodup) : ofList m.entries = m := by
  have hnodup : (((empty : OrderedMap α).entries ++ m.entries).map (·.1)).Nodup := h
  have hentries : (ofList m.entries).entries = m.entries := entries_insertAll_of_nodup hnodup
  cases hm : ofList m.entries
  cases m
  simp_all

/-! ## Values -/

theorem lookup_cons (key : String) (e : String × α) (rest : List (String × α)) :
    (e :: rest).lookup key = if key = e.1 then some e.2 else rest.lookup key := by
  rw [List.lookup_cons]
  by_cases h : key = e.1
  · simp [h]
  · rw [if_neg h, beq_eq_false_iff_ne.mpr h]

theorem lookup_insertEntry (key other : String) (value : α) (entries : List (String × α)) :
    (insertEntry key value entries).lookup other =
      if other = key then some value else entries.lookup other := by
  induction entries with
  | nil => simp [insertEntry, lookup_cons]
  | cons first rest ih =>
    by_cases hfirst : first.1 = key
    · subst hfirst
      by_cases h : other = first.1 <;> simp [insertEntry, lookup_cons, h]
    · by_cases h : other = first.1
      · simp [insertEntry, lookup_cons, hfirst, h]
      · simp [insertEntry, lookup_cons, hfirst, h, ih]

theorem get?_insert (m : OrderedMap α) (key other : String) (value : α) :
    (m.insert key value).get? other = if other = key then some value else m.get? other :=
  lookup_insertEntry key other value m.entries

theorem get?_insertAll (m : OrderedMap α) (pairs : List (String × α)) (key : String) :
    (m.insertAll pairs).get? key =
      (((pairs.filter (·.1 = key)).getLast?).map (·.2)).or (m.get? key) := by
  induction pairs generalizing m with
  | nil => rfl
  | cons p rest ih =>
    rw [insertAll_cons, ih, get?_insert]
    by_cases h : p.1 = key
    · rw [List.filter_cons_of_pos (by simpa using h), List.getLast?_cons, if_pos h.symm]
      cases (rest.filter (·.1 = key)).getLast? <;> rfl
    · rw [List.filter_cons_of_neg (by simpa using h), if_neg (Ne.symm h)]

/-- A key has the value that came last. -/
theorem get?_ofList (pairs : List (String × α)) (key : String) :
    (ofList pairs).get? key = ((pairs.filter (·.1 = key)).getLast?).map (·.2) := by
  rw [ofList, get?_insertAll]
  exact Option.or_none

end Nativize.OrderedMap
