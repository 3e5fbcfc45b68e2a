import Mathlib.Data.List.Basic
import Nativize.Proofs.OrderedMap
import Nativize.Style.Resolution

/-!
# Resolved rules

A rule that was resolved holds nothing that would be treated in another way when it is resolved
again: its names are those of the platform, its lengths are numbers, and any other text was kept for
the name that it stands under. Main statement: resolving a rule twice is resolving it once, for all
tables under which the names of the platform stand for themselves. The default tables are of this
kind.
-/

namespace Nativize.Style

/-- The names that the tables give to properties stand for themselves, and so does `flex`, which
takes the place of a full height or width. -/
structure KeepsNames (tables : Tables) : Prop where
  self : ∀ property name, platformName? tables property = some name →
    platformName? tables name = some name
  flex : platformName? tables "flex" = some "flex"

section Resolution

variable {α : Type} {tables : Tables} {property name : String}

/-- What becomes of a property depends on its name on the platform alone. -/
theorem Resolution.of_congr {other : String}
    (h : platformName? tables property = platformName? tables other) (text? : Option String) :
    Resolution.of tables property text? = Resolution.of tables other text? := by
  simp only [Resolution.of, h]

theorem Resolution.of_none (h : platformName? tables property = some name) :
    Resolution.of tables property none = .keep name := by
  simp [Resolution.of, h]

/-- A property without a name on the platform is dropped. Any other stays under that name, gives it
a magnitude, or becomes `flex`. -/
theorem Resolution.of_cases (tables : Tables) (property : String) (text? : Option String) :
    Resolution.of tables property text? = .drop ∨
    ∃ name, platformName? tables property = some name ∧
      (Resolution.of tables property text? = .flex ∨
        Resolution.of tables property text? = .keep name ∨
        ∃ magnitude, Resolution.of tables property text? = .pixels name magnitude) := by
  cases hname : platformName? tables property with
  | none => exact .inl (by simp [Resolution.of, hname])
  | some name =>
    refine .inr ⟨name, rfl, ?_⟩
    simp only [Resolution.of, hname]
    grind

/-- The entry stays as it is. -/
def IsResolved (tables : Tables) (textOf : α → Option String) (e : String × α) : Prop :=
  Resolution.of tables e.1 (textOf e.2) = .keep e.1

variable {textOf : α → Option String} {ofNumber : Number → α}

/-- What a resolution leaves stays as it is. -/
theorem KeepsNames.isResolved_entry (h : KeepsNames tables)
    (hnumber : ∀ n, textOf (ofNumber n) = none) {value : α} {e : String × α}
    (he : (Resolution.of tables property (textOf value)).entry ofNumber value = some e) :
    IsResolved tables textOf e := by
  unfold IsResolved
  rcases Resolution.of_cases tables property (textOf value) with
    hdrop | ⟨name, hname, hflex | hkeep | ⟨magnitude, hpixels⟩⟩
  · rw [hdrop] at he
    cases he
  · rw [hflex] at he
    cases he
    rw [hnumber]
    exact Resolution.of_none h.flex
  · -- the name has the same name on the platform as the property, so the value is judged alike
    have hsame : platformName? tables name = platformName? tables property :=
      (h.self _ _ hname).trans hname.symm
    rw [hkeep] at he
    cases he
    rw [Resolution.of_congr hsame, hkeep]
  · rw [hpixels] at he
    cases he
    rw [hnumber]
    exact Resolution.of_none (h.self _ _ hname)

theorem KeepsNames.isResolved_mergeRule (h : KeepsNames tables)
    (hnumber : ∀ n, textOf (ofNumber n) = none) (rule : OrderedMap α) :
    ∀ e ∈ (mergeRule tables textOf ofNumber rule).entries, IsResolved tables textOf e := by
  intro e he
  obtain ⟨source, -, hsource⟩ := List.mem_filterMap.mp (OrderedMap.mem_entries_ofList he)
  exact h.isResolved_entry hnumber hsource

/-- Entries that stay as they are make up a rule that does. -/
theorem mergeRule_eq_self {rule : OrderedMap α} (hkeys : rule.keys.Nodup)
    (hresolved : ∀ e ∈ rule.entries, IsResolved tables textOf e) :
    mergeRule tables textOf ofNumber rule = rule := by
  have hentry : ∀ e ∈ rule.entries,
      (Resolution.of tables e.1 (textOf e.2)).entry ofNumber e.2 = some e := by
    intro e he
    rw [hresolved e he]
    rfl
  rw [mergeRule, List.filterMap_congr hentry]
  exact (congrArg _ List.filterMap_some).trans (OrderedMap.ofList_entries hkeys)

/-- A rule is resolved once and for all. -/
theorem KeepsNames.mergeRule_mergeRule (h : KeepsNames tables)
    (hnumber : ∀ n, textOf (ofNumber n) = none) (rule : OrderedMap α) :
    mergeRule tables textOf ofNumber (mergeRule tables textOf ofNumber rule) =
      mergeRule tables textOf ofNumber rule :=
  mergeRule_eq_self (OrderedMap.nodup_keys_ofList _) (h.isResolved_mergeRule hnumber rule)

end Resolution

/-! ## The names that tables give -/

/-- The names that the tables can give to properties: the targets of renames, and the properties
that are allowed. -/
def givenNames (tables : Tables) : List String :=
  ((tables.propertyRenames.entries.map (·.2)).filter (!·.isEmpty) ++ tables.allowedProperties).map
    fun name => if name = "background" then "backgroundColor" else name

theorem mem_givenNames {tables : Tables} {property name : String}
    (h : platformName? tables property = some name) : name ∈ givenNames tables := by
  unfold platformName? at h
  obtain ⟨target, htarget, rfl⟩ := Option.map_eq_some_iff.mp h
  refine List.mem_map.mpr ⟨target, List.mem_append.mpr ?_, rfl⟩
  split at htarget
  · next mapped hrename =>
    split at htarget
    · cases htarget
    · next hne =>
      cases htarget
      have hentry := OrderedMap.mem_entries_of_get? hrename
      exact .inl (List.mem_filter.mpr ⟨List.mem_map.mpr ⟨_, hentry, rfl⟩, by simpa using hne⟩)
  · dsimp only at htarget
    split at htarget
    · next hallowed =>
      cases htarget
      exact .inr (by simpa using hallowed)
    · cases htarget

/-- Only the names that the tables give need to be looked up. -/
theorem keepsNames_of_givenNames {tables : Tables}
    (hself : ∀ name ∈ givenNames tables, platformName? tables name = some name)
    (hflex : platformName? tables "flex" = some "flex") : KeepsNames tables where
  self _ _ h := hself _ (mem_givenNames h)
  flex := hflex

theorem keepsNames_default : KeepsNames .default :=
  keepsNames_of_givenNames (by decide +kernel) (by decide +kernel)

/-- A rule of values that was resolved stays as it is when it is resolved again, if the names that
the tables give stand for themselves. Those of the default tables do, whatever the property. -/
theorem resolved_rule_stable (tables : Tables) (rule : Rule) :
    (KeepsNames tables → (rule.resolve tables).resolve tables = rule.resolve tables) ∧
      KeepsNames .default :=
  ⟨fun h => h.mergeRule_mergeRule (fun _ => rfl) rule, keepsNames_default⟩

/-- A rule with two names for one property, a full height, a length without a number and a property
that is dropped. -/
def pageRule : Rule :=
  .ofList [("background", .text "red"), ("padding", .text "10px"), ("height", .text "100vh"),
    ("margin-top", .text "px"), ("backgroundColor", .text "5vw"), ("flex", .text "2"),
    ("cursor", .text "pointer")]

theorem resolved_rule_stable_pageRule :
    pageRule.resolve .default = .ofList [("backgroundColor", .text "5vw"),
      ("padding", .number (.ofNat 10)), ("flex", .text "2"), ("marginTop", .number .nan)] ∧
    KeepsNames .default ∧
    (pageRule.resolve .default).resolve .default = pageRule.resolve .default := by
  obtain ⟨hstable, hnames⟩ := resolved_rule_stable .default pageRule
  exact ⟨by decide +kernel, hnames, hstable hnames⟩

end Nativize.Style
