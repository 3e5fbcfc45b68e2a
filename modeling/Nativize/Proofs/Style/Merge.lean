import Nativize.Conversion.Stylesheet
import Nativize.Proofs.Style.Resolution

/-!
# Merged rules

Several properties of a rule may have one name on the platform: a kebab-cased and a camel-cased
form, the short and the long name of the background colour, a full height and a full width. Main
statement: a resolved rule has each name once, where the first of these properties stood and with
the value that the last of them gives, be its values evaluated or expressions of a program.
-/

namespace Nativize.Style

/-- The name that a property has after a resolution. -/
def Resolution.target? : Resolution → Option String
  | .drop => none
  | .flex => some "flex"
  | .keep name => some name
  | .pixels name _ => some name

/-- The value that a property has after a resolution: 1 for a full height or width, the magnitude of
a length in pixels, and else the value that it had. -/
def Resolution.given {α : Type} (ofNumber : Number → α) (value : α) : Resolution → α
  | .flex => ofNumber 1
  | .pixels _ magnitude => ofNumber magnitude
  | .keep _ | .drop => value

theorem Resolution.entry_eq {α : Type} (ofNumber : Number → α) (value : α) (r : Resolution) :
    r.entry ofNumber value = r.target?.map fun name => (name, r.given ofNumber value) := by
  cases r <;> rfl

section Names

variable {tables : Tables} {property name : String}

theorem ne_background_of_platformName? (h : platformName? tables property = some name) :
    name ≠ "background" := by
  obtain ⟨given, -, rfl⟩ := Option.map_eq_some_iff.mp h
  split
  · decide
  · assumption

/-- No property is left under the short name of the background colour. -/
theorem ne_background_of_target? {text? : Option String}
    (h : (Resolution.of tables property text?).target? = some name) : name ≠ "background" := by
  rcases Resolution.of_cases tables property text? with
    hdrop | ⟨given, hgiven, hflex | hkeep | ⟨magnitude, hpixels⟩⟩
  · rw [hdrop] at h
    cases h
  · rw [hflex] at h
    cases h
    decide
  · rw [hkeep] at h
    cases h
    exact ne_background_of_platformName? hgiven
  · rw [hpixels] at h
    cases h
    exact ne_background_of_platformName? hgiven

end Names

section Merge

variable {α : Type} (tables : Tables) (textOf : α → Option String) (ofNumber : Number → α)

/-- What becomes of an entry of a rule. -/
def resolution (e : String × α) : Resolution := Resolution.of tables e.1 (textOf e.2)

/-- The entries of a rule are merged by their names on the platform. -/
structure IsMerged (rule merged : OrderedMap α) : Prop where
  distinct : merged.keys.Nodup
  /-- The names stand in the order in which entries had them first. -/
  order : merged.keys =
    (rule.entries.filterMap fun e => (resolution tables textOf e).target?).eraseDups
  unabbreviated : "background" ∉ merged.keys
  /-- A name has the value that the last entry with the name gives. -/
  value (name : String) : merged.get? name =
    ((rule.entries.filter fun e => (resolution tables textOf e).target? = some name).getLast?).map
      fun e => (resolution tables textOf e).given ofNumber e.2

variable {tables textOf ofNumber}

theorem mergeRule_eq (rule : OrderedMap α) : mergeRule tables textOf ofNumber rule =
    .ofList (rule.entries.filterMap fun e => (resolution tables textOf e).target?.map fun name =>
      (name, (resolution tables textOf e).given ofNumber e.2)) := by
  simp only [mergeRule, Resolution.entry_eq]
  rfl

theorem keys_mergeRule (rule : OrderedMap α) : (mergeRule tables textOf ofNumber rule).keys =
    (rule.entries.filterMap fun e => (resolution tables textOf e).target?).eraseDups := by
  rw [mergeRule_eq, OrderedMap.keys_ofList, List.map_filterMap]
  simp [Function.comp_def]

theorem get?_mergeRule (rule : OrderedMap α) (name : String) :
    (mergeRule tables textOf ofNumber rule).get? name =
      ((rule.entries.filter fun e => (resolution tables textOf e).target? = some name).getLast?).map
        fun e => (resolution tables textOf e).given ofNumber e.2 := by
  have hnamed (e : String × α) : (((resolution tables textOf e).target?.map fun target =>
      (target, (resolution tables textOf e).given ofNumber e.2)).filter (·.1 = name)).map (·.2) =
        if (resolution tables textOf e).target? = some name then
          some ((resolution tables textOf e).given ofNumber e.2) else none := by
    cases (resolution tables textOf e).target? with
    | none => simp
    | some target => by_cases h : target = name <;> simp [h, Option.filter]
  -- Both sides are the last of the values that entries with the name give.
  rw [mergeRule_eq, OrderedMap.get?_ofList, ← List.getLast?_map, ← List.getLast?_map,
    List.filter_filterMap, List.map_filterMap]
  simp only [hnamed]
  rw [← List.filterMap_eq_map, List.filterMap_filter]
  simp

theorem isMerged_mergeRule (rule : OrderedMap α) :
    IsMerged tables textOf ofNumber rule (mergeRule tables textOf ofNumber rule) where
  distinct := OrderedMap.nodup_keys_ofList _
  order := keys_mergeRule rule
  unabbreviated h := by
    rw [keys_mergeRule, List.mem_eraseDups] at h
    obtain ⟨e, -, htarget⟩ := List.mem_filterMap.mp h
    exact ne_background_of_target? htarget rfl
  value := get?_mergeRule rule

end Merge

/-- Rules of values and rules of expressions are merged by the names on the platform, whatever the
tables. A number stands in a rule of expressions as a literal that has it as its value. -/
theorem resolved_rules_merged (tables : Tables) :
    (∀ rule : Rule, IsMerged tables Value.text? Value.number rule (rule.resolve tables)) ∧
      (∀ entries, IsMerged tables Conversion.literalText? (fun n => .leaf (.number n ""))
        (.ofList entries) (Conversion.resolveEntries tables entries)) ∧
      ∀ n, Conversion.literalValue? (.leaf (.number n "")) = some (.number n) :=
  ⟨isMerged_mergeRule, fun entries => isMerged_mergeRule (.ofList entries), fun _ => rfl⟩

end Nativize.Style
