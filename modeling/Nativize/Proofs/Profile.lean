import Mathlib.Data.List.Nodup
import Nativize.Profile.Decode
import Nativize.Profile.Encode
import Nativize.Proofs.Json.Reader
import Nativize.Proofs.OrderedMap

/-!
# Documents decode to the profiles that they describe

A document that holds some fields of a profile decodes to the profile that has these fields, and the
defaults in place of all others. The proof follows the three levels of a document. Each level is a
record whose fields change one part of the value being built, so what a document says about a field
is found by looking at that part alone.
-/

namespace Nativize

open Json

/-! ## Values built field by field -/

/-- A part of the value has some content in the end, if every field keeps this content and the part
has it from the start or from one of the fields. -/
theorem view_built {α β : Type} (view : α → β) {content : β} {fields : List (WrittenField α)}
    (hkept : ∀ f ∈ fields, ∀ a, view a = content → view (f.change a) = content) {start : α}
    (h : view start = content ∨ ∃ f ∈ fields, ∀ a, view (f.change a) = content) :
    view (built start fields) = content := by
  induction fields generalizing start with
  | nil => simpa [built] using h
  | cons f fields ih =>
    refine ih (fun g hg => hkept g (by simp [hg])) ?_
    rcases h with h | ⟨g, hg, hset⟩
    · exact .inl (hkept f (by simp) start h)
    · rcases List.mem_cons.mp hg with rfl | hg
      · exact .inl (hset start)
      · exact .inr ⟨g, hg, hset⟩

theorem lookup_map_of_injective {α β : Type} {key : α → String} (hkey : Function.Injective key)
    (value : α → β) {items : List α} {a : α} (h : a ∈ items) :
    (items.map fun x => (key x, value x)).lookup (key a) = some (value a) := by
  induction items with
  | nil => cases h
  | cons x items ih =>
    rw [List.map_cons, List.lookup_cons]
    by_cases hx : a = x
    · subst hx
      simp
    · have hne : (key a == key x) = false := by simpa using fun heq => hx (hkey heq)
      rw [hne]
      exact ih ((List.mem_cons.mp h).resolve_left hx)

/-! ## Names -/

theorem Role.key_injective : Function.Injective Role.key := by
  have hkeys : ∀ r ∈ Role.all, ∀ r' ∈ Role.all, r.key = r'.key → r = r' := by decide +kernel
  exact fun r r' h => hkeys r r.mem_all r' r'.mem_all h

namespace Names

/-- A name as a document holds it. -/
def written (names : Names) (role : Role) : WrittenField Names where
  key := role.key
  chars := textChars (names role)
  change := fun start => start.update role (names role)

theorem accepts_written (names : Names) (role : Role) : record.Accepts (names.written role) :=
  ⟨_, lookup_map_of_injective Role.key_injective _ role.mem_all,
    (reads_readString (names role)).map fun s (start : Names) => start.update role s⟩

theorem built_written (names start : Names) (roles : List Role) (r : Role) :
    built start (roles.map names.written) r = if r ∈ roles then names r else start r := by
  refine view_built (fun q : Names => q r) ?_ ?_
  · intro f hf q hq
    obtain ⟨role, hrole, rfl⟩ := List.mem_map.mp hf
    by_cases heq : r = role
    · subst heq
      simp [written, update, hrole]
    · simp [written, update, heq, hq]
  · by_cases hr : r ∈ roles
    · exact .inr ⟨_, List.mem_map_of_mem hr, by simp [written, update, hr]⟩
    · exact .inl (if_neg hr).symm

end Names

/-! ## Tables -/

theorem TableField.key_injective : Function.Injective TableField.key := by
  have hkeys : ∀ f ∈ TableField.all, ∀ f' ∈ TableField.all, f.key = f'.key → f = f' := by
    decide +kernel
  exact fun f f' h => hkeys f f.mem_all f' f'.mem_all h

/-- The values of a field. -/
def TableField.Value : TableField → Type
  | .tagMap | .propertyRenames => OrderedMap String
  | .assetDirectory | .typeDeclaration => String
  | .fontFaces => List FontFace
  | _ => List String

theorem foldl_distinct {items acc : List String} (h : (acc ++ items).Nodup) :
    items.foldl (fun acc s => if acc.contains s then acc else acc ++ [s]) acc = acc ++ items := by
  induction items generalizing acc with
  | nil => simp
  | cons s items ih =>
    have hs : s ∉ acc := fun hmem =>
      (List.nodup_append.mp h).2.2 s hmem s (by simp) rfl
    rw [List.foldl_cons, if_neg (by simpa using hs), ih (by simpa using h), List.append_assoc]
    rfl

/-- A list without repetitions is kept as it is. -/
theorem distinct_eq_self {items : List String} (h : items.Nodup) : distinct items = items :=
  foldl_distinct h

theorem nodup_distinct (items : List String) : (distinct items).Nodup := by
  suffices h : ∀ acc : List String, acc.Nodup →
      (items.foldl (fun acc s => if acc.contains s then acc else acc ++ [s]) acc).Nodup from
    h [] List.nodup_nil
  induction items with
  | nil => exact fun acc hacc => hacc
  | cons s items ih =>
    intro acc hacc
    rw [List.foldl_cons]
    split
    · exact ih acc hacc
    · next hs =>
      refine ih _ (List.nodup_append.mpr ⟨hacc, by simp, ?_⟩)
      simpa using fun a ha heq => hs (by simpa [heq] using ha)

theorem reads_readTextMap {m : OrderedMap String} (h : m.keys.Nodup) :
    Reads Tables.readTextMap (textMapChars m) m := by
  have hentries : Reads (readMap readString) (textMapChars m) m.entries :=
    reads_readMap fun e _ => reads_readString e.2
  have hmap := hentries.map OrderedMap.ofList
  rwa [OrderedMap.ofList_entries h] at hmap

theorem reads_readTexts (texts : List String) : Reads Tables.readTexts (textsChars texts) texts :=
  reads_readList fun text _ => reads_readString text

namespace FontFace

/-- The fields of a font as a document holds them. -/
def written (face : FontFace) : List (WrittenField FontFace) :=
  [⟨"family", textChars face.family, fun f => { f with family := face.family }⟩,
   ⟨"path", textChars face.path, fun f => { f with path := face.path }⟩]

theorem reads_read (face : FontFace) : Reads FontFace.read face.chars face := by
  have haccepts : ∀ f ∈ face.written, record.Accepts f := by
    intro f hf
    rcases List.mem_pair.mp hf with rfl | rfl
    · exact ⟨_, rfl, (reads_readString _).map fun s (f : FontFace) => { f with family := s }⟩
    · exact ⟨_, rfl, (reads_readString _).map fun s (f : FontFace) => { f with path := s }⟩
  have hcomplete : ∀ f ∈ record.fields, f.1 ∈ face.written.map (·.key) := by
    intro f hf
    rcases List.mem_pair.mp hf with rfl | rfl
    · simp [written]
    · simp [written]
  exact Record.reads haccepts (by simp [written]) (.inr hcomplete) ⟨"", ""⟩

end FontFace

namespace Tables

/-- The value of a field. -/
def get (t : Tables) : (field : TableField) → field.Value
  | .tagMap => t.tagMap
  | .propertyRenames => t.propertyRenames
  | .allowedProperties => t.allowedProperties
  | .recognizedComponents => t.recognizedComponents
  | .referencedIdentifiers => t.referencedIdentifiers
  | .stylesheetExtensions => t.stylesheetExtensions
  | .imageExtensions => t.imageExtensions
  | .assetDirectory => t.assetDirectory
  | .storageMethods => t.storageMethods
  | .fontFaces => t.fontFaces
  | .fontTargets => t.fontTargets
  | .typeDeclaration => t.typeDeclaration

theorem ext_get {t u : Tables} (h : ∀ field, t.get field = u.get field) : t = u := by
  cases t
  cases u
  simp only [mk.injEq]
  exact ⟨h .tagMap, h .propertyRenames, h .allowedProperties, h .recognizedComponents,
    h .referencedIdentifiers, h .stylesheetExtensions, h .imageExtensions, h .assetDirectory,
    h .storageMethods, h .fontFaces, h .fontTargets, h .typeDeclaration⟩

/-- The tables with one field taken from others. -/
def take (t source : Tables) : TableField → Tables
  | .tagMap => { t with tagMap := source.tagMap }
  | .propertyRenames => { t with propertyRenames := source.propertyRenames }
  | .allowedProperties => { t with allowedProperties := source.allowedProperties }
  | .recognizedComponents => { t with recognizedComponents := source.recognizedComponents }
  | .referencedIdentifiers => { t with referencedIdentifiers := source.referencedIdentifiers }
  | .stylesheetExtensions => { t with stylesheetExtensions := source.stylesheetExtensions }
  | .imageExtensions => { t with imageExtensions := source.imageExtensions }
  | .assetDirectory => { t with assetDirectory := source.assetDirectory }
  | .storageMethods => { t with storageMethods := source.storageMethods }
  | .fontFaces => { t with fontFaces := source.fontFaces }
  | .fontTargets => { t with fontTargets := source.fontTargets }
  | .typeDeclaration => { t with typeDeclaration := source.typeDeclaration }

@[simp] theorem get_take_self (t source : Tables) (field : TableField) :
    (t.take source field).get field = source.get field := by
  cases field <;> rfl

theorem get_take_of_ne {field other : TableField} (h : other ≠ field) (t source : Tables) :
    (t.take source field).get other = t.get other := by
  cases field <;> cases other <;> first | rfl | exact absurd rfl h

/-- The maps hold no key twice and the set holds no element twice. -/
structure IsProper (t : Tables) : Prop where
  tagMap : t.tagMap.keys.Nodup
  propertyRenames : t.propertyRenames.keys.Nodup
  allowedProperties : t.allowedProperties.Nodup

theorem yields_readTextMap : Yields readTextMap fun m => m.keys.Nodup :=
  .after fun entries => yields_pure (OrderedMap.nodup_keys_ofList entries)

theorem keeps_isProper : record.Keeps IsProper := by
  intro f hf
  obtain ⟨field, -, rfl⟩ := List.mem_map.mp hf
  cases field with
  | tagMap =>
    exact yields_readTextMap.bind fun m hm => yields_pure fun t ht => { ht with tagMap := hm }
  | propertyRenames =>
    exact yields_readTextMap.bind fun m hm => yields_pure fun t ht =>
      { ht with propertyRenames := hm }
  | allowedProperties =>
    exact .after fun l => yields_pure fun t ht => { ht with allowedProperties := nodup_distinct l }
  | _ => exact .after fun _ => yields_pure fun t ht => { ht with }

theorem isProper_default : Tables.default.IsProper :=
  ⟨by decide +kernel, by decide +kernel, by decide +kernel⟩

/-- The written value of each field is read, and brings the field into the tables. -/
theorem IsProper.reads_readField {t : Tables} (h : t.IsProper) (field : TableField) :
    Reads (readField field) (t.fieldChars field) fun start => start.take t field := by
  cases field with
  | tagMap => exact (reads_readTextMap h.tagMap).map _
  | propertyRenames => exact (reads_readTextMap h.propertyRenames).map _
  | allowedProperties =>
    have hread := (reads_readTexts t.allowedProperties).map fun l (start : Tables) =>
      { start with allowedProperties := distinct l }
    rwa [distinct_eq_self h.allowedProperties] at hread
  | recognizedComponents => exact (reads_readTexts _).map _
  | referencedIdentifiers => exact (reads_readTexts _).map _
  | stylesheetExtensions => exact (reads_readTexts _).map _
  | imageExtensions => exact (reads_readTexts _).map _
  | assetDirectory => exact (reads_readString _).map _
  | storageMethods => exact (reads_readTexts _).map _
  | fontFaces => exact (reads_readList fun face _ => face.reads_read).map _
  | fontTargets => exact (reads_readTexts _).map _
  | typeDeclaration => exact (reads_readString _).map _

/-- A field as a document holds it. -/
def written (t : Tables) (field : TableField) : WrittenField Tables where
  key := field.key
  chars := t.fieldChars field
  change := fun start => start.take t field

theorem IsProper.accepts_written {t : Tables} (h : t.IsProper) (field : TableField) :
    record.Accepts (t.written field) :=
  ⟨_, lookup_map_of_injective TableField.key_injective _ field.mem_all, h.reads_readField field⟩

theorem built_written (t start : Tables) (fields : List TableField) (field : TableField) :
    (built start (fields.map t.written)).get field =
      if field ∈ fields then t.get field else start.get field := by
  refine view_built (fun q : Tables => q.get field) ?_ ?_
  · intro f hf q hq
    obtain ⟨other, hother, rfl⟩ := List.mem_map.mp hf
    by_cases heq : field = other
    · subst heq
      simp [written, hother]
    · exact (get_take_of_ne heq q t).trans hq
  · by_cases hmem : field ∈ fields
    · exact .inr ⟨_, List.mem_map_of_mem hmem, by simp [written, hmem]⟩
    · exact .inl (if_neg hmem).symm

end Tables

/-! ## Documents -/

/-- A section of a document, with the fields that it holds in their order. -/
inductive Section where
  | names (roles : List Role)
  | tables (fields : List TableField)

namespace Section

def key : Section → String
  | .names _ => "names"
  | .tables _ => "tables"

/-- No field stands twice in the section. -/
def IsDistinct : Section → Prop
  | .names roles => roles.Nodup
  | .tables fields => fields.Nodup

/-- The written fields of a profile that the section holds. -/
def chars (p : Profile) : Section → List Char
  | .names roles => objectChars (roles.map fun role => (role.key, textChars (p.names role)))
  | .tables fields => objectChars (fields.map fun field => (field.key, p.tables.fieldChars field))

/-- A section as a document holds it. What it leaves out is set to its default. -/
def written (p : Profile) (part : Section) : WrittenField Profile where
  key := part.key
  chars := part.chars p
  change := match part with
    | .names roles => fun q =>
      { q with names := built Role.defaultName (roles.map p.names.written) }
    | .tables fields => fun q => { q with tables := built .default (fields.map p.tables.written) }

theorem accepts_written {p : Profile} (hp : p.tables.IsProper) {part : Section}
    (h : part.IsDistinct) :
    Profile.record.Accepts (part.written p) := by
  cases part with
  | names roles =>
    have hreads := Record.reads_map rfl (fun role _ => p.names.accepts_written role)
      (h.map Role.key_injective) Role.defaultName
    exact ⟨_, rfl, hreads.map fun names (q : Profile) => { q with names := names }⟩
  | tables fields =>
    have hreads := Record.reads_map rfl (fun field _ => hp.accepts_written field)
      (h.map TableField.key_injective) Tables.default
    exact ⟨_, rfl, hreads.map fun tables (q : Profile) => { q with tables := tables }⟩

end Section

/-- The sections hold exactly the selected fields, and nothing stands twice. A section without
selected fields may be empty or left out. -/
structure Selection.IsWrittenAs (s : Selection) (sections : List Section) : Prop where
  keys : (sections.map Section.key).Nodup
  distinct : ∀ part ∈ sections, part.IsDistinct
  names : ∀ role, s.names role = true ↔ ∃ roles, .names roles ∈ sections ∧ role ∈ roles
  tables : ∀ field, s.tables field = true ↔ ∃ fields, .tables fields ∈ sections ∧ field ∈ fields

namespace Selection.IsWrittenAs

variable {s : Selection} {sections : List Section}

/-- Only one section holds names, so it holds all that are selected. -/
theorem mem_roles (h : s.IsWrittenAs sections) {roles : List Role} (hmem : .names roles ∈ sections)
    (role : Role) : role ∈ roles ↔ s.names role = true := by
  rw [h.names]
  refine ⟨fun hrole => ⟨roles, hmem, hrole⟩, fun ⟨others, hothers, hrole⟩ => ?_⟩
  obtain rfl : others = roles := by simpa using List.inj_on_of_nodup_map h.keys hothers hmem rfl
  exact hrole

theorem mem_fields (h : s.IsWrittenAs sections) {fields : List TableField}
    (hmem : .tables fields ∈ sections) (field : TableField) :
    field ∈ fields ↔ s.tables field = true := by
  rw [h.tables]
  refine ⟨fun hfield => ⟨fields, hmem, hfield⟩, fun ⟨others, hothers, hfield⟩ => ?_⟩
  obtain rfl : others = fields := by simpa using List.inj_on_of_nodup_map h.keys hothers hmem rfl
  exact hfield

end Selection.IsWrittenAs

namespace Profile

/-- The document of the sections. -/
def document (p : Profile) (sections : List Section) : String :=
  String.ofList (objectChars (sections.map fun part => (part.key, part.chars p)))

/-- The profile `q` has the selected fields of `p`, and the defaults in place of all others. -/
structure IsOverlay (p : Profile) (s : Selection) (q : Profile) : Prop where
  names : ∀ role, q.names role = if s.names role then p.names role else Role.defaultName role
  tables : ∀ field,
    q.tables.get field = if s.tables field then p.tables.get field else Tables.default.get field

/-- Decoding gives proper tables only. -/
theorem isProper_of_decode {text : String} {q : Profile} (h : decode text = .ok q) :
    q.tables.IsProper := by
  have hkeeps : record.Keeps fun p => p.tables.IsProper := by
    intro f hf
    rcases List.mem_pair.mp hf with rfl | rfl
    · exact .after fun names => yields_pure fun p hp => hp
    · exact (Tables.keeps_isProper.read Tables.isProper_default).bind fun tables htables =>
        yields_pure fun p _ => htables
  exact (hkeeps.read Tables.isProper_default).of_readDocument h

theorem IsOverlay.unique {p q q' : Profile} {s : Selection} (h : p.IsOverlay s q)
    (h' : p.IsOverlay s q') : q = q' := by
  have hnames : q.names = q'.names := funext fun role => (h.names role).trans (h'.names role).symm
  have htables : q.tables = q'.tables :=
    Tables.ext_get fun field => (h.tables field).trans (h'.tables field).symm
  cases q
  cases q'
  simp_all

theorem isOverlay_all (p : Profile) : p.IsOverlay .all p where
  names _ := rfl
  tables _ := rfl

variable {s : Selection} {sections : List Section}

theorem names_built (p : Profile) (h : s.IsWrittenAs sections) (role : Role) :
    (built .default (sections.map (Section.written p))).names role =
      if s.names role then p.names role else Role.defaultName role := by
  have hset {roles : List Role} (hmem : .names roles ∈ sections) (q : Profile) :
      (((Section.names roles).written p).change q).names role =
        if s.names role then p.names role else Role.defaultName role :=
    (Names.built_written _ _ _ _).trans (if_congr (h.mem_roles hmem role) rfl rfl)
  refine view_built (fun q : Profile => q.names role) ?_ ?_
  · intro f hf q hq
    obtain ⟨part, hpart, rfl⟩ := List.mem_map.mp hf
    cases part with
    | names roles => exact hset hpart q
    | tables fields => exact hq
  · by_cases hselected : s.names role
    · obtain ⟨roles, hmem, -⟩ := (h.names role).mp hselected
      exact .inr ⟨_, List.mem_map_of_mem hmem, hset hmem⟩
    · exact .inl (if_neg hselected).symm

theorem tables_built (p : Profile) (h : s.IsWrittenAs sections) (field : TableField) :
    (built .default (sections.map (Section.written p))).tables.get field =
      if s.tables field then p.tables.get field else Tables.default.get field := by
  have hset {fields : List TableField} (hmem : .tables fields ∈ sections) (q : Profile) :
      (((Section.tables fields).written p).change q).tables.get field =
        if s.tables field then p.tables.get field else Tables.default.get field :=
    (Tables.built_written _ _ _ _).trans (if_congr (h.mem_fields hmem field) rfl rfl)
  refine view_built (fun q : Profile => q.tables.get field) ?_ ?_
  · intro f hf q hq
    obtain ⟨part, hpart, rfl⟩ := List.mem_map.mp hf
    cases part with
    | names roles => exact hq
    | tables fields => exact hset hpart q
  · by_cases hselected : s.tables field
    · obtain ⟨fields, hmem, -⟩ := (h.tables field).mp hselected
      exact .inr ⟨_, List.mem_map_of_mem hmem, hset hmem⟩
    · exact .inl (if_neg hselected).symm

/-- A document of selected fields decodes to an overlay of them. -/
theorem decode_document {p : Profile} (hp : p.tables.IsProper) (h : s.IsWrittenAs sections) :
    ∃ q, decode (p.document sections) = .ok q ∧ p.IsOverlay s q := by
  have haccepts : ∀ part ∈ sections, record.Accepts (part.written p) := by
    intro part hpart
    exact Section.accepts_written hp (h.distinct part hpart)
  have hreads := Record.reads_map rfl haccepts h.keys Profile.default
  refine ⟨_, ?_, names_built p h, tables_built p h⟩
  rw [decode, document, String.toList_ofList]
  exact hreads.readDocument

end Profile

/-- The sections of a selection in the order in which `Profile.encode` writes them. -/
def Selection.sections (s : Selection) : List Section :=
  [.names (Role.all.filter s.names), .tables (TableField.all.filter s.tables)]

theorem Selection.isWrittenAs_sections (s : Selection) : s.IsWrittenAs s.sections where
  keys := by simp [sections, Section.key]
  distinct := by
    have hroles : Role.all.Nodup := by decide +kernel
    have hfields : TableField.all.Nodup := by decide +kernel
    simpa [sections, Section.IsDistinct] using ⟨hroles.filter _, hfields.filter _⟩
  names := by simp [sections, Role.mem_all]
  tables := by simp [sections, TableField.mem_all]

/-- Whatever its characters, a document that holds just the selected fields of a profile, in any
order and with empty sections written or left out, decodes to the profile that has the selected
fields and the defaults in place of all others. With every field selected this is the profile
itself. -/
theorem Profile.decode_selected_fields {p : Profile} (hp : p.tables.IsProper) (s : Selection) :
    ∃ q, decode (p.encode s) = .ok q ∧ q.tables.IsProper ∧
      (∀ sections, s.IsWrittenAs sections → decode (p.document sections) = .ok q) ∧
      (∀ role, q.names role = if s.names role then p.names role else Role.defaultName role) ∧
      (∀ field, q.tables.get field =
        if s.tables field then p.tables.get field else Tables.default.get field) ∧
      (s = .all → q = p) := by
  obtain ⟨q, hq, hoverlay⟩ := decode_document hp s.isWrittenAs_sections
  refine ⟨q, hq, isProper_of_decode hq, fun sections h => ?_, hoverlay.names, hoverlay.tables, ?_⟩
  · obtain ⟨q', hq', hoverlay'⟩ := decode_document hp h
    rw [hq', hoverlay'.unique hoverlay]
  · rintro rfl
    exact hoverlay.unique p.isOverlay_all

/-- A profile with quotes, control characters and characters beyond the basic plane. -/
def labelledProfile : Profile where
  names := Names.update Role.defaultName .baseModule "a\"b\\c\n\x01/é😀"
  tables :=
    { Tables.default with
      tagMap := ⟨[("div\t", "\x00"), ("", "\"\"")]⟩
      allowedProperties := ["z", "\\u0041"]
      fontFaces := [⟨"\r", "\x1f\x7f"⟩] }

/-- Some fields of both sections. -/
def labelledFields : Selection where
  names role := role = .baseModule || role = .routerHook
  tables field := field = .tagMap || field = .fontFaces

theorem Profile.decode_selected_fields_labelledProfile :
    labelledProfile.tables.IsProper ∧
    labelledFields.IsWrittenAs
      [.tables [.fontFaces, .tagMap], .names [.routerHook, .baseModule]] ∧
    ∃ q, decode (labelledProfile.encode labelledFields) = .ok q ∧
      decode (labelledProfile.document
        [.tables [.fontFaces, .tagMap], .names [.routerHook, .baseModule]]) = .ok q ∧
      q.names .baseModule = "a\"b\\c\n\x01/é😀" ∧
      q.names .styleAttribute = "style" ∧
      q.tables.tagMap = ⟨[("div\t", "\x00"), ("", "\"\"")]⟩ ∧
      q.tables.fontFaces = [⟨"\r", "\x1f\x7f"⟩] ∧
      q.tables.allowedProperties = Tables.defaultAllowedProperties := by
  have hproper : labelledProfile.tables.IsProper :=
    ⟨by decide +kernel, by decide +kernel, by decide +kernel⟩
  have hwritten : labelledFields.IsWrittenAs
      [.tables [.fontFaces, .tagMap], .names [.routerHook, .baseModule]] :=
    { keys := by simp [Section.key]
      distinct := by simp [Section.IsDistinct]
      names := by simp [labelledFields, or_comm]
      tables := by simp [labelledFields, or_comm] }
  obtain ⟨q, hencode, -, hdocument, hnames, htables, -⟩ :=
    decode_selected_fields hproper labelledFields
  exact ⟨hproper, hwritten, q, hencode, hdocument _ hwritten, hnames .baseModule,
    hnames .styleAttribute, htables .tagMap, htables .fontFaces, htables .allowedProperties⟩

end Nativize
