import Nativize.Proofs.Pipeline.Completion
import Nativize.Proofs.Sweep.Elements
import Nativize.Proofs.Sweep.Refusal

/-!
# Tags of a converted program

The two names of an element are renamed separately, and each only where it is plain. Main statement:
they are renamed together, to what the profile says about the opening one, and no program that can
be read is refused for names that differ.
-/

namespace Nativize.Conversion

open Syntax

/-- The name that an element has after a conversion. Only a plain one is looked up. -/
def renamedText (p : Profile) : Ast → String
  | .node (.markupName text) _ _ => (p.tables.tagMap.get? text).getD text
  | tag => elementText tag

/-- The second element has the names of the first one renamed: both alike, if there are two. -/
inductive TagsRenamed (p : Profile) : Ast → Ast → Prop
  | mk {l l' : List Comment} {opening generics attributes children closing : Ast}
      {opening' generics' attributes' children' closing' : Ast}
      (hopening : elementText opening' = renamedText p opening)
      (hclosed : closing'.isAbsent = closing.isAbsent)
      (hclosing : closing'.isAbsent = false → elementText closing' = elementText opening') :
      TagsRenamed p (.node .element l [opening, generics, attributes, children, closing])
        (.node .element l' [opening', generics', attributes', children', closing'])

/-! ## Names that are the same -/

section Names

variable {opening closing : Ast}

theorem elementText_of_sameName (h : Parse.sameName opening closing = true) :
    elementText closing = elementText opening := by
  fun_induction Parse.sameName opening closing <;> simp_all [elementText]

theorem renamedText_of_sameName (p : Profile) (h : Parse.sameName opening closing = true) :
    renamedText p closing = renamedText p opening := by
  have htext := elementText_of_sameName h
  fun_cases Parse.sameName opening closing <;> simp_all [renamedText, Parse.sameName, elementText]

theorem isAbsent_renameTag (target : String) (tag : Ast) :
    (renameTag target tag).isAbsent = tag.isAbsent := by
  unfold renameTag
  split <;> rfl

/-- A tag that is renamed by its own text. -/
theorem elementText_renamed (p : Profile) (tag : Ast) :
    elementText (((p.tables.tagMap.get? (elementText tag)).map
        fun target => renameTag target tag).getD tag) =
      renamedText p tag := by
  obtain ⟨k, l, parts⟩ := tag
  by_cases hk : ∃ text, k = .markupName text
  · obtain ⟨text, rfl⟩ := hk
    rw [show elementText (.node (.markupName text) l parts) = text from rfl]
    cases h : p.tables.tagMap.get? text <;> simp [renamedText, h, renameTag, elementText]
  · have hplain : renamedText p (.node k l parts) = elementText (.node k l parts) ∧
        ∀ target, renameTag target (.node k l parts) = .node k l parts := by
      cases k <;> first | exact absurd ⟨_, rfl⟩ hk | exact ⟨rfl, fun _ => rfl⟩
    cases p.tables.tagMap.get? (elementText (.node k l parts)) <;> simp [hplain]

end Names

/-! ## Elements -/

section Elements

variable {p : Profile}

theorem tagMismatch?_of_sameName {opening closing : Ast}
    (h : closing.isAbsent = true ∨ Parse.sameName opening closing = true) :
    tagMismatch? opening closing = none :=
  tagMismatch?_eq_none_iff.mpr (h.imp_right elementText_of_sameName)

/-- A sweep renames the tags of an element together. -/
theorem tagsRenamed_rewrite {w : Surroundings} {l : List Comment} {parts : List Ast}
    (hparts : Ast.ElementParts parts) :
    TagsRenamed p (.node .element l parts) (rewrite p w (.node .element l parts)) := by
  have hf := gentle_rewrite p (w := { w with inMarkup := true, callee := none }) rfl
  rw [rewrite_elementParts p w l hparts]
  obtain ⟨generics, al, attributes, cl, children, -, hclosing⟩ := hparts
  next opening closing =>
  simp only [convertElement, tagMismatch?_of_sameName hclosing, List.map_cons, List.map_nil]
  have hopening : elementText (((p.tables.tagMap.get? (elementText opening)).map
      fun target => renameTag target opening).getD opening) = renamedText p opening :=
    elementText_renamed p opening
  have habsent : (((p.tables.tagMap.get? (elementText opening)).map
      fun target => renameTag target closing).getD closing).isAbsent = closing.isAbsent := by
    cases p.tables.tagMap.get? (elementText opening) with
    | none => rfl
    | some target => exact isAbsent_renameTag target closing
  refine .mk ?_ ?_ fun hclosed => ?_
  · rw [hf.elementText, hopening]
  · rw [hf.isAbsent, habsent]
  · rw [hf.isAbsent, habsent] at hclosed
    have hsame := hclosing.resolve_left (by simp [hclosed])
    -- The names have one text, so the closing one is looked up by its own.
    rw [hf.elementText, hf.elementText, hopening, ← renamedText_of_sameName p hsame,
      ← elementText_of_sameName hsame, elementText_renamed]

theorem not_tagMismatch_of_offends {n : Ast} {b : Breach} (hshaped : n.Shaped)
    (h : Offends p n b) : b.guarantee ≠ .tagPair := by
  cases h with
  | tags hclosing htext =>
    obtain ⟨-, -, -, -, -, -, hsame⟩ := hshaped.1 rfl
    rcases hsame with habsent | hsame
    · simp [hclosing] at habsent
    · exact absurd (elementText_of_sameName hsame) htext
  | classList => simp [Breach.guarantee]
  | hook => simp [Breach.guarantee]

/-- A sweep of a program that was read is never stopped by names that differ. -/
theorem guarantee_ne_tagPair_of_combinedSweep {aliases : List String} {t t' : Ast} {b : Breach}
    (hwell : t.WellFormed) (hprogram : t.isProgram = true)
    (h : (combinedSweep p aliases).apply t = (.error (.structural b), t')) :
    b.guarantee ≠ .tagPair := by
  rcases combinedSweep_cases p aliases hwell hprogram with
    ⟨b', u, happly, hstops⟩ | ⟨⟨tally, u, happly⟩, -, -⟩
  · rw [h] at happly
    cases happly
    rcases hstops with ⟨-, d, -, -, -, -, rfl, -⟩ | ⟨-, before, n, after, -, -, hvisited, -, hn, -⟩
    · simp [Breach.guarantee]
    · have hmem : n ∈ visited t := by simp [hvisited]
      exact not_tagMismatch_of_offends (hwell n (List.mem_filter.mp hmem).1) hn
  · rw [h] at happly
    cases happly

end Elements

/-! ## Failures after the sweep -/

section Failures

/-- The cause is something in the profile. -/
def IsProfileFault (e : Failure) : Prop := ∃ fault, e = .profile fault

theorem failsByProfile_prepend (text : String) : Pass.FailsOnlyBy IsProfileFault (prepend text) :=
  (Pass.failsOnlyBy_require _).bind fun _ => Pass.failsOnlyBy_of_ok fun _ => ⟨_, rfl⟩

theorem failsByProfile_convertStylesheet (p : Profile) :
    Pass.FailsOnlyBy IsProfileFault (convertStylesheet p) := by
  unfold convertStylesheet
  refine Pass.FailsOnlyBy.bind (Pass.failsOnlyBy_of_ok fun _ => ⟨_, rfl⟩) fun parts => ?_
  split
  · exact (Pass.failsOnlyBy_of_ok fun _ => ⟨_, rfl⟩).bind fun _ =>
      (Pass.failsOnlyBy_require _).bind fun _ => Pass.failsOnlyBy_of_ok fun _ => ⟨_, rfl⟩
  · split
    · exact Pass.failsOnlyBy_pure _
    · exact (Pass.failsOnlyBy_require _).bind fun _ => Pass.failsOnlyBy_of_ok fun _ => ⟨_, rfl⟩

theorem failsByProfile_addLeadingImports (names : Names) :
    Pass.FailsOnlyBy IsProfileFault (addLeadingImports names) := by
  unfold addLeadingImports
  refine Pass.FailsOnlyBy.bind (Pass.failsOnlyBy_of_ok fun _ => ⟨_, rfl⟩) fun parts => ?_
  have hstore (hasStore : Bool) (text : String) :
      Pass.FailsOnlyBy IsProfileFault (if !hasStore then prepend text else pure ()) := by
    split
    · exact failsByProfile_prepend text
    · exact Pass.failsOnlyBy_pure ()
  dsimp only
  split
  · exact (Pass.failsOnlyBy_of_ok fun _ => ⟨_, rfl⟩).bind fun _ => hstore _ _
  · exact (failsByProfile_prepend _).bind fun _ => hstore _ _

theorem failsByProfile_addTypeDeclaration (tables : Tables) :
    Pass.FailsOnlyBy IsProfileFault (addTypeDeclaration tables) := by
  unfold addTypeDeclaration
  dsimp only
  split
  · exact Pass.failsOnlyBy_pure 0
  · exact (Pass.failsOnlyBy_of_ok fun _ => ⟨_, rfl⟩).bind fun _ =>
      (Pass.failsOnlyBy_require _).bind fun _ => Pass.failsOnlyBy_of_ok fun _ => ⟨_, rfl⟩

theorem failsByProfile_addFontLoading (p : Profile) :
    Pass.FailsOnlyBy IsProfileFault (addFontLoading p) := by
  unfold addFontLoading
  split
  · exact Pass.failsOnlyBy_pure 0
  · exact (Pass.failsOnlyBy_require _).bind fun _ => Pass.failsOnlyBy_of_ok fun _ => ⟨_, rfl⟩

theorem failsByProfile_addPlatformImports (names : Names) (used : List String) :
    Pass.FailsOnlyBy IsProfileFault (addPlatformImports names used) := by
  unfold addPlatformImports
  refine Pass.FailsOnlyBy.bind (Pass.failsOnlyBy_of_ok fun _ => ⟨_, rfl⟩) fun parts => ?_
  split
  · dsimp only
    split
    · exact Pass.failsOnlyBy_pure 0
    · exact Pass.failsOnlyBy_of_ok fun _ => ⟨_, rfl⟩
  · split
    · exact Pass.failsOnlyBy_pure 0
    · exact (failsByProfile_prepend _).bind fun _ => Pass.failsOnlyBy_pure _

/-- Only the sweep refuses a program for what is in it. -/
theorem combinedSweep_of_convertAll_structural {p : Profile} {t t' : Ast} {b : Breach}
    (h : (convertAll p).apply t = (.error (.structural b), t')) :
    ∃ u, (combinedSweep p (navigationAliases p.names t)).apply t = (.error (.structural b), u) := by
  have hafter : Pass.FailsOnlyBy IsProfileFault (do
      let _ ← convertStylesheet p
      addLeadingImports p.names
      let _ ← addTypeDeclaration p.tables
      let _ ← addFontLoading p
      let used := usedNames p (← get)
      let _ ← addPlatformImports p.names used
      return used) :=
    (failsByProfile_convertStylesheet p).bind fun _ =>
      (failsByProfile_addLeadingImports p.names).bind fun _ =>
      (failsByProfile_addTypeDeclaration p.tables).bind fun _ =>
      (failsByProfile_addFontLoading p).bind fun _ =>
      (Pass.failsOnlyBy_of_ok fun _ => ⟨_, rfl⟩).bind fun _ =>
      (failsByProfile_addPlatformImports p.names _).bind fun _ => Pass.failsOnlyBy_pure _
  unfold convertAll at h
  rw [Pass.apply_bind, Pass.apply_get] at h
  dsimp only at h
  rw [Pass.apply_bind] at h
  split at h
  · obtain ⟨fault, hfault⟩ := hafter _ _ _ h
    cases hfault
  · next happly =>
    cases h
    exact ⟨_, happly⟩

/-- A program that is refused for what is in it was read, and a pass refused it. -/
theorem parseProgram_of_convert_structural {mode : Mode} {p : Profile} {file source : String}
    {b : Breach}
    (h : convert mode p file source = .error (.structural b)) :
    ∃ t t', parseProgram source.toList = some t ∧
      (mode.pass p).apply t = (.error (.structural b), t') := by
  unfold convert readProgram at h
  cases hparse : parseProgram source.toList with
  | none =>
    rw [hparse] at h
    cases h
  | some t =>
    rw [hparse] at h
    dsimp only [bind, Except.bind] at h
    split at h
    · cases h
    · next happly =>
      cases h
      exact ⟨t, _, rfl, happly⟩

end Failures

/-- The tags of an element are renamed together: no program is refused for tags that differ, and the
elements of a swept program are those of the source, in order, each with the name that the profile
has for its opening one, and with that name at its end if it has an end. -/
theorem tags_renamed_together (p : Profile) (file source : String) :
    (∀ b, convert .full p file source = .error (.structural b) →
      b.guarantee.code ≠ "RX-ERR-TAG-001") ∧
    ∀ t, parseProgram source.toList = some t → ∀ aliases tally t',
      (combinedSweep p aliases).apply t = (.ok tally, t') →
      List.Forall₂ (TagsRenamed p) (elements t) (elements t') := by
  constructor
  · intro b h
    obtain ⟨t, t', hparse, hconvert⟩ := parseProgram_of_convert_structural h
    obtain ⟨hwell, hprogram⟩ := parseProgram_wellFormed hparse
    obtain ⟨u, hsweep⟩ := combinedSweep_of_convertAll_structural hconvert
    have hguarantee := guarantee_ne_tagPair_of_combinedSweep hwell hprogram hsweep
    cases hb : b.guarantee <;> simp_all [Guarantee.code]
  · intro t hparse aliases tally t' happly
    obtain ⟨hwell, hprogram⟩ := parseProgram_wellFormed hparse
    exact elements_combinedSweep (fun _ _ _ hparts _ => tagsRenamed_rewrite hparts) hwell hprogram
      happly

/-- A profile with a target for the name of a member, which is not renamed, and one that is a
member. -/
def memberProfile : Profile :=
  { Profile.default with
    tables := { Profile.default.tables with
      tagMap := .ofList [("div", "View"), ("kit.Row", "Text"), ("span", "kit.Cell")] } }

/-- A program with a plain tag, a member and an element without an end inside one another. -/
def taggedProgram : String := "const page = <div><kit.Row><span /></kit.Row></div>;"

theorem tags_renamed_together_taggedProgram : ∃ t tally t',
    parseProgram taggedProgram.toList = some t ∧
    (combinedSweep memberProfile []).apply t = (.ok tally, t') ∧
    tags t = ["div", "kit.Row", "span"] ∧
    tags t' = ["View", "kit.Row", "kit.Cell"] ∧
    List.Forall₂ (TagsRenamed memberProfile) (elements t) (elements t') := by
  have hrun : ∃ t ∈ parseProgram taggedProgram.toList,
      ((combinedSweep memberProfile []).apply t).1 = .ok { elements := 3 } ∧
      tags t = ["div", "kit.Row", "span"] ∧
      tags ((combinedSweep memberProfile []).apply t).2 = ["View", "kit.Row", "kit.Cell"] := by
    decide +kernel
  obtain ⟨t, hparse, hok, htags, htags'⟩ := hrun
  have happly := Pass.apply_eq_of_ok hok
  exact ⟨t, _, _, hparse, happly, htags, htags',
    (tags_renamed_together memberProfile "page" taggedProgram).2 t hparse _ _ _ happly⟩

end Nativize.Conversion
