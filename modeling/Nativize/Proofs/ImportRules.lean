import Nativize.Proofs.Imports

/-!
# The rules for imports

What each rule makes of an import, and when it makes nothing of its own result. Main statements:
`convertImport_keep` lists the ways in which an import is kept, `lastSegments_relocated` tells when
an image that was moved to the asset directory stays there, and `Sorted.convertImport_eq_keep_iff`
when a kept import is kept as it is.
-/

namespace Nativize.Conversion

open Syntax

/-! ## Paths -/

theorem firstSegments_cons (n : Nat) {c : Char} (h : c ≠ '/') (rest : List Char) :
    firstSegments n (c :: rest) = c :: firstSegments n rest := by
  rw [firstSegments]
  · exact fun _ hc => h hc
  · exact fun _ _ hc => h hc

theorem firstSegments_append (n : Nat) {front : List Char} (h : '/' ∉ front) (rest : List Char) :
    firstSegments n (front ++ rest) = front ++ firstSegments n rest := by
  induction front with
  | nil => rfl
  | cons c front ih =>
    simp only [List.mem_cons, not_or] at h
    rw [List.cons_append, List.cons_append, firstSegments_cons n (Ne.symm h.1), ih h.2]

/-- No more slashes are kept than asked for. -/
theorem count_firstSegments (n : Nat) (path : List Char) :
    (firstSegments n path).count '/' = min n (path.count '/') := by
  induction path generalizing n with
  | nil => simp [firstSegments]
  | cons c rest ih =>
    by_cases hc : c = '/'
    · subst hc
      cases n with
      | zero => simp [firstSegments]
      | succ n => simp [firstSegments, ih]
    · rw [firstSegments_cons n hc, List.count_cons_of_ne hc, List.count_cons_of_ne hc, ih]

/-- A path with so many slashes is the front of what it is followed by a slash with. -/
theorem firstSegments_of_count {n : Nat} {path : List Char} (h : path.count '/' = n)
    (rest : List Char) : firstSegments n (path ++ '/' :: rest) = path := by
  induction path generalizing n with
  | nil =>
    subst h
    rfl
  | cons c path ih =>
    by_cases hc : c = '/'
    · subst hc
      obtain ⟨n, rfl⟩ : ∃ m, n = m + 1 := ⟨path.count '/', by simpa using h.symm⟩
      rw [List.cons_append, firstSegments, ih (by simpa using h)]
    · rw [List.cons_append, firstSegments_cons n hc,
        ih (by simpa [List.count_cons_of_ne hc] using h)]

theorem toList_lastSegments (path : String) :
    (lastSegments path).toList = (firstSegments 1 path.toList.reverse).reverse := by
  rw [lastSegments, String.toList_ofList]

theorem count_lastSegments (path : String) :
    (lastSegments path).toList.count '/' = min 1 (path.toList.count '/') := by
  rw [toList_lastSegments, List.count_reverse, count_firstSegments, List.count_reverse]

/-- An image that was moved stays where it is exactly when it came out of a directory. -/
theorem lastSegments_relocated (directory path : String) :
    lastSegments (directory ++ "/" ++ lastSegments path) = lastSegments path ↔
      '/' ∈ path.toList := by
  constructor
  · intro h
    have hcount := count_lastSegments (directory ++ "/" ++ lastSegments path)
    rw [h, count_lastSegments] at hcount
    refine List.count_pos_iff.mp ?_
    simp at hcount
    omega
  · intro h
    have hcount : (firstSegments 1 path.toList.reverse).count '/' = 1 := by
      have := List.count_pos_iff.mpr h
      rw [count_firstSegments, List.count_reverse]
      omega
    have hrelocated : (directory ++ "/" ++ lastSegments path).toList.reverse =
        firstSegments 1 path.toList.reverse ++ '/' :: directory.toList.reverse := by
      simp [toList_lastSegments]
    rw [lastSegments, hrelocated, firstSegments_of_count hcount, ← lastSegments]

/-- An ending without a slash is kept. -/
theorem suffix_lastSegments {ending path : String} (hslash : '/' ∉ ending.toList)
    (h : ending.toList <:+ path.toList) : ending.toList <:+ (lastSegments path).toList := by
  obtain ⟨front, hpath⟩ := h
  rw [toList_lastSegments, ← hpath, List.reverse_append,
    firstSegments_append 1 (by simpa using hslash), List.reverse_append, List.reverse_reverse]
  exact List.suffix_append _ _

/-! ## Rules -/

/-- No rule changes an import from the module. -/
def isForeign (p : Profile) (module : String) : Bool :=
  module ≠ p.names .webRouterModule && !p.tables.isStylesheet module &&
    module ≠ p.names .platformUiModule && !p.tables.isImage module

/-- The rule for images is the first that fits an import from the module. -/
def isAsset (p : Profile) (module : String) : Bool :=
  module ≠ p.names .baseModule && module ≠ p.names .webRouterModule &&
    !p.tables.isStylesheet module && module ≠ p.names .platformUiModule && p.tables.isImage module

/-- Where an image is on the platform. -/
def relocated (p : Profile) (path : String) : String :=
  p.tables.assetDirectory ++ "/" ++ lastSegments path

section Rules

variable {p : Profile} {d d' : ImportDecl}

theorem convertImport_of_isForeign (h : isForeign p d.source.text = true) :
    convertImport p d = .ok (.keep d) := by
  simp only [isForeign, Bool.and_eq_true, Bool.not_eq_true', decide_eq_true_eq] at h
  obtain ⟨⟨⟨hrouter, hstylesheet⟩, hplatform⟩, himage⟩ := h
  simp [convertImport, hrouter, hstylesheet, hplatform, himage]

theorem convertImport_of_isAsset (h : isAsset p d.source.text = true) :
    convertImport p d = (convertImage p.tables d).map .keep := by
  simp only [isAsset, Bool.and_eq_true, Bool.not_eq_true', decide_eq_true_eq] at h
  obtain ⟨⟨⟨⟨hbase, hrouter⟩, hstylesheet⟩, hplatform⟩, himage⟩ := h
  simp [convertImport, hbase, hrouter, hstylesheet, hplatform, himage]

/-- Only the rule for images refuses an import. -/
theorem isOk_of_not_isAsset (h : isAsset p d.source.text = false) :
    ∃ action, convertImport p d = .ok action := by
  unfold convertImport
  dsimp only
  split
  · exact ⟨_, rfl⟩
  · split
    · exact ⟨_, rfl⟩
    · split
      · exact ⟨_, rfl⟩
      · split
        · exact ⟨_, rfl⟩
        · split
          · simp_all [isAsset]
          · exact ⟨_, rfl⟩

/-- The import brings an image and has no binding for it. -/
def IsUnbound (p : Profile) (d : ImportDecl) : Prop :=
  isAsset p d.source.text = true ∧ d.specifiers.getD [] = []

/-- An import is refused when it is that of an image without a binding. -/
theorem refusal?_eq_some_iff {b : Breach} : refusal? p d = some b ↔
    IsUnbound p d ∧ b = .unboundAsset d.source.text := by
  unfold refusal? IsUnbound
  cases h : isAsset p d.source.text with
  | false =>
    obtain ⟨action, haction⟩ := isOk_of_not_isAsset h
    simp [haction]
  | true =>
    rw [convertImport_of_isAsset h, convertImage]
    cases d.specifiers.getD [] with
    | nil => simp [Except.map, eq_comm]
    | cons first rest => simp [Except.map]

/-- What becomes of an import that is not refused, by the rule that fits it. -/
inductive ImportRule (p : Profile) (d : ImportDecl) : ImportAction → Prop
  | base (h : d.source.text = p.names .baseModule) : ImportRule p d (.keep d)
  | router (h : d.source.text = p.names .webRouterModule) :
      ImportRule p d (.keep { d with
        source := ⟨p.names .platformRouterModule, false⟩
        specifiers := d.specifiers.map (·.map (convertHookSpecifier p.names)) })
  | stylesheet (hrouter : d.source.text ≠ p.names .webRouterModule)
      (h : p.tables.isStylesheet d.source.text = true) : ImportRule p d .remove
  | platform (h : d.source.text = p.names .platformUiModule) :
      ImportRule p d (.keep (withStylesheetApi p.names d))
  | image {first : ImportSpecifier} {rest : List ImportSpecifier}
      (h : isAsset p d.source.text = true)
      (hspecifiers : d.specifiers.getD [] = first :: rest) :
      ImportRule p d (.keep { d with
        specifiers := some [.byDefault first.localName]
        source := ⟨relocated p d.source.text, false⟩ })
  | foreign (h : isForeign p d.source.text = true) : ImportRule p d (.keep d)

theorem importRule_of_ok {action : ImportAction} (h : convertImport p d = .ok action) :
    ImportRule p d action := by
  cases hasset : isAsset p d.source.text with
  | true =>
    rw [convertImport_of_isAsset hasset, convertImage] at h
    split at h
    · cases h
    · next hspecifiers =>
      cases h
      exact .image hasset hspecifiers
  | false =>
    unfold convertImport at h
    dsimp only at h
    split at h
    · next hbase =>
      cases h
      exact .base hbase
    · split at h
      · next hrouter =>
        cases h
        exact .router hrouter
      · next hrouter =>
        split at h
        · next hstylesheet =>
          cases h
          exact .stylesheet hrouter hstylesheet
        · next hstylesheet =>
          split at h
          · next hplatform =>
            cases h
            exact .platform hplatform
          · next hplatform =>
            split at h
            · simp_all [isAsset]
            · next himage =>
              cases h
              exact .foreign (by simp [isForeign, hrouter, hstylesheet, hplatform, himage])

/-- An import is kept as it is, now comes from the platform's router, gains the stylesheet API, or
brings an image from the asset directory. -/
theorem convertImport_keep (h : convertImport p d = .ok (.keep d')) :
    (d' = d ∧ (d.source.text = p.names .baseModule ∨ isForeign p d.source.text = true)) ∨
    (d.source.text = p.names .webRouterModule ∧
      d'.source = ⟨p.names .platformRouterModule, false⟩) ∨
    (d.source.text = p.names .platformUiModule ∧ d' = withStylesheetApi p.names d) ∨
    (p.tables.isImage d.source.text = true ∧ ∃ name, d' = { d with
      specifiers := some [.byDefault name], source := ⟨relocated p d.source.text, false⟩ }) := by
  cases importRule_of_ok h with
  | base hbase => exact .inl ⟨rfl, .inl hbase⟩
  | router hrouter => exact .inr (.inl ⟨hrouter, rfl⟩)
  | platform hplatform => exact .inr (.inr (.inl ⟨hplatform, rfl⟩))
  | image hasset =>
    simp only [isAsset, Bool.and_eq_true] at hasset
    exact .inr (.inr (.inr ⟨hasset.2, _, rfl⟩))
  | foreign hforeign => exact .inl ⟨rfl, .inr hforeign⟩

theorem source_withStylesheetApi (names : Names) (d : ImportDecl) :
    (withStylesheetApi names d).source = d.source := by
  unfold withStylesheetApi
  split <;> rfl

theorem withStylesheetApi_eq_self {names : Names}
    (h : hasNamespace d = true ∨ names .stylesheetApi ∈ namedImports d) :
    withStylesheetApi names d = d := by
  unfold withStylesheetApi
  rw [if_pos]
  simpa using h

theorem withStylesheetApi_withStylesheetApi (names : Names) (d : ImportDecl) :
    withStylesheetApi names (withStylesheetApi names d) = withStylesheetApi names d := by
  refine withStylesheetApi_eq_self ?_
  unfold withStylesheetApi
  split
  · next h => simpa using h
  · right
    simp [addSpecifier, namedImports, namedSpecifier, ModuleName.text]

theorem ne_of_isImage {path module : String} (h : p.tables.isImage path = true)
    (hmodule : p.tables.isImage module = false) : path ≠ module := by
  rintro rfl
  rw [h] at hmodule
  cases hmodule

theorem isImage_of_isForeign {module : String} (h : isForeign p module = true) :
    p.tables.isImage module = false := by
  simp only [isForeign, Bool.and_eq_true, Bool.not_eq_true'] at h
  exact h.2

end Rules

/-- The rules of the profile are told apart, and none of them makes what another changes. -/
structure Sorted (p : Profile) : Prop where
  base : isForeign p (p.names .baseModule) = true
  router : isForeign p (p.names .platformRouterModule) = true
  font : isForeign p (p.names .fontModule) = true
  store : isForeign p (p.names .secureStoreModule) = true
  platformBase : p.names .platformUiModule ≠ p.names .baseModule
  platformRouter : p.names .platformUiModule ≠ p.names .webRouterModule
  platformStylesheet : p.tables.isStylesheet (p.names .platformUiModule) = false
  platformImage : p.tables.isImage (p.names .platformUiModule) = false
  routerImage : p.tables.isImage (p.names .webRouterModule) = false
  ending : ∀ image ∈ p.tables.imageExtensions, '/' ∉ image.toList ∧
    ∀ stylesheet ∈ p.tables.stylesheetExtensions,
      ¬image.toList <:+ stylesheet.toList ∧ ¬stylesheet.toList <:+ image.toList

theorem sorted_default : Sorted .default where
  base := by decide +kernel
  router := by decide +kernel
  font := by decide +kernel
  store := by decide +kernel
  platformBase := by decide
  platformRouter := by decide
  platformStylesheet := by decide +kernel
  platformImage := by decide +kernel
  routerImage := by decide +kernel
  ending := by decide +kernel

namespace Sorted

variable {p : Profile} (hp : Sorted p) {d d' : ImportDecl} {path : String}

include hp

theorem isStylesheet_of_isImage (h : p.tables.isImage path = true) :
    p.tables.isStylesheet path = false := by
  rw [Bool.eq_false_iff]
  intro hstylesheet
  obtain ⟨image, himage, h⟩ := List.any_eq_true.mp h
  obtain ⟨stylesheet, hstylesheet, h'⟩ := List.any_eq_true.mp hstylesheet
  obtain ⟨hleft, hright⟩ := (hp.ending image himage).2 stylesheet hstylesheet
  rcases List.suffix_or_suffix_of_suffix (List.isSuffixOf_iff_suffix.mp h)
    (List.isSuffixOf_iff_suffix.mp h') with hsuffix | hsuffix
  · exact hleft hsuffix
  · exact hright hsuffix

/-- An image is one after it was moved. -/
theorem isImage_relocated (h : p.tables.isImage path = true) :
    p.tables.isImage (relocated p path) = true := by
  obtain ⟨image, himage, h⟩ := List.any_eq_true.mp h
  refine List.any_eq_true.mpr ⟨image, himage, List.isSuffixOf_iff_suffix.mpr ?_⟩
  have hsuffix := suffix_lastSegments (hp.ending image himage).1 (List.isSuffixOf_iff_suffix.mp h)
  rw [relocated, String.toList_append]
  exact hsuffix.trans (List.suffix_append _ _)

theorem isAsset_eq (module : String) : isAsset p module = p.tables.isImage module := by
  cases h : p.tables.isImage module with
  | false => simp [isAsset, h]
  | true =>
    simp [isAsset, h, hp.isStylesheet_of_isImage h, ne_of_isImage h (isImage_of_isForeign hp.base),
      ne_of_isImage h hp.routerImage, ne_of_isImage h hp.platformImage]

/-- No other rule fits an image. -/
theorem convertImport_image (h : p.tables.isImage d.source.text = true) :
    convertImport p d = (convertImage p.tables d).map .keep :=
  convertImport_of_isAsset ((hp.isAsset_eq _).trans h)

theorem convertImport_platform (h : d.source.text = p.names .platformUiModule) :
    convertImport p d = .ok (.keep (withStylesheetApi p.names d)) := by
  simp [convertImport, h, hp.platformBase, hp.platformRouter, hp.platformStylesheet]

/-- An import brings an image when it did before. -/
theorem isImage_keep (h : convertImport p d = .ok (.keep d')) :
    p.tables.isImage d'.source.text = p.tables.isImage d.source.text := by
  rcases convertImport_keep h with ⟨rfl, -⟩ | ⟨hsource, hrouter⟩ | ⟨-, rfl⟩ | ⟨himage, name, rfl⟩
  · rfl
  · rw [hrouter, hsource, hp.routerImage, isImage_of_isForeign hp.router]
  · rw [source_withStylesheetApi]
  · rw [himage, hp.isImage_relocated himage]

/-- An import that is kept is kept when the result is converted. -/
theorem exists_keep (h : convertImport p d = .ok (.keep d')) :
    ∃ d'', convertImport p d' = .ok (.keep d'') := by
  rcases convertImport_keep h with
    ⟨rfl, -⟩ | ⟨-, hrouter⟩ | ⟨hsource, rfl⟩ | ⟨himage, name, rfl⟩
  · exact ⟨d', h⟩
  · exact ⟨d', convertImport_of_isForeign (by rw [hrouter]; exact hp.router)⟩
  · exact ⟨_, hp.convertImport_platform (by rw [source_withStylesheetApi, hsource])⟩
  · exact ⟨_, hp.convertImport_image (hp.isImage_relocated himage)⟩

/-- An image that was moved and stays where it is came out of a directory. -/
theorem convertImport_eq_keep_iff (h : convertImport p d = .ok (.keep d')) :
    convertImport p d' = .ok (.keep d') ↔
      (p.tables.isImage d.source.text = true → '/' ∈ d.source.text.toList) := by
  have hvacuous {module : String} (hmodule : p.tables.isImage module = false)
      (hsource : d.source.text = module) :
      p.tables.isImage d.source.text = true → '/' ∈ d.source.text.toList :=
    fun himage => absurd hsource (ne_of_isImage himage hmodule)
  rcases convertImport_keep h with
    ⟨rfl, hbase | hforeign⟩ | ⟨hsource, hrouter⟩ | ⟨hsource, rfl⟩ | ⟨himage, name, hd'⟩
  · exact iff_of_true h (hvacuous (isImage_of_isForeign hp.base) hbase)
  · exact iff_of_true h (hvacuous (isImage_of_isForeign hforeign) rfl)
  · refine iff_of_true (convertImport_of_isForeign ?_) (hvacuous hp.routerImage hsource)
    rw [hrouter]
    exact hp.router
  · refine iff_of_true ?_ (hvacuous hp.platformImage hsource)
    rw [hp.convertImport_platform (by rw [source_withStylesheetApi, hsource]),
      withStylesheetApi_withStylesheetApi]
  · rw [hp.convertImport_image ((hp.isImage_keep h).trans himage)]
    have hagain : convertImage p.tables d' = .ok { d' with
        source := ⟨relocated p (relocated p d.source.text), false⟩ } := by
      rw [hd']
      rfl
    have hsame : relocated p (relocated p d.source.text) = relocated p d.source.text ↔
        '/' ∈ d.source.text.toList := by
      rw [← lastSegments_relocated p.tables.assetDirectory]
      exact String.append_right_inj _
    have hsource : d'.source = ⟨relocated p d.source.text, false⟩ := by rw [hd']
    rw [hagain, ← hsame, forall_prop_of_true himage]
    constructor
    · intro heq
      have hdecl := ImportAction.keep.inj (Except.ok.inj heq)
      have htext := congrArg (fun d => d.source.text) hdecl
      simpa [hsource] using htext
    · intro heq
      rw [heq, ← hsource]
      rfl

end Sorted

end Nativize.Conversion
