import Nativize.Proofs.Fonts.Statement
import Nativize.Proofs.Syntax.Lexer.Strings

/-!
# The strings of templates

What the profile says as a string, the specifier of a module or the family and the path of a font,
is quoted in the template. Names are put into it as they are. Main statement: whatever a quoted text
holds and whatever follows it, it is read as that text and not beyond, so that the string literals
of a template are those that were put into it, in their order.
-/

namespace Nativize.Conversion

open Syntax

/-! ## Names -/

/-- What stands after a name in a template. -/
def nameEnds : List Char := [' ', ',', ']', '(']

/-- The name brings no string literal into a text, and changes none that comes after it. -/
def IsStringless (name : String) : Prop :=
  ∀ d ∈ nameEnds, ∀ rest values, HasStrings (d :: rest) values →
    HasStrings (name.toList ++ d :: rest) values

theorem endsWord_of_mem_nameEnds {d : Char} (h : d ∈ nameEnds) : endsWord d = true := by
  have hall : nameEnds.all endsWord = true := rfl
  exact List.all_eq_true.mp hall d h

theorem IsStringless.before {name : String} (h : IsStringless name) {d : Char} {rest : List Char}
    {values : List StringValue} (hrest : HasStrings (d :: rest) values)
    (hd : d ∈ nameEnds := by decide) :
    HasStrings (name.toList ++ d :: rest) values :=
  h d hd rest values hrest

/-- Identifiers are names of this kind. -/
theorem isStringless_of_isPlainWord {name : String} (h : isPlainWord name.toList = true) :
    IsStringless name :=
  fun _ hd _ _ hrest => hrest.word h (endsWord_of_mem_nameEnds hd)

/-! ## Parts of templates -/

/-- Names in a list bring no string literals. -/
theorem hasStrings_listText {names : List String} (hnames : ∀ n ∈ names, IsStringless n)
    {tail : List Char}
    {values : List StringValue} (htail : HasStrings (' ' :: tail) values) :
    HasStrings (listText (' ' :: tail) names) values := by
  fun_induction listText (' ' :: tail) names with
  | case1 => exact htail.blank
  | case2 name => exact ((hnames name List.mem_cons_self).before htail).blank
  | case3 name rest _ ih =>
    have hrest := ih fun n hn => hnames n (List.mem_cons_of_mem _ hn)
    exact ((hnames name List.mem_cons_self).before hrest.sign).blank

/-- The strings of a face are its family and its path. -/
theorem hasStrings_faceText (f : FontFace) {rest : List Char} {values : List StringValue}
    (h : HasStrings rest values) :
    HasStrings ((faceText f).toList ++ rest) (⟨f.family, false⟩ :: ⟨f.path, false⟩ :: values) := by
  rw [toList_faceText, requireText]
  refine .quoted f.family (.sign (.blank (.word rfl rfl ?_)))
  exact .sign (.quoted f.path h.sign)

theorem hasStrings_faces (faces : List FontFace) {tail : List Char} (htail : HasStrings tail []) :
    HasStrings (listText tail (faces.map faceText))
      (faces.flatMap fun f => [⟨f.family, false⟩, ⟨f.path, false⟩]) := by
  induction faces with
  | nil => exact htail.blank
  | cons f others ih =>
    cases others with
    | nil => exact (hasStrings_faceText f htail).blank
    | cons other others => exact (hasStrings_faceText f ih.sign).blank

/-- What follows the names of an import holds the specifier of the module. -/
theorem hasStrings_fromText (module : String) :
    HasStrings (['f', 'r', 'o', 'm'] ++ ' ' :: (Text.quotedChars module.toList ++ [';']))
      [⟨module, false⟩] :=
  .word rfl rfl (.blank (.quoted module (.sign .nil)))

/-! ## Templates -/

theorem hasStrings_loaderText {binding hook : String} (hbinding : IsStringless binding)
    (hhook : IsStringless hook) (faces : List FontFace) :
    HasStrings (loaderText binding hook faces)
      (faces.flatMap fun f => [⟨f.family, false⟩, ⟨f.path, false⟩]) := by
  rw [loaderText, boundText, callText]
  refine .word rfl rfl (.blank (.sign (hbinding.before ?_)))
  refine .sign (.blank (.equals (hhook.before ?_)))
  refine .sign (.sign (hasStrings_faces faces ?_))
  exact .blank (.sign (.sign (.sign .nil)))

theorem hasStrings_importText {names : List String} (hnames : ∀ n ∈ names, IsStringless n)
    (module : String) : HasStrings (Parse.importText names module) [⟨module, false⟩] := by
  have hclosing : HasStrings (Parse.importClosing module) [⟨module, false⟩] :=
    .blank (.sign (hasStrings_fromText module).blank)
  rw [Parse.importText]
  exact .word rfl rfl (.blank (.sign (hasStrings_listText hnames hclosing)))

/-- The written form of the import of a whole module. -/
def wholeImportText (name module : String) : List Char :=
  ['i', 'm', 'p', 'o', 'r', 't'] ++ ' ' :: '*' :: ' ' :: (['a', 's'] ++ ' ' :: (name.toList ++
    ' ' :: (['f', 'r', 'o', 'm'] ++ ' ' :: (Text.quotedChars module.toList ++ [';']))))

theorem toList_namespaceImportText (name module : String) :
    (namespaceImportText name module).toList = wholeImportText name module := by
  simp [namespaceImportText, wholeImportText, Text.quoted]

theorem hasStrings_wholeImportText {name : String} (hname : IsStringless name) (module : String) :
    HasStrings (wholeImportText name module) [⟨module, false⟩] := by
  rw [wholeImportText]
  refine .word rfl rfl (.blank (.star (.word rfl rfl (.blank ?_))))
  exact hname.before (hasStrings_fromText module).blank

/-- A quoted text is read as the text, whatever follows it. So the string literals of the statement
that loads fonts are the families and the paths of the faces in their order, and that of an import
is the specifier of its module, where the names in the template bring no string literals of their
own. -/
theorem templates_hold_quoted_strings :
    (∀ (value : String) (rest : List Char), ∃ raw,
      scanLexeme ((Text.quoted value).toList ++ rest) = (.string ⟨value, false⟩ raw, rest)) ∧
    (∀ p : Profile, IsStringless (p.names .fontsLoadedBinding) → IsStringless (p.names .fontHook) →
      stringValues (fontText p).toList =
        p.tables.fontFaces.flatMap fun f => [⟨f.family, false⟩, ⟨f.path, false⟩]) ∧
    (∀ (names : List String) (module : String), (∀ n ∈ names, IsStringless n) →
      stringValues (namedImportText names module).toList = [⟨module, false⟩]) ∧
    ∀ name module : String, IsStringless name →
      stringValues (namespaceImportText name module).toList = [⟨module, false⟩] := by
  refine ⟨?_, ?_, ?_, ?_⟩
  · intro value rest
    rw [Text.quoted, String.toList_ofList]
    exact ⟨_, scanLexeme_quoted value rest⟩
  · intro p hbinding hhook
    rw [toList_fontText]
    exact (hasStrings_loaderText hbinding hhook p.tables.fontFaces).stringValues_eq
  · intro names module hnames
    rw [toList_namedImportText]
    exact (hasStrings_importText hnames module).stringValues_eq
  · intro name module hname
    rw [toList_namespaceImportText]
    exact (hasStrings_wholeImportText hname module).stringValues_eq

/-- A profile with fonts whose families and paths hold quotes, backslashes and line breaks. -/
def quotingProfile : Profile :=
  { Profile.default with
    tables := { Tables.default with
      fontFaces := [⟨"Inter\"\x7d); f(\"", "a\\"⟩, ⟨"\\\"\n\\u0041", "\u2028\x01"⟩] } }

theorem templates_hold_quoted_strings_quotingProfile :
    IsStringless (quotingProfile.names .fontsLoadedBinding) ∧
    IsStringless (quotingProfile.names .fontHook) ∧
    stringValues (fontText quotingProfile).toList =
      [⟨"Inter\"\x7d); f(\"", false⟩, ⟨"a\\", false⟩, ⟨"\\\"\n\\u0041", false⟩,
        ⟨"\u2028\x01", false⟩] ∧
    stringValues (namedImportText ["View", "Text"] "a\" + \"b").toList = [⟨"a\" + \"b", false⟩] ∧
    stringValues (namespaceImportText "Store" "\\").toList = [⟨"\\", false⟩] := by
  obtain ⟨-, hfonts, hnamed, hwhole⟩ := templates_hold_quoted_strings
  have hbinding : IsStringless (quotingProfile.names .fontsLoadedBinding) :=
    isStringless_of_isPlainWord rfl
  have hhook : IsStringless (quotingProfile.names .fontHook) := isStringless_of_isPlainWord rfl
  have hnames : ∀ n ∈ ["View", "Text"], IsStringless n := by
    have hwords : (["View", "Text"].all fun n => isPlainWord n.toList) = true := rfl
    intro n hn
    exact isStringless_of_isPlainWord (List.all_eq_true.mp hwords n hn)
  exact ⟨hbinding, hhook, hfonts _ hbinding hhook, hnamed _ _ hnames,
    hwhole _ _ (isStringless_of_isPlainWord rfl)⟩

end Nativize.Conversion
