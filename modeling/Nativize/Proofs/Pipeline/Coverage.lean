import Nativize.Proofs.ImportRules
import Nativize.Proofs.Pipeline.Completion
import Nativize.Proofs.Syntax.Parser.Program

/-!
# What a conversion covers

No construct of the web that a profile covers is left in a converted program, at any depth. The main
statement is for the default profile and for every program that can be read.
-/

namespace Nativize.Conversion

open Syntax

/-- The import is none of the web: it is neither from the web router nor of a stylesheet, and an
image has one default binding and comes from the asset directory. -/
structure ImportCovered (p : Profile) (d : ImportDecl) : Prop where
  router : d.source.text ≠ p.names .webRouterModule
  stylesheet : p.tables.isStylesheet d.source.text = false
  image (h : p.tables.isImage d.source.text = true) :
    (∃ name, d.specifiers = some [.byDefault name]) ∧
    p.tables.assetDirectory.toList <+: d.source.text.toList

/-- No construct of the web that the profile covers is in the program. -/
structure Covered (p : Profile) (t : Ast) : Prop where
  /-- No element has a tag that is mapped, or a class list. -/
  element {l : List Comment} {parts : List Ast} (h : .node .element l parts ∈ t.nodes) :
    ∃ opening generics al attributes children closing,
      parts = [opening, generics, .node .group al attributes, children, closing] ∧
      p.tables.tagMap.contains (elementText opening) = false ∧
      ∀ a ∈ attributes, isAttributeNamed (p.names .classAttribute) a = false
  /-- No declarator is initialized by the navigation hook. -/
  hook {d : Bool} {l : List Comment} {pattern type value : Ast}
    (h : .node (.declarator d) l [pattern, type, value] ∈ t.nodes) :
    callsVariable (p.names .navigationHook) value = false
  /-- No method of the web storage is called. -/
  storage {o q m : Bool} {c l ml ol : List Comment} {method object : String} {ps rest : List Ast}
    (h : .node (.call o q c) l
      (.node (.member method m) ml [.node (.reference object) ol ps] :: rest) ∈ t.nodes) :
    ¬(object = p.names .webStorage ∧ method ∈ p.tables.storageMethods)
  /-- Inside an element nothing goes to a page by the bare name. -/
  navigation {l : List Comment} {parts : List Ast} (h : .node .element l parts ∈ t.nodes) :
    ∀ n ∈ parts.flatMap Ast.nodes, callsVariable (p.names .navigateMember) n = false
  imports : ∀ d ∈ (statements t).filterMap importOf?, ImportCovered p d

section Covered

variable {p : Profile}

theorem importCovered_of_isForeign {d : ImportDecl} (h : isForeign p d.source.text = true) :
    ImportCovered p d := by
  simp only [isForeign, Bool.and_eq_true, Bool.not_eq_true', decide_eq_true_eq] at h
  obtain ⟨⟨⟨hrouter, hstylesheet⟩, -⟩, himage⟩ := h
  exact ⟨hrouter, hstylesheet, fun h => absurd h (by simp [himage])⟩

theorem Sorted.importCovered_of_platform (hp : Sorted p) {d : ImportDecl}
    (h : d.source.text = p.names .platformUiModule) : ImportCovered p d where
  router := h ▸ hp.platformRouter
  stylesheet := h ▸ hp.platformStylesheet
  image himage := absurd himage (by simp [h, hp.platformImage])

/-- An import that is kept is none of the web. -/
theorem Sorted.importCovered_of_keep (hp : Sorted p) {d d' : ImportDecl}
    (h : convertImport p d = .ok (.keep d')) : ImportCovered p d' := by
  have himage := hp.isImage_keep h
  rcases convertImport_keep h with
    ⟨rfl, hbase | hforeign⟩ | ⟨-, hrouter⟩ | ⟨hsource, rfl⟩ | ⟨hisImage, name, rfl⟩
  · exact importCovered_of_isForeign (hbase ▸ hp.base)
  · exact importCovered_of_isForeign hforeign
  · exact importCovered_of_isForeign (by rw [hrouter]; exact hp.router)
  · exact hp.importCovered_of_platform (by rw [source_withStylesheetApi, hsource])
  · have hisImage := himage.trans hisImage
    refine ⟨ne_of_isImage hisImage hp.routerImage, hp.isStylesheet_of_isImage hisImage, fun _ =>
      ⟨⟨name, rfl⟩, ?_⟩⟩
    simp only [relocated, String.toList_append, List.append_assoc]
    exact List.prefix_append _ _

/-- The imports of a completed program are none of the web if those of the program are not. -/
theorem Sorted.importCovered_complete (hp : Sorted p) (hreadable : Readable p) {parts : List Ast}
    (h : ∀ d ∈ parts.filterMap importOf?, ImportCovered p d) :
    ∀ d ∈ (complete p parts).filterMap importOf?, ImportCovered p d := by
  have hforeign (r : Provision) (hr : isForeign p r.module = true) :
      ImportCovered p r.fresh ∧ ∀ d, r.fits d = true → ImportCovered p d →
        ImportCovered p (r.complete d) := by
    refine ⟨importCovered_of_isForeign ((r.source_of_fits r.fits_fresh).symm ▸ hr),
      fun d hd _ => ?_⟩
    exact importCovered_of_isForeign (by rw [r.source_complete, r.source_of_fits hd]; exact hr)
  refine forall_imports_complete hreadable ?_ h
  simp only [List.forall_mem_cons, List.not_mem_nil, false_imp_iff, implies_true, and_true]
  refine ⟨hforeign _ hp.font, hforeign _ hp.store, ?_, fun d hd _ => ?_⟩
  · exact hp.importCovered_of_platform rfl
  · exact hp.importCovered_of_platform (by
      rw [Provision.source_complete, Provision.source_of_fits _ hd]
      rfl)

/-- Where nothing is left to convert there is nothing of the web. -/
theorem Settled.covered {t : Ast} (h : Settled p t)
    (himports : ∀ d ∈ (statements t).filterMap importOf?, ImportCovered p d) : Covered p t where
  element {l parts} hn := by
    have hsettled := h _ hn
    simp only [isSettled, Bool.and_eq_true] at hsettled
    have helement := hsettled.1
    unfold isPlatformElement at helement
    split at helement
    · next opening generics al attributes children closing =>
      simp only [Bool.and_eq_true, Option.isNone_iff_eq_none, List.all_eq_true,
        Bool.not_eq_true'] at helement
      exact ⟨_, _, _, _, _, _, rfl, by rw [OrderedMap.contains, helement.1.1]; rfl, helement.2⟩
    · cases helement
  hook hn := by simpa [isSettled] using h _ hn
  storage hn := by simpa [isSettled, secureCallee?] using h _ hn
  navigation {l parts} hn n hmem := by
    have hsettled := h _ hn
    simp only [isSettled, Bool.and_eq_true, List.all_eq_true, Bool.not_eq_true'] at hsettled
    obtain ⟨t, ht, hn⟩ := List.mem_flatMap.mp hmem
    exact hsettled.2 t ht n hn
  imports := himports

end Covered

/-- For the default profile a conversion that succeeds leaves no construct of the web behind that
the profile covers. -/
theorem no_covered_construct_survives {source : List Char} {t t' : Ast} {used : List String}
    (hparse : parseProgram source = some t)
    (h : (convertAll .default).apply t = (.ok used, t')) : Covered .default t' := by
  obtain ⟨hwell, hprogram⟩ := parseProgram_wellFormed hparse
  obtain ⟨-, hsettled, -, rfl⟩ := convertAll_ok readable_default hwell hprogram h
  obtain ⟨hashbang, directives, c, l, parts, rfl⟩ := Ast.isProgram_iff.mp hprogram
  refine Settled.covered (settled_program.mpr (settled_complete readable_default hsettled)) ?_
  refine sorted_default.importCovered_complete readable_default fun d' hd' => ?_
  obtain ⟨d, -, hkeep⟩ := mem_imports_sweptStatements.mp hd'
  exact sorted_default.importCovered_of_keep hkeep

/-- A program with every construct that the default profile covers, one inside another. -/
def webProgram : List Char :=
  "import \x7b useNavigate \x7d from 'react-router-dom';".toList ++
  "import './app.css'; import logo, \x7b size \x7d from '../img/logo.png';".toList ++
  "function App() \x7b const go = useNavigate(); ".toList ++
  "const open = () => navigate(localStorage.getItem('page'));".toList ++
  "return <div className='box wide' onClick=\x7b() => go(<span className='x' ".toList ++
  "onClick=\x7b() => navigate(localStorage.getItem('next'))\x7d />)\x7d><img /></div> \x7d".toList

theorem no_covered_construct_survives_webProgram : ∃ t used t', parseProgram webProgram = some t ∧
    (convertAll .default).apply t = (.ok used, t') ∧ ¬Covered .default t ∧ Covered .default t' := by
  have hrun : ∃ t ∈ parseProgram webProgram,
      ((combinedSweep .default (navigationAliases Role.defaultName t)).apply t).1 =
        .ok ⟨1, 3, 1, 2, 2⟩ ∧
      ((statements t).filterMap importOf?).any (·.source.text = "react-router-dom") = true := by
    decide +kernel
  obtain ⟨t, hparse, hsweep, himport⟩ := hrun
  obtain ⟨hwell, hprogram⟩ := parseProgram_wellFormed hparse
  have hconvert := convertAll_of_combinedSweep readable_default hwell hprogram hsweep
  refine ⟨t, _, _, hparse, hconvert, fun hcovered => ?_,
    no_covered_construct_survives hparse hconvert⟩
  obtain ⟨d, hd, hsource⟩ := List.any_eq_true.mp himport
  exact (hcovered.imports d hd).router (of_decide_eq_true hsource)

end Nativize.Conversion
