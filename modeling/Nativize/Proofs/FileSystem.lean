import Mathlib.Data.List.Basic
import Nativize.FileTree

/-!
# File systems

A file system is a map from places to contents that is reached by paths. Looking at it changes
nothing, and a write succeeds as a whole or changes nothing. A computation that only looks before it
makes its one write is all or nothing too (`AllOrNothing`). A tree of files is a file system
(`FileTree.fileSystem`).
-/

namespace Nativize

/-- Files whose state is a map from places to contents. -/
structure FileSystem (State Place : Type) [DecidableEq Place] where
  files : Files (StateM State)
  /-- Where a path leads. -/
  place : String → Place
  /-- The content of the file at a place, if one is there. -/
  content : State → Place → Option ByteArray
  has_run : ∀ path s, ∃ answer, (files.has path).run s = (answer, s)
  read_run : ∀ path s, ∃ answer, (files.read path).run s = (answer, s) ∧
    ∀ bytes, answer = .ok bytes → content s (place path) = some bytes
  write_run : ∀ path bytes s,
    (∃ fault, (files.write path bytes).run s = (.error fault, s)) ∨
    ∃ s', (files.write path bytes).run s = (.ok (), s') ∧
      content s' = Function.update (content s) (place path) (some bytes)

/-! ## Computations that write all or nothing -/

section AllOrNothing

variable {State ε ε' α β : Type}

theorem run_bind_run (x : ExceptT ε (StateM State) α) (f : α → ExceptT ε (StateM State) β)
    (s : State) :
    (x >>= f).run.run s =
      match x.run.run s with
      | (.ok a, s') => (f a).run.run s'
      | (.error e, s') => (.error e, s') := by
  simp only [ExceptT.run_bind, StateT.run_bind]
  rcases x.run.run s with ⟨answer | answer, s'⟩ <;> rfl

theorem run_liftM_run (x : StateM State α) (s : State) :
    (liftM x : ExceptT ε (StateM State) α).run.run s = (.ok (x.run s).1, (x.run s).2) := by
  rw [ExceptT.run_liftM, StateT.run_map]
  rfl

/-- Either the computation fails and the state is as before, or it succeeds, and its answer and the
state after it are as described. -/
def AllOrNothing (x : ExceptT ε (StateM State) α) (done : State → α → State → Prop) : Prop :=
  ∀ s, (∃ e, x.run.run s = (.error e, s)) ∨ ∃ a s', x.run.run s = (.ok a, s') ∧ done s a s'

/-- The computation changes nothing, and its answer tells something about the state. -/
def Looks (x : ExceptT ε (StateM State) α) (saw : State → α → Prop) : Prop :=
  AllOrNothing x fun s a s' => s' = s ∧ saw s a

/-- The computation changes nothing. -/
def Quiet (x : ExceptT ε (StateM State) α) : Prop := Looks x fun _ _ => True

section Laws

variable {x : ExceptT ε (StateM State) α} {f : α → ExceptT ε (StateM State) β}
  {done : State → α → State → Prop}

theorem AllOrNothing.mono (h : AllOrNothing x done) {done' : State → α → State → Prop}
    (himp : ∀ s a s', done s a s' → done' s a s') : AllOrNothing x done' :=
  fun s => (h s).imp_right fun ⟨a, s', hrun, hdone⟩ => ⟨a, s', hrun, himp s a s' hdone⟩

/-- How failures are told does not matter. -/
theorem AllOrNothing.adapt (h : AllOrNothing x done) (g : ε → ε') :
    AllOrNothing (ExceptT.adapt g x) done := by
  intro s
  have hadapt : (ExceptT.adapt g x).run.run s = ((x.run.run s).1.mapError g, (x.run.run s).2) := by
    change (Except.mapError g <$> x.run).run s = _
    rw [StateT.run_map]
    rfl
  rcases h s with ⟨e, hrun⟩ | ⟨a, s', hrun, hdone⟩
  · exact .inl ⟨g e, by rw [hadapt, hrun]; rfl⟩
  · exact .inr ⟨a, s', by rw [hadapt, hrun]; rfl, hdone⟩

/-- Looking at the state first leaves what follows all or nothing. -/
theorem Looks.bind {saw : State → α → Prop} {done : α → State → β → State → Prop} (hx : Looks x saw)
    (hf : ∀ a, AllOrNothing (f a) (done a)) :
    AllOrNothing (x >>= f) fun s b s' => ∃ a, saw s a ∧ done a s b s' := by
  intro s
  simp only [run_bind_run]
  rcases hx s with ⟨e, hrun⟩ | ⟨a, s', hrun, rfl, hsaw⟩
  · exact .inl ⟨e, by rw [hrun]⟩
  · rw [hrun]
    exact (hf a s').imp_right fun ⟨b, t, hlast, hdone⟩ => ⟨b, t, hlast, a, hsaw, hdone⟩

theorem Quiet.bind {done : State → β → State → Prop} (hx : Quiet x)
    (hf : ∀ a, AllOrNothing (f a) done) : AllOrNothing (x >>= f) done :=
  (Looks.bind hx hf).mono fun _ _ _ ⟨_, _, h⟩ => h

/-- What is answered after a write does not matter. -/
theorem AllOrNothing.bind_pure (hx : AllOrNothing x done) (g : α → β)
    {done' : State → β → State → Prop} (himp : ∀ s a s', done s a s' → done' s (g a) s') :
    AllOrNothing (x >>= fun a => pure (g a)) done' := by
  intro s
  simp only [run_bind_run]
  rcases hx s with ⟨e, hrun⟩ | ⟨a, s', hrun, hdone⟩
  · exact .inl ⟨e, by rw [hrun]⟩
  · exact .inr ⟨g a, s', by rw [hrun]; rfl, himp s a s' hdone⟩

end Laws

/-- What is known already is looked up without a look at the state. -/
theorem looks_mk_pure (answer : Except ε α) :
    Looks (ExceptT.mk (pure answer) : ExceptT ε (StateM State) α) fun _ a => answer = .ok a := by
  intro s
  cases answer with
  | error e => exact .inl ⟨e, rfl⟩
  | ok a => exact .inr ⟨a, s, rfl, rfl, rfl⟩

theorem quiet_pure (a : α) : Quiet (pure a : ExceptT ε (StateM State) α) :=
  fun s => .inr ⟨a, s, rfl, rfl, trivial⟩

theorem allOrNothing_throw (e : ε) (done : State → α → State → Prop) :
    AllOrNothing (throw e : ExceptT ε (StateM State) α) done :=
  fun _ => .inl ⟨e, rfl⟩

end AllOrNothing

/-- The text of bytes is written as these bytes. -/
theorem eq_toUTF8_of_textOfBytes {bytes : ByteArray} {text : String}
    (h : textOfBytes bytes = .ok text) :
    bytes = text.toUTF8 := by
  unfold textOfBytes String.fromUTF8? at h
  split at h
  · next hsome =>
    split at hsome
    · cases h
      cases hsome
      rfl
    · cases hsome
  · cases h

namespace FileSystem

variable {State Place ε α : Type} [DecidableEq Place] (fs : FileSystem State Place)

/-- The file under the path holds the bytes, and every other file is as before. -/
def Written (path : String) (bytes : ByteArray) (s s' : State) : Prop :=
  fs.content s' = Function.update (fs.content s) (fs.place path) (some bytes)

theorem quiet_has (path : String) :
    Quiet (liftM (fs.files.has path) : ExceptT ε (StateM State) Bool) := by
  intro s
  obtain ⟨answer, hrun⟩ := fs.has_run path s
  exact .inr ⟨answer, s, by rw [run_liftM_run, hrun], rfl, trivial⟩

/-- A text that was read is the content of the file. -/
theorem looks_readText (path : String) : Looks (ExceptT.mk (fs.files.readText path)) fun s text =>
    fs.content s (fs.place path) = some text.toUTF8 := by
  intro s
  obtain ⟨answer, hrun, hcontent⟩ := fs.read_run path s
  have hread : (fs.files.readText path).run s =
      ((answer.bind textOfBytes).mapError (Failure.access path), s) := by
    rw [Files.readText, StateT.run_bind, hrun]
    rfl
  cases answer with
  | error fault => exact .inl ⟨_, hread⟩
  | ok bytes =>
    cases htext : textOfBytes bytes with
    | error fault => exact .inl ⟨_, hread.trans (by simp only [Except.bind, htext]; rfl)⟩
    | ok text =>
      have hcontent : fs.content s (fs.place path) = some text.toUTF8 :=
        eq_toUTF8_of_textOfBytes htext ▸ hcontent bytes rfl
      exact .inr ⟨text, s, hread.trans (by simp only [Except.bind, htext]; rfl), rfl, hcontent⟩

/-- A write that is passed on changes the one file, or nothing. -/
theorem allOrNothing_write (path : String) (bytes : ByteArray) (g : AccessFault → ε) (a : α) :
    AllOrNothing (do
      match ← (liftM (fs.files.write path bytes) : ExceptT ε (StateM State) _) with
      | .ok _ => return a
      | .error fault => throw (g fault)) fun s b s' => b = a ∧ fs.Written path bytes s s' := by
  intro s
  simp only [run_bind_run, run_liftM_run]
  rcases fs.write_run path bytes s with ⟨fault, hrun⟩ | ⟨s', hrun, hcontent⟩
  · exact .inl ⟨g fault, by rw [hrun]; rfl⟩
  · exact .inr ⟨a, s', by rw [hrun]; rfl, rfl, hcontent⟩

end FileSystem

/-! ## Trees of files -/

namespace FileTree

/-- The location that a segment leads to from another. -/
def follow (place : Location) (name : String) : Location :=
  if name.isEmpty || name = "." then place else if name = ".." then place.drop 1 else name :: place

/-- The location that a path leads to. -/
def placeOf (path : String) : Location := (segments path).foldl follow []

/-- The content of the file at a location. -/
def content (tree : FileTree) (place : Location) : Option ByteArray :=
  match tree.node? place with
  | some (.file bytes) => some bytes
  | _ => none

variable {tree : FileTree}

theorem eq_foldl_of_enter {start place : Location} {names : List String}
    (h : tree.enter start names = .ok place) : place = names.foldl follow start := by
  fun_induction FileTree.enter tree start names with
  | case1 start =>
    cases h
    rfl
  | case2 start name rest hskip ih => simpa [follow, hskip] using ih h
  | case3 start rest hskip ih => simpa [follow] using ih h
  | case4 start name rest hskip hup hchild ih => simpa [follow, hskip, hup] using ih h
  | case5 => cases h
  | case6 => cases h
  | case7 => cases h

/-- A path that names a file in a directory leads there. -/
theorem placeOf_of_resolve {path name : String} {directory : Location}
    (h : tree.resolve path = .ok (directory, name)) (hname : isDirectorySegment name = false) :
    placeOf path = name :: directory := by
  unfold resolve at h
  cases henter : tree.enter [] (segments path).dropLast with
  | error fault => simp [henter, bind, Except.bind] at h
  | ok place =>
    simp only [henter, bind, Except.bind, pure, Except.pure, Except.ok.injEq, Prod.mk.injEq] at h
    obtain ⟨rfl, hlast⟩ := h
    have hsegments : (segments path).getLast? = some name := by
      cases hlast? : (segments path).getLast? with
      | none => simp [← hlast, hlast?, isDirectorySegment] at hname
      | some last => simpa [hlast?] using hlast
    have hfollow (place : Location) : follow place name = name :: place := by
      simp only [isDirectorySegment, Bool.or_eq_false_iff, decide_eq_false_iff_not] at hname
      simp [follow, hname.1.1, hname.1.2, hname.2]
    rw [placeOf, ← List.dropLast_append_getLast? name hsegments, List.foldl_append,
      ← eq_foldl_of_enter henter]
    exact hfollow _

theorem lookup_replaced (nodes : List (Location × FileNode)) (place q : Location)
    (node : FileNode) :
    (nodes.map fun entry => if entry.1 = place then (place, node) else entry).lookup q =
      if q = place then (nodes.lookup q).map fun _ => node else nodes.lookup q := by
  induction nodes with
  | nil => simp
  | cons entry rest ih =>
    obtain ⟨l, old⟩ := entry
    by_cases hl : l = place
    · subst hl
      simp only [List.map_cons, if_true, List.lookup_cons, ih]
      by_cases hq : q = l
      · simp [hq]
      · simp [hq, beq_eq_false_iff_ne.mpr hq]
    · simp only [List.map_cons, hl, if_false, List.lookup_cons, ih]
      by_cases hq : q = l
      · simp [hq, hl]
      · simp [beq_eq_false_iff_ne.mpr hq]

theorem node?_put {place : Location} (hplace : place ≠ []) (tree : FileTree) (node : FileNode)
    (q : Location) :
    (tree.put place node).node? q = if q = place then some node else tree.node? q := by
  by_cases hq : q = []
  · simp [node?, hq, Ne.symm hplace]
  -- anything but the root is looked up
  have hnode? (tree : FileTree) {l : Location} (hl : l ≠ []) :
      tree.node? l = tree.nodes.lookup l := by
    simp [node?, hl]
  rw [hnode? _ hq, hnode? _ hq, put, hnode? _ hplace]
  by_cases heq : q = place
  · subst heq
    cases hfound : tree.nodes.lookup q with
    | none => simp [hfound, List.lookup_append]
    | some old => simp [lookup_replaced, hfound]
  · rw [if_neg heq]
    split
    · rw [lookup_replaced, if_neg heq]
    · rw [List.lookup_append, List.lookup_cons, beq_eq_false_iff_ne.mpr heq]
      simp

theorem content_put {place : Location} (hplace : place ≠ []) (tree : FileTree) (bytes : ByteArray) :
    (tree.put place (.file bytes)).content = Function.update tree.content place (some bytes) := by
  funext q
  unfold content
  rw [node?_put hplace]
  by_cases hq : q = place
  · simp [hq]
  · simp [hq]

theorem content_of_read {path : String} {bytes : ByteArray} (h : tree.read path = .ok bytes) :
    tree.content (placeOf path) = some bytes := by
  unfold read child? at h
  cases hresolve : tree.resolve path with
  | error fault => simp [hresolve, bind, Except.bind] at h
  | ok found =>
    obtain ⟨directory, name⟩ := found
    simp only [hresolve, bind, Except.bind, throw, throwThe, MonadExceptOf.throw, pure,
      Except.pure] at h
    split at h
    · cases h
    · next hname =>
      rw [content, placeOf_of_resolve hresolve (by simpa using hname)]
      split at h
      · cases h
      · next found hfound =>
        split at hfound
        · cases hfound
        · cases hfound
          split at h <;> simp_all

theorem content_of_write {path : String} {bytes : ByteArray} {tree' : FileTree}
    (h : tree.write path bytes = .ok tree') :
    tree'.content = Function.update tree.content (placeOf path) (some bytes) := by
  unfold write child? at h
  cases hresolve : tree.resolve (withoutFinalSlashes path) with
  | error fault => simp [hresolve, bind, Except.bind] at h
  | ok found =>
    obtain ⟨directory, name⟩ := found
    simp only [hresolve, bind, Except.bind, throw, throwThe, MonadExceptOf.throw, pure,
      Except.pure] at h
    split at h
    · cases h
    · next hslash =>
      rw [not_not.mp hslash] at hresolve
      split at h
      · cases h
      · next hname =>
        rw [placeOf_of_resolve hresolve (by simpa using hname)]
        split at h
        · cases h
        · split at h
          · cases h
          · cases h
            exact content_put (by simp) tree bytes

/-- A tree of files, seen from a working directory. -/
def fileSystem (workingDirectory : String) : FileSystem FileTree Location where
  files := files workingDirectory
  place path := placeOf (fromRoot workingDirectory path)
  content := content
  has_run path s := ⟨_, rfl⟩
  read_run path s := ⟨_, rfl, fun bytes h => content_of_read h⟩
  write_run path bytes s := by
    cases hwrite : s.write (fromRoot workingDirectory path) bytes with
    | ok tree =>
      refine .inr ⟨tree, ?_, content_of_write hwrite⟩
      simp only [files, StateT.run_bind, StateT.run_get, pure_bind, hwrite]
      rfl
    | error fault =>
      refine .inl ⟨fault, ?_⟩
      simp only [files, StateT.run_bind, StateT.run_get, pure_bind, hwrite]
      rfl

@[simp] theorem files_fileSystem (workingDirectory : String) :
    (fileSystem workingDirectory).files = files workingDirectory := rfl

@[simp] theorem place_fileSystem (workingDirectory path : String) :
    (fileSystem workingDirectory).place path = placeOf (fromRoot workingDirectory path) := rfl

@[simp] theorem content_fileSystem (workingDirectory : String) :
    (fileSystem workingDirectory).content = content := rfl

end FileTree

end Nativize
