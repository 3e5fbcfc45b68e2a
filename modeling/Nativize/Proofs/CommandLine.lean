import Nativize.CommandLine
import Nativize.Proofs.FileSystem

/-!
# Runs of the program and the files

A conversion of a file, and the whole program on any arguments, looks at files before it writes one.
Main statement: after a failure every file is as it was, and after a success no file but the output
is changed.
-/

namespace Nativize.Conversion

variable {State Place : Type} [DecidableEq Place] (fs : FileSystem State Place)

theorem looks_readFile (path : String) : Looks (readFile fs.files path) fun s text =>
    fs.content s (fs.place path) = some text.toUTF8 :=
  fs.looks_readText path

theorem quiet_readFile (path : String) : Quiet (readFile fs.files path) :=
  (looks_readFile fs path).mono fun _ _ _ h => ⟨h.1, trivial⟩

theorem quiet_readProfile (path : String) : Quiet (readProfile fs.files path) := by
  refine (quiet_readFile fs path).bind fun text => ?_
  split
  · exact quiet_pure _
  · exact allOrNothing_throw _ _

/-- A file is converted as a whole or not at all. -/
theorem allOrNothing_convertFile (mode : Mode) (p : Profile) (input output : String) :
    AllOrNothing (convertFile fs.files mode p input output) fun s result s' =>
      (∃ source, fs.content s (fs.place input) = some source.toUTF8 ∧
        convert mode p input source = .ok result) ∧
      fs.Written output result.code.toUTF8 s s' := by
  have hwrite (result : Converted) :=
    fs.allOrNothing_write output result.code.toUTF8 (Failure.access output) result
  have hconvert (source : String) : AllOrNothing _ _ :=
    (looks_mk_pure (convert mode p input source)).bind hwrite
  refine AllOrNothing.mono ((looks_readFile fs input).bind hconvert) ?_
  rintro s result s' ⟨source, hsource, result, hconvert, rfl, hwritten⟩
  exact ⟨⟨source, hsource, hconvert⟩, hwritten⟩

theorem quiet_styleTableFile (p : Profile) (input : String) :
    Quiet (styleTableFile fs.files p input) :=
  (quiet_readFile fs input).bind fun _ => (looks_mk_pure _).mono fun _ _ _ h => ⟨h.1, trivial⟩

end Nativize.Conversion

namespace Nativize.FileTree

/-! ## Segments of paths -/

theorem segments_append (a b : String) : segments (a ++ "/" ++ b) = segments a ++ segments b := by
  simp [segments, List.splitOn_append_cons_self]

theorem placeOf_append (a b : String) :
    placeOf (a ++ "/" ++ b) = (segments b).foldl follow (placeOf a) := by
  rw [placeOf, segments_append, List.foldl_append, placeOf]

theorem notMem_of_mem_splitOn {α : Type} [DecidableEq α] {a : α} {xs part : List α}
    (h : part ∈ xs.splitOn a) : a ∉ part := by
  unfold List.splitOn at h
  induction xs generalizing part with
  | nil =>
    obtain rfl : part = [] := by simpa using h
    simp
  | cons x xs ih =>
    rw [List.splitOnP_cons_eq_if_modifyHead] at h
    split at h
    · rcases List.mem_cons.mp h with rfl | h
      · simp
      · exact ih h
    · next hx =>
      cases hparts : xs.splitOnP (· == a) with
      | nil => simp [hparts] at h
      | cons first rest =>
        rw [hparts] at ih
        rw [hparts, List.modifyHead_cons] at h
        rcases List.mem_cons.mp h with rfl | h
        · have hne : a ≠ x := fun heq => hx (by simp [heq])
          simpa [hne] using ih List.mem_cons_self
        · exact ih (List.mem_cons_of_mem _ h)

/-- A segment of a path has no segments of its own. -/
theorem segments_of_mem {path s : String} (h : s ∈ segments path) : segments s = [s] := by
  obtain ⟨chars, hchars, rfl⟩ := List.mem_map.mp h
  simp [segments, List.splitOn_eq_singleton (notMem_of_mem_splitOn hchars)]

end Nativize.FileTree

namespace Nativize.CommandLine

open Conversion

/-! ## Options -/

/-- The long name of an option. -/
def Slot.name : Slot → String
  | .input => "input"
  | .output => "output"
  | .profile => "config"

/-- The letter of an option, if it has one. -/
def Slot.letter? : Slot → Option Char
  | .input => some 'i'
  | .output => some 'o'
  | .profile => none

/-- The argument names the option by its long name or by its letter, with the value that is attached
to it, if one is. -/
inductive NamesOption (slot : Slot) : String → Option String → Prop
  | long : NamesOption slot ("--" ++ slot.name) none
  | longValue (value : String) : NamesOption slot ("--" ++ slot.name ++ "=" ++ value) (some value)
  | short {letter : Char} (h : slot.letter? = some letter) :
      NamesOption slot (String.ofList ['-', letter]) none
  | shortEquals {letter : Char} (h : slot.letter? = some letter) (value : List Char) :
      NamesOption slot (String.ofList ('-' :: letter :: '=' :: value)) (some (String.ofList value))
  | shortValue {letter first : Char} (h : slot.letter? = some letter) (hfirst : first ≠ '=')
      (value : List Char) : NamesOption slot (String.ofList ('-' :: letter :: first :: value))
        (some (String.ofList (first :: value)))

/-- The value that was read for an option. -/
def Options.value? (options : Options) : Slot → Option String
  | .input => options.input
  | .output => options.output
  | .profile => options.profile

/-- The arguments give the option a value: attached to it, or as the argument after it. -/
def GivesOption (slot : Slot) (value : String) (arguments : List String) : Prop :=
  ∃ before argument after, arguments = before ++ argument :: after ∧
    (NamesOption slot argument (some value) ∨
      NamesOption slot argument none ∧ after.head? = some value)

section Options

variable {slot : Slot} {value : String} {arguments : List String}

theorem slot?_long_iff {name : String} {attached value? : Option String} {slot : Slot} :
    (Word.long name attached).slot? = some (slot, value?) ↔
      name = slot.name ∧ attached = value? := by
  cases slot <;> grind [Word.slot?, Slot.name]

theorem slot?_short_iff {letter : Char} {attached value? : Option String} {slot : Slot} :
    (Word.short letter attached).slot? = some (slot, value?) ↔
      slot.letter? = some letter ∧ attached = value? := by
  cases slot <;> grind [Word.slot?, Slot.letter?]

theorem of_long {rest : List Char} (hne : rest ≠ []) :
    Word.of (String.ofList ('-' :: '-' :: rest)) =
      match rest.drop (rest.takeWhile (· ≠ '=')).length with
      | _ :: value =>
        .long (String.ofList (rest.takeWhile (· ≠ '='))) (some (String.ofList value))
      | [] => .long (String.ofList rest) none := by
  obtain ⟨c, rest, rfl⟩ := List.exists_cons_of_ne_nil hne
  unfold Word.of
  rw [String.toList_ofList]
  rfl

/-- A long name ends at the first equals sign, and the value is behind it. -/
theorem of_longValue {name : List Char} (hname : '=' ∉ name) (value : List Char) :
    Word.of (String.ofList ('-' :: '-' :: (name ++ '=' :: value))) =
      .long (String.ofList name) (some (String.ofList value)) := by
  have htake : (name ++ '=' :: value).takeWhile (· ≠ '=') = name := by
    rw [List.takeWhile_append_of_pos (by grind)]
    simp
  rw [of_long (List.append_ne_nil_of_right_ne_nil _ (List.cons_ne_nil _ _)), htake,
    List.drop_left]

theorem of_long_cases {rest : List Char} (hne : rest ≠ []) :
    (∃ name value, rest = name ++ '=' :: value ∧
      Word.of (String.ofList ('-' :: '-' :: rest)) =
        .long (String.ofList name) (some (String.ofList value))) ∨
    Word.of (String.ofList ('-' :: '-' :: rest)) = .long (String.ofList rest) none := by
  by_cases hequals : '=' ∈ rest
  · obtain ⟨name, value, rfl, hname⟩ := List.eq_append_cons_of_mem hequals
    exact .inl ⟨name, value, rfl, of_longValue hname value⟩
  · have htake : rest.takeWhile (· ≠ '=') = rest := by
      have happend : (rest ++ []).takeWhile (· ≠ '=') = rest ++ [].takeWhile (· ≠ '=') :=
        List.takeWhile_append_of_pos (by grind)
      rwa [List.takeWhile_nil, List.append_nil] at happend
    right
    rw [of_long hne, htake, List.drop_length]

theorem slot?_of_namesOption {slot : Slot} {argument : String} {value? : Option String}
    (h : NamesOption slot argument value?) : (Word.of argument).slot? = some (slot, value?) := by
  cases h with
  | long => cases slot <;> decide
  | longValue value =>
    have hname : '=' ∉ slot.name.toList := by cases slot <;> decide
    have hargument : "--" ++ slot.name ++ "=" ++ value =
        String.ofList ('-' :: '-' :: (slot.name.toList ++ '=' :: value.toList)) :=
      String.toList_inj.mp (by simp)
    rw [hargument, of_longValue hname, slot?_long_iff]
    simp
  | @short letter h =>
    have hof : Word.of (String.ofList ['-', letter]) = .short letter none := by
      cases slot <;> cases h <;> decide
    exact hof ▸ slot?_short_iff.mpr ⟨h, rfl⟩
  | @shortEquals letter h value =>
    have hof : Word.of (String.ofList ('-' :: letter :: '=' :: value)) =
        .short letter (some (String.ofList value)) := by
      cases slot <;> cases h <;> simp [Word.of]
    exact hof ▸ slot?_short_iff.mpr ⟨h, rfl⟩
  | @shortValue letter first h hfirst value =>
    have hof : Word.of (String.ofList ('-' :: letter :: first :: value)) =
        .short letter (some (String.ofList (first :: value))) := by
      cases slot <;> cases h <;> simp [Word.of, hfirst]
    exact hof ▸ slot?_short_iff.mpr ⟨h, rfl⟩

theorem namesOption_of_slot? {slot : Slot} {argument : String} {value? : Option String}
    (h : (Word.of argument).slot? = some (slot, value?)) : NamesOption slot argument value? := by
  obtain ⟨chars, rfl⟩ : ∃ chars, argument = String.ofList chars := ⟨_, String.ofList_toList.symm⟩
  have hof := h
  unfold Word.of at h
  rw [String.toList_ofList] at h
  split at h
  · cases h
  · next rest hne =>
    rcases of_long_cases hne with ⟨name, value, rfl, hlong⟩ | hlong
    · rw [hlong] at hof
      obtain ⟨hname, rfl⟩ := slot?_long_iff.mp hof
      have hargument : String.ofList ('-' :: '-' :: (name ++ '=' :: value)) =
          "--" ++ slot.name ++ "=" ++ String.ofList value :=
        String.toList_inj.mp (by simp [← hname])
      rw [hargument]
      exact .longValue _
    · rw [hlong] at hof
      obtain ⟨hname, rfl⟩ := slot?_long_iff.mp hof
      have hargument : String.ofList ('-' :: '-' :: rest) = "--" ++ slot.name :=
        String.toList_inj.mp (by simp [← hname])
      rw [hargument]
      exact .long
  · next letter rest hletter =>
    split at h
    · obtain ⟨hslot, rfl⟩ := slot?_short_iff.mp h
      exact .short hslot
    · obtain ⟨hslot, rfl⟩ := slot?_short_iff.mp h
      exact .shortEquals hslot _
    · next hne hequals =>
      obtain ⟨hslot, rfl⟩ := slot?_short_iff.mp h
      obtain ⟨first, value, rfl⟩ := List.exists_cons_of_ne_nil hne
      exact .shortValue hslot (fun hfirst => hequals value (by rw [hfirst])) value
  · cases h

theorem namesOption_iff {slot : Slot} {argument : String} {value? : Option String} :
    NamesOption slot argument value? ↔ (Word.of argument).slot? = some (slot, value?) :=
  ⟨slot?_of_namesOption, namesOption_of_slot?⟩

theorem givesOption_cons {argument : String} {rest : List String} :
    GivesOption slot value (argument :: rest) ↔
      ((Word.of argument).slot? = some (slot, some value) ∨
        (Word.of argument).slot? = some (slot, none) ∧ rest.head? = some value) ∨
      GivesOption slot value rest := by
  simp only [← namesOption_iff]
  constructor
  · rintro ⟨before, other, after, hsplit, hgives⟩
    cases before with
    | nil =>
      cases hsplit
      exact .inl hgives
    | cons first before =>
      cases hsplit
      exact .inr ⟨before, other, after, rfl, hgives⟩
  · rintro (hgives | ⟨before, other, after, rfl, hgives⟩)
    · exact ⟨[], argument, rest, rfl, hgives⟩
    · exact ⟨argument :: before, other, after, rfl, hgives⟩

/-- An argument that is no option leaves it to the others to give one. -/
theorem givesOption_cons_of_none {argument : String} {rest : List String}
    (h : (Word.of argument).slot? = none) :
    GivesOption slot value (argument :: rest) ↔ GivesOption slot value rest := by
  simp [givesOption_cons, h]

theorem not_givesOption_nil : ¬GivesOption slot value [] := by
  rintro ⟨before, argument, after, hsplit, -⟩
  simp at hsplit

theorem eq_of_plain {argument text : String} (h : Word.of argument = .plain text) :
    text = argument := by
  unfold Word.of at h
  split at h
  · cases h
  · dsimp only at h
    split at h <;> cases h
  · split at h <;> cases h
  · cases h
    exact String.ofList_toList

/-- An option that is set was not set before, and the others stay as they are. -/
theorem Options.value?_of_set? {options options' : Options} {changed : Slot} {path : String}
    (h : options.set? changed path = some options') :
    options'.value? slot = some value ↔
      options.value? slot = some value ∨ changed = slot ∧ path = value := by
  unfold Options.set? at h
  split at h
  · cases h
  · cases changed <;> cases slot <;> grind [Options.value?]

/-- The options that were read have the values that they had before and those that the arguments
give. -/
theorem value?_readOptions {mode : Mode} {options options' : Options}
    (h : readOptions mode options arguments = .ok options') :
    options'.value? slot = some value ↔
      options.value? slot = some value ∨ GivesOption slot value arguments := by
  fun_induction readOptions mode options arguments with
  | case1 options =>
    cases h
    simp [not_givesOption_nil]
  | case2 options argument rest word hdivider hrest =>
    cases h
    have hslot : (Word.of argument).slot? = none := by
      rw [show Word.of argument = _ from hdivider]; rfl
    rw [givesOption_cons_of_none hslot, List.isEmpty_iff.mp hrest]
    simp [not_givesOption_nil]
  | case5 options argument rest word _ _ hjson _ ih =>
    have hslot : (Word.of argument).slot? = none := by
      rw [show Word.of argument = _ from hjson]; rfl
    rw [givesOption_cons_of_none hslot, ih h]
    cases slot <;> rfl
  | case7 options argument word _ _ _ changed path rest hslot options₁ hset ih =>
    rw [ih h, Options.value?_of_set? hset, givesOption_cons,
      show (Word.of argument).slot? = _ from hslot]
    simp [or_assoc]
  | case9 options argument word _ _ _ changed next rest hslot text hplain options₁ hset ih =>
    have hnext : (Word.of next).slot? = none := by rw [hplain]; rfl
    rw [ih h, Options.value?_of_set? hset, givesOption_cons, givesOption_cons_of_none hnext,
      show (Word.of argument).slot? = _ from hslot, eq_of_plain hplain]
    simp [or_assoc]
  | case3 | case4 | case6 | case8 | case10 | case11 | case12 => cases h

theorem slot?_of_commandMode? {command : String} {mode : Mode}
    (h : commandMode? command = some mode) :
    (Word.of command).slot? = none := by
  have hname : commandName mode = command := by simpa using List.find?_some h
  rw [← hname]
  cases mode <;> decide

theorem Options.output_of_request? {options : Options} {mode : Mode} {request : Request}
    (h : options.request? mode = some request) : options.value? .output = some request.output := by
  unfold Options.request? at h
  simp only [Option.bind_eq_bind, Option.bind_eq_some_iff] at h
  obtain ⟨input, -, output, houtput, hpure⟩ := h
  cases hpure
  exact houtput

theorem exists_of_bind_eq_ok {ε α β : Type} {x : Except ε α} {f : α → Except ε β} {b : β}
    (h : (x >>= f) = .ok b) : ∃ a, x = .ok a ∧ f a = .ok b := by
  cases x with
  | error e => cases h
  | ok a => exact ⟨a, rfl, h⟩

/-- A request is made by a command and by the options after it. -/
theorem exists_options_of_request {request : Request} (h : Request.of arguments = .ok request) :
    ∃ command rest mode options, arguments = command :: rest ∧ commandMode? command = some mode ∧
      readOptions mode {} rest = .ok options ∧ options.request? mode = some request := by
  cases arguments with
  | nil => cases h
  | cons command rest =>
    rw [Request.of] at h
    split_ifs at h
    · split at h <;> cases h
    · split at h
      · cases h
      · next mode hmode =>
        obtain ⟨options, hoptions, hcomplete⟩ := exists_of_bind_eq_ok h
        split at hcomplete
        · next other hrequest =>
          cases hcomplete
          exact ⟨command, rest, mode, options, rfl, hmode, hoptions, hrequest⟩
        · cases hcomplete

/-- The output option of a request is given, and given once. -/
theorem givesOption_iff_of_request {request : Request} (h : Request.of arguments = .ok request) :
    GivesOption .output value arguments ↔ value = request.output := by
  obtain ⟨command, rest, mode, options, rfl, hmode, hoptions, hrequest⟩ :=
    exists_options_of_request h
  have hgives : options.value? .output = some value ↔ GivesOption .output value rest := by
    rw [value?_readOptions hoptions]
    simp [Options.value?]
  rw [givesOption_cons_of_none (slot?_of_commandMode? hmode), ← hgives,
    Options.output_of_request? hrequest, Option.some.injEq, eq_comm]

end Options

/-! ## Paths -/

section Paths

open FileTree

theorem placeOf_joined {parts : List String} (h : ∀ s ∈ parts, segments s = [s]) (base : String) :
    placeOf (parts.foldl (fun text s => text ++ "/" ++ s) base) =
      parts.foldl follow (placeOf base) := by
  induction parts generalizing base with
  | nil => rfl
  | cons s rest ih =>
    obtain ⟨hs, hrest⟩ := List.forall_mem_cons.mp h
    rw [List.foldl_cons, ih hrest, placeOf_append, hs]
    rfl

/-- Segments that are empty or a single dot lead nowhere. -/
theorem foldl_follow_filter (names : List String) (place : Location) :
    (names.filter fun s => !s.isEmpty && s ≠ ".").foldl follow place =
      names.foldl follow place := by
  rw [List.foldl_filter]
  congr
  funext place s
  unfold follow
  grind

theorem placeOf_pathBase (workingDirectory path : String) :
    (segments path).foldl follow (placeOf (pathBase workingDirectory path.toList)) =
      placeOf (fromRoot workingDirectory path) := by
  have hroot : placeOf "" = [] ∧ placeOf "/" = [] := by decide
  unfold pathBase fromRoot
  split
  · next h => rw [if_pos (by simp [h]), hroot.1, placeOf]
  · next h => rw [if_pos (by simp [h]), hroot.2, placeOf]
  · next h => rw [if_pos (by simp [h]), hroot.1, placeOf]
  · next h =>
    rw [if_neg, placeOf_append]
    intro hhead
    obtain ⟨rest, hrest⟩ := List.head?_eq_some_iff.mp hhead
    exact h _ hrest

/-- An absolute path leads to where the path leads from the working directory. -/
theorem placeOf_absolutePath (workingDirectory path : String) :
    placeOf (absolutePath workingDirectory path) = placeOf (fromRoot workingDirectory path) := by
  have hslash (text : String) : placeOf (text ++ "/") = placeOf text := by
    rw [← String.append_empty (s := text ++ "/"), placeOf_append]
    rfl
  have hjoined : placeOf (((segments path).filter fun s => !s.isEmpty && s ≠ ".").foldl
      (fun text s => text ++ "/" ++ s) (pathBase workingDirectory path.toList)) =
      placeOf (fromRoot workingDirectory path) := by
    rw [placeOf_joined fun s hs => segments_of_mem (List.mem_filter.mp hs).1, foldl_follow_filter,
      placeOf_pathBase]
  unfold absolutePath
  dsimp only
  split
  · rw [hslash, hjoined]
  · exact hjoined

end Paths

/-! ## Runs -/

section Runs

variable {State Place : Type} [DecidableEq Place] (fs : FileSystem State Place)

theorem allOrNothing_writeTable (p : Profile) (input output : String) :
    AllOrNothing (writeTable fs.files p input output) fun s _ s' =>
      ∃ bytes, fs.Written output bytes s s' := by
  refine Quiet.bind ((quiet_styleTableFile fs p input).adapt _) fun table => ?_
  have hwrite := fs.allOrNothing_write output table.indentedJson.toUTF8 (Fault.unwritable output) ()
  exact hwrite.mono fun _ _ _ h => ⟨_, h.2⟩

theorem allOrNothing_perform (p : Profile) (action : Action) (input output : String) :
    AllOrNothing (perform fs.files p action input output) fun s _ s' =>
      ∃ bytes, fs.Written output bytes s s' := by
  cases action with
  | table => exact allOrNothing_writeTable fs p input output
  | convert mode =>
    exact ((allOrNothing_convertFile fs mode p input output).adapt _).bind_pure (fun _ => ())
      fun _ _ _ h => ⟨_, h.2⟩

theorem allOrNothing_execute (workingDirectory : String) (request : Request) :
    AllOrNothing (execute fs.files workingDirectory request) fun s _ s' =>
      ∃ bytes, fs.Written (absolutePath workingDirectory request.output) bytes s s' := by
  have hperform (p : Profile) : AllOrNothing (perform fs.files p request.action
      (absolutePath workingDirectory request.input)
      (absolutePath workingDirectory request.output) >>=
        fun _ => pure (absolutePath workingDirectory request.output)) fun s _ s' =>
      ∃ bytes, fs.Written (absolutePath workingDirectory request.output) bytes s s' :=
    (allOrNothing_perform fs p request.action _ _).bind_pure _ fun _ _ _ h => h
  refine (fs.quiet_has _).bind fun found => ?_
  cases found with
  | false => exact fun _ => .inl ⟨_, rfl⟩
  | true =>
    cases hprofile : request.profile with
    | none => exact (quiet_pure Profile.default).bind hperform
    | some path =>
      exact Quiet.bind ((quiet_readProfile fs path).adapt (Fault.profile path)) hperform

/-- A run leaves the files as they are, or it carries out the request that the arguments make and
writes to the output of the request. -/
theorem run_cases (workingDirectory : String) (arguments : List String) (s : State) :
    (∃ outcome, (run fs.files workingDirectory arguments).run s = (outcome, s)) ∨
    ∃ request output s', Request.of arguments = .ok request ∧
      (run fs.files workingDirectory arguments).run s = (.done request.action output, s') ∧
      ∃ bytes, fs.Written (absolutePath workingDirectory request.output) bytes s s' := by
  cases hrequest : Request.of arguments with
  | error halt =>
    left
    cases halt with
    | notice notice => exact ⟨.informed notice, by simp only [run, hrequest]; rfl⟩
    | misuse => exact ⟨.misused, by simp only [run, hrequest]; rfl⟩
  | ok request =>
    have hrun : (run fs.files workingDirectory arguments).run s =
        match (execute fs.files workingDirectory request).run.run s with
        | (.ok output, s') => (.done request.action output, s')
        | (.error fault, s') => (.failed fault, s') := by
      simp only [run, hrequest, StateT.run_bind]
      rcases (execute fs.files workingDirectory request).run.run s with ⟨fault | output, s'⟩ <;> rfl
    rcases allOrNothing_execute fs workingDirectory request s with
      ⟨fault, hfails⟩ | ⟨output, s', hdone, hwritten⟩
    · exact .inl ⟨.failed fault, by rw [hrun, hfails]⟩
    · exact .inr ⟨request, output, s', rfl, by rw [hrun, hdone], hwritten⟩

/-- After a conversion of a file that fails every file is as before, and after one that succeeds the
output holds the code that the conversion gives for the input, and every other file is as before.
The program leaves every file as it is when its status is not zero, whatever its arguments, and when
it prints help or its version. When the status is zero, the program changes at most the file that
the output option names, and the option is given once. The absolute form of the path that it names
leads to where the path leads from the working directory. -/
theorem files_change_on_success_only :
    (∀ mode p input output s,
      (∃ failure, (convertFile fs.files mode p input output).run.run s = (.error failure, s)) ∨
      ∃ source result s', fs.content s (fs.place input) = some source.toUTF8 ∧
        convert mode p input source = .ok result ∧
        (convertFile fs.files mode p input output).run.run s = (.ok result, s') ∧
        fs.content s' (fs.place output) = some result.code.toUTF8 ∧
        ∀ q, q ≠ fs.place output → fs.content s' q = fs.content s q) ∧
    (∀ workingDirectory arguments s outcome s',
      (run fs.files workingDirectory arguments).run s = (outcome, s') →
      if outcome.status = 0 then
        (∀ notice, outcome = .informed notice → s' = s) ∧
        ∀ q, fs.content s' q ≠ fs.content s q →
          ∃ output, q = fs.place (absolutePath workingDirectory output) ∧
            ∀ value, GivesOption .output value arguments ↔ value = output
      else s' = s) ∧
    ∀ workingDirectory path, FileTree.placeOf (absolutePath workingDirectory path) =
      FileTree.placeOf (FileTree.fromRoot workingDirectory path) := by
  refine ⟨?_, ?_, placeOf_absolutePath⟩
  · intro mode p input output s
    rcases allOrNothing_convertFile fs mode p input output s with
      hfails | ⟨result, s', hrun, ⟨source, hsource, hconvert⟩, hwritten⟩
    · exact .inl hfails
    · refine .inr ⟨source, result, s', hsource, hconvert, hrun, ?_, fun q hq => ?_⟩
      · rw [hwritten, Function.update_self]
      · rw [hwritten, Function.update_of_ne hq]
  · intro workingDirectory arguments s outcome s' hrun
    rcases run_cases fs workingDirectory arguments s with
      ⟨other, hsame⟩ | ⟨request, output, t, hrequest, hdone, bytes, hwritten⟩
    · rw [hsame] at hrun
      cases hrun
      split
      · exact ⟨fun _ _ => rfl, fun q hq => absurd rfl hq⟩
      · rfl
    · rw [hdone] at hrun
      cases hrun
      have hstatus : (Outcome.done request.action output).status = 0 := rfl
      rw [if_pos hstatus]
      refine ⟨nofun, fun q hq => ⟨request.output, ?_, fun value =>
        givesOption_iff_of_request hrequest⟩⟩
      by_contra hother
      exact hq (by rw [hwritten, Function.update_of_ne hother])

end Runs

/-- A directory with a program, with one that is refused, and with a note. -/
def sampleTree : FileTree :=
  ⟨[(["w"], .directory), (["a.jsx", "w"], .file "import 'a.css';".toUTF8),
    (["b.jsx", "w"], .file "const a = <p className=\x7bc\x7d />;".toUTF8),
    (["note", "w"], .file "".toUTF8)]⟩

/-- Convert the imports of the program in place. -/
def importsInPlace : List String := ["imports", "-i", "a.jsx", "--output=a.jsx"]

/-- Convert the program that is refused into the note. -/
def convertIntoNote : List String := ["convert", "-i", "b.jsx", "-o", "note"]

/-- Name the note as the output, and then ask for help. -/
def helpBesideNote : List String := ["styles", "-o", "note", "-h"]

theorem files_change_on_success_only_sampleTree :
    (∃ outcome tree, (run (FileTree.files "/w") "/w" importsInPlace).run sampleTree =
        (outcome, tree) ∧ outcome.status = 0 ∧
      tree.content ["a.jsx", "w"] ≠ sampleTree.content ["a.jsx", "w"] ∧
      ∀ q, tree.content q ≠ sampleTree.content q →
        ∃ output, q = FileTree.placeOf (FileTree.fromRoot "/w" (absolutePath "/w" output)) ∧
          ∀ value, GivesOption .output value importsInPlace ↔ value = output) ∧
    (∃ outcome, (run (FileTree.files "/w") "/w" convertIntoNote).run sampleTree =
      (outcome, sampleTree) ∧ outcome.status = 1) ∧
    ∃ outcome, (run (FileTree.files "/w") "/w" helpBesideNote).run sampleTree =
      (outcome, sampleTree) ∧ outcome.status = 0 := by
  have hall := (files_change_on_success_only (FileTree.fileSystem "/w")).2.1 "/w"
  simp only [FileTree.files_fileSystem, FileTree.place_fileSystem,
    FileTree.content_fileSystem] at hall
  have hruns (arguments : List String) := hall arguments sampleTree _ _ (Prod.eta _).symm
  refine ⟨?_, ?_, ?_⟩
  · have hrun : ((run (FileTree.files "/w") "/w" importsInPlace).run sampleTree).1.status = 0 ∧
        ((run (FileTree.files "/w") "/w" importsInPlace).run sampleTree).2.content ["a.jsx", "w"] ≠
          sampleTree.content ["a.jsx", "w"] := by
      decide +kernel
    have hdone := hruns importsInPlace
    rw [if_pos hrun.1] at hdone
    exact ⟨_, _, rfl, hrun.1, hrun.2, hdone.2⟩
  · have hstatus :
        ((run (FileTree.files "/w") "/w" convertIntoNote).run sampleTree).1.status = 1 := by
      decide +kernel
    have hfails := hruns convertIntoNote
    rw [if_neg (ne_of_eq_of_ne hstatus Nat.one_ne_zero)] at hfails
    exact ⟨_, Prod.ext rfl hfails, hstatus⟩
  · have hinformed : ((run (FileTree.files "/w") "/w" helpBesideNote).run sampleTree).1 =
        .informed (.help (.command .styles)) := by
      decide +kernel
    have hdone := hruns helpBesideNote
    have hstatus :
        ((run (FileTree.files "/w") "/w" helpBesideNote).run sampleTree).1.status = 0 := by
      rw [hinformed]
      rfl
    rw [if_pos hstatus] at hdone
    exact ⟨_, Prod.ext rfl (hdone.1 _ hinformed), hstatus⟩

end Nativize.CommandLine
