import Nativize.Conversion.File

/-!
# The command line

A request names an action, the input and the output, and optionally a profile. Arguments may ask for
a page of help or for the version instead. They are read from the left, and the first that asks for
one, or that is not understood, ends the reading. Paths are made absolute by their text alone before
they are used or shown.
-/

namespace Nativize.CommandLine

open Conversion

/-- What to write. -/
inductive Action where
  | convert (mode : Mode)
  /-- The evaluated style table. -/
  | table
deriving DecidableEq, Repr

/-- A complete request. -/
structure Request where
  action : Action
  input : String
  output : String
  profile : Option String
deriving DecidableEq, Repr

/-! ## Help -/

/-- What a page of help is about. -/
inductive Topic where
  | program
  | command (mode : Mode)
  /-- The command that prints help. -/
  | help
deriving DecidableEq, Repr

/-- What is printed in place of a conversion. -/
inductive Notice where
  | help (topic : Topic)
  | version
deriving DecidableEq, Repr

/-- Why arguments make no request. -/
inductive Halt where
  | notice (notice : Notice)
  /-- They are not understood. -/
  | misuse
deriving DecidableEq, Repr

def programName : String := "expo-convert"

def programVersion : String := "0.1.0"

/-- The command that asks for a mode. -/
def commandName : Mode → String
  | .full => "convert"
  | .imports => "imports"
  | .styles => "styles"

/-- The mode that a command asks for. -/
def commandMode? (command : String) : Option Mode :=
  [Mode.full, .imports, .styles].find? fun mode => commandName mode = command

namespace Topic

def summary : Topic → String
  | program => "ReactJS to ExpoJS converter"
  | command .full => "Run the full conversion pipeline"
  | command .imports => "Convert only the import statements"
  | command .styles => "Convert only the styles table"
  | help => "Print this message or the help of the given subcommand(s)"

/-- How the program is called. -/
def usage : Topic → String
  | program => programName ++ " <COMMAND>"
  | command mode =>
    programName ++ " " ++ commandName mode ++ " [OPTIONS] --input <INPUT> --output <OUTPUT>"
  | help => programName ++ " help [COMMAND]..."

/-- The sections of a page, each with what it explains. -/
def sections : Topic → List (String × List (String × String))
  | program =>
    [("Commands",
      [(commandName .full, (command .full).summary),
       (commandName .imports, (command .imports).summary),
       (commandName .styles, (command .styles).summary),
       ("help", help.summary)]),
     ("Options", [("-h, --help", "Print help"), ("-V, --version", "Print version")])]
  | command mode =>
    [("Options",
      [("-i, --input <INPUT>", "Path to the input ReactJS file"),
       ("-o, --output <OUTPUT>", "Path to the output file"),
       ("    --config <CONFIG>", "JSON conversion profile overriding the Expo defaults")] ++
      (if mode = .styles then
        [("    --json", "Write the evaluated style table as JSON instead of source")]
       else []) ++
      [("-h, --help", "Print help")])]
  | help => [("Arguments", [("[COMMAND]...", "Print help for the subcommand(s)")])]

/-- A section in two columns. -/
def sectionText (title : String) (rows : List (String × String)) : String :=
  let width := (rows.map fun row => row.1.length).foldl max 0
  let line (row : String × String) : String :=
    "  " ++ String.ofList (row.1.toList.rightpad width ' ') ++ "  " ++ row.2 ++ "\n"
  "\n" ++ title ++ ":\n" ++ String.join (rows.map line)

def page (topic : Topic) : String :=
  topic.summary ++ "\n\nUsage: " ++ topic.usage ++ "\n" ++
    String.join (topic.sections.map fun (title, rows) => sectionText title rows)

end Topic

def Notice.text : Notice → String
  | .help topic => topic.page
  | .version => programName ++ " " ++ programVersion ++ "\n"

/-! ## Arguments -/

/-- An argument by its form. -/
inductive Word where
  | long (name : String) (value : Option String)
  | short (letter : Char) (value : Option String)
  /-- Two dashes, after which no option is read. -/
  | divider
  | plain (text : String)
deriving DecidableEq, Repr

/-- Read an argument. The value of an option may be attached to it. -/
def Word.of (argument : String) : Word :=
  match argument.toList with
  | ['-', '-'] => .divider
  | '-' :: '-' :: rest =>
    let name := rest.takeWhile (· ≠ '=')
    match rest.drop name.length with
    | _ :: value => .long (String.ofList name) (some (String.ofList value))
    | [] => .long (String.ofList rest) none
  | '-' :: letter :: rest =>
    match rest with
    | [] => .short letter none
    | '=' :: value => .short letter (some (String.ofList value))
    | value => .short letter (some (String.ofList value))
  | text => .plain (String.ofList text)

/-- The options that take a value. -/
inductive Slot where
  | input
  | output
  | profile
deriving DecidableEq, Repr

/-- The option that an argument names, and the value that is attached to it. -/
def Word.slot? : Word → Option (Slot × Option String)
  | .long name value =>
    if name = "input" then some (.input, value)
    else if name = "output" then some (.output, value)
    else if name = "config" then some (.profile, value)
    else none
  | .short letter value =>
    if letter = 'i' then some (.input, value)
    else if letter = 'o' then some (.output, value)
    else none
  | _ => none

/-- The argument asks for help. What is attached to the letter is not looked at. -/
def Word.asksHelp : Word → Bool
  | .long name value => name = "help" && value.isNone
  | .short letter _ => letter = 'h'
  | _ => false

/-- The argument asks for the version. -/
def Word.asksVersion : Word → Bool
  | .long name value => name = "version" && value.isNone
  | .short letter _ => letter = 'V'
  | _ => false

/-- The options that were read so far. -/
structure Options where
  input : Option String := none
  output : Option String := none
  profile : Option String := none
  asTable : Bool := false

/-- Set an option to a path, which is not empty. No option is set twice. -/
def Options.set? (options : Options) (slot : Slot) (path : String) : Option Options :=
  if path.isEmpty then none
  else
    match slot with
    | .input => if options.input.isSome then none else some { options with input := some path }
    | .output => if options.output.isSome then none else some { options with output := some path }
    | .profile =>
      if options.profile.isSome then none else some { options with profile := some path }

/-- Read the options of a command. Only the styles can be asked for as a table. -/
def readOptions (mode : Mode) (options : Options) : List String → Except Halt Options
  | [] => .ok options
  | argument :: rest =>
    let word := Word.of argument
    if word = .divider then if rest.isEmpty then .ok options else .error .misuse
    else if word.asksHelp then .error (.notice (.help (.command mode)))
    else if word = .long "json" none then
      if mode = .styles && !options.asTable then
        readOptions mode { options with asTable := true } rest
      else .error .misuse
    else
      match word.slot?, rest with
      | some (slot, some value), rest =>
        match options.set? slot value with
        | some options => readOptions mode options rest
        | none => .error .misuse
      | some (slot, none), value :: rest =>
        match Word.of value with
        | .plain text =>
          match options.set? slot text with
          | some options => readOptions mode options rest
          | none => .error .misuse
        | _ => .error .misuse
      | _, _ => .error .misuse

/-- The request of complete options. -/
def Options.request? (options : Options) (mode : Mode) : Option Request := do
  let input ← options.input
  let output ← options.output
  return ⟨if options.asTable then .table else .convert mode, input, output, options.profile⟩

/-- The page that the arguments of the help command ask for. -/
def helpTopic? : List String → Option Topic
  | [] => some .program
  | [command] => if command = "help" then some .help else (commandMode? command).map .command
  | _ => none

/-- Read the arguments of the program. -/
def Request.of : List String → Except Halt Request
  | [] => .error .misuse
  | command :: arguments =>
    if (Word.of command).asksHelp then .error (.notice (.help .program))
    else if (Word.of command).asksVersion then .error (.notice .version)
    else if command = "help" then
      match helpTopic? arguments with
      | some topic => .error (.notice (.help topic))
      | none => .error .misuse
    else
      match commandMode? command with
      | none => .error .misuse
      | some mode => do
        match (← readOptions mode {} arguments).request? mode with
        | some request => return request
        | none => throw .misuse

/-! ## Paths -/

/-- Where the segments of a path start. Two slashes at its front, and no more, are a start of their
own. -/
def pathBase (workingDirectory : String) : List Char → String
  | '/' :: '/' :: '/' :: _ => ""
  | '/' :: '/' :: _ => "/"
  | '/' :: _ => ""
  | _ => workingDirectory

/-- A path made absolute by its text. Empty and single-dot segments are dropped, and a final slash
is kept. -/
def absolutePath (workingDirectory path : String) : String :=
  let parts := (FileTree.segments path).filter fun s => !s.isEmpty && s ≠ "."
  let chars := path.toList
  let base := pathBase workingDirectory chars
  let joined := parts.foldl (fun text s => text ++ "/" ++ s) base
  if chars.getLast? = some '/' || joined.isEmpty then joined ++ "/" else joined

/-! ## Runs -/

/-- Why a request was not carried out. -/
inductive Fault where
  | missingInput (path : String)
  | profile (path : String) (failure : Failure)
  | conversion (failure : Failure)
  | unwritable (path : String) (fault : AccessFault)
deriving DecidableEq

/-- The wording of a failure, followed by the wording of its cause. -/
def failureText (f : Failure) : String :=
  match f with
  | .access _ fault => f.message ++ ": " ++ fault.message
  | _ => f.message

def Fault.message : Fault → String
  | .missingInput path => "Input file does not exist: " ++ path
  | .profile path failure => "Cannot load config " ++ path ++ ": " ++ failureText failure
  | .conversion failure => failureText failure
  | .unwritable path fault => "Cannot write " ++ path ++ ": " ++ fault.message

/-- How a run ended. -/
inductive Outcome where
  | done (action : Action) (output : String)
  /-- Help or the version was asked for. -/
  | informed (notice : Notice)
  | failed (fault : Fault)
  | misused
deriving DecidableEq

def Action.label : Action → String
  | .convert .full => "Conversion complete!"
  | .convert .imports => "Imports conversion complete!"
  | .convert .styles | .table => "Styles conversion complete!"

namespace Outcome

def status : Outcome → Nat
  | .done .. | .informed _ => 0
  | .failed _ => 1
  | .misused => 2

/-- What is printed about a success. -/
def report : Outcome → String
  | .done action output => action.label ++ " Output written to " ++ output ++ "\n"
  | .informed notice => notice.text
  | _ => ""

/-- What is printed about a failure. -/
def complaint : Outcome → String
  | .failed fault => "error: " ++ fault.message
  | .misused => "error: the arguments are not understood"
  | .done .. | .informed _ => ""

end Outcome

variable {m : Type → Type} [Monad m]

/-- Write the evaluated style table of a file. -/
def writeTable (files : Files m) (p : Profile) (input output : String) : ExceptT Fault m Unit := do
  let table ← ExceptT.adapt Fault.conversion (styleTableFile files p input)
  match ← files.write output table.indentedJson.toUTF8 with
  | .ok _ => return
  | .error fault => throw (.unwritable output fault)

/-- Carry out an action on absolute paths. -/
def perform (files : Files m) (p : Profile) (action : Action) (input output : String) :
    ExceptT Fault m Unit :=
  match action with
  | .table => writeTable files p input output
  | .convert mode => do
    let _ ← ExceptT.adapt Fault.conversion (convertFile files mode p input output)

/-- Carry out a request. The input has to be there before the profile is read. -/
def execute (files : Files m) (workingDirectory : String) (request : Request) :
    ExceptT Fault m String := do
  let input := absolutePath workingDirectory request.input
  let output := absolutePath workingDirectory request.output
  if !(← files.has input) then throw (.missingInput input)
  let p ← match request.profile with
    | some path => ExceptT.adapt (Fault.profile path) (readProfile files path)
    | none => pure .default
  perform files p request.action input output
  return output

/-- Run the program. -/
def run (files : Files m) (workingDirectory : String) (arguments : List String) : m Outcome := do
  match Request.of arguments with
  | .error (.notice notice) => return .informed notice
  | .error .misuse => return .misused
  | .ok request =>
    match ← (execute files workingDirectory request).run with
    | .ok output => return .done request.action output
    | .error fault => return .failed fault

end Nativize.CommandLine
