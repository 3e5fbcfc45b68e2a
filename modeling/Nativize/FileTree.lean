import Nativize.Failure

/-!
# Files

`Files` is the access to files that a conversion needs, in any monad. `FileTree` is a tree of files
that is a value; paths are resolved in it one segment after the other, so that every segment but the
last has to be a directory.
-/

namespace Nativize

/-- Access to files by their paths. -/
structure Files (m : Type → Type) where
  /-- Something is found under the path. -/
  has : String → m Bool
  read : String → m (Except AccessFault ByteArray)
  write : String → ByteArray → m (Except AccessFault Unit)

/-- The text of a file. -/
def textOfBytes (bytes : ByteArray) : Except AccessFault String :=
  match String.fromUTF8? bytes with
  | some text => .ok text
  | none => .error .notText

/-- Read a file as text. -/
def Files.readText {m : Type → Type} [Monad m] (files : Files m) (path : String) :
    m (Except Failure String) := do
  let bytes ← files.read path
  return (bytes.bind textOfBytes).mapError (.access path)

/-- What is found under a path. -/
inductive FileNode where
  | file (bytes : ByteArray)
  | directory

/-- A path from the root, the last segment first. The root is the empty path. -/
abbrev Location := List String

/-- Files and directories by their locations. -/
structure FileTree where
  nodes : List (Location × FileNode)

namespace FileTree

/-- The node at a location. -/
def node? (tree : FileTree) (place : Location) : Option FileNode :=
  if place.isEmpty then some .directory else tree.nodes.lookup place

/-- Put a node at a location. -/
def put (tree : FileTree) (place : Location) (node : FileNode) : FileTree :=
  if (tree.node? place).isSome then
    ⟨tree.nodes.map fun entry => if entry.1 = place then (place, node) else entry⟩
  else ⟨tree.nodes ++ [(place, node)]⟩

/-- The segments of a path. -/
def segments (path : String) : List String := (path.toList.splitOn '/').map String.ofList

/-- A name in a directory has at most 255 bytes. -/
def isTooLong (name : String) : Bool := 255 < name.utf8ByteSize

/-- The node of a name in a directory, if there is one. -/
def child? (tree : FileTree) (directory : Location) (name : String) :
    Except AccessFault (Option FileNode) :=
  if isTooLong name then .error .nameTooLong else .ok (tree.node? (name :: directory))

/-- Go from a directory along segments, each of which leads to a directory. -/
def enter (tree : FileTree) (start : Location) : List String → Except AccessFault Location
  | [] => .ok start
  | name :: rest =>
    if name.isEmpty || name = "." then tree.enter start rest
    else if name = ".." then tree.enter (start.drop 1) rest
    else
      match tree.child? start name with
      | .ok (some .directory) => tree.enter (name :: start) rest
      | .ok (some (.file _)) => .error .notDirectory
      | .ok none => .error .missing
      | .error fault => .error fault

/-- The segment names a directory by itself. -/
def isDirectorySegment (name : String) : Bool := name.isEmpty || name = "." || name = ".."

/-- The directory that a path leads to, and the last segment of the path. -/
def resolve (tree : FileTree) (path : String) : Except AccessFault (Location × String) := do
  let parts := segments path
  let directory ← tree.enter [] parts.dropLast
  return (directory, (parts.getLast?).getD "")

/-- Read the file under a path. -/
def read (tree : FileTree) (path : String) : Except AccessFault ByteArray := do
  let (directory, name) ← tree.resolve path
  if isDirectorySegment name then throw .directory
  match ← tree.child? directory name with
  | some (.file bytes) => return bytes
  | some .directory => throw .directory
  | none => throw .missing

/-- Something is found under the path. -/
def has (tree : FileTree) (path : String) : Bool :=
  match tree.read path with
  | .ok _ => true
  | .error fault => fault = .directory

/-- The path without the slashes at its end. -/
def withoutFinalSlashes (path : String) : String :=
  String.ofList (path.toList.reverse.dropWhile (· = '/')).reverse

/-- Write a file. Its directory has to be there, and a final slash asks for a directory. -/
def write (tree : FileTree) (path : String) (bytes : ByteArray) : Except AccessFault FileTree := do
  let named := withoutFinalSlashes path
  let (directory, name) ← tree.resolve named
  if named ≠ path then throw .directory
  if isDirectorySegment name then throw .directory
  match ← tree.child? directory name with
  | some .directory => throw .directory
  | _ => return tree.put (name :: directory) (.file bytes)

/-- The path seen from the root. -/
def fromRoot (workingDirectory path : String) : String :=
  if path.toList.head? = some '/' then path else workingDirectory ++ "/" ++ path

/-- Access to the files of a tree that is the state of a computation. -/
def files (workingDirectory : String) : Files (StateM FileTree) where
  has path := return (← get).has (fromRoot workingDirectory path)
  read path := return (← get).read (fromRoot workingDirectory path)
  write path bytes := do
    match (← get).write (fromRoot workingDirectory path) bytes with
    | .ok tree =>
      set tree
      return .ok ()
    | .error fault => return .error fault

end FileTree

end Nativize
