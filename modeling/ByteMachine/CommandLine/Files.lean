import ByteMachine.Byte
import ByteMachine.Entries
import ByteMachine.Text.Utf8

/-!
# Files

The files that a tool sees are a tree, given by the paths of its files and directories from where
the tool stands.  A path is written as names with slashes between them; a name that is empty or a
single dot stays where it is, two dots go up.  Every name but the last has to be that of a
directory.  The root and all directories above the tool are there even if nothing else is known of
them.  Names and paths of more bytes than a file system takes lead nowhere.
-/

namespace ByteMachine

/-- The names that lead to a file. -/
abbrev Path := List Text

/-- What stands at a path. -/
inductive FileNode
  | file (bytes : List Byte)
  | directory
  deriving DecidableEq, Repr

/-- Why a file cannot be written. -/
inductive PathFault
  /-- A directory on the way to it is missing. -/
  | missing
  /-- A file stands where a directory should. -/
  | notDirectory
  /-- It is a directory. -/
  | isDirectory
  /-- Its name or its path is too long. -/
  | tooLong
  deriving DecidableEq, Repr

/-- Some files and directories with their paths. -/
structure Files where
  /-- The paths and what stands there. -/
  entries : List (Path × FileNode)
  deriving DecidableEq, Repr

/-- The name of the root of all absolute paths. -/
def rootName : Text :=
  ['/']

/-- The name of the directory above. -/
def upName : Text :=
  ['.', '.']

/-- The largest number of bytes in a name. -/
def maxNameBytes : Nat :=
  255

/-- The largest number of bytes in a written path. -/
def maxPathBytes : Nat :=
  4095

/-- The names of a written path, in which an absolute path starts with the name of the root. -/
def pathNames (text : Text) : List Text :=
  let names := Text.pieces '/' text
  if text.head? = some '/' then rootName :: names else names

/-- Whether a name stays where it is. -/
def isIdleName (name : Text) : Bool :=
  name = [] || name = ['.']

/-- A path written in the plainest way; two slashes at its start, but not three, stay two. -/
def plainPath (text : Text) : Text :=
  let names := (Text.pieces '/' text).filter (!isIdleName ·)
  let start : Text :=
    match text with
    | '/' :: '/' :: '/' :: _ => ['/']
    | '/' :: '/' :: _ => ['/', '/']
    | '/' :: _ => ['/']
    | _ => []
  let plain := start ++ Text.join ['/'] names
  if plain = [] then ['.'] else plain

/-- Whether a path is the root, or leads up from where the tool stands and nowhere else. -/
def Path.isAbove (path : Path) : Bool :=
  path = [rootName] || path.all (· = upName)

/-- Whether a path stays below where the tool stands. -/
def Path.isBelow (path : Path) : Bool :=
  path.head? != some upName && path.head? != some rootName

/-- The path one level up; above the root is the root. -/
def Path.up (path : Path) : Path :=
  if path = [rootName] then path
  else if path.isAbove then path ++ [upName]
  else path.dropLast

/-- The path after one more name is followed, whatever stands there. -/
def Path.enter (path : Path) (name : Text) : Path :=
  if isIdleName name then path else if name = upName then path.up else path ++ [name]

/-- The paths that a written path passes on its way, in order. -/
def passedPaths (text : Text) : List Path :=
  (pathNames text).tail.foldl (fun (passed : List Path) name =>
      passed ++ [Path.enter (passed.getLastD []) name])
    [Path.enter [] ((pathNames text).headD [])]

/-- A path as it is written. -/
def Path.text : Path → Text
  | [] => ['.']
  | name :: rest =>
      if name = rootName then '/' :: Text.join ['/'] rest else Text.join ['/'] (name :: rest)

namespace Files

/-- What every system has under its root: a place for files that are not kept, and a device that
holds nothing. -/
def standard : List (Path × FileNode) :=
  [([rootName, "tmp".toList], .directory),
    ([rootName, "dev".toList, "null".toList], .file [])]

/-- What stands at a path. -/
def node? (files : Files) (path : Path) : Option FileNode :=
  match files.entries.lookup path with
  | some node => some node
  | none =>
      if path.isAbove || files.entries.any (path.isPrefixOf ·.1) then some .directory else none

/-- The path that one more name leads to. -/
def follow (files : Files) (path : Path) (name : Text) : Except PathFault Path :=
  match files.node? path with
  | none => .error .missing
  | some (.file _) => .error .notDirectory
  | some .directory =>
      if maxNameBytes < (Text.encodeUtf8 name).length then .error .tooLong
      else .ok (path.enter name)

/-- The path that a written path leads to. -/
def resolve (files : Files) (text : Text) : Except PathFault Path :=
  if text = [] then .error .missing
  else if maxPathBytes < (Text.encodeUtf8 text).length then .error .tooLong
  else (pathNames text).foldlM files.follow []

/-- What stands at a written path. -/
def find? (files : Files) (text : Text) : Option FileNode :=
  match files.resolve text with
  | .ok path => files.node? path
  | .error _ => none

/-- The files after one of them was written. -/
def write (files : Files) (text : Text) (bytes : List Byte) : Except PathFault Files := do
  let path ← files.resolve text
  match files.node? path with
  | some .directory => .error .isDirectory
  | _ => return ⟨Entries.put path (.file bytes) files.entries⟩

/-- The files below where the tool stands, at paths where there was none before. -/
def newSince (files before : Files) : List (Path × List Byte) :=
  files.entries.filterMap fun entry =>
    match entry.2 with
    | .directory => none
    | .file bytes =>
        if entry.1.isBelow && (before.node? entry.1).isNone then some (entry.1, bytes) else none

/-- The files that are not as they were before. -/
def changedSince (files before : Files) : List (Path × List Byte) :=
  files.entries.filterMap fun entry =>
    match entry.2 with
    | .directory => none
    | .file bytes =>
        if before.node? entry.1 = some (.file bytes) then none else some (entry.1, bytes)

end Files

/-- Why a file cannot be written, as it is said. -/
def PathFault.message (fault : PathFault) (shown : Text) : Text :=
  (match fault with
    | .missing => "[Errno 2] No such file or directory: ".toList
    | .notDirectory => "[Errno 20] Not a directory: ".toList
    | .isDirectory => "[Errno 21] Is a directory: ".toList
    | .tooLong => "[Errno 36] File name too long: ".toList) ++ shown

end ByteMachine
