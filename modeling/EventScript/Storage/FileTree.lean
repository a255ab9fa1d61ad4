import EventScript.Table

/-!
# File trees

A tree of directories and text files as a value, with the operations that storage needs and the ways
in which they fail.
-/

namespace EventScript

/-- Why an operation on a file or directory fails. -/
inductive FileError where
  | missing
  | alreadyExists
  | notDirectory
  | isDirectory
  /-- A name has more than 255 bytes. -/
  | nameTooLong
  /-- The path has a zero character in it. -/
  | invalidPath
  /-- The content of the file is not a text. -/
  | notText
  /-- Another reason of the system. -/
  | other (reason : String)
  deriving DecidableEq

/-- The text of an error. -/
def FileError.message : FileError → String
  | missing => "No such file or directory (os error 2)"
  | alreadyExists => "File exists (os error 17)"
  | notDirectory => "Not a directory (os error 20)"
  | isDirectory => "Is a directory (os error 21)"
  | nameTooLong => "File name too long (os error 36)"
  | invalidPath => "file name contained an unexpected NUL byte"
  | notText => "stream did not contain valid UTF-8"
  | other reason => reason

/-- What stands in a file tree under a name. -/
inductive FileNode where
  | file (content : String)
  | directory
  deriving DecidableEq

/-- A tree of directories and text files; its root is a directory. -/
structure FileTree where
  /-- What stands under the path of every node. -/
  nodes : Table String FileNode
  deriving DecidableEq

namespace FileTree

/-- The tree with nothing but its root. -/
def empty : FileTree := ⟨.empty⟩

/-- The names in a path, from the root on. -/
def namesOf (path : String) : List String := (path.splitToList (· == '/')).filter (· != "")

/-- Whether a path can only be the path of a directory. -/
def isDirectoryPath (path : String) : Bool := path.toList.getLast? == some '/'

/-- The path of a name in the directory of a path. No slash is put behind an empty path or behind one
that ends in a slash. -/
def join (path name : String) : String :=
  if path.isEmpty || isDirectoryPath path then path ++ name else path ++ "/" ++ name

/-- The path of names. -/
def pathOf (names : List String) : String := "/".intercalate names

/-- The place that a name leads to from a directory: the directory itself, the one it lies in, or
something in it. The root lies in itself. -/
def follow (place : List String) (name : String) : Except FileError (List String) :=
  if name = "." then .ok place
  else if name = ".." then .ok place.dropLast
  else if 255 < name.utf8ByteSize then .error .nameTooLong
  else .ok (place ++ [name])

/-- What stands at a place. -/
def nodeAt? (t : FileTree) (place : List String) : Option FileNode :=
  if place.isEmpty then some .directory else t.nodes.get? (pathOf place)

/-- The place that names lead to from a directory; everything but the last has to be a directory. -/
def followAll (t : FileTree) (place : List String) : List String → Except FileError (List String)
  | [] => .ok place
  | [name] => follow place name
  | name :: next :: rest => do
    let place ← follow place name
    match t.nodeAt? place with
    | none => .error .missing
    | some (.file _) => .error .notDirectory
    | some .directory => t.followAll place (next :: rest)

/-- Whether a path is one of a system: it has no zero character. -/
def isPath (path : String) : Bool := !path.toList.contains '\x00'

/-- The place of a path. The empty path has none. -/
def place (t : FileTree) (path : String) : Except FileError (List String) :=
  if !isPath path then .error .invalidPath
  else if path.isEmpty then .error .missing
  else t.followAll [] (namesOf path)

/-- What stands under a path, if anything does. -/
def node? (t : FileTree) (path : String) : Except FileError (Option FileNode) :=
  (t.place path).map t.nodeAt?

/-- Whether something stands under a path. -/
def contains (t : FileTree) (path : String) : Bool :=
  match t.node? path with
  | .ok (some (.file _)) => !isDirectoryPath path
  | .ok (some .directory) => true
  | _ => false

/-- Whether a directory stands under a path. -/
def isDirectory (t : FileTree) (path : String) : Bool :=
  match t.node? path with
  | .ok (some .directory) => true
  | _ => false

/-- Read a file. -/
def read (t : FileTree) (path : String) : Except FileError String := do
  match ← t.node? path with
  | some (.file content) => if isDirectoryPath path then .error .notDirectory else .ok content
  | some .directory => .error .isDirectory
  | none => .error .missing

/-- Write a file, in place of an earlier one. -/
def write (t : FileTree) (path content : String) : Except FileError FileTree := do
  let place ← t.place path
  match t.nodeAt? place with
  | some .directory => .error .isDirectory
  | _ =>
    if isDirectoryPath path then .error .isDirectory
    else .ok ⟨t.nodes.insert (pathOf place) (.file content)⟩

/-- Make the directories that names lead to from one, as far as they do not exist. -/
def makeAll (t : FileTree) (place : List String) : List String → Except FileError FileTree
  | [] => .ok t
  | name :: rest => do
    let place ← follow place name
    match t.nodeAt? place with
    | some (.file _) => .error (if rest.isEmpty then .alreadyExists else .notDirectory)
    | some .directory => t.makeAll place rest
    | none => makeAll ⟨t.nodes.insert (pathOf place) .directory⟩ place rest

/-- Make a directory and those above it, as far as they do not exist. A directory that is only named
as itself has to exist. -/
def makeDirectories (t : FileTree) (path : String) : Except FileError FileTree :=
  let names := namesOf path
  if !isPath path then .error .invalidPath
  else if names.getLast? = some "." then (t.followAll [] names).map fun _ => t
  else t.makeAll [] names

/-- The names in a directory. -/
def entries (t : FileTree) (path : String) : Except FileError (List String) := do
  let place ← t.place path
  match t.nodeAt? place with
  | some .directory =>
    return t.nodes.keys.filterMap fun key =>
      let names := namesOf key
      if names.dropLast = place then names.getLast? else none
  | some (.file _) => .error .notDirectory
  | none => .error .missing

/-- The path of the directory that a path lies in, if it names one. -/
def parent? (path : String) : Option String :=
  match (namesOf path).dropLast with
  | [] => none
  | names => some (pathOf names)

end FileTree

end EventScript
