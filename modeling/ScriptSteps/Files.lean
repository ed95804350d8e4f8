/-!
# Files

A working directory as data: the files in it with their bytes, and the directories.

## Main definitions

* `Path`: the names on the way to a file, and what a written path stands for
* `FileTree`: files and directories by path
* `FileTree.read`: the text of a file, or why it cannot be read
-/

namespace ScriptSteps

/-- The names on the way to a file or directory. It leads from the working directory; a first name
that is empty is the root, and first names `..` lead above the working directory. -/
abbrev Path := List String

/-- The files of a working directory and the directories that hold no files. -/
structure FileTree where
  files : List (Path × ByteArray)
  directories : List Path

/-- What a path leads to. -/
inductive FileNode where
  | file (bytes : ByteArray)
  | directory
  | missing
  /-- A file stands where the path goes on. -/
  | blocked

/-- Why a file operation fails. -/
inductive FileFault where
  | missing
  | directory
  | notDirectory
  | taken
  | notText
deriving DecidableEq, Repr

/-- The wording of a failure. -/
def FileFault.message : FileFault → String
  | missing => "No such file or directory (os error 2)"
  | directory => "Is a directory (os error 21)"
  | notDirectory => "Not a directory (os error 20)"
  | taken => "File exists (os error 17)"
  | notText => "stream did not contain valid UTF-8"

namespace Path

/-- The directory above another. Nothing is above the root. -/
def parent (directory : Path) : Path :=
  if directory.all (· == "..") then directory ++ [".."]
  else if directory = [""] then directory
  else directory.dropLast

/-- Where the names of a written path start, and the names after that; none for the empty path. -/
def parts? (path : String) : Option (Path × List String) :=
  match (path.toList.splitOn '/').map String.ofList with
  | [""] => none
  | "" :: names => some ([""], names)
  | names => some ([], names)

/-- The path after one more written name. -/
def enter (directory : Path) (name : String) : Path :=
  if name = "" ∨ name = "." then directory
  else if name = ".." then directory.parent
  else directory ++ [name]

/-- The path that a text stands for. -/
def ofText (path : String) : Path :=
  match parts? path with
  | none => []
  | some (start, names) => names.foldl enter start

/-- The text of a path with a name added to it. -/
def join (path name : String) : String :=
  if path.endsWith "/" then path ++ name else path ++ "/" ++ name

end Path

namespace FileTree

/-- The bytes of the file at a path. -/
def bytesAt? (t : FileTree) (path : Path) : Option ByteArray :=
  (t.files.find? (·.1 == path)).map (·.2)

/-- Whether a path is that of a directory: the working directory or one above it, the root, one on
the way to a file, or one that was made. -/
def isDirectory (t : FileTree) (path : Path) : Bool :=
  path.all (· == "..") || path == [""]
    || t.files.any (fun file => path.isPrefixOf file.1 && path.length < file.1.length)
    || t.directories.any path.isPrefixOf

/-- Follows written names from a directory. -/
def follow (t : FileTree) (directory : Path) : List String → FileNode
  | [] => .directory
  | name :: names =>
    let path := directory.enter name
    match t.bytesAt? path with
    | some bytes => if names = [] then .file bytes else .blocked
    | none => if t.isDirectory path then t.follow path names else .missing

/-- What a written path leads to. -/
def node (t : FileTree) (path : String) : FileNode :=
  match Path.parts? path with
  | none => .missing
  | some (start, names) => t.follow start names

/-- Whether a path leads to a file or a directory. -/
def exists? (t : FileTree) (path : String) : Bool :=
  match t.node path with
  | .file _ | .directory => true
  | .missing | .blocked => false

/-- The text of a file. -/
def read (t : FileTree) (path : String) : Except FileFault String :=
  match t.node path with
  | .file bytes =>
    match String.fromUTF8? bytes with
    | some text => .ok text
    | none => .error .notText
  | .directory => .error .directory
  | .missing => .error .missing
  | .blocked => .error .notDirectory

/-- Makes a directory and those on the way to it. -/
def makeDirectory (t : FileTree) (path : String) : Except FileFault FileTree :=
  match t.node path with
  | .directory => .ok t
  | .file _ => .error .taken
  | .blocked => .error .notDirectory
  | .missing => .ok { t with directories := Path.ofText path :: t.directories }

end FileTree

end ScriptSteps
