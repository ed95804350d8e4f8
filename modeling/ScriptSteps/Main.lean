import ScriptSteps.Program
import Std.Time

/-!
# Command line

Gathers what a run is given, calls it and puts out what it says.
-/

namespace ScriptSteps.Main

/-! ## What a run may read -/

/-- The variables in the environment block of a process: names and values with `=` between them,
each ended by a zero byte. -/
def environmentOf (block : ByteArray) : Environment :=
  (((String.fromUTF8? block).getD "").splitOn "\x00").filterMap fun entry =>
    match entry.splitOn "=" with
    | name :: value :: more => some (name, String.intercalate "=" (value :: more))
    | _ => none

/-- The paths that a session's input asks to load. -/
def loadedPaths (input : ByteArray) : List String :=
  (Session.byteLines input.toList).filterMap fun bytes => do
    let line ← String.fromUTF8? ⟨bytes.toArray⟩
    match ← Command.parse? (Session.applyBackspaces (Session.withoutLineEnd line)) with
    | (.load, argument?) => argument?
    | _ => none

/-- Whether a command line asks for a session. -/
def wantsSession (arguments : List String) : Bool :=
  match Arguments.parse arguments with
  | .ok a => a.eval?.isNone && a.files.isEmpty
  | .error _ => false

/-- The paths that a run may read. -/
def readPaths (arguments : List String) (e : Environment) (input : ByteArray) : List String :=
  let files := match Arguments.parse arguments with
    | .ok a => a.files
    | .error _ => []
  (userSettingsPath? e).toList ++ [localSettingsPath, Program.historyDirectory e] ++ files
    ++ loadedPaths input

/-- A path and those on the way to it. -/
def pathsOnTheWay (path : String) : List String :=
  let names := path.splitOn "/"
  (List.range names.length).map fun n => String.intercalate "/" (names.take (n + 1))

/-! ## Input and output -/

/-- Adds what is found at a path. -/
def addPath (files : FileTree) (path : String) : IO FileTree := do
  try
    let bytes ← IO.FS.readBinFile path
    return { files with files := (Path.ofText path, bytes) :: files.files }
  catch
    | .inappropriateType _ 21 _ =>
      return { files with directories := Path.ofText path :: files.directories }
    | _ => return files

/-- All bytes of a stream. -/
def readAll (stream : IO.FS.Stream) : IO ByteArray := do
  let mut bytes := ByteArray.empty
  repeat
    let chunk ← stream.read 65536
    if chunk.isEmpty then break
    bytes := bytes ++ chunk
  return bytes

/-- The time of an event. -/
def timeNow : IO String := do
  let now ← Std.Time.Timestamp.now
  return (Std.Time.DateTime.ofTimestamp now .UTC).format "uuuu-MM-dd'T'HH:mm:ss.SSSSSS'Z'"

/-- Puts out one piece of an outcome. -/
def put (output : Output) : IO Unit := do
  match output with
  | .makeDirectory path => IO.FS.createDirAll path
  | .print text =>
    IO.print text
    (← IO.getStdout).flush
  | .complain text => IO.eprint text
  | .tell event => IO.eprint (event.line (← timeNow))

/-- Runs the program and gives its exit code. -/
def run (arguments : List String) : IO UInt32 := do
  let environment := environmentOf (← IO.FS.readBinFile "/proc/self/environ")
  let input ← if wantsSession arguments then readAll (← IO.getStdin) else pure .empty
  let paths := (readPaths arguments environment input).flatMap pathsOnTheWay
  let files ← (paths.filter (· != "")).foldlM addPath ⟨[], []⟩
  let outcome := Invocation.run { arguments, environment, files, input }
  outcome.outputs.forM put
  return outcome.code.toUInt32

end ScriptSteps.Main

def main (arguments : List String) : IO UInt32 := ScriptSteps.Main.run arguments
