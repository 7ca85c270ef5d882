import BuildConductor.Program.Build
import BuildConductor.Program.Config
import BuildConductor.Rehearsal.Toolbox

/-! The command line.

The first argument names the program, and the others are its own. It works on the
current directory and all that is below it; what lies elsewhere is not seen. No
command is started here: a build ends at the first tool that it misses. Answers
are read to the end of the input as soon as there is a question. -/
namespace BuildConductor

/-- Files and directories with everything in them, by their names. -/
partial def load (found : List IO.FS.DirEntry) : IO (List (SystemText × Node)) := do
  match found with
  | [] => return []
  | entry :: rest =>
    let more ← load rest
    if ← entry.path.isDir then
      let below ← load (← entry.path.readDir).toList
      return setEntry entry.fileName (.directory below) more
    else if ← entry.path.pathExists then
      return setEntry entry.fileName (.file (← IO.FS.readBinFile entry.path)) more
    else return more

/-- Makes what is at a path what it has become. -/
partial def store (path : String) (before after : Option Node) : IO Unit := do
  match before, after with
  | none, none => pure ()
  | some (.directory _), none => IO.FS.removeDirAll path
  | some (.file _), none => IO.FS.removeFile path
  | some (.file old), some (.file new) => if old != new then IO.FS.writeBinFile path new
  | _, some (.file new) => IO.FS.writeBinFile path new
  | before, some (.directory entries) =>
    let old := (before.map Node.entries).getD []
    if before.isNone then IO.FS.createDir path
    for name in (old ++ entries).map Prod.fst do
      store (path ++ "/" ++ name.text) ((Node.directory old).child? name)
        ((Node.directory entries).child? name)

/-- The directory at a location, inside nothing but the way to it. -/
def directoryAt (entries : List (SystemText × Node)) : Location → List (SystemText × Node)
  | [] => entries
  | name :: rest => [(name, .directory (directoryAt entries rest))]

/-- The values of the variables that a program looks up. -/
def readVariables (names : List String) : IO (List (String × String)) := do
  let mut found : List (String × String) := []
  for name in names do
    if let some value ← IO.getEnv name then
      found := (name, value) :: found
  return found

/-- Whether a question was asked. -/
def Event.isQuestion : Event → Bool
  | .asked _ _ => true
  | _ => false

/-- Reads an input to its end. -/
partial def readInput (input : IO.FS.Stream) (read : ByteArray) : IO ByteArray := do
  let more ← input.read 4096
  if more.isEmpty then return read else readInput input (read ++ more)

def runProgram {σ : Type} (program : Program σ)
    (act : σ → Task Toolbox Terminal Failure Unit) (arguments : List String) : IO UInt32 := do
  let directory ← IO.currentDir
  let here := directory.toString
  let current := Disk.steps ⟨here⟩
  let disk : Disk := ⟨directoryAt (← load (← directory.readDir).toList) current, current⟩
  let found ← readVariables (program.parameters.filterMap fun p => p.environment)
  let run (answers : List UInt8) : Finish Toolbox Terminal :=
    program.run act arguments (fun name => (found.find? fun v => v.1 == name).map Prod.snd)
      false ⟨0⟩ ⟨Toolbox.executor, terminalPrompter⟩ ⟨disk, ⟨⟨"/"⟩, [], []⟩, ⟨answers, ""⟩, []⟩
  let first := run []
  let finish ←
    if first.world.log.any Event.isQuestion then
      pure (run (← readInput (← IO.getStdin) .empty).toList)
    else pure first
  store here (disk.lookup? current) (finish.world.disk.lookup? current)
  IO.print finish.streams.out
  IO.eprint finish.streams.err
  return finish.ending.exitCode.toUInt32

/-- The machine that plans are made for. -/
def thisMachine : Machine := .ofProcessors .linux none

end BuildConductor

open BuildConductor in
def main (arguments : List String) : IO UInt32 := do
  match arguments with
  | "utk-build" :: rest => runProgram buildProgram (BuildOptions.act thisMachine) rest
  | "utk-config" :: rest => runProgram configProgram ConfigOptions.act rest
  | _ =>
    IO.eprintln "the first argument has to be utk-build or utk-config"
    return 2
