import BuildConductor.Disk.Resolve

/-! Reading and changing files and directories.

An operation that fails may have changed something on its way, so each of them
gives back the disk together with its result. -/
namespace BuildConductor.Disk

/-- What an operation says, and the disk after it. -/
abbrev Outcome (α : Type) := Except SystemError α × Disk

/-- The bytes of a file. -/
def readFile (disk : Disk) (path : Path) : Except SystemError ByteArray :=
  match disk.stat path with
  | .error e => .error e
  | .ok (_, .directory _) => .error .isDirectory
  | .ok (_, .file bytes) => .ok bytes

/-- A file with these bytes and nothing else, at a place where there is a file or
nothing. A path that ends in a slash can only name a directory. -/
def writeFile (disk : Disk) (path : Path) (bytes : ByteArray) : Outcome Unit :=
  match disk.approach path with
  | .error e => (.error e, disk)
  | .ok _ =>
    if endsInSlash path then (.error .isDirectory, disk)
    else
      match disk.resolve path with
      | .error e => (.error e, disk)
      | .ok (.dots _ _) | .ok (.present _ (.directory _)) => (.error .isDirectory, disk)
      | .ok (.present location (.file _)) | .ok (.free location) =>
        (.ok (), disk.put location (.file bytes))

/-- An empty directory at a place where there is nothing. -/
def makeDirectory (disk : Disk) (path : Path) : Outcome Unit :=
  match disk.resolve path with
  | .error e => (.error e, disk)
  | .ok (.dots _ _) | .ok (.present _ _) => (.error .alreadyExists, disk)
  | .ok (.free location) => (.ok (), disk.put location (.directory []))

/-- A path, the path of its directory, of the directory of that, and so on. -/
def ancestors (cs : List UInt8) : List (List UInt8) :=
  cs ::
    match Path.parentList? cs with
    | none => []
    | some parent => if _h : parent.length < cs.length then ancestors parent else []
termination_by cs.length

/-- The first directory of a list of paths, after the others where it needs them.
A directory that is there already will do. -/
def makeFirst (disk : Disk) : List Path → Outcome Unit
  | [] => (.ok (), disk)
  | path :: above =>
    if path.bytes.isEmpty then (.ok (), disk)
    else
      match disk.makeDirectory path with
      | (.ok (), disk) => (.ok (), disk)
      | (.error .notFound, _) =>
        match disk.makeFirst above with
        | (.error e, disk) => (.error e, disk)
        | (.ok (), disk) =>
          match disk.makeDirectory path with
          | (.ok (), disk) => (.ok (), disk)
          | (.error e, disk) => if disk.isDirectory path then (.ok (), disk) else (.error e, disk)
      | (.error e, disk) => if disk.isDirectory path then (.ok (), disk) else (.error e, disk)

/-- A directory together with all directories on the way to it. -/
def makeDirectories (disk : Disk) (path : Path) : Outcome Unit :=
  disk.makeFirst ((ancestors path.bytes).map fun cs => ⟨⟨cs⟩⟩)

/-- An empty directory at a location, whatever was below it. -/
def clear (disk : Disk) (location : Location) : Disk :=
  match location with
  | [] => {disk with root := []}
  | _ => disk.put location (.directory [])

/-- Why a directory cannot be removed that is not named by its name. -/
def dotsError : Dots → SystemError
  | .start => .busy
  | .single => .invalidArgument
  | .double => .notEmpty

/-- Removal of a directory and everything below it. What is below goes first, and
so is gone also where the directory itself cannot be named for removal. Where the
way to it led through what is gone, the directory stays, empty. -/
def removeTree (disk : Disk) (path : Path) : Outcome Unit :=
  match disk.resolve path with
  | .error e => (.error e, disk)
  | .ok (.free _) => (.error .notFound, disk)
  | .ok (.present _ (.file _)) => (.error .notDirectory, disk)
  | .ok (.present location (.directory _)) =>
    let cleared := disk.clear location
    match cleared.resolve path with
    | .error _ => (.ok (), cleared)
    | .ok _ => (.ok (), disk.erase location)
  | .ok (.dots location dots) =>
    let cleared := disk.clear location
    match cleared.resolve path with
    | .error _ => (.ok (), cleared)
    | .ok _ => (.error (dotsError dots), cleared)

/-- Removal of a file. -/
def removeFile (disk : Disk) (path : Path) : Outcome Unit :=
  match disk.resolve path with
  | .error e => (.error e, disk)
  | .ok (.free _) => (.error .notFound, disk)
  | .ok (.dots _ _) | .ok (.present _ (.directory _)) => (.error .isDirectory, disk)
  | .ok (.present location (.file _)) =>
    if endsInSlash path then (.error .notDirectory, disk) else (.ok (), disk.erase location)

end BuildConductor.Disk

namespace BuildConductor

/-- What was to be done with a file or directory. -/
inductive FileAction where
  | removeDirectory
  | createDirectory
  | writeFile
deriving DecidableEq, Repr

def FileAction.message : FileAction → String
  | .removeDirectory => "failed to remove directory"
  | .createDirectory => "failed to create directory"
  | .writeFile => "failed to write file"

/-- Something that could not be done with a file or directory. -/
structure FileError where
  action : FileAction
  path : Path
  cause : SystemError
deriving DecidableEq, Repr

def FileError.message (e : FileError) : String :=
  s!"{e.action.message}: {e.path.text}: {e.cause.message}"

namespace Disk

/-- Removes a directory if anything is there, and says whether it did. -/
def removeIfExists (disk : Disk) (path : Path) : Except FileError Bool × Disk :=
  if disk.contains path then
    match disk.removeTree path with
    | (.ok (), disk) => (.ok true, disk)
    | (.error cause, disk) => (.error ⟨.removeDirectory, path, cause⟩, disk)
  else
    (.ok false, disk)

/-- Creates a directory unless something is there. -/
def ensureDirectory (disk : Disk) (path : Path) : Except FileError Unit × Disk :=
  if disk.contains path then (.ok (), disk)
  else
    match disk.makeDirectories path with
    | (.ok (), disk) => (.ok (), disk)
    | (.error cause, disk) => (.error ⟨.createDirectory, path, cause⟩, disk)

/-- The directory that a file is to be written into, if its path names one. -/
def ensureParent (disk : Disk) (path : Path) : Except FileError Unit × Disk :=
  match path.parent? with
  | none => (.ok (), disk)
  | some parent => if parent.bytes.isEmpty then (.ok (), disk) else disk.ensureDirectory parent

/-- Writes a file, after the directories on the way to it. -/
def writeText (disk : Disk) (path : Path) (text : String) : Except FileError Unit × Disk :=
  match disk.ensureParent path with
  | (.error e, disk) => (.error e, disk)
  | (.ok (), disk) =>
    match disk.writeFile path text.toUTF8 with
    | (.ok (), disk) => (.ok (), disk)
    | (.error cause, disk) => (.error ⟨.writeFile, path, cause⟩, disk)

end Disk

end BuildConductor
