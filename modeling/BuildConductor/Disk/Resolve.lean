import BuildConductor.Disk.Basic

/-! What a path names on a disk.

Every name but the last has to be a directory. Single dots stay where they are,
two dots go up, and the root is above itself. The last name need not exist. -/
namespace BuildConductor

/-- Why the system refuses. -/
inductive SystemError where
  | notFound
  | busy
  | alreadyExists
  | notDirectory
  | isDirectory
  | invalidArgument
  | nameTooLong
  | notEmpty
  /-- The path cannot be handed to the system. -/
  | nulInPath
deriving DecidableEq, Repr

/-- The message and the number of an error. -/
def SystemError.message : SystemError → String
  | .notFound => "No such file or directory (os error 2)"
  | .busy => "Device or resource busy (os error 16)"
  | .alreadyExists => "File exists (os error 17)"
  | .notDirectory => "Not a directory (os error 20)"
  | .isDirectory => "Is a directory (os error 21)"
  | .invalidArgument => "Invalid argument (os error 22)"
  | .nameTooLong => "File name too long (os error 36)"
  | .notEmpty => "Directory not empty (os error 39)"
  | .nulInPath => "file name contained an unexpected NUL byte"

/-- How a directory is named where its own name is not the last of a path. -/
inductive Dots where
  /-- As the root, or as the directory that a path starts from. -/
  | start
  | single
  | double
deriving DecidableEq, Repr

/-- What a path names. -/
inductive Target where
  /-- A directory that is not named by its name. -/
  | dots (location : Location) (dots : Dots)
  /-- A file or directory that is there. -/
  | present (location : Location) (node : Node)
  /-- A name that is free in a directory. -/
  | free (location : Location)

namespace Disk

/-- The longest name, in bytes. -/
def longestName : Nat := 255

/-- The longest path, in bytes. -/
def longestPath : Nat := 4095

/-- What the entry of a name in a directory is. -/
def entry? (disk : Disk) (directory : Location) (name : SystemText) :
    Except SystemError (Option Node) :=
  if longestName < name.bytes.length then .error .nameTooLong
  else .ok (disk.lookup? (directory ++ [name]))

/-- From one directory to another, name by name. -/
def walk (disk : Disk) (directory : Location) : List SystemText → Except SystemError Location
  | [] => .ok directory
  | name :: rest =>
    if name = "." then disk.walk directory rest
    else if name = ".." then disk.walk directory.dropLast rest
    else
      match disk.entry? directory name with
      | .error e => .error e
      | .ok none => .error .notFound
      | .ok (some (.file _)) => .error .notDirectory
      | .ok (some (.directory _)) => disk.walk (directory ++ [name]) rest

/-- The names of a path, dots included. -/
def steps (path : Path) : List SystemText :=
  ((Path.splitSlashes path.bytes).filter fun name => !name.isEmpty).map SystemText.mk

/-- Where a path starts. -/
def start (disk : Disk) (path : Path) : Except SystemError Location :=
  if path.isAbsolute then .ok []
  else
    match disk.lookup? disk.current with
    | some (.directory _) => .ok disk.current
    | _ => .error .notFound

/-- What the last name of a path names in its directory. -/
def target (disk : Disk) (directory : Location) (last : SystemText) : Except SystemError Target :=
  if last = "." then .ok (.dots directory .single)
  else if last = ".." then .ok (.dots directory.dropLast .double)
  else
    match disk.entry? directory last with
    | .error e => .error e
    | .ok (some node) => .ok (.present (directory ++ [last]) node)
    | .ok none => .ok (.free (directory ++ [last]))

/-- The directory that the last name of a path is looked up in, and that name if
there is one. -/
def approach (disk : Disk) (path : Path) : Except SystemError (Location × Option SystemText) :=
  if path.bytes.contains 0 then .error .nulInPath
  else if path.bytes.isEmpty then .error .notFound
  else if longestPath < path.bytes.length then .error .nameTooLong
  else
    match disk.start path with
    | .error e => .error e
    | .ok location =>
      match disk.walk location (steps path).dropLast with
      | .error e => .error e
      | .ok directory => .ok (directory, (steps path).getLast?)

/-- What a path names. -/
def resolve (disk : Disk) (path : Path) : Except SystemError Target :=
  match disk.approach path with
  | .error e => .error e
  | .ok (directory, none) => .ok (.dots directory .start)
  | .ok (directory, some last) => disk.target directory last

/-- Whether a path ends in a slash, so that it can only name a directory. -/
def endsInSlash (path : Path) : Bool :=
  path.bytes.getLast? == some Path.slash

/-- The file or directory that a path names. -/
def stat (disk : Disk) (path : Path) : Except SystemError (Location × Node) :=
  match disk.resolve path with
  | .error e => .error e
  | .ok (.free _) => .error .notFound
  | .ok (.dots location _) =>
    match disk.lookup? location with
    | some node => .ok (location, node)
    | none => .error .notFound
  | .ok (.present location node) =>
    if endsInSlash path && !node.isDirectory then .error .notDirectory else .ok (location, node)

def contains (disk : Disk) (path : Path) : Bool :=
  (disk.stat path).toOption.isSome

def isDirectory (disk : Disk) (path : Path) : Bool :=
  match disk.stat path with
  | .ok (_, .directory _) => true
  | _ => false

end Disk

end BuildConductor
