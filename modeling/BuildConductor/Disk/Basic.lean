import BuildConductor.KeyMap
import BuildConductor.Path

/-! Files and directories.

A disk is a tree of directories with files in them, and a current directory. A
location is the list of names from the root down to a file or directory. Links,
permissions and a lack of space do not occur. -/
namespace BuildConductor

inductive Node where
  | file (bytes : ByteArray)
  | directory (entries : List (SystemText × Node))

abbrev Location := List SystemText

/-- A list of entries in which a name has a new one: in the place of the one that it had, or
else behind all others. -/
def setEntry (name : SystemText) (new : Node) :
    List (SystemText × Node) → List (SystemText × Node)
  | [] => [(name, new)]
  | entry :: rest =>
    if entry.1 = name then (name, new) :: rest else entry :: setEntry name new rest

theorem valueAt?_setEntry (name other : SystemText) (new : Node)
    (entries : List (SystemText × Node)) :
    valueAt? other (setEntry name new entries) =
      if name = other then some new else valueAt? other entries := by
  induction entries with
  | nil => rw [setEntry, valueAt?_cons]
  | cons entry rest ih =>
    rw [setEntry, valueAt?_cons other entry]
    split
    · rename_i hname
      rw [valueAt?_cons, hname]
      split
      · rfl
      · rfl
    · rename_i hname
      rw [valueAt?_cons, ih]
      by_cases hother : entry.1 = other
      · rw [if_pos hother, if_pos hother, if_neg (fun heq => hname (hother.trans heq.symm))]
      · rw [if_neg hother, if_neg hother]

namespace Node

def isDirectory : Node → Bool
  | .file _ => false
  | .directory _ => true

/-- The entries of a directory; a file has none. -/
def entries : Node → List (SystemText × Node)
  | .file _ => []
  | .directory entries => entries

/-- The entry of a name. -/
def child? (node : Node) (name : SystemText) : Option Node :=
  valueAt? name node.entries

/-- What is found below a node. -/
def lookup? (node : Node) : Location → Option Node
  | [] => some node
  | name :: rest =>
    match node.child? name with
    | none => none
    | some child => child.lookup? rest

/-- The node with something put at a location. Its directory has to be there;
what was there before is replaced. -/
def put (node : Node) (new : Node) : Location → Node
  | [] => new
  | name :: rest =>
    match node with
    | .file bytes => .file bytes
    | .directory entries =>
      match node.child? name, rest with
      | some child, rest => .directory (setEntry name (child.put new rest) entries)
      | none, [] => .directory (setEntry name new entries)
      | none, _ :: _ => node

/-- The node without what is at a location below it. -/
def erase (node : Node) : Location → Node
  | [] => node
  | [name] =>
    match node with
    | .file bytes => .file bytes
    | .directory entries => .directory (entries.filter fun entry => entry.1 != name)
  | name :: next :: rest =>
    match node with
    | .file bytes => .file bytes
    | .directory entries =>
      match node.child? name with
      | some child => .directory (setEntry name (child.erase (next :: rest)) entries)
      | none => node

mutual

/-- Everything below a node, as texts that begin with the given one. Directories
end in a slash. -/
def paths (start : String) : Node → List String
  | .file _ => []
  | .directory entries => pathsOfEntries start entries

def pathsOfEntries (start : String) : List (SystemText × Node) → List String
  | [] => []
  | (name, .file _) :: rest => (start ++ name.text) :: pathsOfEntries start rest
  | (name, .directory entries) :: rest =>
    (start ++ name.text ++ "/") ::
      (pathsOfEntries (start ++ name.text ++ "/") entries ++ pathsOfEntries start rest)

end

end Node

structure Disk where
  root : List (SystemText × Node)
  /-- Where relative paths start. -/
  current : Location

namespace Disk

/-- What is at a location. -/
def lookup? (disk : Disk) (location : Location) : Option Node :=
  (Node.directory disk.root).lookup? location

/-- The disk with something put at a location below its root. -/
def put (disk : Disk) (location : Location) (new : Node) : Disk :=
  {disk with root := ((Node.directory disk.root).put new location).entries}

/-- The disk without what is at a location below its root. -/
def erase (disk : Disk) (location : Location) : Disk :=
  {disk with root := ((Node.directory disk.root).erase location).entries}

/-- The current directory as a path. -/
def currentPath (disk : Disk) : Path :=
  ⟨⟨Path.slash :: [Path.slash].intercalate (disk.current.map SystemText.bytes)⟩⟩

end Disk

end BuildConductor
