import BuildConductor.Text.Utf8

/-! Paths.

A path is kept as the bytes that it was given as, since the system takes any; it is shown as
the text that they are, as far as they are one. Its names are what lies between slashes; a
single dot says nothing except at the very front, and nothing is known here of what two dots
lead to. -/
namespace BuildConductor

/-- A text as the system takes it: bytes, of which nothing is asked. -/
structure SystemText where
  bytes : List UInt8
deriving DecidableEq, Repr, Inhabited

namespace SystemText

def ofText (text : String) : SystemText :=
  ⟨Text.utf8Bytes text.toList⟩

instance : Coe String SystemText := ⟨ofText⟩

/-- What is shown of it. This is another text for the system, unless the bytes are a text. -/
def text (s : SystemText) : String :=
  String.ofList (Text.shownBytes s.bytes)

end SystemText

/-- A path, with the bytes that it is handed to the system with. -/
structure Path where
  ofSystem ::
  raw : SystemText
deriving DecidableEq, Repr, Inhabited

namespace Path

/-- The path that a text says. -/
def mk (text : String) : Path :=
  ⟨text⟩

def bytes (p : Path) : List UInt8 :=
  p.raw.bytes

@[simp]
theorem bytes_ofSystem (cs : List UInt8) : (ofSystem ⟨cs⟩).bytes = cs :=
  rfl

@[simp]
theorem ofSystem_bytes (p : Path) : ofSystem ⟨p.bytes⟩ = p :=
  rfl

/-- The path as it is shown. -/
def text (p : Path) : String :=
  p.raw.text

@[match_pattern] abbrev slash : UInt8 := 0x2F

@[match_pattern] abbrev dot : UInt8 := 0x2E

def isAbsoluteList (cs : List UInt8) : Bool :=
  cs.head? == some slash

def isAbsolute (p : Path) : Bool :=
  isAbsoluteList p.bytes

/-- The pieces of a path between slashes, empty ones included. -/
def splitSlashes : List UInt8 → List (List UInt8)
  | [] => [[]]
  | c :: rest =>
    if c = slash then [] :: splitSlashes rest
    else match splitSlashes rest with
      | [] => [[c]]
      | piece :: more => (c :: piece) :: more

/-- The names of a path, without empty ones and without single dots. -/
def names (cs : List UInt8) : List (List UInt8) :=
  (splitSlashes cs).filter fun name => !name.isEmpty && name != [dot]

/-- A path with another put behind it: after a slash, unless there is one already
or nothing stands before it; an absolute one replaces it. -/
def joinList (base more : List UInt8) : List UInt8 :=
  if isAbsoluteList more then more
  else if base.isEmpty || base.getLast? == some slash then base ++ more
  else base ++ slash :: more

/-- A path seen from a directory. -/
def join (base more : Path) : Path :=
  ⟨⟨joinList base.bytes more.bytes⟩⟩

/-- Why a path cannot be made absolute. -/
inductive AbsoluteError where
  | emptyPath
deriving DecidableEq, Repr

def AbsoluteError.message : AbsoluteError → String
  | .emptyPath => "cannot make an empty path absolute"

/-- What an absolute path starts with: two slashes mean something of their own, any
other number means one. -/
def absoluteStart (cs : List UInt8) : List UInt8 :=
  match cs with
  | slash :: slash :: slash :: _ => [slash]
  | slash :: slash :: _ => [slash, slash]
  | _ => [slash]

/-- A path without empty names and single dots, put behind the current directory
if it is relative. Two dots stay, and so does a slash at the end. -/
def absoluteList (current cs : List UInt8) : List UInt8 :=
  let start := if isAbsoluteList cs then absoluteStart cs else current
  let path := (names cs).foldl joinList start
  if cs.getLast? == some slash then joinList path [] else path

def absolute (current p : Path) : Except AbsoluteError Path :=
  if p.bytes.isEmpty then .error .emptyPath
  else .ok ⟨⟨absoluteList current.bytes p.bytes⟩⟩

/-- A path without the slashes, and the single dots after a slash, at its end.
The path is given and taken backwards. -/
def dropTrailing : List UInt8 → List UInt8
  | [] => []
  | [dot] => [dot]
  | slash :: rest => dropTrailing rest
  | dot :: slash :: rest => dropTrailing rest
  | rest => rest

/-- The path of the directory that holds what a path names; nothing holds the
root or the empty path. -/
def parentList? (cs : List UInt8) : Option (List UInt8) :=
  let body := dropTrailing cs.reverse
  if body.isEmpty then none
  else
    let before := body.dropWhile fun c => c != slash
    let parent := (dropTrailing before).reverse
    if parent.isEmpty && isAbsoluteList cs then some [slash] else some parent

def parent? (p : Path) : Option Path :=
  (parentList? p.bytes).map fun cs => ⟨⟨cs⟩⟩

end Path

end BuildConductor
