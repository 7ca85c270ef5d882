import BuildConductor.Document.Reader
import BuildConductor.Document.Writer
import BuildConductor.Preset
import BuildConductor.Task

/-! Configuration files.

A file that does not exist stands for the standard document, and nothing is
written. A file that exists has to hold a document. -/
namespace BuildConductor

/-- A text that is no document, with the part of it where that shows. -/
structure FormatError where
  path : Path
  text : String
  fault : Json.Fault

namespace FormatError

/-- What is wrong, and at which line and column. -/
def detail (e : FormatError) : String :=
  e.fault.message e.text.toList

def message (e : FormatError) : String :=
  s!"malformed configuration file `{e.path.text}`: {e.detail}"

def span (e : FormatError) : Json.Span :=
  (e.fault.place e.text.toList).spanIn e.text.toList

/-- The word that stands at the span. -/
def label : String := "here"

def code : String := "utoolkit::config::format"

def help : String :=
  "fix the JSON or regenerate the presets with `utk-config --create-configs`"

end FormatError

/-- Why the bytes of a file cannot be had as text. -/
inductive ReadFault where
  | system (e : SystemError)
  | notText
deriving DecidableEq, Repr

def ReadFault.message : ReadFault → String
  | .system e => e.message
  | .notText => "stream did not contain valid UTF-8"

inductive ConfigError where
  | format (e : FormatError)
  | read (path : Path) (fault : ReadFault)

namespace ConfigError

def code : ConfigError → String
  | .format _ => FormatError.code
  | .read _ _ => "utoolkit::config::read"

/-- What failed; why a file could not be read is not part of it. -/
def summary : ConfigError → String
  | .format e => e.message
  | .read path _ => s!"failed to read configuration file `{path.text}`"

end ConfigError

/-- Where a document came from. -/
inductive DocumentSource where
  | file
  /-- The standard document, where there was no file. -/
  | builtin
deriving DecidableEq, Repr

/-- The text of a file. -/
def Disk.readText (disk : Disk) (path : Path) : Except ReadFault String :=
  match disk.readFile path with
  | .error e => .error (.system e)
  | .ok bytes =>
    match String.fromUTF8? bytes with
    | some text => .ok text
    | none => .error .notText

namespace Document

/-- The document that a text holds. The path is named in errors. -/
def parse (text : String) (path : Path) : Except FormatError Document :=
  (Document.read text).mapError fun fault => ⟨path, text, fault⟩

variable {ε π : Type}

/-- The document of a file, or the standard one where there is no file. -/
def load (path : Path) : Task ε π ConfigError (Document × DocumentSource) := do
  match ← Task.inspect fun disk => disk.readText path with
  | .error (.system .notFound) =>
    Task.trace s!"configuration file {path.text} does not exist, using built-in defaults"
    pure (standard, .builtin)
  | .error fault => Task.fail (.read path fault)
  | .ok text =>
    match parse text path with
    | .error e => Task.fail (.format e)
    | .ok doc =>
      Task.trace s!"loaded configuration from {path.text}"
      pure (doc, .file)

/-- Writes a document to a file in place of what was there. -/
def save (path : Path) (doc : Document) : Task ε π FileError Unit :=
  Task.onDisk fun disk => disk.writeText path doc.write

end Document

end BuildConductor
