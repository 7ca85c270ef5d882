import BuildConductor.ConfigFile

/-! Writing the ready-made documents into a directory. Files that are there are
kept. -/
namespace BuildConductor

/-- The files that were written, and the ones that were there. -/
structure PresetFiles where
  created : List Path
  skipped : List Path
deriving DecidableEq, Repr

namespace PresetFiles
variable {ε π : Type}

/-- Writes the file of a preset unless something is there, and says whether it
did. -/
def create (path : Path) (preset : Preset) : Task ε π FileError Bool := do
  if ← Task.inspect fun disk => disk.contains path then
    Task.trace s!"{path.text} exists, not overwriting"
    pure false
  else
    preset.document.save path
    pure true

/-- Writes the files of presets in order. -/
def createEach (dir : Path) : List Preset → PresetFiles → Task ε π FileError PresetFiles
  | [], files => pure files
  | preset :: rest, files => do
    let path := dir.join ⟨preset.fileName⟩
    let isNew ← create path preset
    createEach dir rest
      (if isNew then {files with created := files.created ++ [path]}
      else {files with skipped := files.skipped ++ [path]})

def createAll (dir : Path) : Task ε π FileError PresetFiles :=
  createEach dir Preset.all ⟨[], []⟩

end PresetFiles

end BuildConductor
