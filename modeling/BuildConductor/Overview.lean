import BuildConductor.Document.Basic

/-! A document for human eyes. -/
namespace BuildConductor

namespace Document

def mark (b : Bool) : String :=
  if b then "✓" else "✗"

def moduleLine (name : String) (m : ModuleSwitches) : String :=
  s!"  {name}: {mark m.enabled} (tests: {mark m.tests}, examples: {mark m.examples})\n"

def dependencyLine (name : String) (d : DependencySwitches) : String :=
  s!"  {name}: {mark d.enabled}\n"

/-- Lines under a title, or a word that there are none. -/
def overviewSection (title : String) (lines : List String) : String :=
  "\n" ++ title ++ ":\n" ++ if lines.isEmpty then "  (none)\n" else String.join lines

/-- What a document says, on a machine of some platform with the generator that is
usual there. -/
def overview (doc : Document) (host : Platform) (generator : Generator) : String :=
  "Build configuration:\n" ++
  s!"  platform:   {doc.platform.text} (detected: {host.name})\n" ++
  s!"  build type: {doc.buildType}\n" ++
  s!"  generator:  {generator.name} (CMake default unless --generator is given)\n" ++
  overviewSection "Modules"
    (doc.modules.entries.map fun entry => moduleLine entry.1 entry.2) ++
  overviewSection "Third-party libraries"
    (doc.dependencies.entries.map fun entry => dependencyLine entry.1 entry.2)

end Document

end BuildConductor
