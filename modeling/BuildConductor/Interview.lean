import BuildConductor.Failure

/-! Making a document by asking.

The build type is asked for first, then every module of the project, then every
third-party library. Details are asked only about what is enabled. -/
namespace BuildConductor

namespace Interview

/-- The file name that is meant by an empty answer. -/
def defaultFileName : String := "build_config_custom.json"

/-- How the name of a configuration file ends. -/
def fileEnding : String := ".json"

def buildTypeQuestion : String :=
  "Build type [" ++ String.intercalate "/" (BuildType.all.map BuildType.name) ++ "] (default: " ++
    BuildType.release.name ++ "): "

def fileNameQuestion : String :=
  "Save configuration as (default: " ++ defaultFileName ++ "): "

def testsQuestion (name : String) : String :=
  s!"  Build {name} tests?"

def examplesQuestion (name : String) : String :=
  s!"  Build {name} examples?"

variable {ε π : Type}

/-- The build type of an answer; anything unknown means a release. -/
def askBuildType : Task ε π PromptError BuildType := do
  let answer ← Task.ask buildTypeQuestion
  pure ((BuildType.ofName? answer).getD .release)

def askModule (name : String) : Task ε π PromptError ModuleSwitches := do
  if ← Task.confirm s!"Enable the {name} module?" true then
    let tests ← Task.confirm (testsQuestion name) false
    let examples ← Task.confirm (examplesQuestion name) true
    pure ⟨true, tests, examples⟩
  else
    pure .disabled

def askDependency (name : String) : Task ε π PromptError DependencySwitches := do
  if ← Task.confirm s!"Enable {name}?" true then
    let examples ← Task.confirm (examplesQuestion name) true
    let tests ← Task.confirm (testsQuestion name) true
    pure (.ofFlags true examples tests)
  else
    pure (.ofFlags false false false)

/-- What is asked about every name of a list. -/
def askAll {α : Type} (about : String → Task ε π PromptError α) :
    List String → Task ε π PromptError (List (String × α))
  | [] => pure []
  | name :: rest => do
    let a ← about name
    let more ← askAll about rest
    pure ((name, a) :: more)

/-- The document of all answers. Tests and examples are built if any module wants
them. -/
def documentOf (buildType : BuildType) (modules : List (String × ModuleSwitches))
    (dependencies : List (String × DependencySwitches)) : Document :=
  { Document.empty with
    buildType := buildType.name
    modules := .ofList modules
    dependencies := .ofList dependencies
    options := baselineOptions
      (modules.any fun entry => entry.2.wantsTests)
      (modules.any fun entry => entry.2.wantsExamples) }

/-- Asks for everything that a document needs. -/
def askDocument : Task ε π PromptError Document := do
  let buildType ← askBuildType
  let modules ← askAll askModule projectModules
  let dependencies ← askAll askDependency projectDependencies
  pure (documentOf buildType modules dependencies)

/-- The file name of an answer, with the ending that it needs. -/
def fileName (answer : String) : String :=
  let name := if answer.isEmpty then defaultFileName else answer
  if fileEnding.toList.isSuffixOf name.toList then name else name ++ fileEnding

def askFileName : Task ε π PromptError String := do
  let answer ← Task.ask fileNameQuestion
  pure (fileName answer)

/-- Asks for a document and where to put it, and saves it in a directory. -/
def run (dir : Path) : Task ε π Failure Path := do
  let doc ← askDocument.mapError .prompt
  let name ← askFileName.mapError .prompt
  let path := dir.join ⟨name⟩
  (doc.save path).mapError .file
  Task.trace s!"saved interactive configuration to {path.text}"
  pure path

end Interview

end BuildConductor
