import BuildConductor.Command.Basic
import BuildConductor.Document.Basic

/-! The plan of a build.

Planning depends on a document and on settings alone: it lists the commands that
configure, build and test a source tree, and the one that installs it. Every
path in a plan is absolute where the settings are. -/
namespace BuildConductor

/-- The tool that configures, builds and installs. -/
def buildTool : String := "cmake"

/-- The tool that runs tests. -/
def testTool : String := "ctest"

/-- How many jobs run in parallel where the number of processors is unknown. -/
def fallbackJobs : Nat := 4

inductive StepKind where
  | configure
  | build
  | test
  | install
deriving DecidableEq, Repr

def StepKind.name : StepKind → String
  | .configure => "configure"
  | .build => "build"
  | .test => "test"
  | .install => "install"

/-- What the failure of a step means for the steps after it. -/
inductive FailurePolicy where
  | abort
  /-- The failure is reported and the run goes on. -/
  | report
deriving DecidableEq, Repr

/-- Failing tests do not stop a run. -/
def StepKind.policy : StepKind → FailurePolicy
  | .test => .report
  | _ => .abort

structure Step where
  kind : StepKind
  command : Command
  policy : FailurePolicy
deriving DecidableEq, Repr

/-- What a plan depends on besides the document. -/
structure Settings where
  host : Platform
  sourceDir : Path
  buildDir : Path
  jobs : Nat
  generator : Option String
deriving DecidableEq, Repr

/-- At least one job runs. -/
def Settings.withJobs (settings : Settings) (jobs : Nat) : Settings :=
  {settings with jobs := max 1 jobs}

structure Plan where
  platform : Platform
  buildType : String
  pipeline : List Step
  install : Step
  buildDir : Path
deriving DecidableEq, Repr

/-- The step of a kind, if the plan has it. -/
def Plan.step? (plan : Plan) (kind : StepKind) : Option Step :=
  if kind = .install then some plan.install
  else plan.pipeline.find? fun step => step.kind = kind

/-- A definition on the command line of the build tool. -/
def definition (flag value : String) : String :=
  "-D" ++ flag ++ "=" ++ value

/-- The flag that switches a third-party library. -/
def dependencyFlag (name : String) : String :=
  projectFlagStart ++ "_ENABLE_" ++ Text.upper name

namespace Document

/-- The definitions of a document: its options, then its libraries, then its
modules. -/
def definitions (doc : Document) : List String :=
  doc.options.entries.map (fun entry => definition entry.1 entry.2.render) ++
  doc.dependencies.entries.map
    (fun entry => definition (dependencyFlag entry.1) (onOff entry.2.enabled)) ++
  doc.moduleFlags.map fun flag => definition flag.1 (onOff flag.2)

end Document

/-- A path as an argument of a command. Arguments are texts, so it is the path as it is shown. -/
def pathArgument (path : Path) : String :=
  path.text

namespace Settings

def configureCommand (settings : Settings) (doc : Document) : Command where
  program := buildTool
  args :=
    ["-S", pathArgument settings.sourceDir, "-B", pathArgument settings.buildDir] ++
    (match settings.generator with
      | some generator => ["-G", generator]
      | none => []) ++
    definition "CMAKE_BUILD_TYPE" doc.effectiveBuildType :: doc.definitions

def buildCommand (settings : Settings) (buildType : String) : Command :=
  ⟨buildTool, ["--build", pathArgument settings.buildDir, "--config", buildType, "--parallel",
    toString settings.jobs]⟩

def testCommand (settings : Settings) : Command :=
  ⟨testTool, ["--output-on-failure", "-j", toString settings.jobs]⟩

def installCommand (settings : Settings) : Command :=
  ⟨buildTool, ["--install", pathArgument settings.buildDir]⟩

end Settings

def Step.ofKind (kind : StepKind) (command : Command) : Step :=
  ⟨kind, command, kind.policy⟩

/-- The plan for a document. -/
def Document.plan (doc : Document) (settings : Settings) : Plan where
  platform := doc.platform.resolve settings.host
  buildType := doc.effectiveBuildType
  pipeline :=
    [.ofKind .configure (settings.configureCommand doc),
      .ofKind .build (settings.buildCommand doc.effectiveBuildType)] ++
    if doc.testsEnabled then [.ofKind .test settings.testCommand] else []
  install := .ofKind .install settings.installCommand
  buildDir := settings.buildDir

end BuildConductor
