import BuildConductor.Diagnostic
import BuildConductor.Plan

/-! What can go wrong while tools are run. -/
namespace BuildConductor

inductive BuildError where
  /-- A step ended without success. -/
  | stepFailed (kind : StepKind) (command : String) (status : ExitStatus)
  | submoduleQueryFailed (message : String)
  | submoduleInitFailed (command : String) (status : ExitStatus)
  /-- A command could not be run at all. -/
  | spawn (command message : String)
  | filesystem (path : Path) (message : String)
  /-- There is no build directory to install from. -/
  | notConfigured (path : Path)
deriving DecidableEq, Repr

namespace BuildError

def message : BuildError → String
  | .stepFailed kind _ status => s!"{kind.name} step failed ({status.message})"
  | .submoduleQueryFailed message => s!"failed to query submodule status: {message}"
  | .submoduleInitFailed _ status => s!"submodule initialization failed ({status.message})"
  | .spawn command message => s!"failed to run `{command}`: {message}"
  | .filesystem _ message => message
  | .notConfigured path => s!"build directory `{path.text}` has not been configured"

/-- The line of a diagnostic that shows a command. -/
def commandLine (command : String) : String :=
  "command: " ++ command

/-- What to try after the failure of a step. -/
def stepSuggestions : StepKind → List String
  | .configure => [Suggestion.configureFailed, Suggestion.missingSubmodules]
  | .build => [Suggestion.buildFailed]
  | .test => []
  | .install => [Suggestion.installPath]

def diagnostic (e : BuildError) : Diagnostic :=
  match e with
  | .stepFailed kind command _ => ⟨e.message, [commandLine command], stepSuggestions kind, none⟩
  | .submoduleQueryFailed _ => ⟨e.message, [], [], none⟩
  | .submoduleInitFailed command _ =>
    ⟨e.message, [commandLine command], [Suggestion.submoduleSource], none⟩
  | .spawn _ _ => ⟨e.message, [], [Suggestion.toolMissing], none⟩
  | .filesystem path _ => ⟨e.message, [], [], some path⟩
  | .notConfigured path => ⟨e.message, [], [Suggestion.notConfigured], some path⟩

end BuildError

end BuildConductor
