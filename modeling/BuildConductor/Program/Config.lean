import BuildConductor.Interview
import BuildConductor.PresetFiles
import BuildConductor.Program.Basic

/-! The program that writes configuration files.

It writes the ready-made documents, or makes one by asking, or shows how all this
is used. -/
namespace BuildConductor

/-- What the command line of the configuration program says. -/
structure ConfigOptions where
  createConfigs : Bool := false
  interactive : Bool := false
  usage : Bool := false
  dir : Path := ⟨"."⟩
  verbose : Bool := false
deriving DecidableEq, Repr

def usageText : String :=
  "uToolkit build system

Quick start:
  utk-build                           build with build_config.json
  utk-build --config dev.json         build with a custom configuration
  utk-build --clean                   remove the build directory and rebuild
  utk-build --install                 install the built tree
  utk-build --show-config             print the active configuration
  utk-build --init-submodules         fetch third-party sources

Configuration files:
  build_config.json                   default configuration
  build_config.minimal.json           logging and utils only
  build_config.full.json              everything enabled

Interactive configuration:
  utk-config --interactive

Create the preset configurations:
  utk-config --create-configs
"

/-- What stands above the questions. -/
def interviewTitle : String :=
  "uToolkit interactive configuration
==================================
"

namespace ConfigOptions
open CommandLine

def parameters : List (Parameter ConfigOptions) :=
  [⟨"create-configs", none, none, .switch fun o => {o with createConfigs := true}⟩,
    ⟨"interactive", none, none, .switch fun o => {o with interactive := true}⟩,
    ⟨"usage", none, none, .switch fun o => {o with usage := true}⟩,
    ⟨"dir", none, none, .value fun text => (pathValue text).map fun path o => {o with dir := path}⟩,
    ⟨"verbose", some 'v', none, .switch fun o => {o with verbose := true}⟩,
    ⟨"help", some 'h', none, .help⟩,
    ⟨"version", some 'V', none, .version⟩]

def view (options : ConfigOptions) (terminal : Bool) (elapsed : Duration) : View where
  shell := ⟨.ofFlags false options.verbose, ColorChoice.auto.isColored terminal⟩
  tracing := options.verbose
  elapsed := elapsed

variable {ε π : Type}

def runCreate (options : ConfigOptions) : Task ε π Failure Unit := do
  let files ← (PresetFiles.createAll options.dir).mapError .file
  Task.sayAll .created Path.text files.created
  Task.sayAll .skipped (fun path => path.text ++ " (already exists)") files.skipped

def runInterview (options : ConfigOptions) : Task ε π Failure Unit := do
  Task.note (.printed interviewTitle)
  let path ← Interview.run options.dir
  Task.say .saved path.text

def act (options : ConfigOptions) : Task ε π Failure Unit :=
  if options.createConfigs then options.runCreate
  else if options.interactive then options.runInterview
  else Task.note (.printed usageText)

end ConfigOptions

def configProgram : Program ConfigOptions where
  name := "utk-config"
  parameters := ConfigOptions.parameters
  settings := {}
  view := ConfigOptions.view
  complaint view failure := view.shell.line .error failure.message

end BuildConductor
