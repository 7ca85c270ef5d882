import BuildConductor.Build
import BuildConductor.Overview
import BuildConductor.Program.Basic

/-! The program that builds.

It shows the configuration, initializes submodules, installs, or builds: the
first of these that is asked for, and the last if none is. -/
namespace BuildConductor

/-- What the command line of the build program says. -/
structure BuildOptions where
  config : Path := ⟨defaultConfigFile⟩
  clean : Bool := false
  install : Bool := false
  showConfig : Bool := false
  initSubmodules : Bool := false
  sourceDir : Path := ⟨"."⟩
  buildDir : Option Path := none
  jobs : Option Nat := none
  generator : Option String := none
  noSubmoduleCheck : Bool := false
  verbose : Bool := false
  quiet : Bool := false
  color : ColorChoice := .auto
deriving DecidableEq, Repr

namespace BuildOptions
open CommandLine

def parameters : List (Parameter BuildOptions) :=
  [⟨"config", none, some "UTK_CONFIG",
      .value fun text => (pathValue text).map fun path o => {o with config := path}⟩,
    ⟨"clean", none, none, .switch fun o => {o with clean := true}⟩,
    ⟨"install", none, none, .switch fun o => {o with install := true}⟩,
    ⟨"show-config", none, none, .switch fun o => {o with showConfig := true}⟩,
    ⟨"init-submodules", none, none, .switch fun o => {o with initSubmodules := true}⟩,
    ⟨"source-dir", none, none,
      .value fun text => (pathValue text).map fun path o => {o with sourceDir := path}⟩,
    ⟨"build-dir", none, some "UTK_BUILD_DIR",
      .value fun text => (pathValue text).map fun path o => {o with buildDir := some path}⟩,
    ⟨"jobs", some 'j', some "UTK_JOBS",
      .value fun text => (countValue text).map fun count o => {o with jobs := some count}⟩,
    ⟨"generator", none, some "UTK_GENERATOR",
      .value fun text => .ok fun o => {o with generator := some text}⟩,
    ⟨"no-submodule-check", none, none, .switch fun o => {o with noSubmoduleCheck := true}⟩,
    ⟨"verbose", some 'v', none, .switch fun o => {o with verbose := true}⟩,
    ⟨"quiet", some 'q', none, .switch fun o => {o with quiet := true}⟩,
    ⟨"color", none, none,
      .value fun text => (colorValue text).map fun color o => {o with color := color}⟩,
    ⟨"help", some 'h', none, .help⟩,
    ⟨"version", some 'V', none, .version⟩]

def request (options : BuildOptions) : BuildRequest where
  sourceDir := options.sourceDir
  buildDir := options.buildDir
  jobs := options.jobs
  generator := options.generator
  clean := options.clean
  submoduleCheck := !options.noSubmoduleCheck

def view (options : BuildOptions) (terminal : Bool) (elapsed : Duration) : View where
  shell := ⟨.ofFlags options.quiet options.verbose, options.color.isColored terminal⟩
  tracing := options.verbose
  elapsed := elapsed

variable {ε π : Type}

/-- The document of the configuration file. -/
def load (options : BuildOptions) : Task ε π Failure Document := do
  let (doc, source) ← (Document.load options.config).mapError .config
  match source with
  | .file => pure ()
  | .builtin =>
    Task.say .info s!"{options.config.text} not found, using the built-in default configuration"
  pure doc

def showOverview (options : BuildOptions) (machine : Machine) : Task ε π Failure Unit := do
  let doc ← options.load
  Task.note (.printed (doc.overview machine.platform (.ofPlatform machine.platform)))

def runInstall (options : BuildOptions) (machine : Machine) : Task ε π Failure Unit := do
  let doc ← options.load
  doc.install options.request machine

/-- Failing tests were reported on the way and do not count here. -/
def runBuild (options : BuildOptions) (machine : Machine) : Task ε π Failure Unit := do
  let doc ← options.load
  let _report ← doc.build options.request machine
  pure ()

def act (machine : Machine) (options : BuildOptions) : Task ε π Failure Unit :=
  if options.showConfig then options.showOverview machine
  else if options.initSubmodules then options.request.initSubmodules
  else if options.install then options.runInstall machine
  else options.runBuild machine

end BuildOptions

/-- What helps with a configuration that cannot be used. -/
def ConfigError.diagnostic : ConfigError → Diagnostic
  | .format e => ⟨e.message, [FormatError.code], [FormatError.help], some e.path⟩
  | .read path fault =>
    ⟨(ConfigError.read path fault).summary, [(ConfigError.read path fault).code, fault.message], [],
      some path⟩

def buildProgram : Program BuildOptions where
  name := "utk-build"
  parameters := BuildOptions.parameters
  settings := {}
  view := BuildOptions.view
  complaint view failure :=
    match failure with
    | .config e => e.diagnostic.format view.shell.color
    | .build e => e.diagnostic.format view.shell.color
    | failure => view.shell.line .error failure.message

end BuildConductor
