import BuildConductor.Document.Basic

/-! Ready-made documents. -/
namespace BuildConductor

/-- The modules of the project, in the order in which they are asked about. -/
def projectModules : List String := ["logging", "threadpool", "utils"]

/-- The third-party libraries, in the order in which they are asked about. -/
def projectDependencies : List String := ["fmt", "spdlog", "googletest", "benchmark"]

def defaultInstallPath : String := "/usr/local"

/-- The options of every ready-made document. -/
def baselineOptions (tests examples : Bool) : KeyMap OptionValue :=
  .ofList
    [("CMAKE_INSTALL_PREFIX", .string defaultInstallPath),
      (testsOption, .bool tests),
      (examplesOption, .bool examples),
      ("BUILD_SHARED_LIBS", .bool false)]

/-- The configuration file that is loaded when none is named. -/
def defaultConfigFile : String := "build_config.json"

inductive Preset where
  /-- Everything on. Also what stands in for a file that does not exist. -/
  | standard
  /-- The core modules, without libraries, tests or examples. -/
  | minimal
  /-- Everything on. -/
  | full
deriving DecidableEq, Repr

namespace Preset

/-- In the order in which they are written. -/
def all : List Preset := [.standard, .minimal, .full]

def name : Preset → String
  | .standard => "default"
  | .minimal => "minimal"
  | .full => "full"

def ofName? (s : String) : Option Preset :=
  all.find? fun preset => preset.name == s

def fileName : Preset → String
  | .standard => defaultConfigFile
  | .minimal => "build_config.minimal.json"
  | .full => "build_config.full.json"

/-- The modules that the minimal document keeps. -/
def coreModules : List String := ["logging", "utils"]

def everythingOn : Document :=
  { Document.empty with
    modules := .ofList (projectModules.map fun name => (name, {}))
    dependencies := .ofList (projectDependencies.map fun name => (name, .ofFlags true true true))
    options := baselineOptions true true }

def coreOnly : Document :=
  { Document.empty with
    modules := .ofList (projectModules.map fun name =>
      (name, if coreModules.contains name then ⟨true, false, false⟩ else .disabled))
    dependencies := .ofList (projectDependencies.map fun name => (name, .ofFlags false false false))
    options := baselineOptions false false }

def document : Preset → Document
  | .standard | .full => everythingOn
  | .minimal => coreOnly

end Preset

/-- The document that stands in for a file that does not exist. -/
def Document.standard : Document :=
  Preset.standard.document

end BuildConductor
