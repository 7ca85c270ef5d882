import BuildConductor.BuildType
import BuildConductor.Decimal.Numeral
import BuildConductor.Json.Printer
import BuildConductor.Platform
import BuildConductor.Text.Blank

/-! The configuration document.

A document says what to build and with which options. Values that are not known
are accepted and kept; `Document.warnings` names them. -/
namespace BuildConductor

/-- The option that decides whether tests are built and run. -/
def testsOption : String := "UTOOLKIT_BUILD_TESTS"

/-- The option that decides whether examples are built. -/
def examplesOption : String := "UTOOLKIT_BUILD_EXAMPLES"

/-- What the flags of every module begin with. -/
def moduleFlagStart : String := "UTOOLKIT_BUILD_"

/-- What every flag of the project begins with. -/
def projectFlagStart : String := "UTOOLKIT"

/-- The value of an option of the build tool. -/
inductive OptionValue where
  | bool (value : Bool)
  | string (text : String)
  /-- A number or anything else a document can hold. -/
  | other (value : Json)
deriving DecidableEq

def onOff (b : Bool) : String :=
  if b then "ON" else "OFF"

/-- Words that stand for false, in capital letters. -/
def falseWords : List String := ["OFF", "NO", "FALSE", "N", "IGNORE", "NOTFOUND"]

/-- The ending of the name of something that was not found. -/
def notFoundEnding : String := "-NOTFOUND"

/-- Whether the build tool takes a text as true. Letter case and blanks at the
ends do not matter; numbers are true unless they are zero. -/
def isTrueText (s : String) : Bool :=
  let word := Text.upperList (Text.trimList s.toList)
  if word.isEmpty || notFoundEnding.toList.isSuffixOf word then false
  else match Decimal.numeral? word with
    | some n => !n.isZero
    | none => !falseWords.contains (String.ofList word)

namespace OptionValue

def ofJson : Json → OptionValue
  | .bool value => .bool value
  | .string text => .string text
  | value => .other value

def toJson : OptionValue → Json
  | .bool value => .bool value
  | .string text => .string text
  | .other value => value

/-- The value as it is passed to the build tool. -/
def render : OptionValue → String
  | .bool value => onOff value
  | .string text => text
  | .other value => value.compact

def isTrue : OptionValue → Bool
  | .bool value => value
  | .string text => isTrueText text
  | .other .null => false
  | .other (.number (.integer value)) => value != 0
  | .other (.number (.real value)) => !value.isZero
  | .other _ => true

end OptionValue

/-- The switches of a module of the project. -/
structure ModuleSwitches where
  enabled : Bool := true
  tests : Bool := true
  examples : Bool := true
deriving DecidableEq, Repr, Inhabited

namespace ModuleSwitches

def disabled : ModuleSwitches := ⟨false, false, false⟩

/-- Tests are wanted of an enabled module only. -/
def wantsTests (m : ModuleSwitches) : Bool :=
  m.enabled && m.tests

/-- Examples are wanted of an enabled module only. -/
def wantsExamples (m : ModuleSwitches) : Bool :=
  m.enabled && m.examples

/-- The main flag of a module. -/
def mainFlag (name : String) : String :=
  moduleFlagStart ++ Text.upper name

/-- The flags of a module and their values. A disabled module has only its main
one. -/
def flags (m : ModuleSwitches) (name : String) : List (String × Bool) :=
  (mainFlag name, m.enabled) ::
    if m.enabled then
      [(mainFlag name ++ "_TESTS", m.wantsTests), (mainFlag name ++ "_EXAMPLES", m.wantsExamples)]
    else
      []

end ModuleSwitches

/-- The switches of a third-party library. What was not said stays unsaid. -/
structure DependencySwitches where
  enabled : Bool := true
  examples : Option Bool := none
  tests : Option Bool := none
deriving DecidableEq, Repr, Inhabited

namespace DependencySwitches

def ofFlags (enabled examples tests : Bool) : DependencySwitches :=
  ⟨enabled, some examples, some tests⟩

def wantsTests (d : DependencySwitches) : Bool :=
  d.enabled && d.tests.getD false

def wantsExamples (d : DependencySwitches) : Bool :=
  d.enabled && d.examples.getD false

end DependencySwitches

structure Document where
  platform : PlatformSetting
  buildType : String
  modules : KeyMap ModuleSwitches
  dependencies : KeyMap DependencySwitches
  options : KeyMap OptionValue
  /-- Members that mean nothing here. -/
  extra : KeyMap Json
deriving DecidableEq

namespace Document

/-- A document that says nothing. -/
def empty : Document where
  platform := .auto
  buildType := BuildType.release.name
  modules := .empty
  dependencies := .empty
  options := .empty
  extra := .empty

/-- The build type that is planned with: a blank one is a release. -/
def effectiveBuildType (doc : Document) : String :=
  let trimmed := Text.trim doc.buildType
  if trimmed.isEmpty then BuildType.release.name else trimmed

/-- Whether tests are run: unless their option is set and false. -/
def testsEnabled (doc : Document) : Bool :=
  match doc.options.find? testsOption with
  | none => true
  | some value => value.isTrue

/-- Whether a flag belongs to the whole project, or is set by the options. -/
def isReserved (doc : Document) (flag : String) : Bool :=
  flag == testsOption || flag == examplesOption || doc.options.contains flag

/-- The flags of all modules, with the module each belongs to. -/
def allModuleFlags (doc : Document) : List (String × String × Bool) :=
  doc.modules.entries.flatMap fun entry => (entry.2.flags entry.1).map fun flag => (entry.1, flag)

/-- The flags of the modules that are passed to the build tool. -/
def moduleFlags (doc : Document) : List (String × Bool) :=
  (doc.allModuleFlags.map Prod.snd).filter fun flag => !doc.isReserved flag.1

/-- What the document says that is not known or not heeded. -/
inductive Warning where
  | buildType (name : String)
  | platform (name : String)
  | unknownKey (key : String)
  | reserved (name flag : String)
deriving DecidableEq, Repr

def Warning.message : Warning → String
  | .buildType name => s!"unrecognised build type `{name}`; passing it to CMake unchanged"
  | .platform name => s!"unrecognised platform `{name}`"
  | .unknownKey key => s!"unknown configuration key `{key}` is ignored"
  | .reserved name flag =>
    s!"module `{name}` would override `{flag}`; its switch is not passed to CMake"

def warnings (doc : Document) : List Warning :=
  (if (BuildType.ofName? doc.buildType).isNone && !(Text.trim doc.buildType).isEmpty then
    [.buildType doc.buildType]
  else
    []) ++
  (match doc.platform with
    | .fixed (.other name) => [.platform name]
    | _ => []) ++
  doc.extra.keys.map .unknownKey ++
  (doc.allModuleFlags.filter fun flag => doc.isReserved flag.2.1).map
    fun flag => .reserved flag.1 flag.2.1

end Document

end BuildConductor
