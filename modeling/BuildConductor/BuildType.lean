/-! The build types that are known by name. -/
namespace BuildConductor

inductive BuildType where
  | release
  | debug
  | relWithDebInfo
  | minSizeRel
deriving DecidableEq, Repr, Inhabited

namespace BuildType

/-- In the order in which they are offered. -/
def all : List BuildType := [.release, .debug, .relWithDebInfo, .minSizeRel]

def name : BuildType → String
  | .release => "Release"
  | .debug => "Debug"
  | .relWithDebInfo => "RelWithDebInfo"
  | .minSizeRel => "MinSizeRel"

/-- The build type of exactly this name. -/
def ofName? (s : String) : Option BuildType :=
  all.find? fun buildType => buildType.name == s

theorem ofName?_name (b : BuildType) : ofName? b.name = some b := by
  cases b <;> decide

theorem name_of_ofName? {s : String} {b : BuildType} (h : ofName? s = some b) : b.name = s := by
  simpa using List.find?_some h

/-- What is said about a name that is not one of them. -/
def unknownName (s : String) : String :=
  s!"invalid build type '{s}'; expected one of Release, Debug, RelWithDebInfo, MinSizeRel"

end BuildType

end BuildConductor
