import BuildConductor.Text.Case

/-! Platforms and what they decide.

A document either names its platform or leaves it to the host. Names that are
not known are kept as they are, so that saving a document changes nothing. -/
namespace BuildConductor

inductive Platform where
  | windows
  | macos
  | linux
  /-- Any other system, by name. -/
  | other (name : String)
deriving DecidableEq, Repr

namespace Platform

def name : Platform → String
  | .windows => "windows"
  | .macos => "macos"
  | .linux => "linux"
  | .other name => name

/-- The platform of a system that reports itself by a name, in any letter case. -/
def ofSystem (name : String) : Platform :=
  let name := Text.lower name
  if name = "windows" then .windows
  else if name = "macos" ∨ name = "darwin" then .macos
  else if name = "linux" then .linux
  else .other name

/-- The platform that a document names: known names are matched exactly. -/
def ofStored (name : String) : Platform :=
  if name = "windows" then .windows
  else if name = "macos" then .macos
  else if name = "linux" then .linux
  else .other name

/-- A stored name is never changed. -/
theorem name_ofStored (s : String) : (ofStored s).name = s := by
  unfold ofStored
  split
  · simp_all [name]
  · split
    · simp_all [name]
    · split
      · simp_all [name]
      · rfl

end Platform

/-- The platform of a document. -/
inductive PlatformSetting where
  /-- Whatever the host is. -/
  | auto
  | fixed (platform : Platform)
deriving DecidableEq, Repr

namespace PlatformSetting

/-- `auto` in any letter case leaves the platform to the host. -/
def ofText (s : String) : PlatformSetting :=
  if Text.sameUpToAsciiCase s "auto" then .auto else .fixed (.ofStored s)

def text : PlatformSetting → String
  | .auto => "auto"
  | .fixed platform => platform.name

/-- The platform that a plan is made for. -/
def resolve (setting : PlatformSetting) (host : Platform) : Platform :=
  match setting with
  | .auto => host
  | .fixed platform => platform

end PlatformSetting

/-- The build file generators that are known as defaults. -/
inductive Generator where
  | visualStudio2022
  | unixMakefiles
deriving DecidableEq, Repr

namespace Generator

/-- The generator used by default on a platform. -/
def ofPlatform : Platform → Generator
  | .windows => .visualStudio2022
  | _ => .unixMakefiles

def name : Generator → String
  | .visualStudio2022 => "Visual Studio 17 2022"
  | .unixMakefiles => "Unix Makefiles"

end Generator

end BuildConductor
