import BuildConductor.Path
import BuildConductor.Text.Terminal

/-! Messages that help.

A diagnostic says what failed, where, in which context, and what to try next. -/
namespace BuildConductor

structure Diagnostic where
  message : String
  context : List String
  suggestions : List String
  location : Option Path
deriving DecidableEq, Repr

namespace Suggestion

def configureFailed : String := "Re-run with `--clean` to discard a stale CMake cache"

def missingSubmodules : String := "Run `utk-build --init-submodules` to fetch third-party sources"

def buildFailed : String := "Run `utk-build --verbose` for more details"

def notConfigured : String := "Run `utk-build` first to configure and build the project"

def installPath : String := "Set `cmake_options.CMAKE_INSTALL_PREFIX` to a writable location"

def toolMissing : String :=
  "Install CMake (which ships ctest) and git, and ensure they are in PATH"

def submoduleSource : String := "Check network access and the URLs in `.gitmodules`"

end Suggestion

/-- A word in bold and a colour, if colours are wanted. -/
def painted (color : Bool) (code : Nat) (word : String) : String :=
  if color then Text.styled s!"1;{code}" word else word

namespace Diagnostic

/-- Lines numbered from a number on. -/
def numbered (n : Nat) : List String → String
  | [] => ""
  | line :: lines => s!"  {n}. {line}\n" ++ numbered (n + 1) lines

def format (d : Diagnostic) (color : Bool) : String :=
  painted color 31 "error" ++ ": " ++ d.message ++ "\n" ++
  (match d.location with
    | some path => "  --> " ++ path.text ++ "\n"
    | none => "") ++
  String.join (d.context.map fun line => "  → " ++ line ++ "\n") ++
  if d.suggestions.isEmpty then ""
  else "\n" ++ painted color 32 "help" ++ ": consider:\n" ++ numbered 1 d.suggestions

end Diagnostic

end BuildConductor
