import BuildConductor.ConfigFile
import BuildConductor.Rehearsal.Basic
import BuildConductor.Submodule

/-! A small project to rehearse with. -/
namespace BuildConductor

namespace Project

/-- The file at the top of every source tree. -/
def mainFile : Path := ⟨"CMakeLists.txt"⟩

def mainText : String :=
  "cmake_minimum_required(VERSION 3.20)\nproject(utoolkit CXX)\n"

/-- The entry of a submodule in the file that tells of submodules. -/
def submoduleEntry (path : String) : String :=
  s!"[submodule \"{path}\"]\n\tpath = {path}\n\turl = https://example.invalid/{path}.git\n"

def submoduleText (paths : List String) : String :=
  String.join (paths.map submoduleEntry)

/-- The identifier of every submodule. -/
def submoduleId : String := "1f2e3d4c5b6a79881726354453627180a9b8c7d6"

/-- The status of submodules, each with its mark and its path. -/
def statusText (entries : List (Char × String)) : String :=
  String.join (entries.map fun entry =>
    String.ofList [entry.1] ++ submoduleId ++ " " ++ entry.2 ++ "\n")

/-- What is said about a text that was meant to be a document. -/
def documentComplaint (text : String) (fault : Json.Fault) : String :=
  s!"bad fixture JSON: {fault.message text.toList}\n{text}"

end Project

end BuildConductor
