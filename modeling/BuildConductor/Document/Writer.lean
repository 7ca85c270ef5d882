import BuildConductor.Document.Basic

/-! Writing a document.

Members that mean something come first, in a fixed order, and the others after
them in the order of their keys. Switches that were never set are left out. -/
namespace BuildConductor

def ModuleSwitches.toJson (m : ModuleSwitches) : Json :=
  .object [("enabled", .bool m.enabled), ("tests", .bool m.tests), ("examples", .bool m.examples)]

/-- A switch that was set. -/
def switchMember (name : String) (value : Option Bool) : List (String × Json) :=
  value.toList.map fun b => (name, .bool b)

def DependencySwitches.toJson (d : DependencySwitches) : Json :=
  .object
    (("enabled", .bool d.enabled) ::
      (switchMember "examples" d.examples ++ switchMember "tests" d.tests))

def KeyMap.toJson {α : Type} (value : α → Json) (m : KeyMap α) : Json :=
  .object (m.entries.map fun entry => (entry.1, value entry.2))

namespace Document

def toJson (doc : Document) : Json :=
  .object
    ([("platform", .string doc.platform.text),
      ("build_type", .string doc.buildType),
      ("modules", doc.modules.toJson ModuleSwitches.toJson),
      ("third_party", doc.dependencies.toJson DependencySwitches.toJson),
      ("cmake_options", doc.options.toJson OptionValue.toJson)] ++ doc.extra.entries)

/-- The text that is saved: one line a member, and a newline at the end. -/
def write (doc : Document) : String :=
  doc.toJson.pretty ++ "\n"

end Document

end BuildConductor
