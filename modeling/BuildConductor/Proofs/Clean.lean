import BuildConductor.Proofs.Build
import BuildConductor.Proofs.BuildDirectory
import BuildConductor.Rehearsal.Project

/-! What a clean build leaves.

A clean build removes its build directory, wherever that is: there is nothing that keeps
it from being the source tree or a directory above it. A file that is not below it stays,
for every command and in the end (`Document.build_keeps`). -/
namespace BuildConductor

/-! ### The source directory -/

namespace Path

theorem isAbsoluteList_append {cs : List UInt8} (h : isAbsoluteList cs = true) (more : List UInt8) :
    isAbsoluteList (cs ++ more) = true := by
  cases cs with
  | nil => cases h
  | cons c cs => exact h

theorem isAbsoluteList_joinList {base : List UInt8} (h : isAbsoluteList base = true)
    (more : List UInt8) : isAbsoluteList (joinList base more) = true := by
  unfold joinList
  split
  · assumption
  split
  · exact isAbsoluteList_append h more
  · exact isAbsoluteList_append h (slash :: more)

theorem isAbsoluteList_foldl {base : List UInt8} (h : isAbsoluteList base = true)
    (names : List (List UInt8)) : isAbsoluteList (names.foldl joinList base) = true := by
  induction names generalizing base with
  | nil => exact h
  | cons name names ih => exact ih (isAbsoluteList_joinList h name)

/-- What is made absolute is absolute. -/
theorem isAbsolute_of_absolute {current path result : Path} (hcurrent : current.isAbsolute = true)
    (h : absolute current path = .ok result) : result.isAbsolute = true := by
  unfold absolute at h
  split at h
  · cases h
  cases h
  have hstart (cs : List UInt8) : isAbsoluteList
      (if isAbsoluteList cs then absoluteStart cs else current.bytes) = true := by
    split
    · unfold absoluteStart
      split <;> rfl
    · exact hcurrent
  have hpath (cs : List UInt8) : isAbsoluteList (absoluteList current.bytes cs) = true := by
    have hnames := isAbsoluteList_foldl (hstart cs) (names cs)
    unfold absoluteList
    simp only
    split
    · exact isAbsoluteList_joinList hnames []
    · exact hnames
  exact hpath _

theorem isAbsolute_join {base : Path} (h : base.isAbsolute = true) (more : Path) :
    (base.join more).isAbsolute = true := by
  exact isAbsoluteList_joinList h _

end Path

theorem Disk.isAbsolute_currentPath (disk : Disk) : disk.currentPath.isAbsolute = true := by
  simp [Disk.currentPath, Path.isAbsolute, Path.isAbsoluteList]

/-- The source directory of a build is absolute. -/
theorem BuildRequest.isAbsolute_sourceDir {request : BuildRequest} {machine : Machine} {disk : Disk}
    {settings : Settings} (h : request.settings machine disk.currentPath = .ok settings) :
    settings.sourceDir.isAbsolute = true := by
  have hsource := BuildRequest.absoluteFrom_of_settings h
  exact Path.isAbsolute_of_absolute disk.isAbsolute_currentPath (except_mapError_eq_ok.1 hsource)

/-! ### The build directory -/

/-- Making the build directory ready leaves what is not below it. -/
theorem Plan.readied_holds (plan : Plan) (clean : Bool) {disk : Disk} {location : Location}
    {bytes : ByteArray} (h : disk.Holds location bytes)
    (hapart : ∀ target, disk.resolve plan.buildDir = .ok target → ¬target.location <+: location) :
    (plan.readied clean disk).2.Holds location bytes := by
  rw [← Disk.content?_eq_file] at h ⊢
  rcases plan.readied_paves clean hapart with hsame | ⟨hfree, -, -⟩
  · rw [hsame, h]
  · rw [h] at hfree
    cases hfree

variable {ε π : Type}

namespace Document

/-- A build whose commands leave the disk alone ends on the disk that it finds, or on that
with its build directory made ready. -/
theorem build_last_disk (doc : Document) {request : BuildRequest} {machine : Machine}
    (crew : Crew ε π) {world : World ε π} {settings : Settings}
    (h : request.settings machine world.disk.currentPath = .ok settings)
    (hleaves : crew.executor.LeavesDisk) {P : Disk → Prop} (hbefore : P world.disk)
    (hready : P ((doc.plan settings).readied request.clean world.disk).2) :
    P (doc.build request machine crew world).2.disk := by
  obtain ⟨looked, left, hlooked, hcases⟩ := doc.build_cases crew h
  have hdisk : looked.disk = world.disk := hlooked.answers.disk_eq hleaves
  rcases hcases with ⟨e, -, hbuild, rfl⟩ | ⟨e, -, -, hbuild, hleft⟩ |
    ⟨_, ready, steps, _, -, -, hreadied, -, hbuild, hleft⟩
  · rw [hbuild]
    exact hdisk ▸ hbefore
  · rw [hbuild]
    show P left.disk
    rw [hleft.disk, hdisk]
    exact hready
  · rw [hbuild]
    show P left.disk
    have hlast : left.disk = ready.disk := hleft.answers.disk_eq hleaves
    rw [hlast, hreadied.disk, hdisk]
    exact hready

/-- It makes all its calls on one of the two. -/
theorem build_recorded_disks (doc : Document) {request : BuildRequest} {machine : Machine}
    (crew : Crew ε π) {world : World ε π} {settings : Settings}
    (h : request.settings machine world.disk.currentPath = .ok settings)
    (hleaves : crew.executor.LeavesDisk) {P : Disk → Prop} (hbefore : P world.disk)
    (hready : P ((doc.plan settings).readied request.clean world.disk).2) :
    ∀ made ∈ (doc.build request machine crew.recording world.recording).2.tools.2, P made.2 := by
  have hrecording : request.settings machine world.recording.disk.currentPath = .ok settings := h
  obtain ⟨looked, left, hlooked, hcases⟩ := doc.build_cases crew.recording hrecording
  have hdisk : looked.disk = world.disk := (hlooked.answers.recorded hleaves).1
  have hrecord : ∀ made ∈ looked.tools.2, P made.2 :=
    hlooked.answers.forall_recorded hleaves hbefore (List.forall_mem_nil _)
  rcases hcases with ⟨e, -, hbuild, rfl⟩ | ⟨e, -, -, hbuild, hleft⟩ |
    ⟨_, ready, steps, _, -, -, hreadied, -, hbuild, hleft⟩
  · rw [hbuild]
    exact hrecord
  · rw [hbuild]
    show ∀ made ∈ left.tools.2, P made.2
    rw [hleft.tools]
    exact hrecord
  · rw [hbuild]
    refine hleft.answers.forall_recorded hleaves ?_ ?_
    · show P ready.disk
      rw [hreadied.disk, hdisk]
      exact hready
    · show ∀ made ∈ ready.tools.2, P made.2
      rw [hreadied.tools]
      exact hrecord

/-- A file of the source tree stays where it is for every command of a build and in the
end, unless the path of the build directory leads to a directory that the file is below;
and it is still found under its own path if that goes down only, as a disk has no links. -/
theorem build_keeps (doc : Document) {request : BuildRequest} {machine : Machine}
    {crew : Crew ε π} {world : World ε π} {settings : Settings}
    (hsettings : request.settings machine world.disk.currentPath = .ok settings)
    (hleaves : crew.executor.LeavesDisk) {location : Location} {bytes : ByteArray}
    (hfile : world.disk.stat (settings.sourceDir.join Project.mainFile) =
      .ok (location, .file bytes))
    (hapart : ∀ target, world.disk.resolve settings.buildDir = .ok target →
      ¬target.location <+: location) :
    let Kept (disk : Disk) := disk.Holds location bytes ∧
      ((".." : SystemText) ∉ Disk.steps (settings.sourceDir.join Project.mainFile) →
        disk.readFile (settings.sourceDir.join Project.mainFile) = .ok bytes)
    Kept (doc.build request machine crew world).2.disk ∧
      ∀ made ∈ (doc.build request machine crew.recording world.recording).2.tools.2,
        Kept made.2 := by
  intro Kept
  have habsolute :=
    Path.isAbsolute_join (BuildRequest.isAbsolute_sourceDir hsettings) Project.mainFile
  have hkept (disk : Disk) (h : disk.Holds location bytes) : Kept disk :=
    ⟨h, fun hplain => Disk.readFile_of_holds habsolute hplain hfile h⟩
  have hbefore : world.disk.Holds location bytes := Disk.Holds.of_stat hfile
  have hready := (doc.plan settings).readied_holds request.clean hbefore hapart
  exact ⟨doc.build_last_disk crew hsettings hleaves (hkept _ hbefore) (hkept _ hready),
    doc.build_recorded_disks crew hsettings hleaves (hkept _ hbefore) (hkept _ hready)⟩

/-- A source tree with an old build directory, and tools that succeed. -/
def builtWorld : World Rehearsal Script where
  disk := ⟨[("p", .directory [("CMakeLists.txt", .file ⟨#[35]⟩),
    ("build", .directory [("old", .file ⟨#[]⟩)])])], ["p"]⟩
  tools := {Rehearsal.empty with fallback := some (Rehearsal.silent ⟨some 0⟩)}
  user := ⟨[], []⟩
  log := []

theorem build_keeps_beside :
    let request : BuildRequest := {clean := true, submoduleCheck := false}
    let settings : Settings := ⟨.linux, ⟨"/p"⟩, ⟨"/p/build"⟩, 4, none⟩
    request.settings ⟨.linux, 4⟩ builtWorld.disk.currentPath = .ok settings ∧
      rehearsalCrew.executor.LeavesDisk ∧
      builtWorld.disk.stat (settings.sourceDir.join Project.mainFile) =
        .ok (["p", "CMakeLists.txt"], .file ⟨#[35]⟩) ∧
      (∀ target, builtWorld.disk.resolve settings.buildDir = .ok target →
        ¬target.location <+: ["p", "CMakeLists.txt"]) ∧
      (Document.empty.build request ⟨.linux, 4⟩ rehearsalCrew builtWorld).2.disk.Holds
        ["p", "CMakeLists.txt"] ⟨#[35]⟩ := by
  intro request settings
  have hsettings : request.settings ⟨.linux, 4⟩ builtWorld.disk.currentPath = .ok settings :=
    except_eq_ok_of_toOption (by decide +kernel)
  have hleaves : rehearsalCrew.executor.LeavesDisk := fun _ _ => rfl
  have hfile : builtWorld.disk.stat (settings.sourceDir.join Project.mainFile) =
      .ok (["p", "CMakeLists.txt"], .file ⟨#[35]⟩) := by
    have hpath : settings.sourceDir.join Project.mainFile = ⟨"/p/CMakeLists.txt"⟩ := by
      decide +kernel
    rw [hpath]
    rfl
  have hapart : ∀ target, builtWorld.disk.resolve settings.buildDir = .ok target →
      ¬target.location <+: ["p", "CMakeLists.txt"] := by
    have hresolve : builtWorld.disk.resolve ⟨"/p/build"⟩ =
        .ok (.present ["p", "build"] (.directory [("old", .file ⟨#[]⟩)])) := rfl
    intro target htarget
    cases hresolve.symm.trans htarget
    decide
  exact ⟨hsettings, hleaves, hfile, hapart,
    (build_keeps Document.empty hsettings hleaves hfile hapart).1.1⟩

/-- Where the build directory is the source tree, a clean build removes it: its main file
is gone when the build tool is to configure it, and in the end. -/
theorem build_removes_source :
    let request : BuildRequest := {buildDir := some ⟨"."⟩, clean := true, submoduleCheck := false}
    let settings : Settings := ⟨.linux, ⟨"/p"⟩, ⟨"/p"⟩, 4, none⟩
    let recorded := Document.empty.build request ⟨.linux, 4⟩ rehearsalCrew.recording
      builtWorld.recording
    request.settings ⟨.linux, 4⟩ builtWorld.disk.currentPath = .ok settings ∧
      (builtWorld.disk.readFile ⟨"/p/CMakeLists.txt"⟩).toOption = some ⟨#[35]⟩ ∧
      (Document.empty.build request ⟨.linux, 4⟩ rehearsalCrew builtWorld).2.disk.contains
        ⟨"/p/CMakeLists.txt"⟩ = false ∧
      ∃ made ∈ recorded.2.tools.2, made.1.command.args.take 2 = ["-S", "/p"] ∧
        made.2.contains ⟨"/p/CMakeLists.txt"⟩ = false := by
  intro request settings recorded
  have hsettings : request.settings ⟨.linux, 4⟩ builtWorld.disk.currentPath = .ok settings :=
    except_eq_ok_of_toOption (by decide +kernel)
  exact ⟨hsettings, by decide +kernel, by decide +kernel, by decide +kernel⟩

end Document

end BuildConductor
