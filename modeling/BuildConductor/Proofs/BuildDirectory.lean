import BuildConductor.Proofs.Disk.Writing
import BuildConductor.Proofs.Pipeline
import BuildConductor.Proofs.Recording

/-! Where the steps of a plan run.

Before its first step a run makes the build directory ready. A directory is made only
where nothing is, and nothing asks whether what is there is a directory: so the steps run
in a directory (`Plan.run_in_directory`), unless the build directory is a file that nobody
wants removed, or has no name at all. -/
namespace BuildConductor

variable {ε π : Type}

namespace Plan
variable {plan : Plan} {clean : Bool} {disk : Disk}

/-- Whether a build directory passes for ready that is none: its path is empty, or it is a
file that is to stay. -/
def Unchecked (plan : Plan) (clean : Bool) (disk : Disk) : Prop :=
  plan.buildDir.bytes.isEmpty = true ∨ clean = false ∧ disk.HasFile plan.buildDir

/-- Clearing the build path leaves what is not below it. -/
theorem cleared_content? (plan : Plan) (clean : Bool) {location : Location}
    (hapart : ∀ target, disk.resolve plan.buildDir = .ok target → ¬target.location <+: location) :
    (plan.cleared clean disk).2.content? location = disk.content? location := by
  unfold cleared
  split
  · exact Disk.content?_removeIfExists hapart
  · rfl

theorem cleared_current (plan : Plan) (clean : Bool) (disk : Disk) :
    (plan.cleared clean disk).2.current = disk.current := by
  unfold cleared
  split
  · exact disk.current_removeIfExists plan.buildDir
  · rfl

/-- So making the build directory ready paves the way to it at most, beside what is below. -/
theorem readied_paves (plan : Plan) (clean : Bool) {location : Location}
    (hapart : ∀ target, disk.resolve plan.buildDir = .ok target → ¬target.location <+: location) :
    disk.PavedAt plan.buildDir (plan.readied clean disk).2 location := by
  have hcontent := plan.cleared_content? clean hapart
  have hcurrent := plan.cleared_current clean disk
  unfold readied
  split
  · rename_i heq
    rw [heq] at hcontent
    exact .inl hcontent
  · rename_i middle heq
    rw [heq] at hcontent hcurrent
    have hcleared : disk.PavedAt plan.buildDir middle location := .inl hcontent
    exact hcleared.trans hcurrent ((middle.ensureDirectory_paves plan.buildDir).places location)

/-- There is no file at the build path once it was cleared. -/
theorem not_hasFile_of_cleared {removed : Bool} {after : Disk}
    (h : plan.cleared clean disk = (.ok removed, after))
    (hchecked : ¬plan.Unchecked clean disk) : ¬after.HasFile plan.buildDir := by
  unfold cleared at h
  split at h
  · exact Disk.not_hasFile_of_not_contains (Disk.not_contains_of_removeIfExists h)
  · rename_i hclean
    cases h
    exact fun hfile => hchecked (.inr ⟨eq_false_of_ne_true hclean, hfile⟩)

/-- A build directory that was made ready is a directory. -/
theorem isDirectory_of_readied {removed : Bool} (h : (plan.readied clean disk).1 = .ok removed)
    (hchecked : ¬plan.Unchecked clean disk) :
    (plan.readied clean disk).2.isDirectory plan.buildDir = true := by
  have hpath : plan.buildDir.bytes.isEmpty = false :=
    eq_false_of_ne_true fun hempty => hchecked (.inl hempty)
  unfold readied at h ⊢
  split at h
  · cases h
  rename_i heq
  simp only at h ⊢
  generalize hensure : Disk.ensureDirectory _ plan.buildDir = outcome at h ⊢
  obtain ⟨result, after⟩ := outcome
  cases result with
  | error e => cases h
  | ok done =>
    exact Disk.isDirectory_of_ensureDirectory hensure hpath (not_hasFile_of_cleared heq hchecked)

/-- What passes for ready is no directory, and nothing was done about it. -/
theorem readied_of_unchecked (h : plan.Unchecked clean disk) :
    plan.readied clean disk = (.ok false, disk) ∧ disk.isDirectory plan.buildDir = false := by
  rcases h with hempty | ⟨rfl, location, bytes, hstat⟩
  · have hcontains : disk.contains plan.buildDir = false := disk.contains_of_isEmpty hempty
    refine ⟨?_, Disk.not_isDirectory_of_not_contains hcontains⟩
    have hcleared : plan.cleared clean disk = (.ok false, disk) := by
      cases clean with
      | false => rfl
      | true => simp [cleared, Disk.removeIfExists, hcontains]
    simp [readied, hcleared, Disk.ensureDirectory, hcontains, disk.makeDirectories_of_isEmpty hempty,
      Except.map]
  · have hcontains : disk.contains plan.buildDir = true := by
      simp [Disk.contains, hstat, Except.toOption]
    refine ⟨?_, by simp [Disk.isDirectory, hstat]⟩
    simp [readied, cleared, Disk.ensureDirectory, hcontains, Except.map]

/-- What a recorded run comes to, with commands that leave the disk alone: it ends before
any call, or all calls are made in the state in which the build directory was ready. -/
theorem run_recorded (plan : Plan) (clean : Bool) {crew : Crew ε π}
    (hleaves : crew.executor.LeavesDisk) (world : World ε π) :
    let recorded := plan.run clean crew.recording world.recording
    let ready := plan.readied clean world.disk
    (∃ e, ready.1 = .error e ∧ recorded.1 = .error (.ofFile plan.buildDir e) ∧
        recorded.2.tools.2 = [] ∧ recorded.2.calls = world.calls) ∨
      ∃ removed trace, ready.1 = .ok removed ∧ recorded.2.disk = ready.2 ∧
        recorded.2.tools.2 = (callsIn plan.buildDir trace).map (fun call => (call.1, ready.2)) ∧
        (trace = [] ↔ plan.pipeline = []) := by
  intro recorded ready
  rcases plan.run_cases clean crew.recording world.recording with
      ⟨e, left, hready, hrun, hleft⟩ |
      ⟨removed, begun, trace, result, last, hready, hreadied, hunfolds, hrun, hlast⟩
  · have hrecorded : recorded = (.error (.ofFile plan.buildDir e), left) := hrun
    refine .inl ⟨e, hready, by rw [hrecorded], ?_, by rw [hrecorded]; exact hleft.calls⟩
    rw [hrecorded, hleft.tools]
    rfl
  · have hrecorded : recorded = (result, last) := hrun
    obtain ⟨hdisk, hrecord⟩ := hlast.answers.recorded hleaves
    have hlastDisk : last.disk = begun.disk := hdisk
    have hbegun : begun.disk = ready.2 := hreadied.disk
    have hbefore : begun.tools.2 = [] := congrArg Prod.snd hreadied.tools
    have hmade : last.tools.2 =
        begun.tools.2 ++ (callsIn plan.buildDir trace).map fun call => (call.1, begun.disk) :=
      hrecord
    refine .inr ⟨removed, trace, hready, ?_, ?_, hunfolds.trace_eq_nil_iff⟩
    · rw [hrecorded, hlastDisk, hbegun]
    · rw [hrecorded, hmade, hbefore, hbegun, List.nil_append]

/-- With commands that leave the disk alone, all steps of a plan are called in one state
of the disk, in which the build directory is a directory unless it was never checked. If
it is none in the end, the run was ended by that and nothing was called. Where it is not
checked, the first step is called all the same. -/
theorem run_in_directory (plan : Plan) (clean : Bool) {crew : Crew ε π}
    (hleaves : crew.executor.LeavesDisk) (world : World ε π) :
    let recorded := plan.run clean crew.recording world.recording
    let made := recorded.2.tools.2
    (∀ call ∈ made,
        (call.2.isDirectory plan.buildDir = true ↔ ¬plan.Unchecked clean world.disk)) ∧
      (recorded.2.disk.isDirectory plan.buildDir = false → ¬plan.Unchecked clean world.disk →
        (∃ message, recorded.1 = .error (.filesystem plan.buildDir message)) ∧
          made = [] ∧ recorded.2.calls = world.calls) ∧
      (plan.Unchecked clean world.disk → plan.pipeline ≠ [] → made ≠ []) := by
  intro recorded made
  have hchecked {removed : Bool} (hready : (plan.readied clean world.disk).1 = .ok removed) :
      (plan.readied clean world.disk).2.isDirectory plan.buildDir = true ↔
        ¬plan.Unchecked clean world.disk := by
    refine ⟨fun hdirectory hunchecked => ?_, isDirectory_of_readied hready⟩
    rw [(readied_of_unchecked hunchecked).1, (readied_of_unchecked hunchecked).2] at hdirectory
    cases hdirectory
  rcases plan.run_recorded clean hleaves world with
      ⟨e, hready, herror, hnone, hcalls⟩ | ⟨removed, trace, hready, hdisk, hmade, hempty⟩
  · refine ⟨fun call hcall => ?_, fun _ _ => ⟨⟨e.message, herror⟩, hnone, hcalls⟩,
      fun hunchecked _ => ?_⟩
    · rw [show made = [] from hnone] at hcall
      cases hcall
    · rw [(readied_of_unchecked hunchecked).1] at hready
      cases hready
  · refine ⟨fun call hcall => ?_, fun hnone hgood => ?_, fun _ hpipeline hmadeNone => ?_⟩
    · rw [show made = _ from hmade] at hcall
      obtain ⟨_, -, rfl⟩ := List.mem_map.1 hcall
      exact hchecked hready
    · rw [hdisk, (hchecked hready).2 hgood] at hnone
      cases hnone
    · have htrace : trace = [] := by simpa [callsIn] using hmade.symm.trans hmadeNone
      exact hpipeline (hempty.1 htrace)

/-- A source tree with a file where the build directory is to be, and tools that
succeed. -/
def blockedWorld : World Rehearsal Script where
  disk := ⟨[("p", .directory [("build", .file ⟨#[120]⟩)])], ["p"]⟩
  tools := {Rehearsal.empty with fallback := some (Rehearsal.silent ⟨some 0⟩)}
  user := ⟨[], []⟩
  log := []

/-- A clean run fails where its build directory is a file. -/
theorem run_blocked_clean :
    let recorded := rehearsalPlan.run true rehearsalCrew.recording blockedWorld.recording
    rehearsalCrew.executor.LeavesDisk ∧
      recorded.2.disk.isDirectory rehearsalPlan.buildDir = false ∧
      ¬rehearsalPlan.Unchecked true blockedWorld.disk ∧
      (∃ message, recorded.1 = .error (.filesystem rehearsalPlan.buildDir message)) ∧
      recorded.2.tools.2 = [] := by
  intro recorded
  have hleaves : rehearsalCrew.executor.LeavesDisk := fun _ _ => rfl
  have hnone : recorded.2.disk.isDirectory rehearsalPlan.buildDir = false := by decide +kernel
  have hpath : rehearsalPlan.buildDir.bytes.isEmpty = false := by decide +kernel
  have hchecked : ¬rehearsalPlan.Unchecked true blockedWorld.disk := by
    rintro (hempty | ⟨hclean, -⟩)
    · rw [hpath] at hempty
      cases hempty
    · cases hclean
  obtain ⟨herror, hmade, -⟩ :=
    (run_in_directory rehearsalPlan true hleaves blockedWorld).2.1 hnone hchecked
  exact ⟨hleaves, hnone, hchecked, herror, hmade⟩

/-- Any other run takes the file for a directory: its steps are called, and it is none. -/
theorem run_blocked :
    let recorded := rehearsalPlan.run false rehearsalCrew.recording blockedWorld.recording
    rehearsalCrew.executor.LeavesDisk ∧
      recorded.2.tools.2.map (fun call => (call.1, call.2.isDirectory rehearsalPlan.buildDir)) =
        rehearsalPlan.pipeline.map (fun step => (step.callIn rehearsalPlan.buildDir, false)) ∧
      recorded.2.disk.isDirectory rehearsalPlan.buildDir = false ∧
      recorded.1.toOption.isSome = true :=
  ⟨fun _ _ => rfl, by decide +kernel⟩

end Plan

end BuildConductor
