import BuildConductor.Proofs.Clean

/-! What is changed before the first step of a plan.

Making the build directory ready adds the directories that are missing above it, and a clean run
empties it; every other place stays as it is (`Plan.ReadyFrom`). This is the disk that the first
command finds, whatever commands do to it later. -/
namespace BuildConductor

variable {ε π : Type}

/-! ### New directories -/

theorem Path.isEmpty_of_isAbsolute {path : Path} (h : path.isAbsolute = true) :
    path.bytes.isEmpty = false := by
  refine eq_false_of_ne_true fun hempty => ?_
  rw [Path.isAbsolute, List.isEmpty_iff.1 hempty] at h
  cases h

namespace Disk
variable {disk after : Disk} {path : Path}

/-- A directory in which no name is found has no entries. -/
theorem entries_eq_nil {entries : List (SystemText × Node)}
    (h : ∀ name, (Node.directory entries).child? name = none) : entries = [] := by
  cases entries with
  | nil => rfl
  | cons entry rest =>
    have hfirst := h entry.1
    rw [Node.child?, Node.entries, valueAt?_cons, if_pos rfl] at hfirst
    cases hfirst

/-- A settled path that nothing was found under, and that leads to a directory once its way is
paved, led to a place where nothing was. -/
theorem Paves.missing (h : disk.Paves path after) (hsettled : disk.Settled path)
    (hfree : disk.contains path = false) (hdirectory : after.isDirectory path = true) :
    disk.content? (disk.placeOf path) = none := by
  obtain ⟨hresolves, hplace⟩ := isDirectory_iff.1 hdirectory
  rw [placeOf_of_current h.current] at hplace
  rcases h.places (disk.placeOf path) with hsame | ⟨hnone, -, -⟩
  · rw [hplace] at hsame
    have hthere := hsettled.resolves h.current h.keepsFiles hresolves (by rw [← hsame]; nofun)
    have hcontains := contains_iff.2 ⟨hthere, .directory, hsame.symm, fun _ => rfl⟩
    cases hfree.symm.trans hcontains
  · exact hnone

/-- Nothing is below a place that is new: no place below is on the way of a path to it. -/
theorem Paves.empty_below (h : disk.Paves path after) (hsettled : disk.Settled path)
    (hmissing : disk.content? (disk.placeOf path) = none) (name : SystemText) :
    after.content? (disk.placeOf path ++ [name]) = none := by
  rcases h.places (disk.placeOf path ++ [name]) with hsame | ⟨hnone, -, hway⟩
  · rw [hsame, content?_append_of_missing hmissing]
  · have habove := (hsettled.prefix_of_missing hway hnone).length_le
    rw [List.length_append, List.length_singleton] at habove
    omega

/-- So a directory that is made for such a path is empty. -/
theorem lookup?_of_ensureDirectory (hsettled : disk.Settled path)
    (hpath : path.bytes.isEmpty = false) (hfree : disk.contains path = false)
    (h : disk.ensureDirectory path = (.ok (), after)) :
    after.lookup? (disk.placeOf path) = some (.directory []) := by
  have hdirectory :=
    isDirectory_of_ensureDirectory h hpath (not_hasFile_of_not_contains hfree)
  have hpaves := disk.ensureDirectory_paves path
  rw [h] at hpaves
  have hmissing := hpaves.missing hsettled hfree hdirectory
  obtain ⟨-, hplace⟩ := isDirectory_iff.1 hdirectory
  rw [placeOf_of_current hpaves.current] at hplace
  obtain ⟨entries, hentries⟩ := content?_eq_directory.1 hplace
  rw [hentries]
  refine congrArg (fun entries => some (Node.directory entries)) (entries_eq_nil fun name => ?_)
  have hnone := hpaves.empty_below hsettled hmissing name
  rw [content?_eq_none, lookup?_append, hentries, Option.bind_some, Node.lookup?_cons] at hnone
  cases hchild : (Node.directory entries).child? name with
  | none => rfl
  | some child =>
    rw [hchild] at hnone
    cases hnone

end Disk

/-! ### The build directory -/

namespace Plan
variable {plan : Plan} {clean : Bool} {disk after : Disk} {removed : Bool}

/-- A build directory is ready once it was cleared and is there. -/
theorem readied_eq_ok :
    plan.readied clean disk = (.ok removed, after) ↔ ∃ middle,
      plan.cleared clean disk = (.ok removed, middle) ∧
        middle.ensureDirectory plan.buildDir = (.ok (), after) := by
  unfold readied
  rcases plan.cleared clean disk with ⟨result, middle⟩
  cases result with
  | error e => simp
  | ok found =>
    rcases hensure : middle.ensureDirectory plan.buildDir with ⟨ensured, last⟩
    cases ensured <;> simp [hensure, Except.map]

/-- Something was removed if it was there and that was wanted. -/
theorem removed_of_cleared (h : plan.cleared clean disk = (.ok removed, after)) :
    removed = true ↔ clean = true ∧ disk.contains plan.buildDir = true := by
  unfold cleared Disk.removeIfExists at h
  cases clean with
  | false =>
    cases h
    simp
  | true =>
    rw [if_pos rfl] at h
    split at h
    · rename_i hcontains
      split at h
      · cases h
        simp [hcontains]
      · cases h
    · rename_i hcontains
      cases h
      simp [hcontains]

/-- Nothing is removed where nothing is found. -/
theorem cleared_of_not_contains (clean : Bool) (h : disk.contains plan.buildDir = false) :
    plan.cleared clean disk = (.ok false, disk) := by
  unfold cleared Disk.removeIfExists
  cases clean <;> simp [h]

/-- How a disk comes out of another on which the build directory was made ready. -/
structure ReadyFrom (plan : Plan) (clean : Bool) (before after : Disk) : Prop where
  current : after.current = before.current
  isDirectory : after.isDirectory plan.buildDir = true
  /-- What is not below the build directory, and is no directory above it that was missing, is
  as it was. -/
  outside : ∀ location, ¬before.placeOf plan.buildDir <+: location →
    ¬(location <+: before.placeOf plan.buildDir ∧ before.content? location = none) →
    after.content? location = before.content? location
  /-- A clean run finds it empty. -/
  emptied : clean = true → after.lookup? (before.placeOf plan.buildDir) = some (.directory [])
  /-- Any other leaves it alone. -/
  kept : clean = false → before.isDirectory plan.buildDir = true → after = before
  /-- A new one is empty. -/
  made : before.contains plan.buildDir = false →
    after.lookup? (before.placeOf plan.buildDir) = some (.directory [])

/-- A path that is not empty and leads to a directory, or to nothing, is not taken for a
directory by mistake. -/
theorem not_unchecked (hpath : plan.buildDir.bytes.isEmpty = false)
    (hthere : disk.contains plan.buildDir = false ∨ disk.isDirectory plan.buildDir = true) :
    ¬plan.Unchecked clean disk := by
  rintro (hempty | ⟨-, hfile⟩)
  · rw [hpath] at hempty
    cases hempty
  · rcases hthere with hnone | hdirectory
    · exact Disk.not_hasFile_of_not_contains hnone hfile
    · exact Disk.not_hasFile_of_isDirectory hdirectory hfile

/-- Only what is below the build directory is changed, and what was missing above it. -/
theorem content?_readied (clean : Bool) (hplain : (".." : SystemText) ∉ Disk.steps plan.buildDir)
    {location : Location} (hbelow : ¬disk.placeOf plan.buildDir <+: location)
    (habove : ¬(location <+: disk.placeOf plan.buildDir ∧ disk.content? location = none)) :
    (plan.readied clean disk).2.content? location = disk.content? location := by
  have hapart : ∀ target, disk.resolve plan.buildDir = .ok target →
      ¬target.location <+: location := fun target htarget => by
    rwa [Disk.location_of_resolve htarget]
  rcases plan.readied_paves clean hapart with hsame | ⟨hmissing, -, hway⟩
  · exact hsame
  · have hsettled := disk.settled_of_plain hplain
    exact absurd ⟨hsettled.prefix_of_missing hway hmissing, hmissing⟩ habove

/-- A build directory whose path has no two dots, and that is not a file, is made ready without
a change to anything else. -/
theorem readyFrom_of_readied (habsolute : plan.buildDir.isAbsolute = true)
    (hplain : (".." : SystemText) ∉ Disk.steps plan.buildDir)
    (hthere : disk.contains plan.buildDir = false ∨ disk.isDirectory plan.buildDir = true)
    (h : plan.readied clean disk = (.ok removed, after)) : plan.ReadyFrom clean disk after := by
  have hpath := Path.isEmpty_of_isAbsolute habsolute
  have hready := isDirectory_of_readied (by rw [h]) (not_unchecked hpath hthere)
  rw [h] at hready
  obtain ⟨middle, hcleared, hensure⟩ := readied_eq_ok.1 h
  have hcurrent : middle.current = disk.current := by
    have hcurrent := plan.cleared_current clean disk
    rwa [hcleared] at hcurrent
  -- Where nothing is left at the build path, the directory is made anew.
  have hnew (hfree : middle.contains plan.buildDir = false) :
      after.lookup? (disk.placeOf plan.buildDir) = some (.directory []) := by
    rw [← Disk.placeOf_of_current hcurrent]
    exact Disk.lookup?_of_ensureDirectory (middle.settled_of_plain hplain) hpath hfree hensure
  refine ⟨?_, hready, fun location hbelow habove => ?_, fun hclean => ?_, fun hclean hbefore => ?_,
    fun hfree => ?_⟩
  · have hpaves := middle.ensureDirectory_paves plan.buildDir
    rw [hensure] at hpaves
    exact hpaves.current.trans hcurrent
  · have hsame := content?_readied clean hplain hbelow habove
    rwa [h] at hsame
  · rw [hclean, cleared, if_pos rfl] at hcleared
    exact hnew (Disk.not_contains_of_removeIfExists hcleared)
  · rw [hclean] at hcleared
    cases hcleared
    rw [Disk.ensureDirectory_of_isDirectory hbefore] at hensure
    cases hensure
    rfl
  · have hsame := cleared_of_not_contains clean hfree
    cases hcleared.symm.trans hsame
    exact hnew hfree

/-! ### The first command -/

/-- The first command of a recorded run, if there is one, is made on the disk on which the build
directory was made ready. -/
theorem first_recorded (plan : Plan) (clean : Bool) (crew : Crew ε π) (world : World ε π)
    {call : Call} {disk : Disk}
    (h : (plan.run clean crew.recording world.recording).2.tools.2.head? = some (call, disk)) :
    ∃ removed, plan.readied clean world.disk = (.ok removed, disk) := by
  rcases plan.run_cases clean crew.recording world.recording with
      ⟨e, left, -, hrun, hleft⟩ | ⟨removed, ready, trace, result, last, hready, hreadied, -, hrun, hlast⟩
  · rw [hrun, hleft.tools] at h
    cases h
  · obtain ⟨record, hrecord, hfirst⟩ := hlast.answers.exists_record
    have hnone : ready.tools.2 = [] := congrArg Prod.snd hreadied.tools
    have hmade : last.tools.2 = ready.tools.2 ++ record := hrecord
    rw [hrun, hmade, hnone, List.nil_append] at h
    have hdisk : disk = ready.disk := hfirst _ h
    exact ⟨removed, Prod.ext hready (hreadied.disk.symm.trans hdisk.symm)⟩

/-- The report of a run says whether its build directory was there to be removed. -/
theorem cleaned_iff (plan : Plan) (clean : Bool) (crew : Crew ε π) (world : World ε π)
    {report : Report} (h : (plan.run clean crew world).1 = .ok report) :
    report.cleaned = true ↔ clean = true ∧ world.disk.contains plan.buildDir = true := by
  rcases plan.run_cases clean crew world with
      ⟨e, left, -, hrun, -⟩ | ⟨removed, ready, trace, result, last, hready, -, hunfolds, hrun, -⟩
  · rw [hrun] at h
    cases h
  · rw [hrun] at h
    cases h
    obtain ⟨middle, hcleared, -⟩ := readied_eq_ok.1 (Prod.ext hready rfl)
    rw [hunfolds.cleaned_eq]
    exact removed_of_cleared hcleared

/-- Nothing is different for a clean run where there is nothing to remove. -/
theorem prepare_of_not_contains (plan : Plan) (crew : Crew ε π) {world : World ε π}
    (h : world.disk.contains plan.buildDir = false) :
    plan.prepare true crew world = plan.prepare false crew world := by
  have hremove : world.disk.removeIfExists plan.buildDir = (.ok false, world.disk) := by
    simp [Disk.removeIfExists, h]
  have hclean : plan.clean crew world = (.ok false, world) := by
    have hdone : ((Task.onDisk fun disk => disk.removeIfExists plan.buildDir).mapError
        (BuildError.ofFile plan.buildDir)) crew world = (.ok false, world) := by
      simp only [Task.mapError, Task.onDisk, hremove]
      rfl
    exact Task.andThen_ok hdone
  exact Task.andThen_ok hclean

/-- What a run does before its first command, whoever runs the commands. Where the path of the
build directory is absolute and has no two dots, and leads to a directory or to nothing, the
first command finds the disk as it was, but for the build directory, what is below it, and
directories above it that were missing. A clean run finds it empty, and reports whether it was
there; any other finds it as it was. -/
theorem run_begins_ready (plan : Plan) (clean : Bool) (crew : Crew ε π) (world : World ε π)
    (habsolute : plan.buildDir.isAbsolute = true)
    (hplain : (".." : SystemText) ∉ Disk.steps plan.buildDir)
    (hthere : world.disk.contains plan.buildDir = false ∨
      world.disk.isDirectory plan.buildDir = true) :
    (∀ call disk,
      (plan.run clean crew.recording world.recording).2.tools.2.head? = some (call, disk) →
        plan.ReadyFrom clean world.disk disk) ∧
      (∀ report, (plan.run clean crew world).1 = .ok report →
        (report.cleaned = true ↔ clean = true ∧ world.disk.contains plan.buildDir = true)) ∧
      (world.disk.contains plan.buildDir = false →
        plan.prepare true crew world = plan.prepare false crew world ∧
          plan.run true crew world = plan.run false crew world) := by
  refine ⟨fun call disk hfirst => ?_, fun report hreport => plan.cleaned_iff clean crew world hreport,
    fun hnone => ?_⟩
  · obtain ⟨removed, hready⟩ := plan.first_recorded clean crew world hfirst
    exact readyFrom_of_readied habsolute hplain hthere hready
  · have hsame := plan.prepare_of_not_contains crew hnone
    refine ⟨hsame, ?_⟩
    show Task.andThen _ _ crew world = Task.andThen _ _ crew world
    rw [Task.andThen, Task.andThen, hsame]

/-- The build directory beside a source tree is emptied, and nothing else is touched. -/
theorem run_begins_emptied :
    let recorded := rehearsalPlan.run true rehearsalCrew.recording Document.builtWorld.recording
    rehearsalPlan.buildDir.isAbsolute = true ∧
      (".." : SystemText) ∉ Disk.steps rehearsalPlan.buildDir ∧
      Document.builtWorld.disk.isDirectory rehearsalPlan.buildDir = true ∧
      ∃ call disk, recorded.2.tools.2.head? = some (call, disk) ∧
        rehearsalPlan.ReadyFrom true Document.builtWorld.disk disk := by
  intro recorded
  have habsolute : rehearsalPlan.buildDir.isAbsolute = true := by decide +kernel
  have hplain : (".." : SystemText) ∉ Disk.steps rehearsalPlan.buildDir := by decide +kernel
  have hthere : Document.builtWorld.disk.isDirectory rehearsalPlan.buildDir = true := by
    decide +kernel
  have hsome : recorded.2.tools.2.head?.isSome = true := by decide +kernel
  obtain ⟨⟨call, disk⟩, hfirst⟩ := Option.isSome_iff_exists.1 hsome
  exact ⟨habsolute, hplain, hthere, call, disk, hfirst,
    (run_begins_ready rehearsalPlan true rehearsalCrew Document.builtWorld habsolute hplain
      (.inr hthere)).1 call disk hfirst⟩

end Plan

end BuildConductor
