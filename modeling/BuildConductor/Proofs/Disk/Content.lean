import BuildConductor.Proofs.Disk.Creation
import BuildConductor.Proofs.Path

/-! Places of a disk and paths.

Two disks are compared place by place, by what is there (`Disk.content?`). What is put at one
place changes no other (`content?_put`). A path leads to a place, from name to name (`placeOf`),
and the places on its way are those of its first names (`OnTheWay`), so the path of a directory
leads onto the paths of what is in it (`Leads`). -/
namespace BuildConductor.Disk

variable {disk middle after : Disk} {path : Path} {location other : Location}

/-! ### Places -/

/-- What is put where there was no directory, and has nothing below itself, changes its own
place only. -/
theorem content?_put (new : Node) {directory : Location} {last : SystemText}
    (hdirectory : disk.content? directory = some .directory)
    (hold : disk.content? (directory ++ [last]) ≠ some .directory)
    (hnew : ∀ name rest, new.content? (name :: rest) = none) (other : Location) :
    (disk.put (directory ++ [last]) new).content? other =
      if other = directory ++ [last] then some new.content else disk.content? other := by
  have hplace : directory ++ [last] ≠ [] := by simp
  have hput : (disk.put (directory ++ [last]) new).content? other =
      ((Node.directory disk.root).put new (directory ++ [last])).content? other :=
    congrArg (Option.map Node.content) (disk.lookup?_put new hplace other)
  have hself : ((Node.directory disk.root).put new (directory ++ [last])).lookup?
      (directory ++ [last]) = some new :=
    Node.lookup?_put_self (content?_eq_directory.1 hdirectory)
  rw [hput]
  split
  · rename_i heq
    rw [heq, Node.content?, hself]
    rfl
  rename_i hne
  by_cases hbelow : directory ++ [last] <+: other
  · obtain ⟨more, rfl⟩ := hbelow
    cases more with
    | nil => exact absurd (List.append_nil _) hne
    | cons name rest =>
      rw [content?, Node.content?_append_of_ne hold, Node.content?, Node.lookup?_append, hself]
      exact hnew name rest
  · exact Node.content?_put hbelow

/-- A disk that has directories where another has them keeps them. -/
theorem keeps_of_content? (hcurrent : after.current = disk.current)
    (h : ∀ location, disk.content? location = some .directory →
      after.content? location = some .directory) : disk.Keeps after :=
  ⟨hcurrent, fun location hlocation =>
    content?_eq_directory.1 (h location (content?_eq_directory.2 hlocation))⟩

/-! ### On the way of a path -/

/-- Where a path starts on a disk. -/
def origin (disk : Disk) (path : Path) : Location :=
  if path.isAbsolute then [] else disk.current

/-- The place that a path leads to. -/
def placeOf (disk : Disk) (path : Path) : Location :=
  (steps path).foldl onward (disk.origin path)

/-- Whether a place is one that a path leads through, or to. -/
def OnTheWay (disk : Disk) (path : Path) (location : Location) : Prop :=
  ∃ names, names <+: steps path ∧ location = names.foldl onward (disk.origin path)

theorem walk_eq_foldl {names : List SystemText} {start last : Location}
    (h : disk.walk start names = .ok last) : last = names.foldl onward start := by
  induction names generalizing start with
  | nil =>
    cases h
    rfl
  | cons name rest ih => exact ih (walk_cons_eq_ok.1 h).2

theorem origin_of_start {start : Location} (h : disk.start path = .ok start) :
    disk.origin path = start := by
  unfold origin
  rcases start_eq_ok.1 h with ⟨hpath, rfl⟩ | ⟨hpath, rfl, -⟩ <;> simp [hpath]

/-- What is found under its last name is at the place that the path leads to. -/
theorem Finds.placeOf_eq {directory : Location} {last : SystemText}
    (h : disk.Finds path directory last) : disk.placeOf path = directory ++ [last] := by
  obtain ⟨-, ⟨start, hstart, hwalk⟩, hlast⟩ := approach_eq_ok.1 h.approach
  obtain ⟨front, hfront⟩ := List.getLast?_eq_some_iff.1 hlast
  rw [hfront, List.dropLast_concat] at hwalk
  rw [placeOf, hfront, List.foldl_append, origin_of_start hstart, ← walk_eq_foldl hwalk]
  simp [onward, h.notDots.1, h.notDots.2]

theorem onTheWay_placeOf (disk : Disk) (path : Path) : disk.OnTheWay path (disk.placeOf path) :=
  ⟨steps path, List.prefix_rfl, rfl⟩

theorem steps_eq_namesOf (path : Path) :
    steps path = (Path.namesOf path.bytes).map SystemText.mk :=
  rfl

/-- The path of a directory leads through places on the way of the path of what is in it. -/
theorem steps_parentList? {cs parent : List UInt8} (h : Path.parentList? cs = some parent) :
    steps ⟨⟨parent⟩⟩ <+: steps ⟨⟨cs⟩⟩ := by
  simp only [steps_eq_namesOf, Path.bytes_ofSystem]
  rcases Path.parentList?_eq_some h with ⟨rfl, -⟩ | ⟨rfl, -⟩ | ⟨-, rest, rfl⟩
  · exact List.nil_prefix
  · exact List.nil_prefix
  · rw [Path.namesOf_append, List.map_append]
    exact List.prefix_append _ _

/-- Whether a path starts where another does, and its names are the first of that one's. -/
structure Leads (path onto : Path) : Prop where
  isAbsolute : path.isAbsolute = onto.isAbsolute
  steps : Disk.steps path <+: Disk.steps onto

theorem Leads.refl (path : Path) : Leads path path :=
  ⟨rfl, List.prefix_rfl⟩

theorem Leads.trans {path next onto : Path} (h : Leads path next) (hnext : Leads next onto) :
    Leads path onto :=
  ⟨h.isAbsolute.trans hnext.isAbsolute, h.steps.trans hnext.steps⟩

theorem leads_of_parentList? {cs parent : List UInt8} (h : Path.parentList? cs = some parent) :
    Leads ⟨⟨parent⟩⟩ ⟨⟨cs⟩⟩ :=
  ⟨Path.isAbsoluteList_parentList? h, steps_parentList? h⟩

theorem leads_of_parent? {parent : Path} (h : path.parent? = some parent) : Leads parent path := by
  obtain ⟨cs, hcs, rfl⟩ := Option.map_eq_some_iff.1 h
  exact leads_of_parentList? hcs

theorem leads_of_mem_ancestors {cs ancestor : List UInt8} (h : ancestor ∈ ancestors cs) :
    Leads ⟨⟨ancestor⟩⟩ ⟨⟨cs⟩⟩ := by
  fun_induction ancestors cs with
  | case1 cs ih =>
    rcases List.mem_cons.1 h with rfl | h
    · exact .refl _
    split at h
    · cases h
    rename_i parent hparent
    split at h
    · rename_i hshorter
      exact (ih parent hshorter h).trans (leads_of_parentList? hparent)
    · cases h

end BuildConductor.Disk
