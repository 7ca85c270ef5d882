import BuildConductor.Proofs.Disk.Frame

/-! Directories that are made, and what is removed.

A path leads to one location, whatever the disk (`walk_unique`), and it leads there as
long as the directories on its way stay directories (`approach_of_keeps`). So a directory
that was made is found under its path (`isDirectory_of_ensureDirectory`), and what was
removed is not found under it any more (`not_contains_of_removeIfExists`). -/
namespace BuildConductor

/-! ### Trees -/

namespace Node

/-- Whether there is a directory at a location. -/
def HasDirectory (node : Node) (location : Location) : Prop :=
  ∃ entries, node.lookup? location = some (.directory entries)

theorem put_below {name : SystemText} {entries : List (SystemText × Node)} {child : Node}
    (hchild : (directory entries).child? name = some child) (new : Node) (rest : Location) :
    (directory entries).put new (name :: rest) =
      .directory (setEntry name (child.put new rest) entries) := by
  rw [Node.put.eq_def]
  simp only [hchild]

theorem put_single (entries : List (SystemText × Node)) (new : Node) (name : SystemText) :
    (directory entries).put new [name] = .directory (setEntry name new entries) := by
  cases hchild : (directory entries).child? name with
  | none =>
    rw [Node.put.eq_def]
    simp only [hchild]
  | some child => rw [put_below hchild, Node.put.eq_def]

/-- What is put into a directory is found there. -/
theorem lookup?_put_self {node new : Node} {location : Location} {name : SystemText}
    (h : node.HasDirectory location) :
    (node.put new (location ++ [name])).lookup? (location ++ [name]) = some new := by
  induction location generalizing node with
  | nil =>
    obtain ⟨entries, hentries⟩ := h
    cases hentries
    rw [List.nil_append, put_single, lookup?_cons, child?_setEntry, if_pos rfl]
    rfl
  | cons first rest ih =>
    obtain ⟨below, hbelow⟩ := h
    obtain ⟨entries, rfl⟩ := directory_of_lookup? hbelow
    rw [lookup?_cons] at hbelow
    obtain ⟨child, hchild, hbelow⟩ := Option.bind_eq_some_iff.1 hbelow
    rw [List.cons_append, put_below hchild, lookup?_cons, child?_setEntry, if_pos rfl]
    exact ih ⟨below, hbelow⟩

/-- What is put where nothing was leaves every directory one. -/
theorem HasDirectory.put {node : Node} {location other : Location}
    (h : node.HasDirectory other) (hfree : node.lookup? location = none) (new : Node) :
    (node.put new location).HasDirectory other := by
  have hapart : ¬location <+: other := by
    rintro ⟨more, rfl⟩
    obtain ⟨entries, hentries⟩ := h
    rw [lookup?_append, hfree] at hentries
    cases hentries
  exact content?_eq_directory.1 ((content?_put hapart).trans (content?_eq_directory.2 h))

/-- What was removed is not found. -/
theorem lookup?_erase_self (node : Node) {location : Location} (h : location ≠ []) :
    (node.erase location).lookup? location = none := by
  fun_induction Node.erase node location with
  | case1 => exact absurd rfl h
  | case2 => rfl
  | case3 name entries =>
    have hchild : (directory (entries.filter fun entry => entry.1 != name)).child? name = none := by
      simp [child?, Node.entries, valueAt?, List.find?_eq_none]
    rw [lookup?_cons, hchild]
    rfl
  | case4 => rfl
  | case5 name next rest entries child hchild ih =>
    simp only [hchild]
    rw [lookup?_cons, child?_setEntry, if_pos rfl]
    exact ih (List.cons_ne_nil _ _)
  | case6 name next rest entries hnone =>
    simp only [hnone]
    rw [lookup?_cons, hnone]
    rfl

end Node

namespace Disk
variable {disk after : Disk} {path : Path} {location : Location}

/-! ### Where a path leads -/

/-- Names lead to one directory, whatever the disk. -/
theorem walk_unique {names : List SystemText} {start last other : Location}
    (h : disk.walk start names = .ok last) (hother : after.walk start names = .ok other) :
    last = other := by
  induction names generalizing start with
  | nil =>
    cases h
    cases hother
    rfl
  | cons name rest ih => exact ih (walk_cons_eq_ok.1 h).2 (walk_cons_eq_ok.1 hother).2

/-- Whether a disk has all directories of another, and the same current one. -/
structure Keeps (disk after : Disk) : Prop where
  current : after.current = disk.current
  directories : ∀ location, (Node.directory disk.root).HasDirectory location →
    (Node.directory after.root).HasDirectory location

theorem Keeps.refl (disk : Disk) : disk.Keeps disk :=
  ⟨rfl, fun _ hdirectory => hdirectory⟩

theorem Keeps.trans {middle : Disk} (h : disk.Keeps middle) (hmore : middle.Keeps after) :
    disk.Keeps after :=
  ⟨hmore.current.trans h.current, fun location hdirectory =>
    hmore.directories location (h.directories location hdirectory)⟩

theorem walk_of_keeps (hkeeps : disk.Keeps after) {names : List SystemText} {start last : Location}
    (h : disk.walk start names = .ok last) : after.walk start names = .ok last := by
  induction names generalizing start with
  | nil => exact h
  | cons name rest ih =>
    obtain ⟨henters, hrest⟩ := walk_cons_eq_ok.1 h
    refine walk_cons_eq_ok.2 ⟨fun hsingle hdouble => ?_, ih hrest⟩
    obtain ⟨hshort, hdirectory⟩ := henters hsingle hdouble
    exact ⟨hshort, hkeeps.directories _ hdirectory⟩

theorem start_of_keeps (hkeeps : disk.Keeps after) {start : Location}
    (h : disk.start path = .ok start) : after.start path = .ok start := by
  rw [start_eq_ok] at h ⊢
  rw [hkeeps.current]
  exact h.imp_right fun ⟨hrelative, hstart, hcurrent⟩ =>
    ⟨hrelative, hstart, hkeeps.directories _ hcurrent⟩

theorem approach_of_keeps (hkeeps : disk.Keeps after) {directory : Location}
    {last : Option SystemText} (h : disk.approach path = .ok (directory, last)) :
    after.approach path = .ok (directory, last) := by
  obtain ⟨htaken, ⟨start, hstart, hwalk⟩, hlast⟩ := approach_eq_ok.1 h
  exact approach_eq_ok.2
    ⟨htaken, ⟨start, start_of_keeps hkeeps hstart, walk_of_keeps hkeeps hwalk⟩, hlast⟩

theorem start_unique (hcurrent : after.current = disk.current) {start other : Location}
    (h : disk.start path = .ok start) (hother : after.start path = .ok other) : start = other := by
  rcases start_eq_ok.1 h with ⟨hpath, rfl⟩ | ⟨hpath, rfl, -⟩ <;>
    rcases start_eq_ok.1 hother with ⟨hpath', rfl⟩ | ⟨hpath', rfl, -⟩
  · rfl
  · cases hpath.symm.trans hpath'
  · cases hpath.symm.trans hpath'
  · exact hcurrent.symm

/-- A path is looked up in one directory, whatever the disk. -/
theorem approach_unique (hcurrent : after.current = disk.current)
    {r other : Location × Option SystemText} (h : disk.approach path = .ok r)
    (hother : after.approach path = .ok other) : r = other := by
  obtain ⟨-, ⟨start, hstart, hwalk⟩, hlast⟩ := approach_eq_ok.1 h
  obtain ⟨-, ⟨start', hstart', hwalk'⟩, hlast'⟩ := approach_eq_ok.1 hother
  cases start_unique hcurrent hstart hstart'
  exact Prod.ext (walk_unique hwalk hwalk') (hlast.symm.trans hlast')

/-! ### Directories that are made -/

theorem isDirectory_of_resolve {entries : List (SystemText × Node)}
    (h : disk.resolve path = .ok (.present location (.directory entries))) :
    disk.isDirectory path = true := by
  simp [isDirectory, stat, h, Node.isDirectory]

theorem lookup?_put (disk : Disk) (new : Node) {location : Location} (h : location ≠ [])
    (other : Location) :
    (disk.put location new).lookup? other =
      ((Node.directory disk.root).put new location).lookup? other := by
  obtain ⟨name, rest, rfl⟩ := List.exists_cons_of_ne_nil h
  obtain ⟨changed, hchanged⟩ := Node.put_directory disk.root new name rest
  rw [lookup?, Disk.put, hchanged]
  rfl

theorem keeps_put {new : Node} (hfree : disk.lookup? location = none) (hne : location ≠ []) :
    disk.Keeps (disk.put location new) where
  current := rfl
  directories other h := by
    obtain ⟨entries, hentries⟩ := h.put hfree new
    exact ⟨entries, (disk.lookup?_put new hne other).trans hentries⟩

/-- A directory that was made is found under its path. -/
theorem isDirectory_of_makeDirectory (h : disk.makeDirectory path = (.ok (), after)) :
    after.isDirectory path = true := by
  unfold makeDirectory at h
  split at h
  · cases h
  · cases h
  · cases h
  rename_i free hfree
  cases h
  obtain ⟨directory, last, rfl, hfinds, hlookup⟩ := exists_free hfree
  have hne : directory ++ [last] ≠ [] := by simp
  obtain ⟨entries, hentries⟩ := directory_of_approach hfinds.approach
  have hkeeps : disk.Keeps (disk.put (directory ++ [last]) (.directory [])) :=
    keeps_put hlookup hne
  have hmade : (disk.put (directory ++ [last]) (.directory [])).lookup? (directory ++ [last]) =
      some (.directory []) := by
    rw [lookup?_put disk _ hne]
    exact Node.lookup?_put_self ⟨entries, hentries⟩
  have hthere : (disk.put (directory ++ [last]) (.directory [])).Finds path directory last :=
    ⟨approach_of_keeps hkeeps hfinds.approach, hfinds.notDots, hfinds.short⟩
  exact isDirectory_of_resolve (hthere.resolve hmade)

/-- The first of the paths is a directory in the end, if it is one that can be named. -/
theorem isDirectory_of_makeFirst {above : List Path}
    (h : disk.makeFirst (path :: above) = (.ok (), after)) (hpath : path.bytes.isEmpty = false) :
    after.isDirectory path = true := by
  unfold makeFirst at h
  rw [if_neg (by simp [hpath])] at h
  split at h
  · rename_i hmake
    cases h
    exact isDirectory_of_makeDirectory hmake
  · split at h
    · cases h
    split at h
    · rename_i hmake
      cases h
      exact isDirectory_of_makeDirectory hmake
    · split at h
      · rename_i hdirectory
        cases h
        exact hdirectory
      · cases h
  · split at h
    · rename_i hdirectory
      cases h
      exact hdirectory
    · cases h

theorem isDirectory_of_makeDirectories (h : disk.makeDirectories path = (.ok (), after))
    (hpath : path.bytes.isEmpty = false) : after.isDirectory path = true := by
  unfold makeDirectories at h
  rw [ancestors, List.map_cons, Path.ofSystem_bytes] at h
  exact isDirectory_of_makeFirst h hpath

/-! ### The empty path -/

theorem contains_of_resolve_error {e : SystemError} (h : disk.resolve path = .error e) :
    disk.contains path = false := by
  simp [contains, stat, h, Except.toOption]

/-- Nothing is found under an empty path, yet making its directory succeeds. -/
theorem contains_of_isEmpty (disk : Disk) (h : path.bytes.isEmpty = true) :
    disk.contains path = false := by
  have hpath : path.bytes = [] := List.isEmpty_iff.1 h
  exact contains_of_resolve_error (e := .notFound) (by simp [Disk.resolve, approach, hpath])

theorem makeDirectories_of_isEmpty (disk : Disk) (h : path.bytes.isEmpty = true) :
    disk.makeDirectories path = (.ok (), disk) := by
  unfold makeDirectories
  rw [ancestors, List.map_cons, Path.ofSystem_bytes, makeFirst, if_pos h]

/-! ### What is there -/

/-- Whether a path names a file. -/
def HasFile (disk : Disk) (path : Path) : Prop :=
  ∃ location bytes, disk.stat path = .ok (location, .file bytes)

/-- What is there is a directory or a file. -/
theorem isDirectory_or_hasFile (h : disk.contains path = true) :
    disk.isDirectory path = true ∨ disk.HasFile path := by
  unfold contains at h
  unfold isDirectory HasFile
  cases hstat : disk.stat path with
  | error e =>
    rw [hstat] at h
    cases h
  | ok found =>
    obtain ⟨location, node⟩ := found
    cases node with
    | file bytes => exact .inr ⟨location, bytes, rfl⟩
    | directory entries => exact .inl rfl

theorem isDirectory_of_ensureDirectory (h : disk.ensureDirectory path = (.ok (), after))
    (hpath : path.bytes.isEmpty = false) (hfile : ¬disk.HasFile path) :
    after.isDirectory path = true := by
  unfold ensureDirectory at h
  split at h
  · rename_i hcontains
    cases h
    exact (isDirectory_or_hasFile hcontains).resolve_right hfile
  · split at h
    · rename_i hmake
      cases h
      exact isDirectory_of_makeDirectories hmake hpath
    · cases h

/-! ### What is removed -/

theorem lookup?_erase_self (disk : Disk) (h : location ≠ []) :
    (disk.erase location).lookup? location = none := by
  obtain ⟨changed, hchanged⟩ := Node.erase_directory disk.root location
  have herase := Node.lookup?_erase_self (Node.directory disk.root) h
  rw [hchanged] at herase
  rw [lookup?, Disk.erase, hchanged]
  exact herase

/-- What was found under its last name is not found where it was removed. -/
theorem not_contains_erase {node : Node} (h : disk.resolve path = .ok (.present location node)) :
    (disk.erase location).contains path = false := by
  obtain ⟨directory, last, rfl, hfinds, -⟩ := exists_finds h
  have hname : directory ++ [last] ≠ [] := by simp
  have hgone := disk.lookup?_erase_self hname
  have hcurrent : (disk.erase (directory ++ [last])).current = disk.current := rfl
  generalize disk.erase (directory ++ [last]) = after at hgone hcurrent ⊢
  cases happroach : after.approach path with
  | error e => exact contains_of_resolve_error (e := e) (by simp only [Disk.resolve, happroach])
  | ok r =>
    cases approach_unique hcurrent hfinds.approach happroach
    have hthere : after.Finds path directory last := ⟨happroach, hfinds.notDots, hfinds.short⟩
    simp [contains, stat, hthere.resolve hgone, targetAt, Except.toOption]

/-- What was removed is not found any more. -/
theorem not_contains_of_removeTree (h : disk.removeTree path = (.ok (), after)) :
    after.contains path = false := by
  unfold removeTree at h
  split at h
  · cases h
  · cases h
  · cases h
  · rename_i hresolve
    simp only at h
    split at h
    · rename_i hcleared
      cases h
      exact contains_of_resolve_error hcleared
    · cases h
      exact not_contains_erase hresolve
  · simp only at h
    split at h
    · rename_i hcleared
      cases h
      exact contains_of_resolve_error hcleared
    · cases h

theorem not_contains_of_removeIfExists {removed : Bool}
    (h : disk.removeIfExists path = (.ok removed, after)) : after.contains path = false := by
  unfold removeIfExists at h
  split at h
  · split at h
    · rename_i hremove
      cases h
      exact not_contains_of_removeTree hremove
    · cases h
  · rename_i hcontains
    cases h
    exact eq_false_of_ne_true hcontains

theorem not_isDirectory_of_not_contains (h : disk.contains path = false) :
    disk.isDirectory path = false := by
  refine eq_false_of_ne_true fun hdirectory => ?_
  unfold contains isDirectory at *
  cases hstat : disk.stat path with
  | error e => simp [hstat] at hdirectory
  | ok found => simp [hstat, Except.toOption] at h

theorem not_hasFile_of_not_contains (h : disk.contains path = false) : ¬disk.HasFile path := by
  rintro ⟨location, bytes, hstat⟩
  simp [contains, hstat, Except.toOption] at h

theorem not_hasFile_of_isDirectory (h : disk.isDirectory path = true) : ¬disk.HasFile path := by
  rintro ⟨location, bytes, hstat⟩
  simp [isDirectory, hstat] at h

/-- A directory that is there is left as it is. -/
theorem ensureDirectory_of_isDirectory (h : disk.isDirectory path = true) :
    disk.ensureDirectory path = (.ok (), disk) := by
  have hcontains : disk.contains path = true :=
    eq_true_of_ne_false fun hnone => by
      rw [not_isDirectory_of_not_contains hnone] at h
      cases h
  rw [ensureDirectory, if_pos hcontains]

end Disk

end BuildConductor
