import BuildConductor.Proofs.Build
import BuildConductor.Proofs.OutputFlags
import BuildConductor.Proofs.Submodule.Status

/-! What is said about missing submodules.

Before a build asks whether to initialize submodules it says how many are missing and names
them. A name is what the status has for the path of a submodule up to the first blank. So
submodules are named by their paths, as `NamesMissing` says they should be, exactly where no
path has a blank in it (`Document.build_names_missing`). -/
namespace BuildConductor

variable {ε π : Type}

/-! ### What is logged first -/

/-- The world with more in its log. -/
def World.logging (world : World ε π) (events : List Event) : World ε π :=
  {world with log := world.log ++ events}

namespace Task
variable {E F α β : Type} {crew : Crew ε π} {world : World ε π}

/-- Whether these are the first events that a task adds to the log. -/
def LogsFirst (task : Task ε π E α) (crew : Crew ε π) (world : World ε π) (events : List Event) :
    Prop :=
  world.log ++ events <+: (task crew world).2.log

/-- What was logged stays in the log of a task that consoles can be made for. -/
theorem Mirrors.logsFirst_nil {plain : Task ε π E α} {live : Console → Task ε π E α}
    (h : ∀ console, plain.Mirrors (live console) console) (crew : Crew ε π) (world : World ε π) :
    plain.LogsFirst crew world [] := by
  obtain ⟨events, -, hlog, -⟩ := h ⟨⟨.normal, false⟩, ⟨0⟩⟩ crew world []
  rw [LogsFirst, hlog, List.append_nil]
  exact List.prefix_append world.log events

theorem LogsFirst.bind {task : Task ε π E α} {next : α → Task ε π E β} {events : List Event}
    (h : task.LogsFirst crew world events) (hnext : ∀ a left, (next a).LogsFirst crew left []) :
    (task >>= next).LogsFirst crew world events := by
  show world.log ++ events <+: (Task.andThen task next crew world).2.log
  unfold LogsFirst at h
  unfold Task.andThen
  generalize task crew world = outcome at h
  obtain ⟨result, left⟩ := outcome
  cases result with
  | error e => exact h
  | ok a =>
    have hkept := hnext a left
    rw [LogsFirst, List.append_nil] at hkept
    exact h.trans hkept

/-- After a task that logs just this, the next one goes on. -/
theorem logsFirst_bind {task : Task ε π E α} {next : α → Task ε π E β} {a : α}
    {left : World ε π} {events more : List Event} (htask : task crew world = (.ok a, left))
    (hlog : left.log = world.log ++ events) (hnext : (next a).LogsFirst crew left more) :
    (task >>= next).LogsFirst crew world (events ++ more) := by
  have hboth : (task >>= next) crew world = next a crew left := andThen_ok htask
  rw [LogsFirst, hboth, ← List.append_assoc, ← hlog]
  exact hnext

theorem LogsFirst.mapError {task : Task ε π E α} {events : List Event}
    (h : task.LogsFirst crew world events) (f : E → F) :
    (task.mapError f).LogsFirst crew world events :=
  h

/-- As many events that are logged first are the same. -/
theorem LogsFirst.eq {task : Task ε π E α} {events others : List Event}
    (h : task.LogsFirst crew world events) (hother : task.LogsFirst crew world others)
    (hlength : events.length = others.length) : events = others := by
  have hprefix := List.prefix_of_prefix_length_le h hother
    (by rw [List.length_append, List.length_append, hlength])
  have hsame := hprefix.eq_of_length (by rw [List.length_append, List.length_append, hlength])
  exact List.append_cancel_left hsame

theorem sayAll_eq (status : Status) (message : α → String) (items : List α) (crew : Crew ε π)
    (world : World ε π) :
    (sayAll status message items : Task ε π E Unit) crew world =
      (.ok (), world.logging (items.map fun a => .said status (message a))) := by
  induction items generalizing world with
  | nil =>
    rw [List.map_nil, World.logging, List.append_nil]
    rfl
  | cons a rest ih =>
    show sayAll status message rest crew (world.logging [.said status (message a)]) = _
    rw [ih, World.logging, World.logging, World.logging, List.append_assoc]
    rfl

theorem confirm_logsFirst (question : String) (default : Bool) (crew : Crew ε π)
    (world : World ε π) :
    ∃ shown, (confirm question default).LogsFirst crew world
      [.asked (confirmQuestion question default) shown] := by
  have hask : (ask (confirmQuestion question default)).LogsFirst crew world
      [.asked (confirmQuestion question default)
        (crew.prompter.ask (confirmQuestion question default) world.user).1.shown] :=
    List.prefix_rfl
  exact ⟨_, hask.bind fun _ left => by
    rw [LogsFirst, List.append_nil]
    exact List.prefix_rfl⟩

end Task

namespace Submodule

/-- What is logged of a query that has found so many submodules. -/
def finding (sourceDir : Path) (answer : Answer) (found : Nat) : List Event :=
  [.ran (queryCall sourceDir) answer, .traced s!"found {found} submodule(s)"]

/-- What is said about submodules that are missing. -/
def notice (names : List String) : List Event :=
  .said .warning s!"{names.length} uninitialized submodule(s):" ::
    names.map fun name => .said .info ("  - " ++ name)

theorem length_notice (names : List String) : (notice names).length = names.length + 1 := by
  rw [notice, List.length_cons, List.length_map]

theorem notice_injective {names others : List String} (h : notice names = notice others) :
    names = others := by
  refine List.map_injective_iff.2 (fun name other hsame => ?_) (List.cons.inj h).2
  exact (String.append_right_inj _).1 (Event.said.inj hsame).2

/-- A quiet shell shows how many there are, any other names them. -/
theorem messages_notice (shell : Shell) (elapsed : Duration) (names : List String) :
    shell.messages elapsed (notice names) =
      (.warning, s!"{names.length} uninitialized submodule(s):") ::
        if shell.isQuiet then [] else names.map fun name => (.info, "  - " ++ name) := by
  have hcount (message : String) :
      shell.message? elapsed (.said .warning message) = some (.warning, message) := by
    simp [Shell.message?, Status.isImportant, Option.filter]
  have hname (name : String) : shell.message? elapsed (.said .info ("  - " ++ name)) =
      if shell.isQuiet then none else some (.info, "  - " ++ name) := by
    cases hquiet : shell.isQuiet <;>
      simp [Shell.message?, Status.isImportant, Option.filter, hquiet]
  rw [Shell.messages, notice, List.filterMap_cons_some (hcount _), List.filterMap_map]
  cases hquiet : shell.isQuiet <;> simp [hname, hquiet]

section Look
variable {sourceDir : Path} {crew : Crew ε π} {world : World ε π}

theorem announce_eq (missing : List Submodule) (crew : Crew ε π) (world : World ε π) :
    announce missing crew world = (.ok (), world.logging (notice (missing.map Submodule.path))) := by
  show Task.sayAll .info (fun submodule : Submodule => "  - " ++ submodule.path) missing crew
    (world.logging [.said .warning s!"{missing.length} uninitialized submodule(s):"]) = _
  rw [Task.sayAll_eq, World.logging, World.logging, World.logging, List.append_assoc, notice,
    List.length_map, List.map_map]
  rfl

theorem query_found {output : Output} (hanswer : (queried sourceDir crew world).1 = .ok output)
    (hcode : output.status.code = some 0) :
    ∃ left, query sourceDir crew world = (.ok (ofStatus output.stdout), left) ∧
      left.log = world.log ++ finding sourceDir (queried sourceDir crew world).1
        (ofStatus output.stdout).length := by
  have hfault : queryFault output = none := by
    simp [queryFault, ExitStatus.success, hcode]
  let asked : World ε π := {world with
    disk := (queried sourceDir crew world).2.1
    tools := (queried sourceDir crew world).2.2
    log := world.log ++ [.ran (queryCall sourceDir) (queried sourceDir crew world).1]}
  have hexecute : (Task.execute (queryCall sourceDir) : Task ε π BuildError _) crew world =
      (.ok (.ok output), asked) := by
    rw [← hanswer]
    rfl
  refine ⟨asked.logging [.traced s!"found {(ofStatus output.stdout).length} submodule(s)"], ?_, ?_⟩
  · unfold query
    refine (Task.andThen_ok hexecute).trans ?_
    simp only [hfault]
    rfl
  · rw [World.logging, List.append_assoc]
    rfl

/-- An offer names the submodules that are missing, and asks. -/
theorem offer_logsFirst (sourceDir : Path) (missing : List Submodule) (crew : Crew ε π)
    (world : World ε π) :
    ∃ shown, (offer sourceDir missing).LogsFirst crew world
      (notice (missing.map Submodule.path) ++ [.asked question shown]) := by
  obtain ⟨shown, hconfirm⟩ := Task.confirm_logsFirst "Initialize submodules?" false crew
    (world.logging (notice (missing.map Submodule.path)))
  refine ⟨shown, Task.logsFirst_bind (announce_eq missing crew world) rfl ?_⟩
  refine (hconfirm.mapError Failure.prompt).bind fun wanted left => ?_
  cases wanted with
  | false =>
    exact Task.Mirrors.logsFirst_nil (fun _ => Console.say_mirrors .skipped nofun _) crew left
  | true =>
    exact Task.Mirrors.logsFirst_nil (fun _ => (Console.say_mirrors .updating nofun _).bind fun _ =>
      (Console.init_mirrors sourceDir).mapError Failure.build) crew left

/-- A look that finds something missing. -/
theorem check_logsFirst (crew : Crew ε π) (world : World ε π) {output : Output}
    (hfile : world.disk.contains (sourceDir.join submoduleFile) = true)
    (hanswer : (queried sourceDir crew world).1 = .ok output)
    (hcode : output.status.code = some 0) (hmissing : uninitialized (ofStatus output.stdout) ≠ []) :
    ∃ shown, (check sourceDir).LogsFirst crew world
      (finding sourceDir (queried sourceDir crew world).1 (ofStatus output.stdout).length ++
        (notice ((uninitialized (ofStatus output.stdout)).map Submodule.path) ++
          [.asked question shown])) := by
  obtain ⟨left, hquery, hlog⟩ := query_found hanswer hcode
  obtain ⟨shown, hoffer⟩ :=
    offer_logsFirst sourceDir (uninitialized (ofStatus output.stdout)) crew left
  have hattempt : (Task.attempt (query sourceDir) : Task ε π Failure _) crew world =
      (.ok (.ok (ofStatus output.stdout)), left) := by
    rw [Task.attempt, hquery]
  have hlook : check sourceDir crew world =
      offer sourceDir (uninitialized (ofStatus output.stdout)) crew left := by
    have hinspect : (Task.inspect (fun disk => disk.contains (sourceDir.join submoduleFile)) :
        Task ε π Failure Bool) crew world = (.ok true, world) := by
      rw [← hfile]
      rfl
    unfold check
    refine (Task.andThen_ok hinspect).trans ?_
    rw [if_pos rfl]
    refine (Task.andThen_ok hattempt).trans ?_
    cases hfound : uninitialized (ofStatus output.stdout) with
    | nil => exact absurd hfound hmissing
    | cons submodule rest =>
      simp only [hfound]
  refine ⟨shown, ?_⟩
  rw [Task.LogsFirst, hlook, ← List.append_assoc, ← hlog]
  exact hoffer

end Look

/-! ### What is listed as missing -/

/-- The status of submodules that were never checked out, each with its identifier and its
path. -/
def missingText (listed : List (String × String)) : String :=
  String.join (listed.map fun item => "-" ++ item.1 ++ " " ++ item.2 ++ "\n")

/-- Whether a path fits on a line, with no blanks around it. There may be some inside. -/
structure FitsLine (path : String) : Prop where
  ne_empty : path ≠ ""
  one_line : '\n' ∉ path.toList
  begins : ∀ c ∈ path.toList.head?, Text.isBlank c = false
  ends : ∀ c ∈ path.toList.getLast?, Text.isBlank c = false

instance (path : String) : Decidable (FitsLine path) :=
  decidable_of_iff (path ≠ "" ∧ '\n' ∉ path.toList ∧
      (path.toList.head?.all fun c => !Text.isBlank c) = true ∧
      (path.toList.getLast?.all fun c => !Text.isBlank c) = true)
    ⟨fun h => ⟨h.1, h.2.1, by simpa [Option.all_eq_true] using h.2.2.1,
        by simpa [Option.all_eq_true] using h.2.2.2⟩,
      fun h => ⟨h.ne_empty, h.one_line, by simpa [Option.all_eq_true] using h.begins,
        by simpa [Option.all_eq_true] using h.ends⟩⟩

/-- A path up to its first blank. -/
def shortName (path : String) : String :=
  String.ofList (path.toList.takeWhile fun c => !Text.isBlank c)

/-- A path from its first blank on. -/
def cutOff (path : String) : String :=
  String.ofList (path.toList.dropWhile fun c => !Text.isBlank c)

theorem shortName_append_cutOff (path : String) : shortName path ++ cutOff path = path := by
  rw [shortName, cutOff, ← String.ofList_append, List.takeWhile_append_dropWhile,
    String.ofList_toList]

theorem FitsLine.isWord_shortName {path : String} (h : FitsLine path) :
    Text.IsWord (shortName path).toList := by
  rw [shortName, String.toList_ofList]
  constructor
  · cases hpath : path.toList with
    | nil => exact absurd (String.toList_eq_nil_iff.1 hpath) h.ne_empty
    | cons c rest =>
      have hc : Text.isBlank c = false := h.begins c (by rw [hpath]; rfl)
      rw [List.takeWhile_cons_of_pos (by rw [hc]; rfl)]
      nofun
  · intro c hc
    simpa using List.mem_takeWhile_imp hc

theorem endsWord_cutOff (path : String) : Text.EndsWord (cutOff path).toList := by
  rw [cutOff, String.toList_ofList]
  intro c hc
  obtain ⟨rest, hrest⟩ := List.head?_eq_some_iff.1 hc
  simpa using Text.of_dropWhile_eq_cons hrest

theorem shortName_eq_iff {path : String} (h : FitsLine path) :
    shortName path = path ↔ Text.IsWord path.toList := by
  constructor
  · intro hsame
    exact hsame ▸ h.isWord_shortName
  · intro hword
    have hall : ∀ c ∈ path.toList, (!Text.isBlank c) = true := fun c hc => by
      rw [hword.not_blank c hc]
      rfl
    rw [shortName, List.takeWhile_eq_self_iff.2 hall, String.ofList_toList]

/-- What is behind a path's first blank reads like something said about the commit. -/
theorem missingText_eq_listing (listed : List (String × String)) :
    missingText listed = listing (listed.map fun item =>
      (.entry '-' item.1 (shortName item.2) (cutOff item.2), .newline)) := by
  rw [missingText, listing, List.map_map]
  refine congrArg String.join (List.map_congr_left fun item _ => ?_)
  have hline : String.ofList ['-'] ++ item.1 ++ " " ++ shortName item.2 ++ cutOff item.2 =
      "-" ++ item.1 ++ " " ++ item.2 := by
    rw [String.append_assoc, shortName_append_cutOff]
  exact congrArg (· ++ "\n") hline.symm

theorem FitsLine.wellFormed {id path : String} (hid : Text.IsWord id.toList) (h : FitsLine path) :
    (ListedLine.entry '-' id (shortName path) (cutOff path)).WellFormed := by
  refine ⟨by decide, hid, h.isWord_shortName, endsWord_cutOff path, fun hmem => h.one_line ?_⟩
  rw [cutOff, String.toList_ofList] at hmem
  exact (List.dropWhile_sublist _).mem hmem

theorem entries_missingText {listed : List (String × String)}
    (h : ∀ item ∈ listed, Text.IsWord item.1.toList ∧ FitsLine item.2) :
    (ofStatus (missingText listed)).map entry =
      listed.map fun item => ('-', shortName item.2) := by
  rw [missingText_eq_listing, ofStatus_listing, List.filterMap_map]
  · exact congrFun List.filterMap_eq_map listed
  · intro line hline
    obtain ⟨item, hitem, rfl⟩ := List.mem_map.1 hline
    obtain ⟨hid, hfits⟩ := h item hitem
    exact hfits.wellFormed hid

/-- All of them are found, under their short names. -/
theorem missing_of_missingText {listed : List (String × String)}
    (h : ∀ item ∈ listed, Text.IsWord item.1.toList ∧ FitsLine item.2) :
    (ofStatus (missingText listed)).length = listed.length ∧
      (uninitialized (ofStatus (missingText listed))).map Submodule.path =
        listed.map fun item => shortName item.2 := by
  have hentries := entries_missingText h
  constructor
  · have hlength := congrArg List.length hentries
    rwa [List.length_map, List.length_map] at hlength
  · have hmissing := map_entry_uninitialized (ofStatus (missingText listed))
    rw [hentries, List.filter_eq_self.2] at hmissing
    · have hpaths := congrArg (List.map Prod.snd) hmissing
      rw [List.map_map, List.map_map] at hpaths
      exact hpaths
    · intro other hother
      obtain ⟨item, -, rfl⟩ := List.mem_map.1 hother
      rfl

end Submodule

/-! ### What a build says -/

/-- Whether a build looks at its submodules, and is told of these as never checked out. -/
structure BuildRequest.IsToldOf (request : BuildRequest) (machine : Machine) (crew : Crew ε π)
    (world : World ε π) (settings : Settings) (listed : List (String × String)) : Prop where
  resolved : request.settings machine world.disk.currentPath = .ok settings
  looks : request.Looks settings.sourceDir world.disk
  answered : ∃ output, (Submodule.queried settings.sourceDir crew world).1 = .ok output ∧
    output.status.code = some 0 ∧ output.stdout = Submodule.missingText listed

namespace Document

/-- What a build logs before it looks at its submodules. -/
def planning (doc : Document) (settings : Settings) : List Event :=
  let plan := doc.plan settings
  (doc.warnings.map fun warning => .said .warning warning.message) ++
    [.traced s!"planned {plan.pipeline.length} step(s) for {plan.platform.name} ({plan.buildType})",
      .traced s!"building in {plan.buildDir.text} with {plan.pipeline.length} step(s)"]

/-- Whether the first that a build says about its submodules, and all that it says of them
before it asks, is that these are missing. -/
def NamesMissing (doc : Document) (request : BuildRequest) (machine : Machine) (crew : Crew ε π)
    (world : World ε π) (settings : Settings) (names : List String) : Prop :=
  ∃ shown, (doc.build request machine).LogsFirst crew world
    (doc.planning settings ++ (Submodule.finding settings.sourceDir
      (Submodule.queried settings.sourceDir crew world).1 names.length ++
        (Submodule.notice names ++ [.asked Submodule.question shown])))

section Build
variable {request : BuildRequest} {machine : Machine} {crew : Crew ε π} {world : World ε π}
  {settings : Settings} {listed : List (String × String)}

theorem planFor_eq (doc : Document) (crew : Crew ε π)
    (h : request.settings machine world.disk.currentPath = .ok settings) :
    doc.planFor request machine crew world = (.ok (doc.plan settings), world.logging
      [.traced s!"planned {(doc.plan settings).pipeline.length} step(s) for {(doc.plan settings).platform.name} ({(doc.plan settings).buildType})"]) := by
  have hresolve : request.resolve machine crew world = (.ok settings, world) := by
    rw [← h]
    rfl
  unfold planFor
  exact (Task.andThen_ok hresolve).trans rfl

/-- What a look logs first comes behind the warnings and the plan. -/
theorem build_logsFirst (doc : Document) {events : List Event}
    (hsettings : request.settings machine world.disk.currentPath = .ok settings)
    (hcheck : request.submoduleCheck = true)
    (hlook : (Submodule.check settings.sourceDir).LogsFirst crew
      (world.logging (doc.planning settings)) events) :
    (doc.build request machine).LogsFirst crew world (doc.planning settings ++ events) := by
  let plan := doc.plan settings
  let warned := world.logging (doc.warnings.map fun warning => .said .warning warning.message)
  let planned := warned.logging
    [.traced s!"planned {plan.pipeline.length} step(s) for {plan.platform.name} ({plan.buildType})"]
  let traced := planned.logging
    [.traced s!"building in {plan.buildDir.text} with {plan.pipeline.length} step(s)"]
  have htraced : traced = world.logging (doc.planning settings) := by
    simp [traced, planned, warned, World.logging, planning, plan]
  have hsource : traced.disk.currentPath.absoluteFrom request.sourceDir = .ok settings.sourceDir :=
    BuildRequest.absoluteFrom_of_settings hsettings
  rw [Task.LogsFirst, ← htraced, ← checkSubmodules_eq crew hcheck hsource] at hlook
  have hrest (left : World ε π) : ((plan.run request.clean).mapError Failure.build >>= fun report =>
      conclude plan report >>= fun _ => pure report).LogsFirst crew left [] :=
    Task.Mirrors.logsFirst_nil (fun _ =>
      ((Console.run_mirrors plan request.clean).mapError Failure.build).bind fun report =>
        (Console.conclude_mirrors plan report).bind fun _ => .pure report) crew left
  rw [planning, List.append_assoc]
  show (doc.build request machine).LogsFirst crew world (_ ++ ([_] ++ ([_] ++ events)))
  refine Task.logsFirst_bind (Task.sayAll_eq .warning Warning.message doc.warnings crew world) rfl ?_
  refine Task.logsFirst_bind (doc.planFor_eq crew hsettings) rfl ?_
  refine Task.logsFirst_bind (show Task.trace _ crew planned = (.ok (), traced) from rfl) rfl ?_
  exact Task.LogsFirst.bind hlook fun _ => hrest

/-- As many submodules as are missing are named in one way only. -/
theorem NamesMissing.eq {doc : Document} {names others : List String}
    (h : doc.NamesMissing request machine crew world settings names)
    (hother : doc.NamesMissing request machine crew world settings others)
    (hlength : names.length = others.length) : names = others := by
  obtain ⟨shown, hnames⟩ := h
  obtain ⟨_, hothers⟩ := hother
  rw [hlength] at hnames
  have hevents := hnames.eq hothers (by
    simp only [List.length_append, Submodule.length_notice, hlength, List.length_singleton])
  have hsaid := List.append_cancel_left (List.append_cancel_left hevents)
  have hnotice := List.append_inj hsaid (by
    rw [Submodule.length_notice, Submodule.length_notice, hlength])
  exact Submodule.notice_injective hnotice.1

/-- What is missing is named by the short names. -/
theorem namesMissing_short (doc : Document) (h : request.IsToldOf machine crew world settings listed)
    (hlisted : ∀ item ∈ listed, Text.IsWord item.1.toList ∧ Submodule.FitsLine item.2)
    (hne : listed ≠ []) :
    doc.NamesMissing request machine crew world settings
      (listed.map fun item => Submodule.shortName item.2) := by
  obtain ⟨hsettings, ⟨hcheck, hfile⟩, output, hanswer, hcode, hstdout⟩ := h
  obtain ⟨hfound, hnames⟩ := Submodule.missing_of_missingText hlisted
  rw [← hstdout] at hfound hnames
  have hmissing : Submodule.uninitialized (Submodule.ofStatus output.stdout) ≠ [] := by
    intro hnil
    rw [hnil] at hnames
    exact hne (List.map_eq_nil_iff.1 hnames.symm)
  obtain ⟨shown, hlook⟩ := Submodule.check_logsFirst crew
    (world.logging (doc.planning settings)) hfile hanswer hcode hmissing
  rw [hfound, hnames] at hlook
  refine ⟨shown, ?_⟩
  rw [List.length_map]
  exact doc.build_logsFirst hsettings hcheck hlook

/-- Where something was never checked out, a build says before it asks how many submodules
that are, and what the status has for their paths up to the first blanks. So it names the
paths exactly where none of them has a blank in it. -/
theorem build_names_missing (doc : Document)
    (h : request.IsToldOf machine crew world settings listed)
    (hlisted : ∀ item ∈ listed, Text.IsWord item.1.toList ∧ Submodule.FitsLine item.2)
    (hne : listed ≠ []) :
    doc.NamesMissing request machine crew world settings
        (listed.map fun item => Submodule.shortName item.2) ∧
      (doc.NamesMissing request machine crew world settings (listed.map Prod.snd) ↔
        ∀ item ∈ listed, Text.IsWord item.2.toList) := by
  have hshort := doc.namesMissing_short h hlisted hne
  have hnames : (doc.NamesMissing request machine crew world settings (listed.map Prod.snd)) ↔
      listed.map (fun item => Submodule.shortName item.2) = listed.map Prod.snd :=
    ⟨fun hwhole => hshort.eq hwhole (by rw [List.length_map, List.length_map]),
      fun hsame => hsame ▸ hshort⟩
  refine ⟨hshort, hnames.trans (List.map_inj_left.trans ?_)⟩
  exact forall₂_congr fun item hitem => Submodule.shortName_eq_iff (hlisted item hitem).2

end Build

/-- Two submodules that were never checked out, one of them at a path with a blank in it. -/
def spacedSubmodules : List (String × String) :=
  [("1f2e3d4c", "third party/fmt"), ("0123abcd", "dep")]

/-- A source tree that tells of them. -/
def spacedWorld : World Rehearsal Script where
  disk := ⟨[("p", .directory [(".gitmodules", .file ⟨#[]⟩)])], ["p"]⟩
  tools :=
    {Rehearsal.empty with
      expectations := [⟨.exact "git submodule status",
        .ok ⟨⟨some 0⟩, Submodule.missingText spacedSubmodules, ""⟩, none, 0⟩]}
  user := ⟨["n"], []⟩
  log := []

def spacedSettings : Settings :=
  ⟨.linux, ⟨"/p"⟩, ⟨"/p/build"⟩, 4, none⟩

theorem isToldOf_spaced :
    BuildRequest.IsToldOf {} ⟨.linux, 4⟩ rehearsalCrew spacedWorld spacedSettings spacedSubmodules where
  resolved := except_eq_ok_of_toOption (by decide +kernel)
  looks := by decide +kernel
  answered := ⟨_, rfl, rfl, rfl⟩

theorem spacedSubmodules_fit :
    ∀ item ∈ spacedSubmodules, Text.IsWord item.1.toList ∧ Submodule.FitsLine item.2 := by
  decide +kernel

theorem build_names_spaced :
    (∀ item ∈ spacedSubmodules, Text.IsWord item.1.toList ∧ Submodule.FitsLine item.2) ∧
      spacedSubmodules ≠ [] ∧
      BuildRequest.IsToldOf {} ⟨.linux, 4⟩ rehearsalCrew spacedWorld spacedSettings
        spacedSubmodules ∧
      Document.empty.NamesMissing {} ⟨.linux, 4⟩ rehearsalCrew spacedWorld spacedSettings
        (spacedSubmodules.map fun item => Submodule.shortName item.2) :=
  ⟨spacedSubmodules_fit, by decide, isToldOf_spaced,
    (build_names_missing Document.empty isToldOf_spaced spacedSubmodules_fit (by decide)).1⟩

/-- The path with a blank in it is cut off there. -/
theorem build_misnames_spaced :
    BuildRequest.IsToldOf {} ⟨.linux, 4⟩ rehearsalCrew spacedWorld spacedSettings
        spacedSubmodules ∧
      (∀ item ∈ spacedSubmodules, Text.IsWord item.1.toList ∧ Submodule.FitsLine item.2) ∧
      Document.empty.NamesMissing {} ⟨.linux, 4⟩ rehearsalCrew spacedWorld spacedSettings
        ["third", "dep"] ∧
      ¬Document.empty.NamesMissing {} ⟨.linux, 4⟩ rehearsalCrew spacedWorld spacedSettings
        ["third party/fmt", "dep"] := by
  have hshort : (spacedSubmodules.map fun item => Submodule.shortName item.2) = ["third", "dep"] := by
    decide +kernel
  have hnames := Document.empty.namesMissing_short isToldOf_spaced spacedSubmodules_fit (by decide)
  rw [hshort] at hnames
  refine ⟨isToldOf_spaced, spacedSubmodules_fit, hnames, fun hwhole => ?_⟩
  have hsame := hnames.eq hwhole rfl
  revert hsame
  decide

end Document

end BuildConductor
