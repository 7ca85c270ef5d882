import BuildConductor.Proofs.BuildDirectory
import BuildConductor.Proofs.Build

/-! What has to go well before a build touches anything.

Paths are resolved first, then the submodules are looked at, and only then is the build
directory worked on. A build that stops before that has changed nothing and has run no
other tool than the one for submodules (`build_uncleared`); nor has one that is to remove
a file, or what lies below a file, as if it were a directory. -/
namespace BuildConductor

/-! ### Where no directory can be -/

/-- Whether a path leads to a file or through one. -/
def Disk.Blocked (disk : Disk) (path : Path) : Prop :=
  (∃ location bytes, disk.resolve path = .ok (.present location (.file bytes))) ∨
    disk.resolve path = .error .notDirectory

namespace Disk.Blocked
variable {disk : Disk} {path : Path}

theorem isEmpty_eq_false (h : disk.Blocked path) : path.bytes.isEmpty = false := by
  refine eq_false_of_ne_true fun hempty => ?_
  have hpath : path.bytes = [] := List.isEmpty_iff.1 hempty
  have hresolve : disk.resolve path = .error .notFound := by
    simp [Disk.resolve, approach, hpath]
  rcases h with ⟨location, bytes, hfile⟩ | herror
  · cases hresolve.symm.trans hfile
  · cases hresolve.symm.trans herror

/-- What is not found there cannot be made either. -/
theorem makeDirectories (h : disk.Blocked path) (hnone : disk.contains path = false) :
    ∃ e, disk.makeDirectories path = (.error e, disk) := by
  have hdirectory : disk.isDirectory path = false := not_isDirectory_of_not_contains hnone
  obtain ⟨e, hmake, hfound⟩ : ∃ e, disk.makeDirectory path = (.error e, disk) ∧ e ≠ .notFound := by
    rcases h with ⟨location, bytes, hfile⟩ | herror
    · exact ⟨.alreadyExists, by simp [makeDirectory, hfile], by decide⟩
    · exact ⟨.notDirectory, by simp [makeDirectory, herror], by decide⟩
  refine ⟨e, ?_⟩
  rw [Disk.makeDirectories, ancestors, List.map_cons, Path.ofSystem_bytes, makeFirst,
    h.isEmpty_eq_false, hmake]
  cases e with
  | notFound => exact absurd rfl hfound
  | _ => simp [hdirectory]

/-- What is found there cannot be removed as a directory. -/
theorem removeTree (h : disk.Blocked path) (hsome : disk.contains path = true) :
    disk.removeTree path = (.error .notDirectory, disk) := by
  rcases h with ⟨location, bytes, hfile⟩ | herror
  · simp [Disk.removeTree, hfile]
  · rw [contains_of_resolve_error herror] at hsome
    cases hsome

end Disk.Blocked

/-- Making a build directory ready fails where none can be, and changes nothing. -/
theorem Plan.readied_of_blocked {plan : Plan} {disk : Disk} (h : disk.Blocked plan.buildDir) :
    ∃ e, plan.readied true disk = (.error e, disk) := by
  cases hcontains : disk.contains plan.buildDir with
  | true =>
    refine ⟨⟨.removeDirectory, plan.buildDir, .notDirectory⟩, ?_⟩
    simp [readied, cleared, Disk.removeIfExists, hcontains, h.removeTree hcontains]
  | false =>
    obtain ⟨e, hmake⟩ := h.makeDirectories hcontains
    refine ⟨⟨.createDirectory, plan.buildDir, e⟩, ?_⟩
    simp [readied, cleared, Disk.removeIfExists, Disk.ensureDirectory, hcontains, hmake, Except.map]

/-- The error of a build directory that is to be removed and is none. -/
def notDirectoryError (path : Path) : FileError :=
  ⟨.removeDirectory, path, .notDirectory⟩

/-- Only there a removal says that it was not given a directory. -/
theorem Disk.blocked_of_removeTree {disk after : Disk} {path : Path}
    (h : disk.removeTree path = (.error .notDirectory, after)) : disk.Blocked path := by
  unfold removeTree at h
  split at h
  · rename_i e hresolve
    obtain ⟨rfl, -⟩ : e = .notDirectory ∧ disk = after := by simpa using h
    exact .inr hresolve
  · cases h
  · rename_i location bytes hresolve
    exact .inl ⟨location, bytes, hresolve⟩
  · simp only at h
    split at h <;> cases h
  · rename_i dots hresolve
    simp only at h
    split at h
    · cases h
    · cases dots <;> cases h

/-- What was to be done can be told from the first letters. -/
theorem FileAction.eq_of_take_eq {action other : FileAction}
    (h : action.message.toList.take 11 = other.message.toList.take 11) : action = other := by
  revert h
  cases action <;> cases other <;> decide

theorem SystemError.eq_of_message_eq {e other : SystemError} (h : e.message = other.message) :
    e = other := by
  revert h
  cases e <;> cases other <;> decide

/-- Two errors about one path have different texts. -/
theorem FileError.eq_of_message_eq {e other : FileError} (hpath : e.path = other.path)
    (h : e.message = other.message) : e = other := by
  obtain ⟨action, path, cause⟩ := e
  obtain ⟨action', path', cause'⟩ := other
  obtain rfl : path = path' := hpath
  let middle := ": " ++ path.text ++ ": "
  have htexts : action.message.toList ++ (middle ++ cause.message).toList =
      action'.message.toList ++ (middle ++ cause'.message).toList := by
    rw [← String.toList_append, ← String.toList_append]
    simpa [FileError.message, toString, middle, String.append_assoc] using congrArg String.toList h
  have hlong (action : FileAction) : 11 ≤ action.message.toList.length := by
    cases action <;> decide
  have hstart := congrArg (List.take 11) htexts
  rw [List.take_append_of_le_length (hlong _), List.take_append_of_le_length (hlong _)] at hstart
  obtain rfl := FileAction.eq_of_take_eq hstart
  have hcause := List.append_cancel_left htexts
  simp only [String.toList_append] at hcause
  obtain rfl := SystemError.eq_of_message_eq (String.toList_inj.1 (List.append_cancel_left hcause))
  rfl

theorem Disk.removeIfExists_error {disk after : Disk} {path : Path} {e : FileError}
    (h : disk.removeIfExists path = (.error e, after)) :
    e = ⟨.removeDirectory, path, e.cause⟩ ∧ disk.removeTree path = (.error e.cause, after) := by
  unfold removeIfExists at h
  split at h
  · split at h
    · cases h
    · rename_i cause left hremove
      cases h
      exact ⟨rfl, hremove⟩
  · cases h

theorem Disk.ensureDirectory_error {disk : Disk} {path : Path} {e : FileError}
    (h : (disk.ensureDirectory path).1 = .error e) : e = ⟨.createDirectory, path, e.cause⟩ := by
  unfold ensureDirectory at h
  split at h
  · cases h
  · split at h
    · cases h
    · cases h
      rfl

/-- What goes wrong with a build directory is about its path, and is a removal only where
one was wanted. -/
theorem Plan.readied_error {plan : Plan} {clean : Bool} {disk : Disk} {e : FileError}
    (h : (plan.readied clean disk).1 = .error e) :
    e.path = plan.buildDir ∧ (e.action = .removeDirectory → clean = true ∧
      ∃ after, disk.removeTree plan.buildDir = (.error e.cause, after)) := by
  unfold readied at h
  split at h
  · rename_i cause after hcleared
    obtain rfl : cause = e := by simpa using h
    unfold cleared at hcleared
    split at hcleared
    · rename_i hclean
      obtain ⟨hcause, hremove⟩ := Disk.removeIfExists_error hcleared
      exact ⟨congrArg FileError.path hcause, fun _ => ⟨hclean, _, hremove⟩⟩
    · cases hcleared
  · rename_i removed after hcleared
    cases hensure : (after.ensureDirectory plan.buildDir).1 with
    | ok made =>
      rw [hensure] at h
      cases h
    | error cause =>
      rw [hensure] at h
      cases h
      have hcause := Disk.ensureDirectory_error hensure
      refine ⟨congrArg FileError.path hcause, fun haction => ?_⟩
      rw [hcause] at haction
      cases haction

/-! ### What stops a build -/

/-- Whether an error is one of those that stop a build before its build directory is
touched: a path, a question, or the initialization of submodules. -/
def Failure.BeforeStart : Failure → Prop
  | .path _ _ => True
  | .prompt _ => True
  | .build (.submoduleInitFailed _ _) => True
  | .build (.spawn command _) => command = Submodule.initCommand.display
  | _ => False

variable {ε π : Type}

theorem Submodule.beforeStart_of_judgeInit {answer : Answer} {e : BuildError}
    (h : judgeInit answer = .error e) : (Failure.build e).BeforeStart := by
  cases answer with
  | error failure =>
    cases h
    rfl
  | ok output =>
    rw [judgeInit] at h
    split at h
    · cases h
    · cases h
      trivial

theorem Submodule.beforeStart_of_judgeOffer {reply : Except PromptError String} {answer : Answer}
    {e : Failure} (h : judgeOffer reply answer = .error e) : e.BeforeStart := by
  cases reply with
  | error cause =>
    cases h
    trivial
  | ok text =>
    rw [judgeOffer] at h
    split at h
    · obtain ⟨cause, hcause, rfl⟩ := except_mapError_eq_error.1 h
      exact beforeStart_of_judgeInit hcause
    · cases h

namespace BuildRequest

/-- Whether a build is stopped before that: a path does not resolve, nobody answers
whether to initialize submodules, or initializing them does not succeed. -/
def Stopped (request : BuildRequest) (machine : Machine) (crew : Crew ε π) (world : World ε π) :
    Prop :=
  (∃ e, request.settings machine world.disk.currentPath = .error e) ∨
    ∃ settings, request.settings machine world.disk.currentPath = .ok settings ∧
      request.Looks settings.sourceDir world.disk ∧
      Submodule.LookFails settings.sourceDir crew world

/-- Where paths resolve, the look at submodules decides whether a build is stopped. -/
theorem judgeLook_eq_ok_iff {request : BuildRequest} {machine : Machine} {crew : Crew ε π}
    {world : World ε π} {settings : Settings}
    (hsettings : request.settings machine world.disk.currentPath = .ok settings) :
    request.judgeLook settings.sourceDir crew world = .ok () ↔
      ¬request.Stopped machine crew world := by
  rw [judgeLook_eq_ok]
  refine not_congr ⟨fun hlook => .inr ⟨settings, hsettings, hlook⟩, ?_⟩
  rintro (⟨e, herror⟩ | ⟨other, hother, hlook⟩)
  · cases hsettings.symm.trans herror
  · cases hsettings.symm.trans hother
    exact hlook

theorem beforeStart_of_absoluteFrom {current path : Path} {e : Failure}
    (h : current.absoluteFrom path = .error e) : e.BeforeStart := by
  obtain ⟨cause, -, rfl⟩ := except_mapError_eq_error.1 h
  trivial

theorem beforeStart_of_settings {request : BuildRequest} {machine : Machine} {current : Path}
    {e : Failure} (h : request.settings machine current = .error e) : e.BeforeStart := by
  rcases except_bind_eq_error.1 h with hsource | ⟨sourceDir, -, hrest⟩
  · exact beforeStart_of_absoluteFrom hsource
  · rcases except_bind_eq_error.1 hrest with hbuild | ⟨buildDir, -, hsettings⟩
    · unfold absoluteBuildDir at hbuild
      split at hbuild
      · exact beforeStart_of_absoluteFrom hbuild
      · cases hbuild
    · cases hsettings

theorem beforeStart_of_judgeLook {request : BuildRequest} {sourceDir : Path} {crew : Crew ε π}
    {world : World ε π} {e : Failure} (h : request.judgeLook sourceDir crew world = .error e) :
    e.BeforeStart := by
  unfold judgeLook at h
  split at h
  · unfold Submodule.judgeLook at h
    split at h
    · exact Submodule.beforeStart_of_judgeOffer h
    · cases h
  · cases h

/-- A look at submodules runs the tool for submodules only. -/
theorem program_of_mem_lookCalls {request : BuildRequest} {sourceDir : Path} {crew : Crew ε π}
    {world : World ε π} {made : Call × Answer}
    (h : made ∈ request.lookCalls sourceDir crew world) :
    made.1.command.program = Submodule.tool := by
  unfold lookCalls Submodule.lookCalls at h
  split at h
  · rcases List.mem_cons.1 h with rfl | h
    · rfl
    · split at h
      · rw [List.mem_singleton.1 h]
        rfl
      · cases h
  · cases h

end BuildRequest

/-- The steps of a plan configure, build and test. -/
theorem Document.program_of_mem_pipeline {doc : Document} {settings : Settings} {step : Step}
    (h : step ∈ (doc.plan settings).pipeline) :
    step.command.program = buildTool ∨ step.command.program = testTool := by
  simp only [Document.plan, List.cons_append, List.nil_append, List.mem_cons] at h
  rcases h with rfl | rfl | h
  · exact .inl rfl
  · exact .inl rfl
  · split at h
    · rw [List.mem_singleton.1 h]
      exact .inr rfl
    · cases h

/-- The error of a step is not one of those that stop a build before its steps. -/
theorem StepFailure.not_beforeStart {doc : Document} {settings : Settings} {step : Step}
    (hstep : step ∈ (doc.plan settings).pipeline) {answer : Answer} {e : BuildError}
    (h : StepFailure step answer e) : ¬(Failure.build e).BeforeStart := by
  cases h with
  | status => exact id
  | launch failure =>
    intro hsame
    have hletter := congrArg (fun display : String => display.toList.head?)
      (show step.command.display = Submodule.initCommand.display from hsame)
    simp only [Command.display, String.toList_ofList] at hletter
    rcases Document.program_of_mem_pipeline hstep with hprogram | hprogram <;>
      rw [hprogram] at hletter <;> cases hletter

/-- Whether one world comes out of another with commands of one tool only. -/
def World.RanOnly (before after : World ε π) (tool : String) : Prop :=
  ∃ made, after.calls = before.calls ++ made ∧ ∀ call ∈ made, call.1.command.program = tool

namespace Document

/-- A build whose commands leave the disk alone is stopped before its build directory is
touched, fails at making that ready, or fails at a step if it fails at all. -/
theorem build_stages (doc : Document) (request : BuildRequest) (machine : Machine)
    {crew : Crew ε π} (hleaves : crew.executor.LeavesDisk) (world : World ε π) :
    let ended := doc.build request machine crew world
    (request.Stopped machine crew world ∧ (∃ e, ended.1 = .error e ∧ e.BeforeStart) ∧
        ended.2.disk = world.disk ∧ world.RanOnly ended.2 Submodule.tool) ∨
      ¬request.Stopped machine crew world ∧
        ∃ settings, request.settings machine world.disk.currentPath = .ok settings ∧
          ((∃ e, (doc.plan settings).readied request.clean world.disk = (.error e, ended.2.disk) ∧
              ended.1 = .error (.build (.ofFile settings.buildDir e)) ∧
              world.RanOnly ended.2 Submodule.tool) ∨
            (∃ cleaned, ((doc.plan settings).readied request.clean world.disk).1 = .ok cleaned) ∧
              ∀ e, ended.1 = .error e → ∃ step ∈ (doc.plan settings).pipeline, ∃ answer cause,
                StepFailure step answer cause ∧ e = .build cause) := by
  intro ended
  cases hsettings : request.settings machine world.disk.currentPath with
  | error e =>
    obtain ⟨left, hbuild, hpassage⟩ := doc.build_ends_of_error crew hsettings
    have hended : ended = (.error e, left) := hbuild
    rw [hended]
    exact .inl ⟨.inl ⟨e, hsettings⟩, ⟨e, rfl, BuildRequest.beforeStart_of_settings hsettings⟩,
      hpassage.rearrangement.disk, [], hpassage.calls, List.forall_mem_nil _⟩
  | ok settings =>
    obtain ⟨looked, left, hlooked, hcases⟩ := doc.build_cases crew hsettings
    have hdisk : looked.disk = world.disk := hlooked.answers.disk_eq hleaves
    have hgoes : request.judgeLook settings.sourceDir crew world = .ok () ↔
        ¬request.Stopped machine crew world := BuildRequest.judgeLook_eq_ok_iff hsettings
    rw [hdisk] at hcases
    rcases hcases with ⟨e, hjudge, hbuild, rfl⟩ | ⟨e, hjudge, hready, hbuild, hleft⟩ |
      ⟨cleaned, ready, steps, result, hjudge, hready, hreadied, hunfolds, hbuild, hleft⟩
    · have hended : ended = (.error e, left) := hbuild
      have hstopped : request.Stopped machine crew world := by
        by_contra hnot
        cases hjudge.symm.trans (hgoes.2 hnot)
      rw [hended]
      exact .inl ⟨hstopped, ⟨e, rfl, BuildRequest.beforeStart_of_judgeLook hjudge⟩, hdisk,
        _, hlooked.calls, fun _ => BuildRequest.program_of_mem_lookCalls⟩
    · have hended : ended = (.error (.build (.ofFile settings.buildDir e)), left) := hbuild
      have hran : world.RanOnly left Submodule.tool := ⟨_, hleft.calls.trans hlooked.calls,
        fun _ => BuildRequest.program_of_mem_lookCalls⟩
      rw [hended]
      exact .inr ⟨hgoes.1 hjudge, settings, rfl,
        .inl ⟨e, Prod.ext hready hleft.disk.symm, rfl, hran⟩⟩
    · have hended : ended = (result.mapError .build, left) := hbuild
      rw [hended]
      refine .inr ⟨hgoes.1 hjudge, settings, rfl, .inr ⟨⟨cleaned, hready⟩, fun e he => ?_⟩⟩
      cases result with
      | ok report => cases he
      | error cause =>
        cases he
        obtain ⟨before, step, answer, rfl, -, -, hfailure, -⟩ := hunfolds.exists_failed
        exact ⟨step, hunfolds.isPrefix.subset (by simp), answer, cause, hfailure, rfl⟩

section Build
variable (doc : Document) (request : BuildRequest) (machine : Machine) {crew : Crew ε π}
  (hleaves : crew.executor.LeavesDisk) (world : World ε π)
include hleaves

theorem beforeStart_iff_stopped :
    (∃ e, (doc.build request machine crew world).1 = .error e ∧ e.BeforeStart) ↔
      request.Stopped machine crew world := by
  rcases doc.build_stages request machine hleaves world with
      ⟨hstopped, hearly, -⟩ | ⟨hgoes, settings, -, ⟨e, -, hended, -⟩ | ⟨-, hsteps⟩⟩
  · exact ⟨fun _ => hstopped, fun _ => hearly⟩
  · refine ⟨?_, fun hstopped => absurd hstopped hgoes⟩
    rintro ⟨early, hearly, hbefore⟩
    cases hended.symm.trans hearly
    exact hbefore.elim
  · refine ⟨?_, fun hstopped => absurd hstopped hgoes⟩
    rintro ⟨early, hearly, hbefore⟩
    obtain ⟨step, hstep, answer, cause, hfailure, rfl⟩ := hsteps early hearly
    exact absurd hbefore (hfailure.not_beforeStart hstep)

/-- Only where no directory can be, a build fails with the error that says so. -/
theorem blocked_of_notDirectoryError {settings : Settings}
    (hsettings : request.settings machine world.disk.currentPath = .ok settings)
    (h : (doc.build request machine crew world).1 =
      .error (.build (.ofFile settings.buildDir (notDirectoryError settings.buildDir)))) :
    request.clean = true ∧ world.disk.Blocked settings.buildDir := by
  rcases doc.build_stages request machine hleaves world with
      ⟨-, ⟨early, hearly, hbefore⟩, -⟩ |
      ⟨-, other, hother, ⟨e, hready, hended, -⟩ | ⟨-, hsteps⟩⟩
  · cases h.symm.trans hearly
    exact hbefore.elim
  · cases hsettings.symm.trans hother
    obtain ⟨hpath, hremoval⟩ := Plan.readied_error (congrArg Prod.fst hready)
    have hmessage := hended.symm.trans h
    simp only [BuildError.ofFile, Except.error.injEq, Failure.build.injEq,
      BuildError.filesystem.injEq, true_and] at hmessage
    obtain rfl := FileError.eq_of_message_eq hpath hmessage
    obtain ⟨hclean, after, hremove⟩ := hremoval rfl
    exact ⟨hclean, Disk.blocked_of_removeTree hremove⟩
  · obtain ⟨step, hstep, answer, cause, hfailure, hcause⟩ := hsteps _ h
    cases hcause
    cases hfailure

/-- A clean build whose directory is a file or below one fails and leaves the disk as it
is. -/
theorem build_of_blocked {settings : Settings}
    (hsettings : request.settings machine world.disk.currentPath = .ok settings)
    (hclean : request.clean = true) (hblocked : world.disk.Blocked settings.buildDir) :
    let ended := doc.build request machine crew world
    ended.2.disk = world.disk ∧ world.RanOnly ended.2 Submodule.tool ∧
      (¬request.Stopped machine crew world →
        ∃ message, ended.1 = .error (.build (.filesystem settings.buildDir message))) := by
  obtain ⟨cause, hsame⟩ : ∃ cause, (doc.plan settings).readied true world.disk =
      (.error cause, world.disk) := Plan.readied_of_blocked hblocked
  rcases doc.build_stages request machine hleaves world with
      ⟨hstopped, -, hdisk, hran⟩ |
      ⟨-, other, hother, ⟨e, hready, hended, hran⟩ | ⟨⟨cleaned, hready⟩, -⟩⟩
  · exact ⟨hdisk, hran, fun hgoes => absurd hstopped hgoes⟩
  · cases hsettings.symm.trans hother
    rw [hclean, hsame] at hready
    exact ⟨(congrArg Prod.snd hready).symm, hran, fun _ => ⟨_, hended⟩⟩
  · cases hsettings.symm.trans hother
    rw [hclean, hsame] at hready
    cases hready

end Build

/-- Nothing is cleaned before a build is cleared to start. The errors of paths, questions
and initializations are those of a build that is stopped before, and a build that is stopped
leaves the disk as it is and has run the tool for submodules at most. So does a clean build
whose directory is a file or below one, and only such a build says that what it is to remove
is no directory. -/
theorem build_uncleared (doc : Document) (request : BuildRequest) (machine : Machine)
    {crew : Crew ε π} (hleaves : crew.executor.LeavesDisk) (world : World ε π) :
    let ended := doc.build request machine crew world
    ((∃ e, ended.1 = .error e ∧ e.BeforeStart) ↔ request.Stopped machine crew world) ∧
      (request.Stopped machine crew world →
        ended.2.disk = world.disk ∧ world.RanOnly ended.2 Submodule.tool) ∧
      ∀ settings, request.settings machine world.disk.currentPath = .ok settings →
        (ended.1 = .error (.build (.ofFile settings.buildDir (notDirectoryError settings.buildDir))) →
          request.clean = true ∧ world.disk.Blocked settings.buildDir) ∧
        (request.clean = true → world.disk.Blocked settings.buildDir →
          ended.2.disk = world.disk ∧ world.RanOnly ended.2 Submodule.tool ∧
            (¬request.Stopped machine crew world →
              ∃ message, ended.1 = .error (.build (.filesystem settings.buildDir message)))) := by
  intro ended
  refine ⟨doc.beforeStart_iff_stopped request machine hleaves world, fun hstopped => ?_,
    fun settings hsettings =>
      ⟨doc.blocked_of_notDirectoryError request machine hleaves world hsettings,
        doc.build_of_blocked request machine hleaves world hsettings⟩⟩
  rcases doc.build_stages request machine hleaves world with ⟨-, -, hkept⟩ | ⟨hgoes, -⟩
  · exact hkept
  · exact absurd hstopped hgoes

/-- A source tree with a submodule that is missing and cannot be initialized, an old build
directory, and a user who wants it initialized. -/
def submoduleWorld : World Rehearsal Script where
  disk := ⟨[("p", .directory [(".gitmodules", .file ⟨#[]⟩),
    ("build", .directory [("old", .file ⟨#[]⟩)])])], ["p"]⟩
  tools :=
    {Rehearsal.empty with
      expectations := [⟨.exact "git submodule status", .ok ⟨⟨some 0⟩, "-1f2e dep\n", ""⟩, none, 0⟩,
        ⟨.startsWith "git submodule update", .ok (Rehearsal.silent ⟨some 1⟩), none, 0⟩]}
  user := ⟨["y"], []⟩
  log := []

/-- The build directory stays where the submodule cannot be initialized, and a file stays
where the build directory is to be. -/
theorem build_stopped_unclean :
    let request : BuildRequest := {clean := true}
    let settings : Settings := ⟨.linux, ⟨"/p"⟩, ⟨"/p/build"⟩, 4, none⟩
    rehearsalCrew.executor.LeavesDisk ∧
      request.Stopped ⟨.linux, 4⟩ rehearsalCrew submoduleWorld ∧
      (∃ e, (Document.empty.build request ⟨.linux, 4⟩ rehearsalCrew submoduleWorld).1 = .error e ∧
        e.BeforeStart) ∧
      (Document.empty.build request ⟨.linux, 4⟩ rehearsalCrew submoduleWorld).2.disk =
        submoduleWorld.disk ∧
      request.settings ⟨.linux, 4⟩ Plan.blockedWorld.disk.currentPath = .ok settings ∧
      Plan.blockedWorld.disk.Blocked settings.buildDir ∧
      (Document.empty.build request ⟨.linux, 4⟩ rehearsalCrew Plan.blockedWorld).2.disk =
        Plan.blockedWorld.disk := by
  intro request settings
  have hleaves : rehearsalCrew.executor.LeavesDisk := fun _ _ => rfl
  have hstopped : request.Stopped ⟨.linux, 4⟩ rehearsalCrew submoduleWorld := by
    have hsettings : request.settings ⟨.linux, 4⟩ submoduleWorld.disk.currentPath = .ok settings :=
      except_eq_ok_of_toOption (by decide +kernel)
    have hlooks : request.Looks settings.sourceDir submoduleWorld.disk := by decide +kernel
    have hinitializes : Submodule.Initializes settings.sourceDir rehearsalCrew submoduleWorld ∧
        ¬ExitsZero (Submodule.initialized settings.sourceDir rehearsalCrew submoduleWorld).1 := by
      decide +kernel
    exact .inr ⟨settings, hsettings, hlooks, .inr hinitializes⟩
  have hsettings : request.settings ⟨.linux, 4⟩ Plan.blockedWorld.disk.currentPath =
      .ok settings := except_eq_ok_of_toOption (by decide +kernel)
  have hblocked : Plan.blockedWorld.disk.Blocked settings.buildDir := by
    have hresolve : Plan.blockedWorld.disk.resolve ⟨"/p/build"⟩ =
        .ok (.present ["p", "build"] (.file ⟨#[120]⟩)) := rfl
    exact .inl ⟨_, _, hresolve⟩
  obtain ⟨hearly, hkept, -⟩ :=
    build_uncleared Document.empty request ⟨.linux, 4⟩ hleaves submoduleWorld
  have hsettled := (build_uncleared Document.empty request ⟨.linux, 4⟩ hleaves
    Plan.blockedWorld).2.2 settings hsettings
  exact ⟨hleaves, hstopped, hearly.2 hstopped, (hkept hstopped).1, hsettings, hblocked,
    (hsettled.2 rfl hblocked).1⟩

end Document

end BuildConductor
