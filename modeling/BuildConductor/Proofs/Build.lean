import BuildConductor.Proofs.Pipeline
import BuildConductor.Proofs.Submodule

/-! What a build calls and asks.

A build looks at the submodules first, where that is wanted and there are any, and
then runs its plan. `build_cases` takes a build apart at the look; which commands
it runs in which order follows from what is known about both parts. -/
namespace BuildConductor

variable {ε π : Type}

namespace BuildRequest

/-- Whether a build looks at the submodules of a source tree: that is wanted, and the
tree tells of submodules. -/
def Looks (request : BuildRequest) (sourceDir : Path) (disk : Disk) : Prop :=
  request.submoduleCheck = true ∧ disk.contains (sourceDir.join submoduleFile) = true

instance (request : BuildRequest) (sourceDir : Path) (disk : Disk) :
    Decidable (request.Looks sourceDir disk) :=
  inferInstanceAs (Decidable (_ ∧ _))

/-- What the look of a build at its submodules comes to. -/
def judgeLook (request : BuildRequest) (sourceDir : Path) (crew : Crew ε π) (world : World ε π) :
    Except Failure Unit :=
  if request.Looks sourceDir world.disk then Submodule.judgeLook sourceDir crew world else .ok ()

/-- The calls of a build before it runs its plan. -/
def lookCalls (request : BuildRequest) (sourceDir : Path) (crew : Crew ε π) (world : World ε π) :
    List (Call × Answer) :=
  if request.Looks sourceDir world.disk then Submodule.lookCalls sourceDir crew world else []

/-- The questions of a build. -/
def lookQuestions (request : BuildRequest) (sourceDir : Path) (crew : Crew ε π)
    (world : World ε π) : List String :=
  if request.Looks sourceDir world.disk then Submodule.lookQuestions sourceDir crew world else []

theorem judgeLook_eq_ok (request : BuildRequest) (sourceDir : Path) (crew : Crew ε π)
    (world : World ε π) :
    request.judgeLook sourceDir crew world = .ok () ↔
      ¬(request.Looks sourceDir world.disk ∧ Submodule.LookFails sourceDir crew world) := by
  unfold judgeLook
  by_cases h : request.Looks sourceDir world.disk
  · rw [if_pos h, Submodule.judgeLook_eq_ok, not_and]
    exact ⟨fun hfails _ => hfails, fun hfails => hfails h⟩
  · rw [if_neg h]
    exact ⟨fun _ hboth => h hboth.1, fun _ => rfl⟩

/-- What was said before a look makes no difference to it. -/
theorem look_eq (request : BuildRequest) (sourceDir : Path) {crew : Crew ε π}
    {before after : World ε π} (h : Passage crew before [] [] after) :
    request.judgeLook sourceDir crew after = request.judgeLook sourceDir crew before ∧
      request.lookCalls sourceDir crew after = request.lookCalls sourceDir crew before ∧
      request.lookQuestions sourceDir crew after = request.lookQuestions sourceDir crew before := by
  obtain ⟨log, rfl⟩ := h.exists_log
  exact ⟨rfl, rfl, rfl⟩

/-- Settings have the source directory as it is seen from the current one. -/
theorem absoluteFrom_of_settings {request : BuildRequest} {machine : Machine} {current : Path}
    {settings : Settings} (h : request.settings machine current = .ok settings) :
    current.absoluteFrom request.sourceDir = .ok settings.sourceDir := by
  obtain ⟨sourceDir, hsource, hrest⟩ := except_bind_eq_ok.1 h
  obtain ⟨buildDir, -, hsettings⟩ := except_bind_eq_ok.1 hrest
  cases hsettings
  cases request.jobs <;> exact hsource

end BuildRequest

namespace Document

/-- A build that wants to looks at the submodules of the source directory, which it resolves
again. -/
theorem checkSubmodules_eq {request : BuildRequest} {sourceDir : Path} (crew : Crew ε π)
    {world : World ε π} (hcheck : request.submoduleCheck = true)
    (hsource : world.disk.currentPath.absoluteFrom request.sourceDir = .ok sourceDir) :
    checkSubmodules request crew world = Submodule.check sourceDir crew world := by
  simp only [checkSubmodules, hcheck, if_true]
  show (Task.ofExcept (world.disk.currentPath.absoluteFrom request.sourceDir) >>=
    Submodule.check) crew world = _
  rw [hsource]
  rfl

theorem checkSubmodules_ends {request : BuildRequest} {sourceDir : Path} (crew : Crew ε π)
    {world : World ε π}
    (hsource : world.disk.currentPath.absoluteFrom request.sourceDir = .ok sourceDir) :
    (checkSubmodules request).Ends crew world (request.judgeLook sourceDir crew world)
      (request.lookCalls sourceDir crew world) (request.lookQuestions sourceDir crew world) := by
  unfold BuildRequest.judgeLook BuildRequest.lookCalls BuildRequest.lookQuestions BuildRequest.Looks
  by_cases hcheck : request.submoduleCheck = true
  · unfold Task.Ends
    rw [checkSubmodules_eq crew hcheck hsource]
    by_cases hfile : world.disk.contains (sourceDir.join submoduleFile) = true
    · simp only [hcheck, hfile, true_and, if_true]
      exact Submodule.check_ends crew hfile
    · simp only [hcheck, hfile]
      exact Submodule.check_ends_of_absent crew (eq_false_of_ne_true hfile)
  · simp only [hcheck, checkSubmodules]
    exact Task.ends_pure () crew world

/-- Planning calls and asks nobody. -/
theorem planFor_ends (doc : Document) (request : BuildRequest) (machine : Machine)
    (crew : Crew ε π) (world : World ε π) :
    (doc.planFor request machine).Ends crew world
      ((request.settings machine world.disk.currentPath).map doc.plan) [] [] := by
  have hresolve : (request.resolve machine).Ends crew world
      (request.settings machine world.disk.currentPath) [] [] :=
    ⟨world, rfl, Passage.refl crew world⟩
  cases hsettings : request.settings machine world.disk.currentPath with
  | error e =>
    rw [hsettings] at hresolve
    exact hresolve.bind_error _
  | ok settings =>
    rw [hsettings] at hresolve
    refine hresolve.andThen fun left _ => ?_
    exact (Task.ends_trace _ crew left).andThen fun traced _ => Task.ends_pure _ crew traced

/-- A build without settings calls and asks nobody. -/
theorem build_ends_of_error (doc : Document) {request : BuildRequest} {machine : Machine}
    (crew : Crew ε π) {world : World ε π} {e : Failure}
    (h : request.settings machine world.disk.currentPath = .error e) :
    (doc.build request machine).Ends crew world (.error e) [] [] := by
  refine (Task.ends_sayAll _ _ _ crew world).andThen fun warned hwarned => ?_
  have hplan := doc.planFor_ends request machine crew warned
  rw [hwarned.rearrangement.disk, h] at hplan
  exact hplan.bind_error _

/-- Saying how a build ended leaves it as the run of its plan does. -/
theorem run_conclude (plan : Plan) (clean : Bool) (crew : Crew ε π) (world : World ε π) :
    ∃ left, ((plan.run clean).mapError Failure.build >>= fun report =>
          conclude plan report >>= fun _ => pure report) crew world =
        ((plan.run clean crew world).1.mapError .build, left) ∧
      Passage crew (plan.run clean crew world).2 [] [] left := by
  have hrun : (plan.run clean).mapError Failure.build crew world =
      ((plan.run clean crew world).1.mapError .build, (plan.run clean crew world).2) := rfl
  generalize plan.run clean crew world = outcome at hrun ⊢
  obtain ⟨result, last⟩ := outcome
  cases result with
  | error e => exact ⟨last, Task.andThen_error hrun, Passage.refl crew last⟩
  | ok report =>
    have hconclude : (conclude plan report).Ends crew last (.ok ()) [] [] := by
      unfold conclude
      split <;> exact Task.ends_say _ _ crew last
    obtain ⟨left, hleft, hpassage⟩ := hconclude
    exact ⟨left, (Task.andThen_ok hrun).trans (Task.andThen_ok hleft), hpassage⟩

/-- A build with settings looks at its submodules and, if that does not fail, goes on. -/
theorem build_looks (doc : Document) {request : BuildRequest} {machine : Machine}
    (crew : Crew ε π) {world : World ε π} {settings : Settings}
    (h : request.settings machine world.disk.currentPath = .ok settings) :
    ∃ looked, Passage crew world (request.lookCalls settings.sourceDir crew world)
        (request.lookQuestions settings.sourceDir crew world) looked ∧
      doc.build request machine crew world =
        match request.judgeLook settings.sourceDir crew world with
        | .error e => (.error e, looked)
        | .ok () => (((doc.plan settings).run request.clean).mapError Failure.build >>= fun report =>
            conclude (doc.plan settings) report >>= fun _ => pure report) crew looked := by
  obtain ⟨warned, hwarn, hwarned⟩ :=
    Task.ends_sayAll (E := Failure) .warning Warning.message doc.warnings crew world
  have hplan := doc.planFor_ends request machine crew warned
  rw [hwarned.rearrangement.disk, h] at hplan
  obtain ⟨planned, hplan, hplanned⟩ := hplan
  obtain ⟨traced, htrace, htraced⟩ := Task.ends_trace (E := Failure)
    s!"building in {(doc.plan settings).buildDir.text} with {(doc.plan settings).pipeline.length} step(s)"
    crew planned
  have hquiet : Passage crew world [] [] traced := (hwarned.trans hplanned).trans htraced
  have hsource :
      traced.disk.currentPath.absoluteFrom request.sourceDir = .ok settings.sourceDir := by
    rw [hquiet.rearrangement.disk]
    exact BuildRequest.absoluteFrom_of_settings h
  obtain ⟨looked, hlook, hlooked⟩ := checkSubmodules_ends crew hsource
  obtain ⟨hjudge, hcalls, hquestions⟩ := request.look_eq settings.sourceDir hquiet
  rw [hcalls, hquestions] at hlooked
  rw [hjudge] at hlook
  refine ⟨looked, hquiet.trans hlooked, ?_⟩
  rw [show doc.build request machine crew world = _ from
    (Task.andThen_ok hwarn).trans ((Task.andThen_ok hplan).trans (Task.andThen_ok htrace))]
  cases hresult : request.judgeLook settings.sourceDir crew world with
  | error e =>
    rw [hresult] at hlook
    exact Task.andThen_error hlook
  | ok done =>
    rw [hresult] at hlook
    exact Task.andThen_ok hlook

/-- A build with settings fails at its look, fails at its build directory, or unfolds. -/
theorem build_cases (doc : Document) {request : BuildRequest} {machine : Machine}
    (crew : Crew ε π) {world : World ε π} {settings : Settings}
    (h : request.settings machine world.disk.currentPath = .ok settings) :
    ∃ looked left, Passage crew world (request.lookCalls settings.sourceDir crew world)
        (request.lookQuestions settings.sourceDir crew world) looked ∧
      ((∃ e, request.judgeLook settings.sourceDir crew world = .error e ∧
        doc.build request machine crew world = (.error e, left) ∧ left = looked) ∨
      (∃ e, request.judgeLook settings.sourceDir crew world = .ok () ∧
        ((doc.plan settings).readied request.clean looked.disk).1 = .error e ∧
        doc.build request machine crew world =
          (.error (.build (.ofFile settings.buildDir e)), left) ∧
        Rearrangement looked ((doc.plan settings).readied request.clean looked.disk).2 left) ∨
      ∃ cleaned ready steps result, request.judgeLook settings.sourceDir crew world = .ok () ∧
        ((doc.plan settings).readied request.clean looked.disk).1 = .ok cleaned ∧
        Rearrangement looked ((doc.plan settings).readied request.clean looked.disk).2 ready ∧
        Unfolds (doc.plan settings).pipeline (.start cleaned) steps result ∧
        doc.build request machine crew world = (result.mapError .build, left) ∧
        Passage crew ready (callsIn settings.buildDir steps) [] left) := by
  obtain ⟨looked, hlooked, hbuild⟩ := doc.build_looks crew h
  cases hjudge : request.judgeLook settings.sourceDir crew world with
  | error e =>
    rw [hjudge] at hbuild
    exact ⟨looked, looked, hlooked, .inl ⟨e, rfl, hbuild, rfl⟩⟩
  | ok done =>
    rw [hjudge] at hbuild
    obtain ⟨left, hleft, hpassage⟩ := run_conclude (doc.plan settings) request.clean crew looked
    simp only [hleft] at hbuild
    rcases (doc.plan settings).run_cases request.clean crew looked with
        ⟨e, last, hready, hrun, hlast⟩ |
        ⟨cleaned, ready, steps, result, last, hready, hreadied, hunfolds, hrun, hlast⟩
    · rw [hrun] at hbuild hpassage
      have hleft := hlast.trans hpassage.rearrangement
      simp only [hlast.disk] at hleft
      exact ⟨looked, left, hlooked, .inr (.inl ⟨e, rfl, hready, hbuild, hleft⟩)⟩
    · rw [hrun] at hbuild hpassage
      exact ⟨looked, left, hlooked, .inr (.inr ⟨cleaned, ready, steps, result, rfl, hready, hreadied,
        hunfolds, hbuild, hlast.trans_quiet hpassage⟩)⟩

end Document

end BuildConductor
