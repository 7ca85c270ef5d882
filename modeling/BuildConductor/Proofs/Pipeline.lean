import BuildConductor.Pipeline
import BuildConductor.Proofs.Trace
import BuildConductor.Rehearsal.Basic
import Mathlib.Data.List.Forall2

/-! What running a plan comes to.

A step is one call, judged by `Step.judge`. `Unfolds` says what a row of steps
does to a report, one rule for each way a step can end; `runSteps_unfolds` shows
that every run follows it, whoever runs the commands. What a run executes, how it
ends and what it reports is then read off `Unfolds` by induction. Making the build
directory ready calls nobody (`prepare_leaves`), and `run_of_prepared` puts both
together. -/
namespace BuildConductor

/-- The call of a step in a directory. -/
def Step.callIn (step : Step) (directory : Path) : Call :=
  ⟨step.command, directory, false⟩

/-- The error of a step whose command ended like that: by its status, or by not
having run. -/
inductive StepFailure (step : Step) : Answer → BuildError → Prop
  | status {output : Output} (h : output.status.code ≠ some 0) :
    StepFailure step (.ok output) (.stepFailed step.kind step.command.display output.status)
  | launch (failure : LaunchFailure) :
    StepFailure step (.error failure) (.spawn step.command.display failure.message)

/-- A step is without fault exactly where its command exits with code zero. -/
theorem Step.fault_cases (step : Step) (answer : Answer) :
    (step.fault answer = none ∧ ExitsZero answer) ∨
      ∃ e, step.fault answer = some e ∧ ¬ExitsZero answer ∧ StepFailure step answer e := by
  cases answer with
  | error failure => exact .inr ⟨_, rfl, id, .launch failure⟩
  | ok output =>
    by_cases h : output.status.code = some 0
    · exact .inl ⟨by simp [Step.fault, ExitStatus.success, h], h⟩
    · exact .inr ⟨_, by simp [Step.fault, ExitStatus.success, h], h, .status h⟩

/-- What the answer to its command makes of a step. -/
def Step.judge (step : Step) (answer : Answer) : Except BuildError StepOutcome :=
  match step.fault answer with
  | none => .ok .succeeded
  | some e =>
    match step.policy with
    | .abort => .error e
    | .report => .ok (.failed e)

variable {ε π : Type}

/-- The failure of a step leads to no further call. -/
theorem Step.handle_ends (step : Step) (e : BuildError) (crew : Crew ε π) (world : World ε π) :
    (step.handle e).Ends crew world
      (match step.policy with
        | .abort => .error e
        | .report => .ok (.failed e)) [] [] := by
  unfold Step.handle
  cases step.policy with
  | abort => exact Task.ends_ofExcept _ crew world
  | report =>
    refine (Task.ends_trace _ crew world).bind fun left _ => ?_
    refine (Task.ends_say _ _ crew left).bind fun left' _ => ?_
    exact Task.ends_pure _ crew left'

/-- A step is one call, and the answer to it decides how the step ends. -/
theorem Step.run_ends (step : Step) (directory : Path) (crew : Crew ε π) (world : World ε π) :
    let answer := (crew.executor.answer (step.callIn directory) world.scene).1
    (step.run directory).Ends crew world (step.judge answer)
      [(step.callIn directory, answer)] [] := by
  refine (Task.ends_say _ _ crew world).bind fun left hleft => ?_
  refine (Task.ends_note rfl rfl crew left).bind fun announced hannounced => ?_
  have hcall := Task.ends_execute (E := BuildError) (step.callIn directory) crew announced
  rw [(hleft.trans hannounced).scene_eq] at hcall
  refine hcall.bind fun called _ => ?_
  generalize (crew.executor.answer (step.callIn directory) world.scene).1 = answer
  unfold Step.judge
  cases step.fault answer with
  | some e => exact step.handle_ends e crew called
  | none =>
    refine (Task.ends_note rfl rfl crew called).bind fun finished _ => ?_
    exact Task.ends_pure _ crew finished

/-- What a row of steps makes of a report, with the answers to their commands: a
step succeeds, fails and is left behind, or fails and ends the row. -/
inductive Unfolds : List Step → Report → List (Step × Answer) → Except BuildError Report → Prop
  | done (report : Report) : Unfolds [] report [] (.ok report)
  | succeeded {step : Step} {rest : List Step} {report : Report} {answer : Answer}
    {trace : List (Step × Answer)} {result : Except BuildError Report} (hzero : ExitsZero answer)
    (hrest : Unfolds rest (report.add step.kind .succeeded) trace result) :
    Unfolds (step :: rest) report ((step, answer) :: trace) result
  | reported {step : Step} {rest : List Step} {report : Report} {answer : Answer} {e : BuildError}
    {trace : List (Step × Answer)} {result : Except BuildError Report}
    (hpolicy : step.policy = .report) (hzero : ¬ExitsZero answer)
    (hfailure : StepFailure step answer e)
    (hrest : Unfolds rest (report.add step.kind (.failed e)) trace result) :
    Unfolds (step :: rest) report ((step, answer) :: trace) result
  | aborted {step : Step} {answer : Answer} {e : BuildError} (hpolicy : step.policy = .abort)
    (hzero : ¬ExitsZero answer) (hfailure : StepFailure step answer e) (rest : List Step)
    (report : Report) : Unfolds (step :: rest) report [(step, answer)] (.error e)

namespace Unfolds
variable {steps : List Step} {report final : Report} {trace : List (Step × Answer)}
  {result : Except BuildError Report} {e : BuildError}

/-- Steps are run in order from the first, each once. -/
theorem isPrefix (h : Unfolds steps report trace result) : trace.map Prod.fst <+: steps := by
  induction h with
  | done report => exact List.prefix_rfl
  | succeeded _ _ ih => exact (List.prefix_cons_inj _).2 ih
  | reported _ _ _ _ ih => exact (List.prefix_cons_inj _).2 ih
  | aborted _ _ _ rest report => exact (List.prefix_cons_inj _).2 (List.nil_prefix)

/-- A row of steps fails exactly where a step fails that has to succeed. -/
theorem error_iff (h : Unfolds steps report trace result) :
    (∃ e, result = .error e) ↔ ∃ ran ∈ trace, ran.1.policy = .abort ∧ ¬ExitsZero ran.2 := by
  induction h with
  | done report => simp
  | succeeded hzero _ ih =>
    rw [ih]
    simp [hzero]
  | reported hpolicy _ _ _ ih =>
    rw [ih]
    simp [hpolicy]
  | aborted hpolicy hzero _ rest report => simp [hpolicy, hzero]

/-- The step that ends a row is the first that fails and has to succeed, and the
error is its own. -/
theorem exists_failed (h : Unfolds steps report trace (.error e)) :
    ∃ before step answer, trace = before ++ [(step, answer)] ∧ step.policy = .abort ∧
      ¬ExitsZero answer ∧ StepFailure step answer e ∧
      ∀ ran ∈ before, ran.1.policy = .abort → ExitsZero ran.2 := by
  generalize hresult : Except.error e = result at h
  induction h with
  | done report => cases hresult
  | succeeded hzero _ ih =>
    obtain ⟨before, step, answer, rfl, hpolicy, hnonzero, hfailure, hbefore⟩ := ih hresult
    exact ⟨_ :: before, step, answer, rfl, hpolicy, hnonzero, hfailure,
      List.forall_mem_cons.2 ⟨fun _ => hzero, hbefore⟩⟩
  | reported hreport _ _ _ ih =>
    obtain ⟨before, step, answer, rfl, hpolicy, hnonzero, hfailure, hbefore⟩ := ih hresult
    refine ⟨_ :: before, step, answer, rfl, hpolicy, hnonzero, hfailure,
      List.forall_mem_cons.2 ⟨fun habort => ?_, hbefore⟩⟩
    rw [hreport] at habort
    cases habort
  | aborted hpolicy hzero hfailure rest report =>
    cases hresult
    exact ⟨[], _, _, rfl, hpolicy, hzero, hfailure, List.forall_mem_nil _⟩

/-- A row of steps begins with its first, if it has any. -/
theorem trace_eq_nil_iff (h : Unfolds steps report trace result) : trace = [] ↔ steps = [] := by
  cases h <;> simp

/-- A row that does not fail runs all its steps. -/
theorem all_ran (h : Unfolds steps report trace (.ok final)) : trace.map Prod.fst = steps := by
  generalize hresult : Except.ok final = result at h
  induction h with
  | done report => rfl
  | succeeded _ _ ih => exact congrArg _ (ih hresult)
  | reported _ _ _ _ ih => exact congrArg _ (ih hresult)
  | aborted _ _ _ rest report => cases hresult

/-- The steps that exit with zero are completed, in order. -/
theorem completed_eq (h : Unfolds steps report trace (.ok final)) :
    final.completed = report.completed ++
      (trace.filter fun ran => ExitsZero ran.2).map fun ran => ran.1.kind := by
  generalize hresult : Except.ok final = result at h
  induction h with
  | done report =>
    cases hresult
    simp
  | succeeded hzero _ ih => simp [ih hresult, Report.add, hzero]
  | reported _ hzero _ _ ih => simp [ih hresult, Report.add, hzero]
  | aborted _ _ _ rest report => cases hresult

/-- The failures that are left behind are those of the steps that may fail, in order. -/
theorem advisories_eq (h : Unfolds steps report trace (.ok final)) :
    ∃ errors, final.advisories = report.advisories ++ errors ∧
      List.Forall₂ (fun ran e => StepFailure ran.1 ran.2 e)
        (trace.filter fun ran => ran.1.policy = .report ∧ ¬ExitsZero ran.2) errors := by
  generalize hresult : Except.ok final = result at h
  induction h with
  | done report =>
    cases hresult
    exact ⟨[], (List.append_nil _).symm, .nil⟩
  | succeeded hzero _ ih =>
    obtain ⟨errors, hadvisories, hall⟩ := ih hresult
    refine ⟨errors, hadvisories, ?_⟩
    rw [List.filter_cons_of_neg (by simp [hzero])]
    exact hall
  | @reported _ _ _ _ e _ _ hpolicy hzero hfailure _ ih =>
    obtain ⟨errors, hadvisories, hall⟩ := ih hresult
    refine ⟨e :: errors, by rw [hadvisories, Report.add, List.append_assoc]; rfl, ?_⟩
    rw [List.filter_cons_of_pos (by simp [hpolicy, hzero])]
    exact .cons hfailure hall
  | aborted _ _ _ rest report => cases hresult

/-- Steps change nothing of what was cleaned. -/
theorem cleaned_eq (h : Unfolds steps report trace (.ok final)) :
    final.cleaned = report.cleaned := by
  generalize hresult : Except.ok final = result at h
  induction h with
  | done report =>
    cases hresult
    rfl
  | succeeded _ _ ih => exact ih hresult
  | reported _ _ _ _ ih => exact ih hresult
  | aborted _ _ _ rest report => cases hresult

end Unfolds

/-- The calls of steps in a directory, with the answers to them. -/
def callsIn (directory : Path) (trace : List (Step × Answer)) : List (Call × Answer) :=
  trace.map fun ran => (ran.1.callIn directory, ran.2)

/-- The first step is answered where a row begins, the others after it. -/
theorem Executor.Answers.of_callsIn_cons {executor : Executor ε} {directory : Path} {step : Step}
    {answer : Answer} {rest : List (Step × Answer)} {scene last : Disk × ε}
    (h : executor.Answers scene (callsIn directory ((step, answer) :: rest)) last) :
    answer = (executor.answer (step.callIn directory) scene).1 ∧
      executor.Answers (executor.answer (step.callIn directory) scene).2
        (callsIn directory rest) last :=
  h.of_cons

/-- Every run of steps unfolds, whoever runs the commands. -/
theorem runSteps_unfolds (directory : Path) (steps : List Step) (report : Report) (crew : Crew ε π)
    (world : World ε π) :
    ∃ trace result, Unfolds steps report trace result ∧
      (runSteps directory steps report).Ends crew world result (callsIn directory trace) [] := by
  induction steps generalizing report world with
  | nil => exact ⟨[], .ok report, .done report, Task.ends_pure report crew world⟩
  | cons step rest ih =>
    have hstep := step.run_ends directory crew world
    generalize (crew.executor.answer (step.callIn directory) world.scene).1 = answer at hstep
    rcases step.fault_cases answer with ⟨hnone, hzero⟩ | ⟨e, hsome, hzero, hfailure⟩
    · simp only [Step.judge, hnone] at hstep
      obtain ⟨left, hrun, hpassage⟩ := hstep
      obtain ⟨trace, result, hunfolds, last, hlast, hmore⟩ :=
        ih (report.add step.kind .succeeded) left
      exact ⟨_, result, .succeeded hzero hunfolds, last, (Task.andThen_ok hrun).trans hlast,
        hpassage.trans hmore⟩
    · cases hpolicy : step.policy with
      | abort =>
        simp only [Step.judge, hsome, hpolicy] at hstep
        exact ⟨_, _, .aborted hpolicy hzero hfailure rest report, hstep.bind_error _⟩
      | report =>
        simp only [Step.judge, hsome, hpolicy] at hstep
        obtain ⟨left, hrun, hpassage⟩ := hstep
        obtain ⟨trace, result, hunfolds, last, hlast, hmore⟩ :=
          ih (report.add step.kind (.failed e)) left
        exact ⟨_, result, .reported hpolicy hzero hfailure hunfolds, last,
          (Task.andThen_ok hrun).trans hlast, hpassage.trans hmore⟩

/-! ### The build directory -/

namespace Plan

/-- What removing the build directory comes to if it is wanted, and the disk after
it. -/
def cleared (plan : Plan) (clean : Bool) (disk : Disk) : Except FileError Bool × Disk :=
  if clean then disk.removeIfExists plan.buildDir else (.ok false, disk)

/-- What making the build directory ready comes to, and the disk after it. -/
def readied (plan : Plan) (clean : Bool) (disk : Disk) : Except FileError Bool × Disk :=
  match plan.cleared clean disk with
  | (.error e, disk) => (.error e, disk)
  | (.ok removed, disk) => ((disk.ensureDirectory plan.buildDir).1.map fun _ => removed,
      (disk.ensureDirectory plan.buildDir).2)

theorem clean_leaves (plan : Plan) (crew : Crew ε π) (world : World ε π) :
    plan.clean.Leaves crew world ((plan.cleared true world.disk).1.mapError (.ofFile plan.buildDir))
      (plan.cleared true world.disk).2 := by
  have hremove := (Task.leaves_onDisk (fun disk => disk.removeIfExists plan.buildDir) crew
    world).mapError (BuildError.ofFile plan.buildDir)
  show plan.clean.Leaves crew world ((world.disk.removeIfExists plan.buildDir).1.mapError _)
    (world.disk.removeIfExists plan.buildDir).2
  generalize world.disk.removeIfExists plan.buildDir = outcome at hremove ⊢
  obtain ⟨result, disk⟩ := outcome
  cases result with
  | error e => exact hremove.bind_error _
  | ok removed =>
    refine hremove.bind fun left hleft => ?_
    have hdisk : left.disk = disk := hleft.disk
    rw [← hdisk]
    refine Task.Ends.leaves ?_
    cases removed with
    | false => exact Task.ends_pure false crew left
    | true =>
      exact (Task.ends_say .removed plan.buildDir.text crew left).bind fun said _ =>
        Task.ends_pure true crew said

theorem prepare_leaves (plan : Plan) (clean : Bool) (crew : Crew ε π) (world : World ε π) :
    (plan.prepare clean).Leaves crew world
      ((plan.readied clean world.disk).1.mapError (.ofFile plan.buildDir))
      (plan.readied clean world.disk).2 := by
  let ensure : Task ε π BuildError Unit :=
    (Task.onDisk fun disk => disk.ensureDirectory plan.buildDir).mapError (.ofFile plan.buildDir)
  obtain ⟨begin, hprepare, hbegin⟩ : ∃ begin : Task ε π BuildError Bool,
      plan.prepare clean = (begin >>= fun cleaned => ensure >>= fun _ => pure cleaned) ∧
      begin.Leaves crew world ((plan.cleared clean world.disk).1.mapError (.ofFile plan.buildDir))
        (plan.cleared clean world.disk).2 := by
    cases clean with
    | false => exact ⟨pure false, rfl, (Task.ends_pure false crew world).leaves⟩
    | true => exact ⟨plan.clean, rfl, plan.clean_leaves crew world⟩
  rw [hprepare, readied]
  generalize plan.cleared clean world.disk = outcome at hbegin ⊢
  obtain ⟨result, disk⟩ := outcome
  cases result with
  | error e => exact hbegin.bind_error _
  | ok removed =>
    refine hbegin.bind fun left hleft => ?_
    have hdisk : left.disk = disk := hleft.disk
    have hensure : ensure.Leaves crew left _ _ := (Task.leaves_onDisk
      (fun disk => disk.ensureDirectory plan.buildDir) crew left).mapError _
    rw [hdisk] at hensure
    simp only
    generalize disk.ensureDirectory plan.buildDir = outcome at hensure ⊢
    obtain ⟨result, final⟩ := outcome
    cases result with
    | error e => exact hensure.bind_error _
    | ok done =>
      refine hensure.bind fun last hlast => ?_
      have hfinal : last.disk = final := hlast.disk
      rw [← hfinal]
      exact (Task.ends_pure removed crew last).leaves

end Plan

/-! ### Running a plan -/

/-- What is true of a plan, the steps that were run with the answers to their
commands, and the result. -/
structure Plan.RunsTo (plan : Plan) (trace : List (Step × Answer))
    (result : Except BuildError Report) : Prop where
  /-- Steps are run in order from the first, each once. -/
  isPrefix : trace.map Prod.fst <+: plan.pipeline
  /-- A run fails exactly where a step fails that has to succeed. -/
  error_iff : (∃ e, result = .error e) ↔ ∃ ran ∈ trace, ran.1.policy = .abort ∧ ¬ExitsZero ran.2
  /-- The first such step is the last that is run, and its error is that of the run. -/
  failed : ∀ e, result = .error e → ∃ before step answer, trace = before ++ [(step, answer)] ∧
    step.policy = .abort ∧ StepFailure step answer e ∧
    ∀ ran ∈ before, ran.1.policy = .abort → ExitsZero ran.2
  /-- Without such a step all are run, and the report tells of each what it did. -/
  finished : ∀ report, result = .ok report → trace.map Prod.fst = plan.pipeline ∧
    report.completed = (trace.filter fun ran => ExitsZero ran.2).map (fun ran => ran.1.kind) ∧
    List.Forall₂ (fun ran e => StepFailure ran.1 ran.2 e)
      (trace.filter fun ran => ran.1.policy = .report ∧ ¬ExitsZero ran.2) report.advisories ∧
    (report.allPassed = true ↔ report.advisories = [])

/-- The call that configures for a document. -/
def Settings.configureCall (settings : Settings) (doc : Document) : Call :=
  ⟨settings.configureCommand doc, settings.buildDir, false⟩

/-- The call that builds for a document. -/
def Settings.buildCall (settings : Settings) (doc : Document) : Call :=
  ⟨settings.buildCommand doc.effectiveBuildType, settings.buildDir, false⟩

/-- Whether the two commands succeed that configure and build, run one after the other. -/
def Executor.Builds (executor : Executor ε) (settings : Settings) (doc : Document)
    (scene : Disk × ε) : Prop :=
  ExitsZero (executor.answer (settings.configureCall doc) scene).1 ∧
    ExitsZero (executor.answer (settings.buildCall doc)
      (executor.answer (settings.configureCall doc) scene).2).1

/-- A document's plan is carried out exactly where its first two commands succeed. What
becomes of the tests makes no difference. -/
theorem Unfolds.ok_iff_builds {doc : Document} {settings : Settings} {report : Report}
    {trace : List (Step × Answer)} {result : Except BuildError Report} {executor : Executor ε}
    {scene last : Disk × ε} (h : Unfolds (doc.plan settings).pipeline report trace result)
    (hanswers : executor.Answers scene (callsIn settings.buildDir trace) last) :
    (∃ final, result = .ok final) ↔ executor.Builds settings doc scene := by
  simp only [Document.plan, List.cons_append, List.nil_append] at h
  unfold Executor.Builds
  cases h with
  | reported hpolicy => cases hpolicy
  | aborted _ hconfigured _ _ =>
    obtain ⟨rfl, -⟩ := hanswers.of_callsIn_cons
    constructor
    · rintro ⟨final, hfinal⟩
      cases hfinal
    · rintro ⟨hzero, -⟩
      exact absurd hzero hconfigured
  | succeeded hconfigured hrest =>
    obtain ⟨rfl, hmore⟩ := hanswers.of_callsIn_cons
    cases hrest with
    | reported hpolicy => cases hpolicy
    | aborted _ hbuilt _ _ =>
      obtain ⟨rfl, -⟩ := hmore.of_callsIn_cons
      constructor
      · rintro ⟨final, hfinal⟩
        cases hfinal
      · rintro ⟨-, hzero⟩
        exact absurd hzero hbuilt
    | succeeded hbuilt hrest =>
      obtain ⟨rfl, -⟩ := hmore.of_callsIn_cons
      refine ⟨fun _ => ⟨hconfigured, hbuilt⟩, fun _ => ?_⟩
      -- What is left are the tests at most, which fail without ending the run.
      have hok : ∀ e, result ≠ .error e := by
        rintro e rfl
        obtain ⟨ran, hran, hpolicy, -⟩ := hrest.error_iff.1 ⟨e, rfl⟩
        have hstep := hrest.isPrefix.subset (List.mem_map_of_mem hran)
        split at hstep
        · rw [List.mem_singleton.1 hstep] at hpolicy
          cases hpolicy
        · cases hstep
      cases result with
      | ok final => exact ⟨final, rfl⟩
      | error e => exact absurd rfl (hok e)

/-- Once the build directory is ready, a run of a plan unfolds. -/
theorem Plan.run_unfolds {plan : Plan} {clean cleaned : Bool} {crew : Crew ε π}
    {world ready : World ε π} (h : plan.prepare clean crew world = (.ok cleaned, ready)) :
    ∃ trace result last, Unfolds plan.pipeline (.start cleaned) trace result ∧
      plan.run clean crew world = (result, last) ∧
      Passage crew ready (callsIn plan.buildDir trace) [] last := by
  obtain ⟨trace, result, hunfolds, last, hsteps, hpassage⟩ :=
    runSteps_unfolds plan.buildDir plan.pipeline (.start cleaned) crew ready
  exact ⟨trace, result, last, hunfolds, (Task.andThen_ok h).trans hsteps, hpassage⟩

/-- A run of a plan fails before its first step, or makes the build directory ready
and unfolds. -/
theorem Plan.run_cases (plan : Plan) (clean : Bool) (crew : Crew ε π) (world : World ε π) :
    (∃ e left, (plan.readied clean world.disk).1 = .error e ∧
      plan.run clean crew world = (.error (.ofFile plan.buildDir e), left) ∧
      Rearrangement world (plan.readied clean world.disk).2 left) ∨
    ∃ cleaned ready trace result last, (plan.readied clean world.disk).1 = .ok cleaned ∧
      Rearrangement world (plan.readied clean world.disk).2 ready ∧
      Unfolds plan.pipeline (.start cleaned) trace result ∧
      plan.run clean crew world = (result, last) ∧
      Passage crew ready (callsIn plan.buildDir trace) [] last := by
  obtain ⟨ready, hprepare, hready⟩ := plan.prepare_leaves clean crew world
  cases hresult : (plan.readied clean world.disk).1 with
  | error e =>
    rw [hresult] at hprepare
    exact .inl ⟨e, ready, rfl, Task.andThen_error hprepare, hready⟩
  | ok cleaned =>
    rw [hresult] at hprepare
    obtain ⟨trace, result, last, hunfolds, hrun, hpassage⟩ := Plan.run_unfolds hprepare
    exact .inr ⟨cleaned, ready, trace, result, last, rfl, hready, hunfolds, hrun, hpassage⟩

/-- Every run of a plan whose build directory is ready: the commands are those of the
first steps of the plan, in order and in the build directory, they are answered by the
executor one after the other, and the answers decide how the run ends. A document's
plan needs configuring and building to succeed, and nothing else. -/
theorem Plan.run_of_prepared (plan : Plan) {clean cleaned : Bool} {crew : Crew ε π}
    {world ready : World ε π} (h : plan.prepare clean crew world = (.ok cleaned, ready)) :
    ∃ trace, (plan.run clean crew world).2.calls = world.calls ++ callsIn plan.buildDir trace ∧
      crew.executor.Answers ready.scene (callsIn plan.buildDir trace)
        (plan.run clean crew world).2.scene ∧
      plan.RunsTo trace (plan.run clean crew world).1 ∧
      ∀ doc settings, plan = doc.plan settings →
        ((∃ report, (plan.run clean crew world).1 = .ok report) ↔
          crew.executor.Builds settings doc ready.scene) := by
  obtain ⟨left, hleft, hready⟩ := plan.prepare_leaves clean crew world
  obtain ⟨-, rfl⟩ := Prod.mk.inj (h.symm.trans hleft)
  obtain ⟨trace, result, last, hunfolds, hrun, hpassage⟩ := Plan.run_unfolds h
  rw [hrun]
  refine ⟨trace, ?_, hpassage.answers, ⟨hunfolds.isPrefix, hunfolds.error_iff, fun e he => ?_,
    fun report hreport => ?_⟩, fun doc settings hplan => ?_⟩
  · rw [hpassage.calls, hready.calls]
  · subst he
    obtain ⟨before, step, answer, htrace, hpolicy, -, hfailure, hbefore⟩ := hunfolds.exists_failed
    exact ⟨before, step, answer, htrace, hpolicy, hfailure, hbefore⟩
  · subst hreport
    obtain ⟨errors, hadvisories, hall⟩ := hunfolds.advisories_eq
    refine ⟨hunfolds.all_ran, hunfolds.completed_eq, ?_, List.isEmpty_iff⟩
    rw [hadvisories]
    exact hall
  · subst hplan
    exact hunfolds.ok_iff_builds hpassage.answers

/-- A plan to rehearse, for a document that says nothing. -/
def rehearsalPlan : Plan :=
  Document.empty.plan ⟨.linux, ⟨"/p"⟩, ⟨"/p/build"⟩, 2, none⟩

/-- Those who rehearse: ready answers to commands, and to questions. -/
def rehearsalCrew : Crew Rehearsal Script :=
  ⟨Rehearsal.executor, scriptPrompter⟩

/-- A source tree with a build directory, and tools that succeed but for the one that
runs tests, which is missing. -/
def untestableWorld : World Rehearsal Script where
  disk := ⟨[("p", .directory [("build", .directory [])])], ["p"]⟩
  tools :=
    {Rehearsal.empty with fallback := some (Rehearsal.silent ⟨some 0⟩), missing := [testTool]}
  user := ⟨[], []⟩
  log := []

theorem Plan.run_untestable :
    rehearsalPlan.prepare false rehearsalCrew untestableWorld = (.ok false, untestableWorld) ∧
      ∃ trace, (rehearsalPlan.run false rehearsalCrew untestableWorld).2.calls =
          untestableWorld.calls ++ callsIn rehearsalPlan.buildDir trace ∧
        rehearsalCrew.executor.Answers untestableWorld.scene (callsIn rehearsalPlan.buildDir trace)
          (rehearsalPlan.run false rehearsalCrew untestableWorld).2.scene ∧
        rehearsalPlan.RunsTo trace (rehearsalPlan.run false rehearsalCrew untestableWorld).1 ∧
        ∀ doc settings, rehearsalPlan = doc.plan settings →
          ((∃ report, (rehearsalPlan.run false rehearsalCrew untestableWorld).1 = .ok report) ↔
            rehearsalCrew.executor.Builds settings doc untestableWorld.scene) :=
  ⟨rfl, Plan.run_of_prepared _ rfl⟩

/-! ### Installing -/

/-- What the answer to its command makes of a step that nothing comes after: its
failure is an error whatever its policy. -/
def Step.judgeAlone (step : Step) (answer : Answer) : Except BuildError Unit :=
  match step.fault answer with
  | none => .ok ()
  | some e => .error e

namespace Plan
variable (plan : Plan) (crew : Crew ε π) (world : World ε π)

/-- The answer to the install step. -/
def installed : Answer :=
  (crew.executor.answer (plan.install.callIn plan.buildDir) world.scene).1

/-- What installing comes to: there has to be a build directory. -/
def judgeInstall : Except BuildError Unit :=
  if world.disk.isDirectory plan.buildDir then plan.install.judgeAlone (plan.installed crew world)
  else .error (.notConfigured plan.buildDir)

/-- The calls of installing. -/
def installCalls : List (Call × Answer) :=
  if world.disk.isDirectory plan.buildDir then
    [(plan.install.callIn plan.buildDir, plan.installed crew world)]
  else
    []

/-- Installing is one call at most, and the answer to it decides how it ends. -/
theorem runInstall_ends :
    plan.runInstall.Ends crew world (plan.judgeInstall crew world) (plan.installCalls crew world)
      [] := by
  refine (Task.ends_inspect _ crew world).andThen fun looked hlooked => ?_
  unfold judgeInstall installCalls
  by_cases h : world.disk.isDirectory plan.buildDir = true
  · rw [if_pos h, if_pos h, if_pos h]
    have hstep := plan.install.run_ends plan.buildDir crew looked
    rw [hlooked.scene_eq] at hstep
    unfold installed Step.judgeAlone
    generalize (crew.executor.answer (plan.install.callIn plan.buildDir) world.scene).1 = answer
      at hstep
    cases hfault : plan.install.fault answer with
    | none =>
      simp only [Step.judge, hfault] at hstep
      exact hstep.bind fun left _ => Task.ends_pure () crew left
    | some e =>
      cases hpolicy : plan.install.policy with
      | abort =>
        simp only [Step.judge, hfault, hpolicy] at hstep
        exact hstep.bind_error _
      | report =>
        simp only [Step.judge, hfault, hpolicy] at hstep
        exact hstep.bind fun left _ => Task.ends_ofExcept _ crew left
  · rw [if_neg h, if_neg h, if_neg h]
    exact Task.ends_ofExcept _ crew looked

end Plan

end BuildConductor
