import BuildConductor.Proofs.Clean
import BuildConductor.Proofs.Plan.Agreement

/-! What the commands of a plan are about.

Settings have absolute directories and at least one job, however a request leaves them out or
puts them (`BuildRequest.settings_sound`). The commands of a plan are put together one by one;
`Plan.Addresses` says that they all show the directories and the jobs of the settings, and the
build directory is also where they run.

What is shown of a directory is not always its path. A command gets the very directories of the
settings (`Plan.Reaches`) exactly if those are texts, as they are if the request and the current
directory are. -/
namespace BuildConductor

/-- What the test tool takes without an operand. -/
def loneFlags : List String := ["--output-on-failure"]

/-- The arguments behind those flags, which come in pairs of a flag and an operand. -/
def pairedArgs (args : List String) : List String :=
  args.dropWhile fun arg => arg ∈ loneFlags

/-- Whether the commands of a plan show the directories and the jobs of settings. -/
structure Plan.Addresses (plan : Plan) (settings : Settings) : Prop where
  buildDir : plan.buildDir = settings.buildDir
  configures : ∃ step, plan.step? .configure = some step ∧
    operandOf? "-S" step.command.args = some settings.sourceDir.text ∧
    operandOf? "-B" step.command.args = some settings.buildDir.text
  builds : ∃ step, plan.step? .build = some step ∧
    operandOf? "--build" step.command.args = some settings.buildDir.text ∧
    operandOf? "--parallel" step.command.args = some (toString settings.jobs)
  tests : ∀ step, plan.step? .test = some step →
    operandOf? "-j" (pairedArgs step.command.args) = some (toString settings.jobs)
  installs : operandOf? "--install" plan.install.command.args = some settings.buildDir.text

/-- Whether the operand of a flag, taken as it is handed on, is a path. -/
def Command.Hands (command : Command) (flag : String) (path : Path) : Prop :=
  ∃ operand, operandOf? flag command.args = some operand ∧ Path.mk operand = path

/-- Whether the commands of a plan get the directories of settings. -/
structure Plan.Reaches (plan : Plan) (settings : Settings) : Prop where
  configures : ∃ step, plan.step? .configure = some step ∧
    step.command.Hands "-S" settings.sourceDir ∧ step.command.Hands "-B" plan.buildDir
  builds : ∃ step, plan.step? .build = some step ∧ step.command.Hands "--build" plan.buildDir
  installs : plan.install.command.Hands "--install" plan.buildDir

/-- An operand that shows a path is that path exactly if it is a text. -/
theorem Command.hands_iff {command : Command} {flag : String} {path : Path}
    (h : operandOf? flag command.args = some path.text) :
    command.Hands flag path ↔ path.IsText := by
  rw [← Path.mk_text_iff]
  constructor
  · rintro ⟨operand, hoperand, hpath⟩
    rwa [← Option.some.inj (h.symm.trans hoperand)] at hpath
  · exact fun hpath => ⟨path.text, h, hpath⟩

theorem Plan.Addresses.reaches_iff {plan : Plan} {settings : Settings}
    (h : plan.Addresses settings) :
    plan.Reaches settings ↔ settings.sourceDir.IsText ∧ settings.buildDir.IsText := by
  obtain ⟨hdir, ⟨configure, hconfigure, hsource, hbuildDir⟩, ⟨build, hbuild, hbuilds, -⟩, -,
    hinstalls⟩ := h
  rw [← hdir] at hbuildDir hbuilds hinstalls ⊢
  constructor
  · rintro ⟨⟨step, hstep, hhands, -⟩, -, hinstall⟩
    obtain rfl : configure = step := Option.some.inj (hconfigure.symm.trans hstep)
    exact ⟨(Command.hands_iff hsource).1 hhands, (Command.hands_iff hinstalls).1 hinstall⟩
  · rintro ⟨hsourceText, hbuildText⟩
    exact ⟨⟨configure, hconfigure, (Command.hands_iff hsource).2 hsourceText,
        (Command.hands_iff hbuildDir).2 hbuildText⟩,
      ⟨build, hbuild, (Command.hands_iff hbuilds).2 hbuildText⟩,
      (Command.hands_iff hinstalls).2 hbuildText⟩

/-- Whether the commands of a plan run in its build directory, whoever runs them and however
they end. -/
def Plan.StaysInside (plan : Plan) (ε π : Type) : Prop :=
  ∀ (crew : Crew ε π) (world : World ε π),
    (∀ clean, ∃ made, (plan.run clean crew world).2.calls = world.calls ++ made ∧
      ∀ call ∈ made, call.1.directory = plan.buildDir) ∧
    ∃ made, (plan.runInstall crew world).2.calls = world.calls ++ made ∧
      ∀ call ∈ made, call.1.directory = plan.buildDir

theorem Plan.staysInside (plan : Plan) (ε π : Type) : plan.StaysInside ε π := by
  intro crew world
  constructor
  · intro clean
    rcases plan.run_cases clean crew world with ⟨e, left, -, hrun, hleft⟩ |
      ⟨_, ready, trace, _, last, -, hready, -, hrun, hpassage⟩
    · exact ⟨[], by rw [hrun, hleft.calls, List.append_nil], List.forall_mem_nil _⟩
    · refine ⟨callsIn plan.buildDir trace, by rw [hrun, hpassage.calls, hready.calls], ?_⟩
      exact List.forall_mem_map.2 fun _ _ => rfl
  · obtain ⟨left, hinstall, hpassage⟩ := plan.runInstall_ends crew world
    refine ⟨_, by rw [hinstall, hpassage.calls], fun call hcall => ?_⟩
    unfold Plan.installCalls at hcall
    split at hcall
    · rw [List.mem_singleton.1 hcall]
      rfl
    · cases hcall

/-! ### Settings -/

namespace BuildRequest
variable {request : BuildRequest} {machine : Machine} {current : Path} {settings : Settings}

theorem absoluteFrom_eq_ok {p : Path} {result : Path} (hcurrent : current.isAbsolute = true)
    (h : current.absoluteFrom p = .ok result) : result.isAbsolute = true :=
  Path.isAbsolute_of_absolute hcurrent (except_mapError_eq_ok.1 h)

/-- Settings have absolute directories and at least one job, on a machine that has one, and
the generator that was asked for. -/
theorem settings_sound (hcurrent : current.isAbsolute = true) (hjobs : 1 ≤ machine.jobs)
    (h : request.settings machine current = .ok settings) :
    settings.sourceDir.isAbsolute = true ∧ settings.buildDir.isAbsolute = true ∧
      1 ≤ settings.jobs ∧ settings.generator = request.generator := by
  obtain ⟨sourceDir, hsource, hrest⟩ := except_bind_eq_ok.1 h
  obtain ⟨buildDir, hbuild, hsettings⟩ := except_bind_eq_ok.1 hrest
  have hsourceDir := absoluteFrom_eq_ok hcurrent hsource
  have hbuildDir : buildDir.isAbsolute = true := by
    unfold absoluteBuildDir at hbuild
    split at hbuild
    · exact absoluteFrom_eq_ok hcurrent hbuild
    · cases hbuild
      exact Path.isAbsolute_join hsourceDir defaultBuildDir
  cases hsettings
  cases request.jobs with
  | none => exact ⟨hsourceDir, hbuildDir, hjobs, rfl⟩
  | some jobs => exact ⟨hsourceDir, hbuildDir, Nat.le_max_left 1 jobs, rfl⟩

/-- Whether the directories of a request are texts. -/
def IsText (request : BuildRequest) : Prop :=
  request.sourceDir.IsText ∧ ∀ dir ∈ request.buildDir, dir.IsText

/-- Seen from a directory that is a text, settings have texts where the request has. -/
theorem settings_isText (hrequest : request.IsText) (hcurrent : current.IsText)
    (h : request.settings machine current = .ok settings) :
    settings.sourceDir.IsText ∧ settings.buildDir.IsText := by
  obtain ⟨sourceDir, hsource, hrest⟩ := except_bind_eq_ok.1 h
  obtain ⟨buildDir, hbuild, hsettings⟩ := except_bind_eq_ok.1 hrest
  have hsourceDir := hcurrent.absolute hrequest.1 (except_mapError_eq_ok.1 hsource)
  have hbuildDir : buildDir.IsText := by
    unfold absoluteBuildDir at hbuild
    split at hbuild
    · rename_i dir hdir
      exact hcurrent.absolute (hrequest.2 dir hdir) (except_mapError_eq_ok.1 hbuild)
    · cases hbuild
      exact hsourceDir.join ⟨"build", rfl⟩
  cases hsettings
  cases request.jobs <;> exact ⟨hsourceDir, hbuildDir⟩

end BuildRequest

theorem Machine.one_le_jobs (platform : Platform)
    (processors : Option {count : Nat // 0 < count}) :
    1 ≤ (Machine.ofProcessors platform processors).jobs := by
  cases processors with
  | none =>
    show 1 ≤ fallbackJobs
    decide
  | some count => exact count.2

/-! ### Commands -/

namespace Settings

/-- The arguments of the command that configures, up to the build type. -/
def fixedArgs (settings : Settings) : List String :=
  ["-S", pathArgument settings.sourceDir, "-B", pathArgument settings.buildDir] ++
    settings.generator.elim [] fun generator => ["-G", generator]

theorem configureCommand_args (settings : Settings) (doc : Document) :
    (settings.configureCommand doc).args =
      settings.fixedArgs ++ definition buildTypeOption doc.effectiveBuildType :: doc.definitions := by
  unfold configureCommand fixedArgs
  cases settings.generator <;> rfl

/-- The operand of the generator's flag is the generator, where directories are absolute or
not: flags and operands alternate. -/
theorem operandOf?_fixedArgs (settings : Settings) :
    operandOf? "-G" settings.fixedArgs = settings.generator := by
  unfold fixedArgs
  cases settings.generator <;> rfl

/-- What is shown of an absolute path begins with a slash. -/
theorem ne_of_isAbsolute {path : Path} (h : path.isAbsolute = true) {arg : String}
    (harg : arg.toList.head? ≠ some '/') : pathArgument path ≠ arg := by
  rintro rfl
  obtain ⟨rest, hrest⟩ := List.head?_eq_some_iff.1 (beq_iff_eq.1 h)
  have hshown : (pathArgument path).toList = Text.shownBytes (Path.slash :: rest) := by
    rw [← hrest]
    exact String.toList_ofList
  rw [hshown] at harg
  exact harg rfl

/-- Where directories are absolute, `-G` stands before the build type only as a flag. -/
theorem mem_fixedArgs_iff {settings : Settings} (hsource : settings.sourceDir.isAbsolute = true)
    (hbuild : settings.buildDir.isAbsolute = true) :
    "-G" ∈ settings.fixedArgs ↔ settings.generator.isSome = true := by
  have hsource : pathArgument settings.sourceDir ≠ "-G" := ne_of_isAbsolute hsource (by decide)
  have hbuild : pathArgument settings.buildDir ≠ "-G" := ne_of_isAbsolute hbuild (by decide)
  unfold fixedArgs
  cases settings.generator with
  | none => simp [hsource.symm, hbuild.symm]
  | some generator => simp

end Settings

namespace Document

/-- The step that tests, if there is one. -/
theorem step_of_test {doc : Document} {settings : Settings} {step : Step}
    (h : (doc.plan settings).step? .test = some step) :
    step = .ofKind .test settings.testCommand := by
  cases htests : doc.testsEnabled with
  | false => simp [Plan.step?, plan, Step.ofKind, htests] at h
  | true =>
    simp only [Plan.step?, plan, Step.ofKind, htests] at h
    exact (Option.some.inj h).symm

theorem plan_addresses (doc : Document) (settings : Settings) :
    (doc.plan settings).Addresses settings where
  buildDir := rfl
  configures := ⟨_, doc.plan_configure settings, rfl, rfl⟩
  builds := ⟨_, doc.plan_build settings, rfl, rfl⟩
  tests step h := by
    rw [step_of_test h]
    rfl
  installs := rfl

/-- Whatever a request says or leaves out, seen from an absolute directory, a plan for it has
absolute directories; all its commands show one source directory, one build directory and one
number of jobs, which is not zero; and they run in that build directory. What they are given are
those directories exactly if both are texts, as they are where the request and the current
directory are. The build tool is given a generator before the build type exactly if one was asked
for. -/
theorem plan_operands (doc : Document) {request : BuildRequest} {platform : Platform}
    {processors : Option {count : Nat // 0 < count}} {current : Path} {settings : Settings}
    (hcurrent : current.isAbsolute = true)
    (h : request.settings (.ofProcessors platform processors) current = .ok settings) :
    let plan := doc.plan settings
    settings.sourceDir.isAbsolute = true ∧ settings.buildDir.isAbsolute = true ∧
      1 ≤ settings.jobs ∧ plan.Addresses settings ∧ (∀ ε π, plan.StaysInside ε π) ∧
      (plan.Reaches settings ↔ settings.sourceDir.IsText ∧ settings.buildDir.IsText) ∧
      (current.IsText → request.IsText → plan.Reaches settings) ∧
      ∃ configure fixed, plan.step? .configure = some configure ∧
        configure.command.args =
          fixed ++ definition buildTypeOption plan.buildType :: doc.definitions ∧
        ("-G" ∈ fixed ↔ request.generator.isSome = true) ∧
        operandOf? "-G" fixed = request.generator := by
  intro plan
  obtain ⟨hsource, hbuild, hjobs, hgenerator⟩ :=
    BuildRequest.settings_sound hcurrent (Machine.one_le_jobs platform processors) h
  have hbuildType : plan.buildType = doc.effectiveBuildType := by simp only [plan, Document.plan]
  have hreaches := (doc.plan_addresses settings).reaches_iff
  refine ⟨hsource, hbuild, hjobs, doc.plan_addresses settings, plan.staysInside, hreaches,
    fun hcurrent hrequest => hreaches.2 (BuildRequest.settings_isText hrequest hcurrent h),
    _, settings.fixedArgs, doc.plan_configure settings, ?_, ?_, ?_⟩
  · rw [hbuildType, Step.ofKind_command]
    exact settings.configureCommand_args doc
  · rw [Settings.mem_fixedArgs_iff hsource hbuild, hgenerator]
  · rw [Settings.operandOf?_fixedArgs, hgenerator]

/-- A request with a build directory beside the source tree, and without any job. -/
def outsideRequest : BuildRequest where
  sourceDir := ⟨"."⟩
  buildDir := some ⟨"../out/"⟩
  jobs := some 0
  generator := some "-G"

theorem plan_operands_outside :
    let settings : Settings := ⟨.macos, ⟨"/work/app"⟩, ⟨"/work/app/../out/"⟩, 1, some "-G"⟩
    (Path.mk "/work/app").isAbsolute = true ∧
      outsideRequest.settings (.ofProcessors .macos none) ⟨"/work/app"⟩ = .ok settings ∧
      1 ≤ settings.jobs ∧ (Document.empty.plan settings).Addresses settings ∧
      (Document.empty.plan settings).Reaches settings ∧
      ∃ configure fixed, (Document.empty.plan settings).step? .configure = some configure ∧
        "-G" ∈ fixed ∧ operandOf? "-G" fixed = some "-G" := by
  intro settings
  have hcurrent : (Path.mk "/work/app").isAbsolute = true := by decide
  have hsettings : outsideRequest.settings (.ofProcessors .macos none) ⟨"/work/app"⟩ =
      .ok settings := except_eq_ok_of_toOption (by decide +kernel)
  obtain ⟨-, -, hjobs, haddresses, -, -, hreaches, configure, fixed, hconfigure, -, hflag,
    hgenerator⟩ := plan_operands Document.empty hcurrent hsettings
  have hrequest : outsideRequest.IsText := ⟨⟨".", rfl⟩, by rintro _ ⟨⟩; exact ⟨"../out/", rfl⟩⟩
  exact ⟨hcurrent, hsettings, hjobs, haddresses, hreaches ⟨"/work/app", rfl⟩ hrequest, configure,
    fixed, hconfigure, hflag.2 rfl, hgenerator⟩

/-- A request with a build directory of a byte that begins no character. -/
def undecodableRequest : BuildRequest where
  sourceDir := ⟨"."⟩
  buildDir := some ⟨⟨[0x62, 0xFF]⟩⟩

/-- Its commands name another directory than the one that they run in. -/
theorem plan_operands_undecodable :
    let buildDir : Path := ⟨⟨(SystemText.ofText "/work/b").bytes ++ [0xFF]⟩⟩
    let settings : Settings := ⟨.linux, ⟨"/work"⟩, buildDir, 4, none⟩
    let plan := Document.empty.plan settings
    undecodableRequest.settings (.ofProcessors .linux none) ⟨"/work"⟩ = .ok settings ∧
      plan.buildDir = buildDir ∧
      operandOf? "--install" plan.install.command.args = some "/work/b\uFFFD" ∧
      Path.mk "/work/b\uFFFD" ≠ buildDir ∧ ¬plan.Reaches settings := by
  intro buildDir settings plan
  have hsettings : undecodableRequest.settings (.ofProcessors .linux none) ⟨"/work"⟩ =
      .ok settings := except_eq_ok_of_toOption (by decide +kernel)
  have hoperand : operandOf? "--install" plan.install.command.args = some "/work/b\uFFFD" := by
    decide +kernel
  have hother : Path.mk "/work/b\uFFFD" ≠ buildDir := by decide +kernel
  refine ⟨hsettings, rfl, hoperand, hother, fun hreaches => ?_⟩
  obtain ⟨operand, hinstall, hpath⟩ := hreaches.installs
  rw [← Option.some.inj (hoperand.symm.trans hinstall)] at hpath
  exact hother hpath

end Document

end BuildConductor
