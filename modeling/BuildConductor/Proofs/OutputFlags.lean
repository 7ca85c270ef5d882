import BuildConductor.Proofs.LiveOutput
import BuildConductor.Proofs.Text.Runs
import BuildConductor.Proofs.Trace
import Mathlib.Data.List.Basic

/-! Output flags change nothing but what is printed.

`Task.Mirrors` relates a task that only keeps its log to one that prints while it goes:
both do the same, and what the second says is what its console makes of the first one's
events. The operations of a console mirror those of a build, function by function. So they
do the same whatever the shell (`Console.ignores_flags`), and the lines of one shell are
those of another with some left out. -/
namespace BuildConductor

variable {ε π : Type}

/-! ### Lines -/

/-- What begins the remark about the directory of a step. -/
def directoryRemark : String := "working directory "

/-- Whether a line is a remark about the directory of a step. -/
def tellsDirectory (line : Status × String) : Bool :=
  line.1 == .info && directoryRemark.toList.isPrefixOf line.2.toList

/-- The line that an event tells of. -/
def Event.line? : Event → Option (Status × String)
  | .said status message => some (status, message)
  | _ => none

/-- Whether remarks are about directories, and other lines are not. -/
def Event.Orderly : Event → Prop
  | .said status message => tellsDirectory (status, message) = false
  | .remarked message => tellsDirectory (.info, message) = true
  | _ => True

namespace Console

/-- What a console says where a line is due. -/
def said? (console : Console) (status : Status) (message : String) : Option Event :=
  if console.shell.isQuiet && !status.isImportant then none else some (.said status message)

/-- What a console makes of an event when it happens. -/
def shown? (console : Console) : Event → Option Event
  | .said status message => console.said? status message
  | .remarked message => if console.shell.isVerbose then console.said? .info message else none
  | .finished what => console.said? .finished s!"{what} in {console.elapsed.text}"
  | event => some event

/-- A console shows of an event what its shell prints of it afterwards. -/
theorem shown?_line? (console : Console) (event : Event) :
    (console.shown? event).bind Event.line? = console.shell.message? console.elapsed event := by
  have hsaid (status : Status) (message : String) :
      (console.said? status message).bind Event.line? =
        (some (status, message)).filter fun line => !console.shell.isQuiet || line.1.isImportant := by
    unfold said?
    cases hquiet : console.shell.isQuiet <;> cases himportant : status.isImportant <;>
      simp [Event.line?, himportant, Option.filter]
  cases event with
  | said status message => exact hsaid status message
  | remarked message =>
    unfold shown? Shell.message?
    cases console.shell.isVerbose
    · rfl
    · exact hsaid .info message
  | finished what => exact hsaid .finished _
  | traced message => rfl
  | ran call answer => rfl
  | asked question shown => rfl
  | printed text => rfl

/-- Whoever does not look at lines sees the same. -/
theorem shown?_bind {β : Type} {f : Event → Option β} (hsaid : ∀ status message, f (.said status message) = none)
    (hremarked : ∀ message, f (.remarked message) = none)
    (hfinished : ∀ what, f (.finished what) = none) (console : Console) (event : Event) :
    (console.shown? event).bind f = f event := by
  have hline (status : Status) (message : String) : (console.said? status message).bind f = none := by
    unfold said?
    split
    · rfl
    · exact hsaid status message
  cases event with
  | said status message => exact (hline status message).trans (hsaid status message).symm
  | remarked message =>
    rw [hremarked]
    unfold shown?
    cases console.shell.isVerbose
    · rfl
    · exact hline .info message
  | finished what => exact (hline .finished _).trans (hfinished what).symm
  | traced message => rfl
  | ran call answer => rfl
  | asked question shown => rfl
  | printed text => rfl

end Console

/-! ### Colours -/

/-- A line without the sequences around its first word. -/
def unpainted (line : List Char) : List Char :=
  match line with
  | '\x1b' :: rest =>
    let word := (rest.dropWhile (· != 'm')).tail
    word.takeWhile (· != '\x1b') ++ ((word.dropWhile (· != '\x1b')).dropWhile (· != 'm')).tail
  | line => line

theorem unpainted_styled {style word : String} (hstyle : 'm' ∉ style.toList)
    (hword : '\x1b' ∉ word.toList) (rest : String) :
    unpainted (Text.styled style word ++ rest).toList = (word ++ rest).toList := by
  have hbefore : 'm' ∉ '[' :: style.toList := by simpa using hstyle
  have hopen : ((Text.styled style word ++ rest).toList) =
      '\x1b' :: (('[' :: style.toList) ++ 'm' :: (word.toList ++ '\x1b' :: '[' :: '0' :: 'm' :: rest.toList)) := by
    simp [Text.styled]
  rw [hopen]
  unfold unpainted
  simp only
  rw [(Text.cut_before hbefore _).2, List.tail_cons, (Text.cut_before hword _).1,
    (Text.cut_before hword _).2, String.toList_append]
  rfl

namespace Shell

/-- A line in colours is the line without them, once those around its status are removed. -/
theorem unpainted_line (verbosity : Verbosity) (status : Status) (message : String) :
    unpainted (line ⟨verbosity, true⟩ status message).toList =
      (line ⟨verbosity, false⟩ status message).toList := by
  have hstyle : 'm' ∉ (s!"1;{status.colorCode}").toList := by
    cases status <;> decide +kernel
  have hword : '\x1b' ∉ (aligned status.word).toList := by
    cases status <;> decide +kernel
  have hunpainted := unpainted_styled hstyle hword (" " ++ message ++ "\n")
  simpa [line, painted, String.append_assoc] using hunpainted

end Shell

/-! ### Tasks that print while they go -/

/-- Whether a task that prints while it goes does what another does that only keeps its
log, and says what its console makes of the other's events. -/
def Task.Mirrors {E α : Type} (plain live : Task ε π E α) (console : Console) : Prop :=
  ∀ (crew : Crew ε π) (world : World ε π) (log : List Event),
    ∃ events, (∀ event ∈ events, event.Orderly) ∧ (plain crew world).2.log = world.log ++ events ∧
      live crew {world with log := log} = ((plain crew world).1,
        {(plain crew world).2 with log := log ++ events.filterMap console.shown?})

namespace Task.Mirrors
variable {E F α β : Type} {console : Console}

theorem ofExcept (result : Except E α) :
    (Task.ofExcept result : Task ε π E α).Mirrors (Task.ofExcept result) console :=
  fun _ world log => ⟨[], List.forall_mem_nil _, (List.append_nil _).symm,
    by rw [List.filterMap_nil, List.append_nil]; rfl⟩

theorem pure (a : α) : (Pure.pure a : Task ε π E α).Mirrors (Pure.pure a) console :=
  ofExcept (.ok a)

theorem inspect (f : Disk → α) :
    (Task.inspect f : Task ε π E α).Mirrors (Task.inspect f) console :=
  fun _ world log => ⟨[], List.forall_mem_nil _, (List.append_nil _).symm,
    by rw [List.filterMap_nil, List.append_nil]; rfl⟩

theorem onDisk (f : Disk → Except E α × Disk) :
    (Task.onDisk f : Task ε π E α).Mirrors (Task.onDisk f) console :=
  fun _ world log => ⟨[], List.forall_mem_nil _, (List.append_nil _).symm,
    by rw [List.filterMap_nil, List.append_nil]; rfl⟩

/-- One event, of which the console makes another or none. -/
theorem of_note {event : Event} {live : Task ε π E Unit} (horderly : event.Orderly)
    (hlive : ∀ crew world, live crew world =
      (.ok (), {world with log := world.log ++ (console.shown? event).toList})) :
    (Task.note event).Mirrors live console := by
  intro crew world log
  refine ⟨[event], fun other hother => List.mem_singleton.1 hother ▸ horderly, rfl, ?_⟩
  rw [hlive]
  cases hshown : console.shown? event <;> simp [Task.note, hshown]

theorem bind {plain live : Task ε π E α} {next liveNext : α → Task ε π E β}
    (h : plain.Mirrors live console) (hnext : ∀ a, (next a).Mirrors (liveNext a) console) :
    (plain >>= next).Mirrors (live >>= liveNext) console := by
  intro crew world log
  obtain ⟨events, horderly, hlog, hlive⟩ := h crew world log
  change ∃ events, (∀ event ∈ events, event.Orderly) ∧
    (Task.andThen plain next crew world).2.log = world.log ++ events ∧
    Task.andThen live liveNext crew {world with log := log} =
      ((Task.andThen plain next crew world).1, {(Task.andThen plain next crew world).2 with
        log := log ++ events.filterMap console.shown?})
  unfold Task.andThen
  rw [hlive]
  generalize plain crew world = outcome at hlog
  obtain ⟨result, left⟩ := outcome
  cases result with
  | error e => exact ⟨events, horderly, hlog, rfl⟩
  | ok a =>
    obtain ⟨more, hmore, hmoreLog, hmoreLive⟩ :=
      hnext a crew left (log ++ events.filterMap console.shown?)
    refine ⟨events ++ more, List.forall_mem_append.2 ⟨horderly, hmore⟩, ?_, ?_⟩
    · show (next a crew left).2.log = _
      rw [hmoreLog, ← List.append_assoc]
      exact congrArg (· ++ more) hlog
    · show liveNext a crew {left with log := _} = _
      rw [hmoreLive, List.filterMap_append, List.append_assoc]

theorem mapError {plain live : Task ε π E α} (h : plain.Mirrors live console) (f : E → F) :
    (plain.mapError f).Mirrors (live.mapError f) console := by
  intro crew world log
  obtain ⟨events, horderly, hlog, hlive⟩ := h crew world log
  exact ⟨events, horderly, hlog, by rw [Task.mapError, hlive]; rfl⟩

theorem attempt {plain live : Task ε π E α} (h : plain.Mirrors live console) :
    (plain.attempt : Task ε π F (Except E α)).Mirrors live.attempt console := by
  intro crew world log
  obtain ⟨events, horderly, hlog, hlive⟩ := h crew world log
  exact ⟨events, horderly, hlog, by rw [Task.attempt, hlive]; rfl⟩

/-- An event that every console shows as it is. -/
theorem of_unshown {event : Event} (horderly : event.Orderly)
    (hshown : console.shown? event = some event) :
    (Task.note event : Task ε π E Unit).Mirrors (Task.note event) console := by
  refine of_note horderly fun crew world => ?_
  rw [hshown]
  rfl

theorem trace (message : String) :
    (Task.trace message : Task ε π E Unit).Mirrors (Task.trace message) console :=
  of_unshown trivial rfl

theorem execute (call : Call) :
    (Task.execute call : Task ε π E _).Mirrors (Task.execute call) console := by
  intro crew world log
  exact ⟨[.ran call _], fun other hother => List.mem_singleton.1 hother ▸ trivial, rfl, rfl⟩

theorem ask (question : String) :
    (Task.ask question : Task ε π PromptError _).Mirrors (Task.ask question) console := by
  intro crew world log
  exact ⟨[.asked question _], fun other hother => List.mem_singleton.1 hother ▸ trivial, rfl, rfl⟩

theorem confirm (question : String) (default : Bool) :
    (Task.confirm question default : Task ε π PromptError Bool).Mirrors
      (Task.confirm question default) console :=
  (ask _).bind fun _ => pure _

end Task.Mirrors

namespace Console
variable {console : Console} {E : Type}

/-- A line that is due. -/
theorem status_apply (console : Console) (status : Status) (message : String) (crew : Crew ε π)
    (world : World ε π) :
    (console.status status message : Task ε π E Unit) crew world =
      (.ok (), {world with log := world.log ++ (console.said? status message).toList}) := by
  unfold Console.status said?
  split
  · rw [Option.toList_none, List.append_nil]
    rfl
  · rfl

theorem status_mirrors {status : Status} {message : String}
    (h : tellsDirectory (status, message) = false) :
    (Task.say status message : Task ε π E Unit).Mirrors (console.status status message) console :=
  .of_note h fun crew world => console.status_apply status message crew world

/-- Only lines of information can be taken for remarks. -/
theorem tellsDirectory_of_ne_info {status : Status} (h : status ≠ .info) (message : String) :
    tellsDirectory (status, message) = false := by
  rw [tellsDirectory, beq_false_of_ne h, Bool.false_and]

theorem say_mirrors (status : Status) (h : status ≠ .info) (message : String) :
    (Task.say status message : Task ε π E Unit).Mirrors (console.status status message) console :=
  status_mirrors (tellsDirectory_of_ne_info h message)

theorem warn_mirrors (message : String) :
    (Task.warn message : Task ε π E Unit).Mirrors (console.warn message) console :=
  say_mirrors .warning nofun message

theorem finish_mirrors (what : String) :
    (Task.note (.finished what) : Task ε π E Unit).Mirrors (console.finish what) console :=
  .of_note trivial fun crew world => console.status_apply .finished _ crew world

/-- The remark about a directory, for which the shell is asked first. -/
theorem remark_mirrors (directory : Path) :
    (Task.note (.remarked s!"working directory {directory.text}") : Task ε π E Unit).Mirrors
      (console.remark directory) console := by
  have horderly :
      tellsDirectory (.info, s!"working directory {directory.text}") = true := by
    have hprefix : directoryRemark.toList <+: (s!"working directory {directory.text}").toList := by
      rw [String.toList_append]
      exact List.prefix_append _ _
    exact List.isPrefixOf_iff_prefix.2 hprefix
  refine .of_note horderly fun crew world => ?_
  unfold shown? remark
  cases console.shell.isVerbose
  · simp only [Bool.false_eq_true, if_false, Option.toList_none, List.append_nil]
    rfl
  · exact console.status_apply .info _ crew world

theorem statusAll_mirrors {α : Type} {status : Status} {message : α → String}
    (h : ∀ a, tellsDirectory (status, message a) = false) (items : List α) :
    (Task.sayAll status message items : Task ε π E Unit).Mirrors
      (console.statusAll status message items) console := by
  induction items with
  | nil => exact .pure ()
  | cons a rest ih => exact (status_mirrors (h a)).bind fun _ => ih

/-! ### Operations -/

theorem handle_mirrors (step : Step) (e : BuildError) :
    (step.handle e : Task ε π _ _).Mirrors (console.handle step e) console := by
  unfold Step.handle Console.handle
  cases step.policy with
  | abort => exact .ofExcept _
  | report => exact (Task.Mirrors.trace _).bind fun _ => (warn_mirrors _).bind fun _ => .pure _

theorem runStep_mirrors (step : Step) (directory : Path) :
    (step.run directory : Task ε π _ _).Mirrors (console.runStep step directory) console := by
  have hstatus : step.kind.status ≠ .info := by cases step.kind <;> nofun
  refine (say_mirrors _ hstatus _).bind fun _ =>
    (remark_mirrors directory).bind fun _ => (Task.Mirrors.execute _).bind fun answer => ?_
  cases step.fault answer with
  | some e => exact handle_mirrors step e
  | none => exact (finish_mirrors _).bind fun _ => .pure _

theorem runSteps_mirrors (directory : Path) (steps : List Step) (report : Report) :
    (BuildConductor.runSteps directory steps report : Task ε π _ _).Mirrors
      (console.runSteps directory steps report) console := by
  induction steps generalizing report with
  | nil => exact .pure report
  | cons step rest ih => exact (runStep_mirrors step directory).bind fun _ => ih _

theorem clean_mirrors (plan : Plan) :
    (plan.clean : Task ε π _ _).Mirrors (console.clean plan) console := by
  refine ((Task.Mirrors.onDisk _).mapError _).bind fun removed => ?_
  cases removed with
  | false => exact (Task.Mirrors.pure ()).bind fun _ => .pure _
  | true =>
    exact (say_mirrors .removed nofun _).bind fun _ => .pure _

theorem prepare_mirrors (plan : Plan) (clean : Bool) :
    (plan.prepare clean : Task ε π _ _).Mirrors (console.prepare plan clean) console := by
  have hready (cleaned : Bool) :
      ((Task.onDisk fun disk => disk.ensureDirectory plan.buildDir).mapError
        (BuildError.ofFile plan.buildDir) >>= fun _ => pure cleaned : Task ε π _ _).Mirrors
      ((Task.onDisk fun disk => disk.ensureDirectory plan.buildDir).mapError
        (BuildError.ofFile plan.buildDir) >>= fun _ => pure cleaned) console :=
    ((Task.Mirrors.onDisk _).mapError _).bind fun _ => .pure _
  cases clean with
  | false => exact (Task.Mirrors.pure false).bind hready
  | true => exact (clean_mirrors plan).bind hready

theorem run_mirrors (plan : Plan) (clean : Bool) :
    (plan.run clean : Task ε π _ _).Mirrors (console.run plan clean) console :=
  (prepare_mirrors plan clean).bind fun _ => runSteps_mirrors _ _ _

theorem runInstall_mirrors (plan : Plan) :
    (plan.runInstall : Task ε π _ _).Mirrors (console.runInstall plan) console := by
  refine (Task.Mirrors.inspect _).bind fun isDirectory => ?_
  cases isDirectory with
  | false => exact .ofExcept _
  | true =>
    refine (runStep_mirrors plan.install plan.buildDir).bind fun outcome => ?_
    cases outcome with
    | succeeded => exact .pure ()
    | failed e => exact .ofExcept _

theorem query_mirrors (sourceDir : Path) :
    (Submodule.query sourceDir : Task ε π _ _).Mirrors (Submodule.query sourceDir) console := by
  refine (Task.Mirrors.execute _).bind fun answer => ?_
  cases answer with
  | error failure => exact .ofExcept _
  | ok output =>
    simp only
    split
    · exact .ofExcept _
    · exact (Task.Mirrors.trace _).bind fun _ => .pure _

theorem init_mirrors (sourceDir : Path) :
    (Submodule.init sourceDir : Task ε π _ _).Mirrors (Submodule.init sourceDir) console := by
  refine (Task.Mirrors.execute _).bind fun answer => ?_
  cases answer with
  | error failure => exact .ofExcept _
  | ok output =>
    simp only
    split
    · exact .pure ()
    · exact .ofExcept _

/-- The line about a submodule begins with a blank. -/
theorem path_orderly (submodule : Submodule) :
    tellsDirectory (.info, "  - " ++ submodule.path) = false := by
  have hlist : ("  - " ++ submodule.path).toList = ' ' :: ' ' :: '-' :: ' ' :: submodule.path.toList := by
    simp
  rw [tellsDirectory, hlist]
  rfl

theorem announce_mirrors (missing : List Submodule) :
    (Submodule.announce missing : Task ε π _ _).Mirrors (console.announce missing) console :=
  (warn_mirrors _).bind fun _ => statusAll_mirrors path_orderly missing

theorem offer_mirrors (sourceDir : Path) (missing : List Submodule) :
    (Submodule.offer sourceDir missing : Task ε π _ _).Mirrors (console.offer sourceDir missing)
      console := by
  refine (announce_mirrors missing).bind fun _ =>
    ((Task.Mirrors.confirm _ _).mapError _).bind fun wanted => ?_
  cases wanted with
  | false => exact say_mirrors .skipped nofun _
  | true =>
    exact (say_mirrors .updating nofun _).bind fun _ =>
      (init_mirrors sourceDir).mapError _

theorem check_mirrors (sourceDir : Path) :
    (Submodule.check sourceDir : Task ε π _ _).Mirrors (console.check sourceDir) console := by
  refine (Task.Mirrors.inspect _).bind fun isThere => ?_
  cases isThere with
  | false => exact .trace _
  | true =>
    refine (query_mirrors sourceDir).attempt.bind fun found => ?_
    cases found with
    | error e => exact warn_mirrors _
    | ok found =>
      simp only
      cases Submodule.uninitialized found with
      | nil => exact .pure ()
      | cons submodule rest => exact offer_mirrors sourceDir (submodule :: rest)

theorem checkSubmodules_mirrors (request : BuildRequest) :
    (Document.checkSubmodules request : Task ε π _ _).Mirrors (console.checkSubmodules request)
      console := by
  unfold Document.checkSubmodules Console.checkSubmodules
  cases request.submoduleCheck with
  | false => exact .pure ()
  | true =>
    exact (Task.Mirrors.inspect _).bind fun _ => (Task.Mirrors.ofExcept _).bind fun _ =>
      check_mirrors _

theorem planFor_mirrors (doc : Document) (request : BuildRequest) (machine : Machine) :
    (doc.planFor request machine : Task ε π _ _).Mirrors (doc.planFor request machine) console :=
  ((Task.Mirrors.inspect _).bind fun _ => .ofExcept _).bind fun _ =>
    (Task.Mirrors.trace _).bind fun _ => .pure _

theorem conclude_mirrors (plan : Plan) (report : Report) :
    (Document.conclude plan report : Task ε π _ _).Mirrors (console.conclude plan report) console := by
  unfold Document.conclude Console.conclude
  cases report.allPassed with
  | false => exact warn_mirrors _
  | true => exact say_mirrors .finished nofun _

theorem warning_orderly (warning : Document.Warning) :
    tellsDirectory (.warning, warning.message) = false :=
  rfl

theorem build_mirrors (doc : Document) (request : BuildRequest) (machine : Machine) :
    (doc.build request machine : Task ε π _ _).Mirrors (console.build doc request machine)
      console :=
  (statusAll_mirrors warning_orderly doc.warnings).bind fun _ =>
    (planFor_mirrors doc request machine).bind fun plan => (Task.Mirrors.trace _).bind fun _ =>
    (checkSubmodules_mirrors request).bind fun _ =>
    ((run_mirrors plan request.clean).mapError _).bind fun report =>
    (conclude_mirrors plan report).bind fun _ => .pure report

theorem install_mirrors (doc : Document) (request : BuildRequest) (machine : Machine) :
    (doc.install request machine : Task ε π _ _).Mirrors (console.install doc request machine)
      console :=
  (planFor_mirrors doc request machine).bind fun plan =>
    ((runInstall_mirrors plan).mapError _).bind fun _ => say_mirrors .finished nofun _

theorem initSubmodules_mirrors (request : BuildRequest) :
    (request.initSubmodules : Task ε π _ _).Mirrors (console.initSubmodules request) console :=
  (Task.Mirrors.inspect _).bind fun _ => (Task.Mirrors.ofExcept _).bind fun sourceDir =>
    (say_mirrors .updating nofun _).bind fun _ =>
    ((init_mirrors sourceDir).mapError _).bind fun _ => say_mirrors .finished nofun _

end Console

/-! ### Two shells -/

namespace Shell

/-- Quiet output has the warnings and errors of normal output, whatever the time. -/
theorem message?_quiet (color other : Bool) (elapsed time : Duration) (event : Event) :
    message? ⟨.quiet, color⟩ elapsed event =
      (message? ⟨.normal, other⟩ time event).filter
        fun line => line.1 = .warning ∨ line.1 = .error := by
  cases event with
  | said status message => cases status <;> rfl
  | finished what => rfl
  | _ => rfl

/-- Normal output has the lines of verbose output that are no remarks. -/
theorem message?_normal {event : Event} (h : event.Orderly) (color other : Bool)
    (elapsed : Duration) :
    message? ⟨.normal, color⟩ elapsed event =
      (message? ⟨.verbose, other⟩ elapsed event).filter fun line => !tellsDirectory line := by
  cases event with
  | said status message =>
    have hline : tellsDirectory (status, message) = false := h
    simp [message?, isQuiet, Option.filter, hline]
  | remarked message =>
    have hline : tellsDirectory (.info, message) = true := h
    simp [message?, isQuiet, isVerbose, Option.filter, hline]
  | finished what => rfl
  | _ => rfl

end Shell

/-- The lines of a task that prints while it goes. -/
def Task.lines {E α : Type} (task : Task ε π E α) (crew : Crew ε π) (disk : Disk) (tools : ε)
    (user : π) : List (Status × String) :=
  (task crew ⟨disk, tools, user, []⟩).2.log.filterMap Event.line?

/-- What output flags do to a task that prints while it goes, which only keeps its log if it
is `plain`. -/
structure IgnoresFlags {E α : Type} (plain : Task ε π E α) (live : Console → Task ε π E α) :
    Prop where
  /-- It ends with one result, on one disk, after the same calls and questions, whatever the
  console. -/
  same : ∀ console crew disk tools user,
    let ended := live console crew ⟨disk, tools, user, []⟩
    let expected := plain crew ⟨disk, tools, user, []⟩
    ended.1 = expected.1 ∧ ended.2.disk = expected.2.disk ∧ ended.2.tools = expected.2.tools ∧
      ended.2.user = expected.2.user ∧ ended.2.calls = expected.2.calls ∧
      ended.2.questions = expected.2.questions
  /-- Its lines are those that its shell prints of the log afterwards. -/
  lines : ∀ console crew disk tools user, (live console).lines crew disk tools user =
    console.shell.messages console.elapsed (plain crew ⟨disk, tools, user, []⟩).2.log
  /-- Quiet lines are the warnings and errors of normal output, whatever the times. -/
  quiet : ∀ color other elapsed time crew disk tools user,
    (live ⟨⟨.quiet, color⟩, elapsed⟩).lines crew disk tools user =
      ((live ⟨⟨.normal, other⟩, time⟩).lines crew disk tools user).filter
        fun line => line.1 = .warning ∨ line.1 = .error
  /-- Normal lines are those of verbose output without the remarks about directories. -/
  normal : ∀ color other elapsed crew disk tools user,
    (live ⟨⟨.normal, color⟩, elapsed⟩).lines crew disk tools user =
      ((live ⟨⟨.verbose, other⟩, elapsed⟩).lines crew disk tools user).filter
        fun line => !tellsDirectory line
  /-- Coloured lines are the others, once the sequences around their status are removed. -/
  colored : ∀ verbosity elapsed crew disk tools user,
    ((live ⟨⟨verbosity, true⟩, elapsed⟩).lines crew disk tools user).map
        (fun line => unpainted (Shell.line ⟨verbosity, true⟩ line.1 line.2).toList) =
      ((live ⟨⟨verbosity, false⟩, elapsed⟩).lines crew disk tools user).map
        fun line => (Shell.line ⟨verbosity, false⟩ line.1 line.2).toList

namespace Task.Mirrors
variable {E α : Type}

section Console
variable {plain live : Task ε π E α} {console : Console} (h : plain.Mirrors live console)
  (crew : Crew ε π) (disk : Disk) (tools : ε) (user : π)
include h

/-- The events of a task that is mirrored are orderly. -/
theorem orderly : ∀ event ∈ (plain crew ⟨disk, tools, user, []⟩).2.log, event.Orderly := by
  obtain ⟨events, horderly, hlog, -⟩ := h crew ⟨disk, tools, user, []⟩ []
  rw [hlog]
  exact horderly

/-- A task that prints while it goes ends as the other, with what the console shows of its
events. -/
theorem live_eq :
    live crew ⟨disk, tools, user, []⟩ =
      ((plain crew ⟨disk, tools, user, []⟩).1, {(plain crew ⟨disk, tools, user, []⟩).2 with
        log := (plain crew ⟨disk, tools, user, []⟩).2.log.filterMap console.shown?}) := by
  obtain ⟨events, -, hlog, hlive⟩ := h crew ⟨disk, tools, user, []⟩ []
  rw [hlog]
  exact hlive

theorem lines_eq :
    live.lines crew disk tools user =
      console.shell.messages console.elapsed (plain crew ⟨disk, tools, user, []⟩).2.log := by
  rw [Task.lines, h.live_eq, Shell.messages, List.filterMap_filterMap]
  exact List.filterMap_congr fun event _ => console.shown?_line? event

end Console

/-- What mirrors a task for every console ignores its flags. -/
theorem ignoresFlags {plain : Task ε π E α} {live : Console → Task ε π E α}
    (h : ∀ console, plain.Mirrors (live console) console) : IgnoresFlags plain live := by
  -- Calls and questions are seen through whatever the console shows.
  have hseen {β : Type} (f : Event → Option β) (hf : ∀ console event,
      (Console.shown? console event).bind f = f event) (console : Console) (log : List Event) :
      (log.filterMap console.shown?).filterMap f = log.filterMap f := by
    rw [List.filterMap_filterMap]
    exact List.filterMap_congr fun event _ => hf console event
  constructor
  case same =>
    intro console crew disk tools user ended expected
    have hended : ended = (expected.1,
        {expected.2 with log := expected.2.log.filterMap console.shown?}) :=
      (h console).live_eq crew disk tools user
    rw [hended]
    exact ⟨rfl, rfl, rfl, rfl,
      hseen _ (Console.shown?_bind (fun _ _ => rfl) (fun _ => rfl) fun _ => rfl) console _,
      hseen _ (Console.shown?_bind (fun _ _ => rfl) (fun _ => rfl) fun _ => rfl) console _⟩
  case lines => exact fun console => (h console).lines_eq
  case quiet =>
    intro color other elapsed time crew disk tools user
    rw [(h _).lines_eq, (h _).lines_eq, Shell.messages, Shell.messages, List.filter_filterMap]
    exact List.filterMap_congr fun event _ => Shell.message?_quiet color other elapsed time event
  case normal =>
    intro color other elapsed crew disk tools user
    rw [(h _).lines_eq, (h _).lines_eq, Shell.messages, Shell.messages, List.filter_filterMap]
    have horderly := (h ⟨⟨.normal, color⟩, elapsed⟩).orderly crew disk tools user
    exact List.filterMap_congr fun event hevent =>
      Shell.message?_normal (horderly event hevent) color other elapsed
  case colored =>
    intro verbosity elapsed crew disk tools user
    have hsame : (live ⟨⟨verbosity, true⟩, elapsed⟩).lines crew disk tools user =
        (live ⟨⟨verbosity, false⟩, elapsed⟩).lines crew disk tools user := by
      rw [(h _).lines_eq, (h _).lines_eq]
      rfl
    rw [hsame]
    exact List.map_congr_left fun line _ => Shell.unpainted_line verbosity line.1 line.2

end Task.Mirrors

/-- Building, installing and fetching submodules ignore output flags: whatever the document,
the request, the disk and those around, a shell that is asked each time a line is due makes
no difference but to the lines. -/
theorem Console.ignores_flags (doc : Document) (request : BuildRequest) (machine : Machine) :
    IgnoresFlags (doc.build request machine : Task ε π Failure Report)
        (fun console => console.build doc request machine) ∧
      IgnoresFlags (doc.install request machine : Task ε π Failure Unit)
        (fun console => console.install doc request machine) ∧
      IgnoresFlags (request.initSubmodules : Task ε π Failure Unit)
        (fun console => console.initSubmodules request) :=
  ⟨Task.Mirrors.ignoresFlags fun _ => build_mirrors doc request machine,
    Task.Mirrors.ignoresFlags fun _ => install_mirrors doc request machine,
    Task.Mirrors.ignoresFlags fun _ => initSubmodules_mirrors request⟩

end BuildConductor
