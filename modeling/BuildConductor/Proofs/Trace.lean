import BuildConductor.Task

/-! What a run does to those around it.

The log of a world tells which commands were run and which questions were asked.
`Passage` says how one world comes out of another: the executor gave its answers
to the calls one after the other, and nothing but its calls changed the disk. The
tasks that only say something are passages without calls and questions, and
passages follow one another. -/
namespace BuildConductor

theorem except_mapError_eq_ok {E F α : Type} {f : E → F} {result : Except E α} {a : α} :
    result.mapError f = .ok a ↔ result = .ok a := by
  cases result with
  | error e => constructor <;> intro h <;> cases h
  | ok b => constructor <;> intro h <;> cases h <;> rfl

theorem except_mapError_eq_error {E F α : Type} {f : E → F} {result : Except E α} {e : F} :
    result.mapError f = .error e ↔ ∃ cause, result = .error cause ∧ f cause = e := by
  cases result with
  | error cause =>
    constructor
    · intro h
      exact ⟨cause, rfl, Except.error.inj h⟩
    · rintro ⟨_, hcause, rfl⟩
      cases hcause
      rfl
  | ok a =>
    constructor
    · intro h
      cases h
    · rintro ⟨_, hcause, -⟩
      cases hcause

theorem except_bind_eq_ok {E α β : Type} {result : Except E α} {next : α → Except E β} {b : β} :
    result >>= next = .ok b ↔ ∃ a, result = .ok a ∧ next a = .ok b := by
  cases result with
  | error cause => simp [bind, Except.bind]
  | ok a => simp [bind, Except.bind]

theorem except_bind_eq_error {E α β : Type} {result : Except E α} {next : α → Except E β}
    {e : E} :
    result >>= next = .error e ↔
      result = .error e ∨ ∃ a, result = .ok a ∧ next a = .error e := by
  cases result with
  | error cause => simp [bind, Except.bind]
  | ok a => simp [bind, Except.bind]

theorem except_eq_ok_of_toOption {E α : Type} {result : Except E α} {a : α}
    (h : result.toOption = some a) : result = .ok a := by
  cases result with
  | error e => cases h
  | ok b => cases h; rfl

/-- The answer to a call: what the command left behind, or why it did not run. -/
abbrev Answer := Except LaunchFailure Output

/-- Whether a command ran and exited with code zero. -/
def ExitsZero : Answer → Prop
  | .ok output => output.status.code = some 0
  | .error _ => False

instance : (answer : Answer) → Decidable (ExitsZero answer)
  | .ok output => inferInstanceAs (Decidable (output.status.code = some 0))
  | .error _ => inferInstanceAs (Decidable False)

/-- The call that an event tells of. -/
def Event.call? : Event → Option (Call × Answer)
  | .ran call answer => some (call, answer)
  | _ => none

/-- The question that an event tells of. -/
def Event.question? : Event → Option String
  | .asked question _ => some question
  | _ => none

variable {ε π : Type}

namespace World

/-- All calls so far with their answers, oldest first. -/
def calls (world : World ε π) : List (Call × Answer) :=
  world.log.filterMap Event.call?

/-- All questions so far, oldest first. -/
def questions (world : World ε π) : List String :=
  world.log.filterMap Event.question?

/-- What an executor works on. -/
def scene (world : World ε π) : Disk × ε :=
  (world.disk, world.tools)

end World

namespace Executor

/-- The answer to a call, and what the executor leaves. -/
def answer (executor : Executor ε) (call : Call) (scene : Disk × ε) : Answer × (Disk × ε) :=
  executor.run call scene.1 scene.2

/-- Calls with the answers that an executor gives them one after the other, from
one scene to another. -/
inductive Answers (executor : Executor ε) : Disk × ε → List (Call × Answer) → Disk × ε → Prop
  | nil (scene : Disk × ε) : Answers executor scene [] scene
  | cons {scene last : Disk × ε} {rest : List (Call × Answer)} (call : Call)
    (hrest : Answers executor (executor.answer call scene).2 rest last) :
    Answers executor scene ((call, (executor.answer call scene).1) :: rest) last

theorem Answers.append {executor : Executor ε} {first middle last : Disk × ε}
    {calls more : List (Call × Answer)} (h : executor.Answers first calls middle)
    (hmore : executor.Answers middle more last) : executor.Answers first (calls ++ more) last := by
  induction h with
  | nil => exact hmore
  | cons call _ ih => exact .cons call (ih hmore)

theorem answers_single (executor : Executor ε) (call : Call) (scene : Disk × ε) :
    executor.Answers scene [(call, (executor.answer call scene).1)]
      (executor.answer call scene).2 :=
  .cons call (.nil _)

/-- The first of some calls is answered where they begin, the others after it. -/
theorem Answers.of_cons {executor : Executor ε} {call : Call} {answer : Answer}
    {rest : List (Call × Answer)} {scene last : Disk × ε}
    (h : executor.Answers scene ((call, answer) :: rest) last) :
    answer = (executor.answer call scene).1 ∧
      executor.Answers (executor.answer call scene).2 rest last := by
  cases h with
  | cons call hrest => exact ⟨rfl, hrest⟩

/-- Without a call the scene stays as it is. -/
theorem Answers.of_nil {executor : Executor ε} {scene last : Disk × ε}
    (h : executor.Answers scene [] last) : last = scene := by
  cases h
  rfl

end Executor

/-- How one world comes out of another: by these calls and these questions. Whoever
is not asked stays as he was. -/
structure Passage (crew : Crew ε π) (before : World ε π) (calls : List (Call × Answer))
    (questions : List String) (after : World ε π) : Prop where
  answers : crew.executor.Answers before.scene calls after.scene
  user : questions = [] → after.user = before.user
  calls : after.calls = before.calls ++ calls
  questions : after.questions = before.questions ++ questions

namespace Passage
variable {crew : Crew ε π} {before middle after : World ε π}

theorem refl (crew : Crew ε π) (world : World ε π) : Passage crew world [] [] world :=
  ⟨.nil _, fun _ => rfl, (List.append_nil _).symm, (List.append_nil _).symm⟩

theorem trans {calls more : List (Call × Answer)} {questions others : List String}
    (h : Passage crew before calls questions middle)
    (hmore : Passage crew middle more others after) :
    Passage crew before (calls ++ more) (questions ++ others) after := by
  refine ⟨h.answers.append hmore.answers, fun hnone => ?_, ?_, ?_⟩
  · obtain ⟨hquestions, hothers⟩ := List.append_eq_nil_iff.1 hnone
    rw [hmore.user hothers, h.user hquestions]
  · rw [hmore.calls, h.calls, List.append_assoc]
  · rw [hmore.questions, h.questions, List.append_assoc]

/-- What calls and asks nobody adds nothing. -/
theorem trans_quiet {calls : List (Call × Answer)} {questions : List String}
    (h : Passage crew before calls questions middle) (hmore : Passage crew middle [] [] after) :
    Passage crew before calls questions after := by
  have hboth := h.trans hmore
  rwa [List.append_nil, List.append_nil] at hboth

/-- Without a call the executor's scene stays as it is. -/
theorem scene_eq {questions : List String} (h : Passage crew before [] questions after) :
    after.scene = before.scene :=
  h.answers.of_nil

end Passage

/-- How a world comes out of another where nobody was called and nobody asked, and
only the disk was worked on. -/
structure Rearrangement (before : World ε π) (disk : Disk) (after : World ε π) : Prop where
  disk : after.disk = disk
  tools : after.tools = before.tools
  user : after.user = before.user
  calls : after.calls = before.calls
  questions : after.questions = before.questions

theorem Rearrangement.trans {before middle after : World ε π} {disk final : Disk}
    (h : Rearrangement before disk middle) (hmore : Rearrangement middle final after) :
    Rearrangement before final after :=
  ⟨hmore.disk, hmore.tools.trans h.tools, hmore.user.trans h.user, hmore.calls.trans h.calls,
    hmore.questions.trans h.questions⟩

/-- Without calls and questions nothing is changed but the log. -/
theorem Passage.exists_log {crew : Crew ε π} {before after : World ε π}
    (h : Passage crew before [] [] after) : ∃ log, after = {before with log := log} := by
  have hscene : (after.disk, after.tools) = (before.disk, before.tools) := h.scene_eq
  have huser := h.user rfl
  obtain ⟨disk, tools, user, log⟩ := after
  cases hscene
  cases huser
  exact ⟨log, rfl⟩

theorem Passage.rearrangement {crew : Crew ε π} {before after : World ε π}
    (h : Passage crew before [] [] after) : Rearrangement before before.disk after := by
  have hscene : (after.disk, after.tools) = (before.disk, before.tools) := h.scene_eq
  obtain ⟨hdisk, htools⟩ := Prod.mk.inj hscene
  refine ⟨hdisk, htools, h.user rfl, ?_, ?_⟩
  · rw [h.calls, List.append_nil]
  · rw [h.questions, List.append_nil]

/-- Whether a task, begun in a world, ends with a result and leaves a world that
comes out of the first by these calls and questions. -/
def Task.Ends {E α : Type} (task : Task ε π E α) (crew : Crew ε π) (world : World ε π)
    (result : Except E α) (calls : List (Call × Answer)) (questions : List String) : Prop :=
  ∃ left, task crew world = (result, left) ∧ Passage crew world calls questions left

/-- Whether a task, begun in a world, ends with a result and has only made the disk
what it is then. -/
def Task.Leaves {E α : Type} (task : Task ε π E α) (crew : Crew ε π) (world : World ε π)
    (result : Except E α) (disk : Disk) : Prop :=
  ∃ left, task crew world = (result, left) ∧ Rearrangement world disk left

namespace Task
variable {E F α β : Type} {crew : Crew ε π} {world : World ε π}

/-- Two tasks have a result where the first has one, and the second has one after it. -/
theorem bind_eq_ok {task : Task ε π E α} {next : α → Task ε π E β} {b : β}
    {left : World ε π} :
    (task >>= next) crew world = (.ok b, left) ↔
      ∃ a middle, task crew world = (.ok a, middle) ∧ next a crew middle = (.ok b, left) := by
  show Task.andThen task next crew world = _ ↔ _
  unfold Task.andThen
  rcases task crew world with ⟨result, middle⟩
  cases result with
  | error e => simp
  | ok a => simp [and_assoc]

theorem pure_bind (a : α) (next : α → Task ε π E β) : (pure a >>= next) = next a :=
  rfl

theorem mapError_pure (f : E → F) (a : α) :
    (pure a : Task ε π E α).mapError f = pure a :=
  rfl

/-- What comes after two tasks comes after the second. -/
theorem bind_assoc {γ : Type} (task : Task ε π E α) (next : α → Task ε π E β)
    (last : β → Task ε π E γ) : (task >>= next) >>= last = task >>= fun a => next a >>= last := by
  funext crew world
  show andThen (andThen task next) last crew world = andThen task _ crew world
  unfold andThen
  rcases task crew world with ⟨result, left⟩
  cases result <;> rfl

/-- Errors are renamed in each of two tasks as in both. -/
theorem mapError_bind (task : Task ε π E α) (next : α → Task ε π E β) (f : E → F) :
    (task >>= next).mapError f = task.mapError f >>= fun a => (next a).mapError f := by
  funext crew world
  show mapError f (andThen task next) crew world = andThen (mapError f task) _ crew world
  unfold mapError andThen
  dsimp only
  rcases task crew world with ⟨result, left⟩
  cases result <;> rfl

theorem ends_pure (a : α) (crew : Crew ε π) (world : World ε π) :
    (pure a : Task ε π E α).Ends crew world (.ok a) [] [] :=
  ⟨world, rfl, Passage.refl crew world⟩

theorem ends_ofExcept (result : Except E α) (crew : Crew ε π) (world : World ε π) :
    (ofExcept result).Ends crew world result [] [] :=
  ⟨world, rfl, Passage.refl crew world⟩

theorem ends_inspect (f : Disk → α) (crew : Crew ε π) (world : World ε π) :
    (inspect f : Task ε π E α).Ends crew world (.ok (f world.disk)) [] [] :=
  ⟨world, rfl, Passage.refl crew world⟩

/-- An event that is neither a call nor a question changes nothing else. -/
theorem ends_note {event : Event} (hcall : event.call? = none) (hquestion : event.question? = none)
    (crew : Crew ε π) (world : World ε π) :
    (note event : Task ε π E Unit).Ends crew world (.ok ()) [] [] := by
  refine ⟨_, rfl, .nil _, fun _ => rfl, ?_, ?_⟩
  · simp [World.calls, hcall]
  · simp [World.questions, hquestion]

theorem ends_say (status : Status) (message : String) (crew : Crew ε π) (world : World ε π) :
    (say status message : Task ε π E Unit).Ends crew world (.ok ()) [] [] :=
  ends_note rfl rfl crew world

theorem ends_trace (message : String) (crew : Crew ε π) (world : World ε π) :
    (trace message : Task ε π E Unit).Ends crew world (.ok ()) [] [] :=
  ends_note rfl rfl crew world

/-- Running a command is one call. -/
theorem ends_execute (call : Call) (crew : Crew ε π) (world : World ε π) :
    (execute call : Task ε π E _).Ends crew world (.ok (crew.executor.answer call world.scene).1)
      [(call, (crew.executor.answer call world.scene).1)] [] := by
  refine ⟨_, rfl, crew.executor.answers_single call world.scene, fun _ => rfl, ?_, ?_⟩
  · simp [World.calls, Event.call?, Executor.answer, World.scene]
  · simp [World.questions, Event.question?]

/-- Asking is one question. -/
theorem ends_ask (question : String) (crew : Crew ε π) (world : World ε π) :
    (ask question).Ends crew world (crew.prompter.ask question world.user).1.answer
      [] [question] := by
  refine ⟨_, rfl, .nil _, fun hnone => ?_, ?_, ?_⟩
  · cases hnone
  · simp [World.calls, Event.call?]
  · simp [World.questions, Event.question?]

/-- One task after another: the calls and questions of both, in order. -/
theorem Ends.bind {task : Task ε π E α} {next : α → Task ε π E β} {a : α} {result : Except E β}
    {calls more : List (Call × Answer)} {questions others : List String}
    (h : task.Ends crew world (.ok a) calls questions)
    (hnext : ∀ left, Passage crew world calls questions left →
      (next a).Ends crew left result more others) :
    (task >>= next).Ends crew world result (calls ++ more) (questions ++ others) := by
  obtain ⟨left, htask, hpassage⟩ := h
  obtain ⟨last, hlast, hmore⟩ := hnext left hpassage
  exact ⟨last, (andThen_ok htask).trans hlast, hpassage.trans hmore⟩

/-- After a task that calls and asks nobody, the calls and questions are those of the
next. -/
theorem Ends.andThen {task : Task ε π E α} {next : α → Task ε π E β} {a : α} {result : Except E β}
    {calls : List (Call × Answer)} {questions : List String}
    (h : task.Ends crew world (.ok a) [] [])
    (hnext : ∀ left, Passage crew world [] [] left →
      (next a).Ends crew left result calls questions) :
    (task >>= next).Ends crew world result calls questions :=
  h.bind hnext

/-- What fails ends everything. -/
theorem Ends.bind_error {task : Task ε π E α} {e : E} {calls : List (Call × Answer)}
    {questions : List String} (h : task.Ends crew world (.error e) calls questions)
    (next : α → Task ε π E β) : (task >>= next).Ends crew world (.error e) calls questions := by
  obtain ⟨left, htask, hpassage⟩ := h
  exact ⟨left, andThen_error htask, hpassage⟩

theorem Ends.result_eq {task : Task ε π E α} {result : Except E α} {calls : List (Call × Answer)}
    {questions : List String} (h : task.Ends crew world result calls questions) :
    (task crew world).1 = result := by
  obtain ⟨left, htask, -⟩ := h
  rw [htask]

theorem Ends.mapError {task : Task ε π E α} {result : Except E α} {calls : List (Call × Answer)}
    {questions : List String} (h : task.Ends crew world result calls questions) (f : E → F) :
    (task.mapError f).Ends crew world (result.mapError f) calls questions := by
  obtain ⟨left, htask, hpassage⟩ := h
  exact ⟨left, by rw [Task.mapError, htask], hpassage⟩

theorem Ends.attempt {task : Task ε π E α} {result : Except E α} {calls : List (Call × Answer)}
    {questions : List String} (h : task.Ends crew world result calls questions) :
    (task.attempt : Task ε π F _).Ends crew world (.ok result) calls questions := by
  obtain ⟨left, htask, hpassage⟩ := h
  exact ⟨left, by rw [Task.attempt, htask], hpassage⟩

/-- Saying something about every item changes nothing else. -/
theorem ends_sayAll (status : Status) (message : α → String) (items : List α) (crew : Crew ε π)
    (world : World ε π) :
    (sayAll status message items : Task ε π E Unit).Ends crew world (.ok ()) [] [] := by
  induction items generalizing world with
  | nil => exact ends_pure () crew world
  | cons a rest ih => exact (ends_say status (message a) crew world).bind fun left _ => ih left

theorem Ends.leaves {task : Task ε π E α} {result : Except E α}
    (h : task.Ends crew world result [] []) : task.Leaves crew world result world.disk := by
  obtain ⟨left, htask, hpassage⟩ := h
  exact ⟨left, htask, hpassage.rearrangement⟩

theorem leaves_onDisk (f : Disk → Except E α × Disk) (crew : Crew ε π) (world : World ε π) :
    (onDisk f).Leaves crew world (f world.disk).1 (f world.disk).2 :=
  ⟨_, rfl, rfl, rfl, rfl, rfl, rfl⟩

theorem Leaves.mapError {task : Task ε π E α} {result : Except E α} {disk : Disk}
    (h : task.Leaves crew world result disk) (f : E → F) :
    (task.mapError f).Leaves crew world (result.mapError f) disk := by
  obtain ⟨left, htask, hleft⟩ := h
  exact ⟨left, by rw [Task.mapError, htask], hleft⟩

/-- What comes after a task goes on from the world that the task has left. -/
theorem leaves_bind {task : Task ε π E α} {next : α → Task ε π E β} {a : α} {result : Except E β}
    {left : World ε π} {disk final : Disk} (htask : task crew world = (.ok a, left))
    (hleft : Rearrangement world disk left) (hnext : (next a).Leaves crew left result final) :
    (task >>= next).Leaves crew world result final := by
  obtain ⟨last, hlast, hmore⟩ := hnext
  exact ⟨last, (andThen_ok htask).trans hlast, hleft.trans hmore⟩

theorem Leaves.bind {task : Task ε π E α} {next : α → Task ε π E β} {a : α} {result : Except E β}
    {disk final : Disk} (h : task.Leaves crew world (.ok a) disk)
    (hnext : ∀ left, Rearrangement world disk left → (next a).Leaves crew left result final) :
    (task >>= next).Leaves crew world result final := by
  obtain ⟨left, htask, hleft⟩ := h
  exact leaves_bind htask hleft (hnext left hleft)

theorem Leaves.bind_error {task : Task ε π E α} {e : E} {disk : Disk}
    (h : task.Leaves crew world (.error e) disk) (next : α → Task ε π E β) :
    (task >>= next).Leaves crew world (.error e) disk := by
  obtain ⟨left, htask, hleft⟩ := h
  exact ⟨left, andThen_error htask, hleft⟩

end Task

end BuildConductor
