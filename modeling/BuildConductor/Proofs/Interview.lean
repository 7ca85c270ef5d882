import BuildConductor.Interview
import BuildConductor.Proofs.Prompt
import BuildConductor.Proofs.Trace
import BuildConductor.Rehearsal.Basic

/-! Whoever asks cannot tell a terminal from a script.

`Task.Alike` relates a task at a terminal to the same task with a script: begun in worlds
that are in step, they end with the same result, in step. It holds of every question and
passes from the parts of a task to the whole, so it holds of any conversation, however the
next question depends on earlier answers, and of the interview. `Terminal.like_script` puts
both together for answers that are typed line by line. -/
namespace BuildConductor

variable {ε : Type}

/-! ### Tasks with either prompter -/

/-- Whether two worlds agree in all but who is asked, and a terminal is in step with a
script. -/
structure Abreast (typing : World ε Terminal) (scripted : World ε Script) : Prop where
  disk : typing.disk = scripted.disk
  tools : typing.tools = scripted.tools
  questions : typing.questions = scripted.questions
  inStep : InStep typing.user scripted.user

/-- Whether a task at a terminal and one with a script do the same. -/
def Task.Alike {E α : Type} (typing : Task ε Terminal E α) (scripted : Task ε Script E α) : Prop :=
  ∀ (executor : Executor ε) (w : World ε Terminal) (v : World ε Script), Abreast w v →
    (typing ⟨executor, terminalPrompter⟩ w).1 = (scripted ⟨executor, scriptPrompter⟩ v).1 ∧
      Abreast (typing ⟨executor, terminalPrompter⟩ w).2 (scripted ⟨executor, scriptPrompter⟩ v).2

namespace Task.Alike
variable {E F α β : Type}

theorem ofExcept (result : Except E α) :
    (Task.ofExcept result : Task ε Terminal E α).Alike (Task.ofExcept result) :=
  fun _ _ _ h => ⟨rfl, h⟩

theorem pure (a : α) :
    (Pure.pure a : Task ε Terminal E α).Alike (Pure.pure a) :=
  ofExcept (.ok a)

theorem bind {typing : Task ε Terminal E α} {scripted : Task ε Script E α}
    {next : α → Task ε Terminal E β} {scriptedNext : α → Task ε Script E β}
    (h : typing.Alike scripted) (hnext : ∀ a, (next a).Alike (scriptedNext a)) :
    (typing >>= next).Alike (scripted >>= scriptedNext) := by
  intro executor w v habreast
  obtain ⟨hresult, hleft⟩ := h executor w v habreast
  show (Task.andThen typing next _ w).1 = (Task.andThen scripted scriptedNext _ v).1 ∧
    Abreast (Task.andThen typing next _ w).2 (Task.andThen scripted scriptedNext _ v).2
  unfold Task.andThen
  generalize typing ⟨executor, terminalPrompter⟩ w = typed at hresult hleft
  generalize scripted ⟨executor, scriptPrompter⟩ v = said at hresult hleft
  obtain ⟨result, left⟩ := typed
  obtain ⟨other, right⟩ := said
  cases hresult
  cases result with
  | error e => exact ⟨rfl, hleft⟩
  | ok a => exact hnext a executor left right hleft

theorem mapError {typing : Task ε Terminal E α} {scripted : Task ε Script E α}
    (h : typing.Alike scripted) (f : E → F) : (typing.mapError f).Alike (scripted.mapError f) := by
  intro executor w v habreast
  obtain ⟨hresult, hleft⟩ := h executor w v habreast
  exact ⟨congrArg (Except.mapError f) hresult, hleft⟩

theorem attempt {typing : Task ε Terminal E α} {scripted : Task ε Script E α}
    (h : typing.Alike scripted) :
    (typing.attempt : Task ε Terminal F (Except E α)).Alike scripted.attempt := by
  intro executor w v habreast
  obtain ⟨hresult, hleft⟩ := h executor w v habreast
  exact ⟨congrArg Except.ok hresult, hleft⟩

theorem note {event : Event} :
    (Task.note event : Task ε Terminal E Unit).Alike (Task.note event) := by
  intro executor w v h
  refine ⟨rfl, h.disk, h.tools, ?_, h.inStep⟩
  have hquestions := h.questions
  simp only [World.questions, Task.note, List.filterMap_append] at hquestions ⊢
  rw [hquestions]

theorem onDisk (f : Disk → Except E α × Disk) :
    (Task.onDisk f : Task ε Terminal E α).Alike (Task.onDisk f) := by
  intro executor w v h
  have hdisk : f w.disk = f v.disk := congrArg f h.disk
  exact ⟨congrArg Prod.fst hdisk, congrArg Prod.snd hdisk, h.tools, h.questions, h.inStep⟩

theorem ask (question : String) :
    (Task.ask question : Task ε Terminal PromptError String).Alike (Task.ask question) := by
  intro executor w v h
  obtain ⟨hanswer, hleft⟩ := h.inStep.ask question
  refine ⟨hanswer, h.disk, h.tools, ?_, hleft⟩
  have hquestions := h.questions
  simp only [World.questions, Task.ask, List.filterMap_append] at hquestions ⊢
  rw [hquestions]
  rfl

theorem confirm (question : String) (default : Bool) :
    (Task.confirm question default : Task ε Terminal PromptError Bool).Alike
      (Task.confirm question default) :=
  (ask _).bind fun _ => pure _

end Task.Alike

/-! ### Conversations -/

/-- A question that is put to a prompter. -/
inductive Query where
  | ask (question : String)
  | confirm (question : String) (default : Bool)

/-- What came of questions: an answer, or yes or no. -/
abbrev Results := List (Except PromptError (String ⊕ Bool))

namespace Query
variable {π : Type}

/-- The question as it is shown. -/
def text : Query → String
  | .ask question => question
  | .confirm question default => confirmQuestion question default

def pose : Query → Task ε π PromptError (String ⊕ Bool)
  | .ask question => do
    let answer ← Task.ask question
    pure (.inl answer)
  | .confirm question default => do
    let answer ← Task.confirm question default
    pure (.inr answer)

/-- A query asks its text, whoever is asked. -/
theorem pose_user (query : Query) (crew : Crew ε π) (world : World ε π) :
    (query.pose crew world).2.user = (crew.prompter.ask query.text world.user).2 := by
  have hbind {E α β : Type} (task : Task ε π E α) (f : α → β) :
      ((task >>= fun a => pure (f a)) crew world).2 = (task crew world).2 := by
    show (Task.andThen task (fun a => pure (f a)) crew world).2 = _
    unfold Task.andThen
    split <;> rename_i htask <;> rw [htask]
    rfl
  cases query with
  | ask question => exact congrArg World.user (hbind (Task.ask question) _)
  | confirm question default =>
    refine (congrArg World.user (hbind (Task.confirm question default) _)).trans ?_
    exact congrArg World.user (hbind (Task.ask (confirmQuestion question default)) _)

theorem pose_alike (query : Query) :
    (query.pose : Task ε Terminal _ _).Alike query.pose := by
  cases query with
  | ask question => exact (Task.Alike.ask question).bind fun _ => .pure _
  | confirm question default =>
    exact (Task.Alike.confirm question default).bind fun _ => .pure _

end Query

/-- Puts some questions, each of which may depend on what came of those before it. -/
def converse {π : Type} (next : Results → Query) : Nat → Task ε π Empty Results
  | 0 => pure []
  | count + 1 => do
    let results ← converse next count
    let result ← (next results).pose.attempt
    pure (results ++ [result])

/-- The questions of a conversation, as they are shown. -/
def asked (next : Results → Query) (results : Results) : List String :=
  (List.range results.length).map fun i => (next (results.take i)).text

theorem asked_append (next : Results → Query) (results : Results)
    (result : Except PromptError (String ⊕ Bool)) :
    asked next (results ++ [result]) = asked next results ++ [(next results).text] := by
  unfold asked
  rw [List.length_append, List.length_singleton, List.range_succ, List.map_append]
  congr 1
  · refine List.map_congr_left fun i hi => ?_
    rw [List.take_append_of_le_length (Nat.le_of_lt (List.mem_range.1 hi))]
  · simp

/-- A conversation has a result for each of its questions, and they are all that the
prompter is asked. -/
theorem converse_left {π : Type} (next : Results → Query) (count : Nat) (crew : Crew ε π)
    (world : World ε π) :
    ∃ results left, converse next count crew world = (.ok results, left) ∧
      results.length = count ∧
      left.user = crew.prompter.afterAll world.user (asked next results) := by
  induction count with
  | zero => exact ⟨[], world, rfl, rfl, rfl⟩
  | succ count ih =>
    obtain ⟨results, left, hresults, hlength, huser⟩ := ih
    refine ⟨results ++ [((next results).pose crew left).1], ((next results).pose crew left).2,
      Task.andThen_ok hresults, ?_, ?_⟩
    · rw [List.length_append, List.length_singleton, hlength]
    · rw [Query.pose_user, huser, asked_append]
      simp [Prompter.afterAll]

theorem converse_alike (next : Results → Query) (count : Nat) :
    (converse next count : Task ε Terminal _ _).Alike (converse next count) := by
  induction count with
  | zero => exact .pure []
  | succ count ih =>
    exact ih.bind fun results => (next results).pose_alike.attempt.bind fun _ => .pure _

/-! ### The interview -/

namespace Interview

theorem askBuildType_alike : (askBuildType : Task ε Terminal _ _).Alike askBuildType :=
  (Task.Alike.ask _).bind fun _ => .pure _

theorem askModule_alike (name : String) :
    (askModule name : Task ε Terminal _ _).Alike (askModule name) := by
  refine (Task.Alike.confirm _ true).bind fun enabled => ?_
  cases enabled with
  | false => exact .pure _
  | true =>
    exact (Task.Alike.confirm _ false).bind fun _ => (Task.Alike.confirm _ true).bind fun _ =>
      .pure _

theorem askDependency_alike (name : String) :
    (askDependency name : Task ε Terminal _ _).Alike (askDependency name) := by
  refine (Task.Alike.confirm _ true).bind fun enabled => ?_
  cases enabled with
  | false => exact .pure _
  | true =>
    exact (Task.Alike.confirm _ true).bind fun _ => (Task.Alike.confirm _ true).bind fun _ =>
      .pure _

theorem askAll_alike {α : Type} {typing : String → Task ε Terminal PromptError α}
    {scripted : String → Task ε Script PromptError α}
    (h : ∀ name, (typing name).Alike (scripted name)) (names : List String) :
    (askAll typing names).Alike (askAll scripted names) := by
  induction names with
  | nil => exact .pure []
  | cons name rest ih => exact (h name).bind fun _ => ih.bind fun _ => .pure _

theorem askDocument_alike : (askDocument : Task ε Terminal _ _).Alike askDocument :=
  askBuildType_alike.bind fun _ => (askAll_alike askModule_alike _).bind fun _ =>
    (askAll_alike askDependency_alike _).bind fun _ => .pure _

theorem askFileName_alike : (askFileName : Task ε Terminal _ _).Alike askFileName :=
  (Task.Alike.ask _).bind fun _ => .pure _

/-- The whole interview, which saves a document in the end. -/
theorem run_alike (dir : Path) : (run dir : Task ε Terminal _ _).Alike (run dir) :=
  (askDocument_alike.mapError _).bind fun _ => (askFileName_alike.mapError _).bind fun _ =>
    ((Task.Alike.onDisk _).mapError _).bind fun _ => Task.Alike.note.bind fun _ => .pure _

end Interview

/-! ### Typed answers -/

namespace Terminal

/-- Answers without newlines, typed line by line, also without the last newline, are worth
as much as a script of them. Every conversation has the same results with both; in it the
terminal takes one line for each question, while there are any, and shows all questions in
order. So the interview makes the same document with both, and saves it under the same
name. -/
theorem like_script {answers : List String} (hplain : ∀ answer ∈ answers, '\n' ∉ answer.toList)
    {input : List UInt8} (hinput : input = typed answers ∨ input = (typed answers).dropLast)
    (executor : Executor ε) (disk : Disk) (tools : ε) (log : List Event) :
    let typing : World ε Terminal := ⟨disk, tools, ⟨input, ""⟩, log⟩
    let scripted : World ε Script := ⟨disk, tools, ⟨answers, []⟩, log⟩
    let typist : Crew ε Terminal := ⟨executor, terminalPrompter⟩
    let reader : Crew ε Script := ⟨executor, scriptPrompter⟩
    (∀ next count, ∃ results left right,
        converse next count typist typing = (.ok results, left) ∧
        converse next count reader scripted = (.ok results, right) ∧
        results.length = count ∧
        left.user = ⟨((linesOf input).drop count).flatten,
          transcriptOf (linesOf input).length (asked next results)⟩ ∧
        right.user = ⟨answers.drop count, asked next results⟩) ∧
      (Interview.askDocument typist typing).1 = (Interview.askDocument reader scripted).1 ∧
      (Interview.askFileName typist typing).1 = (Interview.askFileName reader scripted).1 ∧
      ∀ dir, (Interview.run dir typist typing).1 = (Interview.run dir reader scripted).1 ∧
        (Interview.run dir typist typing).2.disk = (Interview.run dir reader scripted).2.disk := by
  intro typing scripted typist reader
  have habreast : Abreast typing scripted := ⟨rfl, rfl, rfl, hplain, hinput⟩
  refine ⟨fun next count => ?_, (Interview.askDocument_alike executor _ _ habreast).1,
    (Interview.askFileName_alike executor _ _ habreast).1, fun dir => ?_⟩
  · obtain ⟨results, left, htyped, hlength, hleft⟩ := converse_left next count typist typing
    obtain ⟨others, right, hscripted, -, hright⟩ := converse_left next count reader scripted
    have hresults : (converse next count typist typing).1 = (converse next count reader scripted).1 :=
      (converse_alike next count executor typing scripted habreast).1
    rw [htyped, hscripted] at hresults
    cases hresults
    have hcount : (asked next results).length = count := by simp [asked, hlength]
    refine ⟨results, left, right, htyped, hscripted, hlength, ?_, ?_⟩
    · rw [hleft]
      show terminalPrompter.afterAll ⟨input, ""⟩ (asked next results) = _
      rw [afterAll_eq, hcount, String.empty_append]
    · rw [hright]
      show scriptPrompter.afterAll ⟨answers, []⟩ (asked next results) = _
      rw [Script.afterAll_eq, hcount, List.nil_append]
  · obtain ⟨hresult, hleft⟩ := Interview.run_alike dir executor typing scripted habreast
    exact ⟨hresult, hleft.disk⟩

/-- A file name that is typed without a newline behind it. -/
theorem like_script_unended :
    let answers := [" mine "]
    let input : List UInt8 := [0x20, 0x6D, 0x69, 0x6E, 0x65, 0x20]
    (∀ answer ∈ answers, '\n' ∉ answer.toList) ∧
      (input = typed answers ∨ input = (typed answers).dropLast) ∧
      (Interview.askFileName ⟨Rehearsal.executor, terminalPrompter⟩
        ⟨⟨[], []⟩, .empty, ⟨input, ""⟩, []⟩).1.toOption = some "mine.json" := by
  intro answers input
  have hplain : ∀ answer ∈ answers, '\n' ∉ answer.toList := by decide +kernel
  have hinput : input = typed answers ∨ input = (typed answers).dropLast := by decide +kernel
  obtain ⟨-, -, hname, -⟩ := like_script hplain hinput Rehearsal.executor ⟨[], []⟩ .empty []
  refine ⟨hplain, hinput, ?_⟩
  rw [hname]
  decide +kernel

end Terminal

end BuildConductor
