import BuildConductor.Proofs.Prompt
import BuildConductor.Proofs.Trace

/-! Tasks that only ask.

What such a task comes to is decided by the replies that it gets. `Task.OnlyAsks` relates
its result to the answers that it hears: a rule for each way to build a task says how, so a
question may depend on the answers before it. Where one is not answered the task ends, and
that question was its last. In the end nothing is changed but who was asked.

`Prompter.repliesTo` gives the replies to questions in a row. A terminal replies with its
lines (`Terminal.repliesTo_eq`), a script with what it has in store (`Script.repliesTo_eq`). -/
namespace BuildConductor

variable {ε π : Type}

/-! ### Replies -/

namespace Prompter

/-- What somebody replies to questions that he is asked one after the other. -/
def repliesTo (prompter : Prompter π) : π → List String → List (Except PromptError String)
  | _, [] => []
  | user, question :: rest =>
    (prompter.ask question user).1.answer :: prompter.repliesTo (prompter.ask question user).2 rest

theorem afterAll_append (prompter : Prompter π) (user : π) (questions others : List String) :
    prompter.afterAll user (questions ++ others) =
      prompter.afterAll (prompter.afterAll user questions) others :=
  List.foldl_append

theorem repliesTo_append (prompter : Prompter π) (user : π) (questions others : List String) :
    prompter.repliesTo user (questions ++ others) =
      prompter.repliesTo user questions ++
        prompter.repliesTo (prompter.afterAll user questions) others := by
  induction questions generalizing user with
  | nil => rfl
  | cons question rest ih => exact congrArg _ (ih _)

/-- Somebody who has items in store, and gives the worth of the first to each question,
replies with their worths in order, and with that of a default after the last. -/
theorem repliesTo_eq_of_items {prompter : Prompter π} {α : Type} (items : π → List α)
    (worth : α → Except PromptError String) (default : α)
    (hanswer : ∀ question user,
      (prompter.ask question user).1.answer = worth ((items user).headD default))
    (hleft : ∀ question user, items (prompter.ask question user).2 = (items user).tail)
    (user : π) (questions : List String) :
    prompter.repliesTo user questions =
      (List.range questions.length).map fun i => worth ((items user).getD i default) := by
  induction questions generalizing user with
  | nil => rfl
  | cons question rest ih =>
    rw [repliesTo, ih, hanswer, hleft, List.length_cons, List.range_succ_eq_map, List.map_cons,
      List.map_map]
    cases items user <;> simp [Function.comp_def]

end Prompter

/-- What a line of input is worth as an answer. -/
def answerOf (line : List UInt8) : Except PromptError String :=
  match String.fromUTF8? ⟨line.toArray⟩ with
  | some text => .ok (Text.trim text)
  | none => .error .notText

/-- A terminal replies with its lines, and with empty ones after the last. -/
theorem Terminal.repliesTo_eq (t : Terminal) (questions : List String) :
    terminalPrompter.repliesTo t questions =
      (List.range questions.length).map fun i => answerOf ((linesOf t.unread).getD i []) :=
  Prompter.repliesTo_eq_of_items (fun t => linesOf t.unread) answerOf []
    (fun _ t => congrArg answerOf (splitLine_eq t.unread).1)
    (fun _ t => (splitLine_eq t.unread).2) t questions

/-- A script replies with its answers, trimmed, and with empty ones after the last. -/
theorem Script.repliesTo_eq (s : Script) (questions : List String) :
    scriptPrompter.repliesTo s questions =
      (List.range questions.length).map fun i => .ok (Text.trim (s.answers.getD i "")) := by
  have hempty : Text.trim "" = "" := by decide +kernel
  refine Prompter.repliesTo_eq_of_items Script.answers (fun answer => .ok (Text.trim answer)) ""
    (fun question s => ?_) (fun _ _ => rfl) s questions
  show (s.ask question).1.answer = _
  unfold Script.ask
  cases s.answers with
  | nil => rw [List.headD_nil, hempty]
  | cons answer rest => rfl

/-- A terminal fails to reply where a line is not text. -/
theorem Terminal.error_mem_repliesTo_iff (t : Terminal) (questions : List String) :
    (∃ e, .error e ∈ terminalPrompter.repliesTo t questions) ↔
      ∃ i < questions.length,
        String.fromUTF8? ⟨((linesOf t.unread).getD i []).toArray⟩ = none := by
  have hline (line : List UInt8) :
      (∃ e, answerOf line = .error e) ↔ String.fromUTF8? ⟨line.toArray⟩ = none := by
    unfold answerOf
    cases String.fromUTF8? ⟨line.toArray⟩ with
    | none => exact ⟨fun _ => rfl, fun _ => ⟨_, rfl⟩⟩
    | some text => simp
  rw [t.repliesTo_eq]
  simp only [List.mem_map, List.mem_range]
  constructor
  · rintro ⟨e, i, hi, he⟩
    exact ⟨i, hi, (hline _).1 ⟨e, he⟩⟩
  · rintro ⟨i, hi, hnone⟩
    obtain ⟨e, he⟩ := (hline _).2 hnone
    exact ⟨e, i, hi, he⟩

/-- A script never fails to reply. -/
theorem Script.error_not_mem_repliesTo (s : Script) (questions : List String) (e : PromptError) :
    .error e ∉ scriptPrompter.repliesTo s questions := by
  intro hmem
  rw [s.repliesTo_eq] at hmem
  obtain ⟨i, -, hi⟩ := List.mem_map.1 hmem
  cases hi

/-! ### Worlds before and after -/

/-- How a world comes out of another by these questions only. -/
structure Dialogue (crew : Crew ε π) (before : World ε π) (questions : List String)
    (after : World ε π) : Prop where
  passage : Passage crew before [] questions after
  user : after.user = crew.prompter.afterAll before.user questions

namespace Dialogue
variable {crew : Crew ε π} {before middle after : World ε π} {questions others : List String}

theorem refl (crew : Crew ε π) (world : World ε π) : Dialogue crew world [] world :=
  ⟨.refl crew world, rfl⟩

theorem trans (h : Dialogue crew before questions middle) (hmore : Dialogue crew middle others after) :
    Dialogue crew before (questions ++ others) after :=
  ⟨h.passage.trans hmore.passage, by rw [hmore.user, h.user, Prompter.afterAll_append]⟩

/-- Questions leave the disk as it is. -/
theorem disk_eq (h : Dialogue crew before questions after) : after.disk = before.disk :=
  congrArg Prod.fst h.passage.scene_eq

/-- What is replied in a dialogue goes on where the one before it has ended. -/
theorem repliesTo_append (h : Dialogue crew before questions middle) (others : List String) :
    crew.prompter.repliesTo before.user (questions ++ others) =
      crew.prompter.repliesTo before.user questions ++
        crew.prompter.repliesTo middle.user others := by
  rw [Prompter.repliesTo_append, h.user]

end Dialogue

/-! ### Tasks -/

namespace Task
variable {α β : Type}

/-- Questions with the answers that are heard to them. -/
abbrev Heard := List (String × String)

/-- How a task ends with the replies to its questions. -/
inductive Concludes (Fits : Heard → α → Prop) (questions : List String)
    (replies : List (Except PromptError String)) : Except PromptError α → Prop
  /-- All questions are answered, and the result fits what was heard. -/
  | answered {heard : Heard} {a : α} (hquestions : questions = heard.map Prod.fst)
      (hreplies : replies = heard.map fun said => .ok said.2) (hfits : Fits heard a) :
      Concludes Fits questions replies (.ok a)
  /-- The last question is not answered, for the reason that the task fails for. -/
  | unanswered {answers : List String} {e : PromptError}
      (hreplies : replies = answers.map .ok ++ [.error e]) :
      Concludes Fits questions replies (.error e)

/-- A task that only asks fails for the reply that it did not get. -/
theorem Concludes.error_mem_iff {Fits : Heard → α → Prop} {questions : List String}
    {replies : List (Except PromptError String)} {result : Except PromptError α}
    (h : Concludes Fits questions replies result) (e : PromptError) :
    .error e ∈ replies ↔ result = .error e := by
  cases h with
  | answered hquestions hreplies hfits => simp [hreplies]
  | unanswered hreplies => simp [hreplies, eq_comm]

/-- Whether a task only asks, and its result fits what it hears. -/
def OnlyAsks (task : Task ε π PromptError α) (Fits : Heard → α → Prop) : Prop :=
  ∀ crew world, ∃ result left questions, task crew world = (result, left) ∧
    Dialogue crew world questions left ∧
    Concludes Fits questions (crew.prompter.repliesTo world.user questions) result

theorem OnlyAsks.pure {Fits : Heard → α → Prop} {a : α} (h : Fits [] a) :
    (Pure.pure a : Task ε π PromptError α).OnlyAsks Fits :=
  fun crew world => ⟨.ok a, world, [], rfl, .refl crew world, .answered rfl rfl h⟩

theorem OnlyAsks.ask (question : String) :
    (ask question : Task ε π PromptError String).OnlyAsks
      fun heard answer => heard = [(question, answer)] := by
  intro crew world
  obtain ⟨left, hask, hpassage⟩ := ends_ask question crew world
  have huser : left.user = (crew.prompter.ask question world.user).2 :=
    (congrArg (fun ended => ended.2.user) hask).symm
  refine ⟨_, left, [question], hask, ⟨hpassage, huser⟩, ?_⟩
  show Concludes _ _ [(crew.prompter.ask question world.user).1.answer] _
  cases (crew.prompter.ask question world.user).1.answer with
  | ok answer => exact .answered rfl rfl rfl
  | error e =>
    have hreplies : [.error e] = ([] : List String).map Except.ok ++ [.error e] := rfl
    exact .unanswered hreplies

/-- One task after another: what both hear, in order. The second is begun only if the first
has a result. -/
theorem OnlyAsks.bind {task : Task ε π PromptError α} {next : α → Task ε π PromptError β}
    {Fits : Heard → α → Prop} {Both : Heard → β → Prop} (h : task.OnlyAsks Fits)
    (hnext : ∀ heard a, Fits heard a → (next a).OnlyAsks fun more b => Both (heard ++ more) b) :
    (task >>= next).OnlyAsks Both := by
  intro crew world
  obtain ⟨result, middle, questions, htask, hdialogue, hended⟩ := h crew world
  cases hended with
  | unanswered hreplies =>
    exact ⟨_, middle, questions, andThen_error htask, hdialogue, .unanswered hreplies⟩
  | @answered heard a hquestions hreplies hfits =>
    obtain ⟨result, left, others, hlast, hmore, hended⟩ := hnext heard a hfits crew middle
    refine ⟨result, left, questions ++ others, (andThen_ok htask).trans hlast,
      hdialogue.trans hmore, ?_⟩
    have hboth := hdialogue.repliesTo_append others
    rw [hreplies] at hboth
    cases hended with
    | @answered more b hothers hanswers hfits =>
      have hquestions : questions ++ others = (heard ++ more).map Prod.fst := by
        rw [hquestions, hothers, List.map_append]
      have hreplies : crew.prompter.repliesTo world.user (questions ++ others) =
          (heard ++ more).map fun said => .ok said.2 := by
        rw [hboth, hanswers, List.map_append]
      exact .answered hquestions hreplies hfits
    | @unanswered answers e hanswers =>
      have hreplies : crew.prompter.repliesTo world.user (questions ++ others) =
          (heard.map Prod.snd ++ answers).map .ok ++ [.error e] := by
        rw [hboth, hanswers, List.map_append, List.map_map, List.append_assoc]
        rfl
      exact .unanswered hreplies

theorem OnlyAsks.confirm (question : String) (default : Bool) :
    (confirm question default : Task ε π PromptError Bool).OnlyAsks fun heard confirmed =>
      ∃ answer, heard = [(confirmQuestion question default, answer)] ∧
        confirmed = isConfirmed default answer := by
  refine (OnlyAsks.ask _).bind fun heard answer hheard => .pure ?_
  rw [hheard]
  exact ⟨answer, rfl, rfl⟩

/-- A script never fails. A task that only asks hears its answers in order, trimmed, and
leaves those that it does not ask for. -/
theorem OnlyAsks.scripted {task : Task ε Script PromptError α} {Fits : Heard → α → Prop}
    (h : task.OnlyAsks Fits) (executor : Executor ε) (answers : List String) (disk : Disk)
    (tools : ε) (log : List Event) :
    ∃ a left heard, task ⟨executor, scriptPrompter⟩ ⟨disk, tools, ⟨answers, []⟩, log⟩ =
        (.ok a, left) ∧
      heard.map Prod.snd =
        (List.range heard.length).map (fun i => Text.trim (answers.getD i "")) ∧
      Fits heard a ∧ left.user = ⟨answers.drop heard.length, heard.map Prod.fst⟩ ∧
      left.disk = disk := by
  obtain ⟨result, left, questions, htask, hdialogue, hended⟩ :=
    h ⟨executor, scriptPrompter⟩ ⟨disk, tools, ⟨answers, []⟩, log⟩
  have hreplied := Script.repliesTo_eq ⟨answers, []⟩ questions
  cases hended with
  | @unanswered heard e hreplies =>
    refine absurd ?_ (Script.error_not_mem_repliesTo ⟨answers, []⟩ questions e)
    rw [hreplies]
    exact List.mem_append_right _ List.mem_cons_self
  | @answered heard a hquestions hreplies hfits =>
    refine ⟨a, left, heard, htask, ?_, hfits, ?_, hdialogue.disk_eq⟩
    · rw [hreplies, hquestions, List.length_map] at hreplied
      have hok : (heard.map Prod.snd).map Except.ok =
          ((List.range heard.length).map fun i => Text.trim (answers.getD i "")).map
            (Except.ok (ε := PromptError)) := by
        rw [List.map_map, List.map_map]
        exact hreplied
      exact (List.map_inj_right fun _ _ => Except.ok.inj).1 hok
    · rw [hdialogue.user]
      show scriptPrompter.afterAll ⟨answers, []⟩ questions = _
      rw [Script.afterAll_eq, hquestions, List.length_map, List.nil_append]

end Task

end BuildConductor
