import BuildConductor.Build
import BuildConductor.Proofs.Trace

/-! Looking at submodules.

A look at the submodules of a source tree is one query, at most one question, and
at most one more command. What is found, answered and done is given here by the
executor and the prompter alone, and `check_ends` shows that the look calls and asks
just that. -/
namespace BuildConductor

variable {ε π : Type}

namespace Submodule

/-- The query, whose output is captured. -/
def queryCall (sourceDir : Path) : Call :=
  ⟨statusCommand, sourceDir, true⟩

/-- The initialization, whose output is passed on. -/
def initCall (sourceDir : Path) : Call :=
  ⟨initCommand, sourceDir, false⟩

/-- What the user is asked. -/
def question : String :=
  confirmQuestion "Initialize submodules?" false

/-- Whether a query succeeded and tells of a submodule that was never checked out. -/
def FindsMissing : Answer → Prop
  | .ok output => output.status.code = some 0 ∧
    ∃ submodule ∈ ofStatus output.stdout, submodule.state = .uninitialized
  | .error _ => False

instance : (answer : Answer) → Decidable (FindsMissing answer)
  | .ok output => inferInstanceAs (Decidable (output.status.code = some 0 ∧
    ∃ submodule ∈ ofStatus output.stdout, submodule.state = .uninitialized))
  | .error _ => inferInstanceAs (Decidable False)

/-- Whether there was an answer, and it means yes. -/
def Accepts : Except PromptError String → Prop
  | .ok answer => isConfirmed false answer = true
  | .error _ => False

instance : (answer : Except PromptError String) → Decidable (Accepts answer)
  | .ok answer => inferInstanceAs (Decidable (isConfirmed false answer = true))
  | .error _ => inferInstanceAs (Decidable False)

section Look
variable (sourceDir : Path) (crew : Crew ε π) (world : World ε π)

/-- The answer to a query that is made now, and what the executor leaves. -/
def queried : Answer × (Disk × ε) :=
  crew.executor.answer (queryCall sourceDir) world.scene

/-- The answer to a question that is asked now. -/
def replied : Except PromptError String :=
  (crew.prompter.ask question world.user).1.answer

/-- The answer to an initialization after the query, and what the executor leaves. -/
def initialized : Answer × (Disk × ε) :=
  crew.executor.answer (initCall sourceDir) (queried sourceDir crew world).2

/-- Whether there is an initialization after the query. -/
def Initializes : Prop :=
  FindsMissing (queried sourceDir crew world).1 ∧ Accepts (replied crew world)

instance : Decidable (Initializes sourceDir crew world) :=
  inferInstanceAs (Decidable (_ ∧ _))

/-- The calls of a look. -/
def lookCalls : List (Call × Answer) :=
  (queryCall sourceDir, (queried sourceDir crew world).1) ::
    if Initializes sourceDir crew world then
      [(initCall sourceDir, (initialized sourceDir crew world).1)]
    else
      []

/-- The questions of a look. -/
def lookQuestions : List String :=
  if FindsMissing (queried sourceDir crew world).1 then [question] else []

/-- Whether a look fails: there is no answer to its question, or the initialization
does not succeed. -/
def LookFails : Prop :=
  FindsMissing (queried sourceDir crew world).1 ∧
      (∃ e, replied crew world = .error e) ∨
    Initializes sourceDir crew world ∧ ¬ExitsZero (initialized sourceDir crew world).1

end Look

/-! ### The two commands -/

/-- What the answer to a query comes to. -/
def judgeQuery : Answer → Except BuildError (List Submodule)
  | .error failure => .error (.submoduleQueryFailed failure.message)
  | .ok output =>
    match queryFault output with
    | some e => .error e
    | none => .ok (ofStatus output.stdout)

/-- What the answer to an initialization comes to. -/
def judgeInit : Answer → Except BuildError Unit
  | .error failure => .error (.spawn initCommand.display failure.message)
  | .ok output =>
    if output.status.success then .ok ()
    else .error (.submoduleInitFailed initCommand.display output.status)

theorem uninitialized_ne_nil (submodules : List Submodule) :
    uninitialized submodules ≠ [] ↔ ∃ submodule ∈ submodules, submodule.state = .uninitialized := by
  simp [uninitialized, isUninitialized, List.filter_eq_nil_iff]

/-- Something is missing exactly where a query succeeds and lists it. -/
theorem findsMissing_iff (answer : Answer) :
    FindsMissing answer ↔ ∃ found, judgeQuery answer = .ok found ∧ uninitialized found ≠ [] := by
  cases answer with
  | error failure => simp [FindsMissing, judgeQuery]
  | ok output =>
    by_cases h : output.status.code = some 0
    · simp [FindsMissing, judgeQuery, queryFault, ExitStatus.success, h, uninitialized_ne_nil]
    · simp [FindsMissing, judgeQuery, queryFault, ExitStatus.success, h]

theorem judgeInit_eq_ok (answer : Answer) : judgeInit answer = .ok () ↔ ExitsZero answer := by
  cases answer with
  | error failure => simp [ExitsZero, judgeInit]
  | ok output =>
    by_cases h : output.status.code = some 0
    · simp [ExitsZero, judgeInit, ExitStatus.success, h]
    · simp [ExitsZero, judgeInit, ExitStatus.success, h]

/-- A query is one call, and the answer to it decides how it ends. -/
theorem query_ends (sourceDir : Path) (crew : Crew ε π) (world : World ε π) :
    (query sourceDir).Ends crew world (judgeQuery (queried sourceDir crew world).1)
      [(queryCall sourceDir, (queried sourceDir crew world).1)] [] := by
  refine (Task.ends_execute (queryCall sourceDir) crew world).bind fun left _ => ?_
  show Task.Ends _ crew left (judgeQuery (queried sourceDir crew world).1) _ _
  unfold queried judgeQuery
  cases (crew.executor.answer (queryCall sourceDir) world.scene).1 with
  | error failure => exact Task.ends_ofExcept _ crew left
  | ok output =>
    simp only
    cases queryFault output with
    | some e => exact Task.ends_ofExcept _ crew left
    | none => exact (Task.ends_trace _ crew left).bind fun traced _ => Task.ends_pure _ crew traced

/-- An initialization is one call, and the answer to it decides how it ends. -/
theorem init_ends (sourceDir : Path) (crew : Crew ε π) (world : World ε π) :
    (init sourceDir).Ends crew world
      (judgeInit (crew.executor.answer (initCall sourceDir) world.scene).1)
      [(initCall sourceDir, (crew.executor.answer (initCall sourceDir) world.scene).1)] [] := by
  refine (Task.ends_execute (initCall sourceDir) crew world).bind fun left _ => ?_
  unfold judgeInit
  cases (crew.executor.answer (initCall sourceDir) world.scene).1 with
  | error failure => exact Task.ends_ofExcept _ crew left
  | ok output =>
    simp only
    split
    · exact Task.ends_pure () crew left
    · exact Task.ends_ofExcept _ crew left

/-! ### The look -/

theorem announce_ends (missing : List Submodule) (crew : Crew ε π) (world : World ε π) :
    (announce missing).Ends crew world (.ok ()) [] [] :=
  (Task.ends_say _ _ crew world).bind fun left _ => Task.ends_sayAll _ _ _ crew left

theorem confirm_ends (crew : Crew ε π) (world : World ε π) :
    (Task.confirm "Initialize submodules?" false).Ends crew world
      ((replied crew world).map (isConfirmed false)) [] [question] := by
  have hask := Task.ends_ask question crew world
  unfold replied
  cases hreply : (crew.prompter.ask question world.user).1.answer with
  | error e =>
    rw [hreply] at hask
    exact hask.bind_error _
  | ok answer =>
    rw [hreply] at hask
    exact hask.bind fun left _ => Task.ends_pure _ crew left

/-- What an offer comes to, by the reply to it and the answer to the initialization. -/
def judgeOffer (reply : Except PromptError String) (answer : Answer) : Except Failure Unit :=
  match reply with
  | .error e => .error (.prompt e)
  | .ok text => if isConfirmed false text then (judgeInit answer).mapError .build else .ok ()

theorem judgeOffer_eq_ok (reply : Except PromptError String) (answer : Answer) :
    judgeOffer reply answer = .ok () ↔
      ¬((∃ e, reply = .error e) ∨ Accepts reply ∧ ¬ExitsZero answer) := by
  cases reply with
  | error e =>
    constructor
    · intro h
      cases h
    · intro h
      exact absurd (.inl ⟨e, rfl⟩) h
  | ok text =>
    by_cases h : isConfirmed false text = true
    · rw [judgeOffer, if_pos h, except_mapError_eq_ok, judgeInit_eq_ok]
      simp [Accepts, h]
    · simp [judgeOffer, Accepts, h]

/-- An offer is a question and, where the reply to it means yes, an initialization. -/
theorem offer_ends (sourceDir : Path) (missing : List Submodule) (crew : Crew ε π)
    (world : World ε π) :
    (offer sourceDir missing).Ends crew world
      (judgeOffer (replied crew world)
        (crew.executor.answer (initCall sourceDir) world.scene).1)
      (if Accepts (replied crew world) then
        [(initCall sourceDir, (crew.executor.answer (initCall sourceDir) world.scene).1)]
      else
        []) [question] := by
  refine (announce_ends missing crew world).andThen fun announced hannounced => ?_
  have hconfirm := (confirm_ends crew announced).mapError Failure.prompt
  have hreplied : replied crew announced = replied crew world := by
    rw [replied, hannounced.user rfl, replied]
  rw [hreplied] at hconfirm
  cases hreply : replied crew world with
  | error e =>
    rw [hreply] at hconfirm
    rw [if_neg (show ¬Accepts (.error e) from id)]
    exact hconfirm.bind_error _
  | ok text =>
    rw [hreply] at hconfirm
    by_cases h : isConfirmed false text = true
    · rw [judgeOffer, if_pos h, if_pos (show Accepts (.ok text) from h)]
      refine hconfirm.bind fun asked hasked => ?_
      rw [if_pos h]
      refine (Task.ends_say _ _ crew asked).bind fun told htold => ?_
      have hinit := (init_ends sourceDir crew told).mapError Failure.build
      rw [htold.scene_eq, hasked.scene_eq, hannounced.scene_eq] at hinit
      exact hinit
    · rw [judgeOffer, if_neg h, if_neg (show ¬Accepts (.ok text) from h)]
      refine hconfirm.bind fun asked _ => ?_
      rw [if_neg h]
      exact Task.ends_say _ _ crew asked

/-- What a look comes to. -/
def judgeLook (sourceDir : Path) (crew : Crew ε π) (world : World ε π) : Except Failure Unit :=
  if FindsMissing (queried sourceDir crew world).1 then
    judgeOffer (replied crew world) (initialized sourceDir crew world).1
  else
    .ok ()

theorem judgeLook_eq_ok (sourceDir : Path) (crew : Crew ε π) (world : World ε π) :
    judgeLook sourceDir crew world = .ok () ↔ ¬LookFails sourceDir crew world := by
  unfold judgeLook LookFails Initializes
  by_cases h : FindsMissing (queried sourceDir crew world).1
  · simp only [h, if_true, true_and, judgeOffer_eq_ok]
  · simp only [h, if_false, false_and, or_self, not_false_eq_true]

/-- A look at a source tree that tells of its submodules. -/
theorem check_ends {sourceDir : Path} (crew : Crew ε π) {world : World ε π}
    (hfile : world.disk.contains (sourceDir.join submoduleFile) = true) :
    (check sourceDir).Ends crew world (judgeLook sourceDir crew world)
      (lookCalls sourceDir crew world) (lookQuestions sourceDir crew world) := by
  have hinspect := Task.ends_inspect (E := Failure)
    (fun disk => disk.contains (sourceDir.join submoduleFile)) crew world
  rw [hfile] at hinspect
  refine hinspect.andThen fun looked hlooked => ?_
  rw [if_pos rfl]
  have hquery := (query_ends sourceDir crew looked).attempt (F := Failure)
  have hsame : queried sourceDir crew looked = queried sourceDir crew world := by
    rw [queried, hlooked.scene_eq, queried]
  rw [hsame] at hquery
  unfold judgeLook lookCalls lookQuestions Initializes
  by_cases h : FindsMissing (queried sourceDir crew world).1
  · obtain ⟨found, hfound, hmissing⟩ := (findsMissing_iff _).1 h
    simp only [h, if_true, true_and]
    rw [hfound] at hquery
    refine hquery.bind fun left hleft => ?_
    have hoffer := offer_ends sourceDir (uninitialized found) crew left
    have hscene := hleft.answers.of_cons.2.of_nil
    have hreplied : replied crew left = replied crew world := by
      rw [replied, hleft.user rfl, hlooked.user rfl, replied]
    have hleftScene : left.scene = (queried sourceDir crew world).2 := by
      rw [hscene, ← hsame, queried]
    rw [hreplied, hleftScene] at hoffer
    simp only
    cases hnone : uninitialized found with
    | nil => exact absurd hnone hmissing
    | cons submodule rest =>
      rw [hnone] at hoffer
      exact hoffer
  · simp only [h, if_false, false_and]
    refine hquery.bind fun left _ => ?_
    cases hjudge : judgeQuery (queried sourceDir crew world).1 with
    | error e => exact Task.ends_say _ _ crew left
    | ok found =>
      have hnone : uninitialized found = [] := Decidable.not_not.1 fun hmissing =>
        h ((findsMissing_iff _).2 ⟨found, hjudge, hmissing⟩)
      simp only [hnone]
      exact Task.ends_pure () crew left

/-- A source tree without submodules is left alone. -/
theorem check_ends_of_absent {sourceDir : Path} (crew : Crew ε π) {world : World ε π}
    (hfile : world.disk.contains (sourceDir.join submoduleFile) = false) :
    (check sourceDir).Ends crew world (.ok ()) [] [] := by
  have hinspect := Task.ends_inspect (E := Failure)
    (fun disk => disk.contains (sourceDir.join submoduleFile)) crew world
  rw [hfile] at hinspect
  exact hinspect.andThen fun looked _ => Task.ends_trace _ crew looked

end Submodule

end BuildConductor
