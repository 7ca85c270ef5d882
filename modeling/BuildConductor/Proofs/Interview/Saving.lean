import BuildConductor.Proofs.ConfigFile
import BuildConductor.Proofs.Disk.Writing
import BuildConductor.Proofs.Interview.Answers
import BuildConductor.Proofs.Pipeline

/-! An interview writes one file, or none.

All questions come before anything is written (`run_eq`), so an answer that cannot be read
leaves the disk as it was, whichever it is. `SavesOnce` says how an interview ends and what it
leaves on the disk, whoever is asked, and `exists_savesOnce` that every interview ends so. -/
namespace BuildConductor.Interview

open BuildConductor.Task (Heard)

variable {ε π : Type} {crew : Crew ε π} {world : World ε π}

/-! ### All questions -/

/-- All questions of an interview, the one for the file name being the last. -/
def askForFile : Task ε π PromptError (Document × String) := do
  let doc ← askDocument
  let name ← askFileName
  pure (doc, name)

/-- What is heard in an interview up to the file name, and what it means. -/
inductive SaidForFile : Heard → Document × String → Prop
  | intro {heard : Heard} {doc : Document} (answer : String) (h : Said heard doc) :
    SaidForFile (heard ++ [(fileNameQuestion, answer)]) (doc, fileName answer)

theorem askForFile_asks : (askForFile : Task ε π _ _).OnlyAsks SaidForFile := by
  have hname : (askFileName : Task ε π _ _).OnlyAsks fun heard name =>
      ∃ answer, heard = [(fileNameQuestion, answer)] ∧ name = fileName answer := by
    refine (Task.OnlyAsks.ask _).bind ?_
    rintro _ answer rfl
    exact .pure ⟨answer, rfl, rfl⟩
  refine askDocument_asks.bind fun heard doc hdoc => hname.bind ?_
  rintro _ _ ⟨answer, rfl, rfl⟩
  exact .pure (.intro answer hdoc)

/-- The document is the one that is asked for first. -/
theorem askDocument_of_askForFile {doc : Document} {name : String} {left : World ε π}
    (h : askForFile crew world = (.ok (doc, name), left)) :
    (askDocument crew world).1 = .ok doc := by
  obtain ⟨found, middle, hfound, hrest⟩ := Task.bind_eq_ok.1 h
  obtain ⟨_, _, -, hpure⟩ := Task.bind_eq_ok.1 hrest
  cases hpure
  rw [hfound]

/-! ### What is done with the answers -/

/-- A document is saved in a directory, under a name. -/
def saveAs (dir : Path) (doc : Document) (name : String) : Task ε π Failure Path := do
  let path := dir.join ⟨name⟩
  (doc.save path).mapError .file
  Task.trace s!"saved interactive configuration to {path.text}"
  pure path

/-- Nothing is saved before everything is asked. -/
theorem run_eq (dir : Path) :
    (run dir : Task ε π Failure Path) =
      (askForFile.mapError .prompt >>= fun asked => saveAs dir asked.1 asked.2) := by
  rw [askForFile, Task.mapError_bind, Task.bind_assoc]
  refine congrArg _ (funext fun doc => ?_)
  rw [Task.mapError_bind, Task.bind_assoc]
  refine congrArg _ (funext fun name => ?_)
  rw [Task.mapError_pure, Task.pure_bind]
  rfl

/-- Saving writes the text of the document, and changes nothing but the disk. -/
theorem saveAs_leaves (dir : Path) (doc : Document) (name : String) (crew : Crew ε π)
    (world : World ε π) :
    (saveAs dir doc name).Leaves crew world
      (((world.disk.writeText (dir.join ⟨name⟩) doc.write).1.mapError .file).map
        fun _ => dir.join ⟨name⟩)
      (world.disk.writeText (dir.join ⟨name⟩) doc.write).2 := by
  have hsave := (Task.leaves_onDisk (fun disk => disk.writeText (dir.join ⟨name⟩) doc.write)
    crew world).mapError Failure.file
  cases hwrite : world.disk.writeText (dir.join ⟨name⟩) doc.write with
  | mk result disk =>
    rw [hwrite] at hsave
    cases result with
    | error e => exact hsave.bind_error _
    | ok done =>
      refine hsave.bind fun left hleft => ?_
      have htraced (message : String) :
          (Task.trace message >>= fun _ => pure (dir.join ⟨name⟩) : Task ε π Failure Path).Ends
            crew left (.ok (dir.join ⟨name⟩)) [] [] :=
        (Task.ends_trace message crew left).andThen fun traced _ => Task.ends_pure _ crew traced
      rw [← hleft.disk]
      exact (htraced _).leaves

/-! ### How an interview ends -/

/-- How an interview ends that has asked these questions, and what it leaves on the disk. -/
structure SavesOnce (dir : Path) (crew : Crew ε π) (world : World ε π) (questions : List String)
    (result : Except Failure Path) (left : World ε π) : Prop where
  asked : left.questions = world.questions ++ questions
  user : left.user = crew.prompter.afterAll world.user questions
  /-- It fails for an answer that cannot be read exactly if there is one. -/
  unanswered : ∀ e, .error e ∈ crew.prompter.repliesTo world.user questions ↔
    result = .error (.prompt e)
  /-- Then the disk is as it was. -/
  unwritten : ∀ e, result = .error (.prompt e) → left.disk = world.disk
  /-- Where the file cannot be written, directories are added on the way to it at most. -/
  unsaved : ∀ e, result = .error (.file e) → ∃ answer,
    (crew.prompter.repliesTo world.user questions).getLast? = some (.ok answer) ∧
      world.disk.Paves (dir.join ⟨fileName answer⟩) left.disk
  /-- Otherwise it is written, and the document that was asked for is loaded from it. -/
  saved : ∀ path, result = .ok path → ∃ answer doc,
    (crew.prompter.repliesTo world.user questions).getLast? = some (.ok answer) ∧
      path = dir.join ⟨fileName answer⟩ ∧ (askDocument crew world).1 = .ok doc ∧
      world.disk.Writes path doc.write.toUTF8 left.disk ∧
      ∀ reader : Crew ε π, (Document.load path reader left).1 = .ok (doc, .file)
  /-- It does not end in any other way. -/
  failure : ∀ e, result = .error e → (∃ e', e = .prompt e') ∨ ∃ e', e = .file e'

/-- An answer that cannot be read ends an interview before anything is written. -/
theorem savesOnce_of_error {dir : Path} {questions : List String} {left : World ε π}
    {e : PromptError} (hdialogue : Dialogue crew world questions left)
    (hunanswered : ∀ e', .error e' ∈ crew.prompter.repliesTo world.user questions ↔ e = e') :
    SavesOnce dir crew world questions (.error (.prompt e)) left where
  asked := hdialogue.passage.questions
  user := hdialogue.user
  unanswered e' := by rw [hunanswered, Except.error.injEq, Failure.prompt.injEq]
  unwritten _ _ := hdialogue.disk_eq
  unsaved _ h := by cases h
  saved _ h := by cases h
  failure _ h := by
    cases h
    exact .inl ⟨e, rfl⟩

/-- Where everything is answered, an interview ends as the writing of its file does. -/
theorem savesOnce_of_ok {dir : Path} {questions : List String} {middle left : World ε π}
    {answer : String} {doc : Document} (hdialogue : Dialogue crew world questions middle)
    (hanswered : ∀ e, .error e ∉ crew.prompter.repliesTo world.user questions)
    (hlast : (crew.prompter.repliesTo world.user questions).getLast? = some (.ok answer))
    (hdoc : (askDocument crew world).1 = .ok doc)
    (hsaved : ∀ path, Document.parse doc.write path = .ok doc)
    (hleft : Rearrangement middle
      (middle.disk.writeText (dir.join ⟨fileName answer⟩) doc.write).2 left) :
    SavesOnce dir crew world questions
      (((middle.disk.writeText (dir.join ⟨fileName answer⟩) doc.write).1.mapError .file).map
        fun _ => dir.join ⟨fileName answer⟩) left := by
  have hasked : left.questions = world.questions ++ questions :=
    hleft.questions.trans hdialogue.passage.questions
  have huser : left.user = crew.prompter.afterAll world.user questions :=
    hleft.user.trans hdialogue.user
  have hdisk := hleft.disk
  rw [hdialogue.disk_eq] at hdisk ⊢
  cases hwrite : world.disk.writeText (dir.join ⟨fileName answer⟩) doc.write with
  | mk result disk =>
    rw [hwrite] at hdisk
    cases result with
    | error e =>
      exact {
        asked := hasked
        user := huser
        unanswered := fun e' => ⟨fun hmem => absurd hmem (hanswered e'), nofun⟩
        unwritten := nofun
        unsaved := fun _ _ => ⟨answer, hlast, hdisk ▸ Disk.writeText_error hwrite⟩
        saved := nofun
        failure := fun e' h => .inr ⟨e, (Except.error.inj h).symm⟩ }
    | ok done =>
      have hwrites := Disk.writeText_writes hwrite
      rw [← show left.disk = disk from hdisk] at hwrites
      exact {
        asked := hasked
        user := huser
        unanswered := fun e' => ⟨fun hmem => absurd hmem (hanswered e'), nofun⟩
        unwritten := nofun
        unsaved := nofun
        saved := by
          intro path hpath
          obtain rfl : dir.join ⟨fileName answer⟩ = path := Except.ok.inj hpath
          refine ⟨answer, doc, hlast, rfl, hdoc, hwrites, fun reader => ?_⟩
          rw [(Document.load_ends _ reader left).result_eq]
          exact Document.judgeLoad_of_readFile hwrites.read (hsaved _)
        failure := nofun }

theorem exists_savesOnce (dir : Path) (crew : Crew ε π) (world : World ε π) :
    ∃ questions result left, run dir crew world = (result, left) ∧
      SavesOnce dir crew world questions result left := by
  obtain ⟨asked, middle, questions, hasked, hdialogue, hended⟩ := askForFile_asks crew world
  have herrors := hended.error_mem_iff
  have hfirst : (askForFile.mapError Failure.prompt) crew world =
      (asked.mapError .prompt, middle) := by
    rw [Task.mapError, hasked]
  cases hended with
  | @unanswered answers e hreplies =>
    refine ⟨questions, .error (.prompt e), middle, ?_, savesOnce_of_error hdialogue fun e' => ?_⟩
    · rw [run_eq]
      exact Task.andThen_error hfirst
    · rw [herrors, Except.error.injEq]
  | @answered _ _ hquestions hreplies hsaid =>
    cases hsaid with
    | @intro heard doc answer hsaid =>
      obtain ⟨left, hrun, hleft⟩ := saveAs_leaves dir doc (fileName answer) crew middle
      obtain ⟨_, _, -, hsound⟩ := hsaid.sound
      refine ⟨questions, _, left, ?_, savesOnce_of_ok hdialogue (fun e hmem => ?_) ?_
        (askDocument_of_askForFile hasked) hsound.saved hleft⟩
      · rw [run_eq]
        exact (Task.andThen_ok hfirst).trans hrun
      · cases (herrors e).1 hmem
      · rw [hreplies, List.map_append, List.map_singleton, List.getLast?_concat]

/-- An interview writes one file or none, whoever is asked and wherever it saves. An answer
that cannot be read, at any question, ends it with an error and an unchanged disk; otherwise,
if it succeeds, its document is loaded from the file, and the file and the directories that
were missing on the way to it are all that is new. A terminal cannot be read where a line is
not text; a script can always be read. -/
theorem run_saves_once (dir : Path) (crew : Crew ε π) (world : World ε π) :
    (∃ questions result left, run dir crew world = (result, left) ∧
      SavesOnce dir crew world questions result left) ∧
    (∀ (t : Terminal) (questions : List String),
      (∃ e, .error e ∈ terminalPrompter.repliesTo t questions) ↔
        ∃ i < questions.length,
          String.fromUTF8? ⟨((linesOf t.unread).getD i []).toArray⟩ = none) ∧
    ∀ (s : Script) (questions : List String) (e : PromptError),
      .error e ∉ scriptPrompter.repliesTo s questions :=
  ⟨exists_savesOnce dir crew world, Terminal.error_mem_repliesTo_iff,
    Script.error_not_mem_repliesTo⟩

/-- An empty directory, and answers that switch everything off and end in a file name. -/
def answeredWorld (name : String) : World Rehearsal Script where
  disk := ⟨[("out", .directory [])], []⟩
  tools := Rehearsal.empty
  user := ⟨"" :: List.replicate 7 "n" ++ [name], []⟩
  log := []

/-- They are saved, and the document is loaded again. -/
theorem run_saves_once_mine :
    let world := answeredWorld "mine"
    let outcome := run ⟨"out"⟩ rehearsalCrew world
    outcome.1.toOption = some ⟨"out/mine.json"⟩ ∧
      ∃ doc, (askDocument rehearsalCrew world).1 = .ok doc ∧
        world.disk.Writes ⟨"out/mine.json"⟩ doc.write.toUTF8 outcome.2.disk ∧
        (Document.load ⟨"out/mine.json"⟩ rehearsalCrew outcome.2).1 = .ok (doc, .file) := by
  intro world outcome
  have hpath : outcome.1.toOption = some ⟨"out/mine.json"⟩ := by decide +kernel
  obtain ⟨⟨questions, result, left, hrun, hsaves⟩, -⟩ :=
    run_saves_once ⟨"out"⟩ rehearsalCrew world
  have houtcome : outcome = (result, left) := hrun
  rw [houtcome] at hpath ⊢
  obtain ⟨_, doc, -, -, hdoc, hwrites, hload⟩ :=
    hsaves.saved _ (except_eq_ok_of_toOption hpath)
  exact ⟨hpath, doc, hdoc, hwrites, hload rehearsalCrew⟩

end BuildConductor.Interview
