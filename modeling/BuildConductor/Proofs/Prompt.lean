import BuildConductor.Proofs.Text.Encoding

/-! What the two prompters have in common.

A terminal takes the lines of its input one after the other, and shows its questions
(`Terminal.afterAll_eq`). A script hands out its answers (`Script.afterAll_eq`). `InStep`
says when a terminal has before it what a script has in store; one question gets the same
answer from both, and leaves them in step (`InStep.ask`). -/
namespace BuildConductor

open Text (bytes newline)

/-! ### Lines of bytes -/

/-- The bytes cut after every newline. Only the last line may lack one. -/
def linesOf : List UInt8 → List (List UInt8)
  | [] => []
  | b :: rest =>
    if b = newline then [b] :: linesOf rest
    else (b :: (linesOf rest).headD []) :: (linesOf rest).tail

theorem linesOf_newline (rest : List UInt8) :
    linesOf (newline :: rest) = [newline] :: linesOf rest :=
  if_pos rfl

theorem linesOf_cons {b : UInt8} (h : b ≠ newline) (rest : List UInt8) :
    linesOf (b :: rest) = (b :: (linesOf rest).headD []) :: (linesOf rest).tail :=
  if_neg h

theorem splitLine_newline (rest : List UInt8) : splitLine (newline :: rest) = ([newline], rest) :=
  if_pos rfl

theorem splitLine_cons {b : UInt8} (h : b ≠ newline) (rest : List UInt8) :
    splitLine (b :: rest) = (b :: (splitLine rest).1, (splitLine rest).2) :=
  if_neg h

/-- Nothing is lost by cutting. -/
theorem flatten_linesOf (input : List UInt8) : (linesOf input).flatten = input := by
  induction input with
  | nil => rfl
  | cons b rest ih =>
    by_cases hb : b = newline
    · rw [hb, linesOf_newline, List.flatten_cons, ih]
      rfl
    · rw [linesOf_cons hb]
      refine congrArg (b :: ·) (Eq.trans ?_ ih)
      cases linesOf rest <;> rfl

/-- Lines are taken from the first. -/
theorem splitLine_eq (input : List UInt8) :
    (splitLine input).1 = (linesOf input).headD [] ∧
      linesOf (splitLine input).2 = (linesOf input).tail := by
  induction input with
  | nil => exact ⟨rfl, rfl⟩
  | cons b rest ih =>
    by_cases hb : b = newline
    · rw [hb, splitLine_newline, linesOf_newline]
      exact ⟨rfl, rfl⟩
    · rw [splitLine_cons hb, linesOf_cons hb]
      exact ⟨congrArg _ ih.1, ih.2⟩

theorem isEmpty_splitLine (input : List UInt8) :
    (splitLine input).1.isEmpty = (linesOf input).isEmpty := by
  cases input with
  | nil => rfl
  | cons b rest =>
    by_cases hb : b = newline
    · rw [hb, splitLine_newline, linesOf_newline]
      rfl
    · rw [splitLine_cons hb, linesOf_cons hb]
      rfl

/-- A line ends at its newline. -/
theorem splitLine_append {line : List UInt8} (h : newline ∉ line) (rest : List UInt8) :
    splitLine (line ++ newline :: rest) = (line ++ [newline], rest) := by
  induction line with
  | nil => exact splitLine_newline rest
  | cons b line ih =>
    obtain ⟨hb, hline⟩ := not_or.1 fun hmem => h (List.mem_cons.2 hmem)
    rw [List.cons_append, splitLine_cons (Ne.symm hb), ih hline]
    rfl

/-- The last line may end without one. -/
theorem splitLine_of_not_mem {line : List UInt8} (h : newline ∉ line) :
    splitLine line = (line, []) := by
  induction line with
  | nil => rfl
  | cons b line ih =>
    obtain ⟨hb, hline⟩ := not_or.1 fun hmem => h (List.mem_cons.2 hmem)
    rw [splitLine_cons (Ne.symm hb), ih hline]

/-! ### Questions in a row -/

/-- How somebody is left by questions that he is asked one after the other. -/
def Prompter.afterAll {π : Type} (prompter : Prompter π) (user : π) (questions : List String) : π :=
  questions.foldl (fun user question => (prompter.ask question user).2) user

/-- What a terminal shows of questions where it has some lines of input: a question
without a line gets a newline behind it. -/
def transcriptOf : Nat → List String → String
  | _, [] => ""
  | 0, question :: rest => question ++ "\n" ++ transcriptOf 0 rest
  | lines + 1, question :: rest => question ++ transcriptOf lines rest

/-- One question takes one line, if there is one. -/
theorem Terminal.ask_left (question : String) (t : Terminal) :
    linesOf (t.ask question).2.unread = (linesOf t.unread).tail ∧
      (t.ask question).2.transcript =
        t.transcript ++ transcriptOf (linesOf t.unread).length [question] := by
  refine ⟨(splitLine_eq t.unread).2, ?_⟩
  have hempty := isEmpty_splitLine t.unread
  show t.transcript ++ (if (splitLine t.unread).1.isEmpty then question ++ "\n" else question) = _
  rw [hempty]
  cases linesOf t.unread <;> simp [transcriptOf]

/-- After some questions a terminal has taken as many lines, whatever they are, and has
shown the questions in order. -/
theorem Terminal.afterAll_eq (t : Terminal) (questions : List String) :
    terminalPrompter.afterAll t questions =
      ⟨((linesOf t.unread).drop questions.length).flatten,
        t.transcript ++ transcriptOf (linesOf t.unread).length questions⟩ := by
  induction questions generalizing t with
  | nil => simp [Prompter.afterAll, transcriptOf, flatten_linesOf]
  | cons question rest ih =>
    obtain ⟨hlines, hshown⟩ := t.ask_left question
    show terminalPrompter.afterAll (t.ask question).2 rest = _
    rw [ih, hlines, hshown]
    cases linesOf t.unread <;> simp [transcriptOf, String.append_assoc]

/-- After some questions a script has given as many answers, and knows the questions. -/
theorem Script.afterAll_eq (s : Script) (questions : List String) :
    scriptPrompter.afterAll s questions =
      ⟨s.answers.drop questions.length, s.questions ++ questions⟩ := by
  induction questions generalizing s with
  | nil => simp [Prompter.afterAll]
  | cons question rest ih =>
    show scriptPrompter.afterAll (s.ask question).2 rest = _
    rw [ih]
    simp [Script.ask]

/-! ### A terminal and a script in step -/

/-- What is typed to give answers: every answer on a line of its own. -/
def typed (answers : List String) : List UInt8 :=
  answers.flatMap fun answer => bytes (answer ++ "\n")

/-- Whether a terminal has before it what a script has in store. The newline behind the
last answer may be missing. -/
structure InStep (t : Terminal) (s : Script) : Prop where
  plain : ∀ answer ∈ s.answers, '\n' ∉ answer.toList
  unread : t.unread = typed s.answers ∨ t.unread = (typed s.answers).dropLast

/-- A line that is text is answered by the text, trimmed. -/
theorem Terminal.ask_eq {t : Terminal} {text : String} {rest : List UInt8}
    (h : splitLine t.unread = (bytes text, rest)) (question : String) :
    (t.ask question).1.answer = .ok (Text.trim text) ∧ (t.ask question).2.unread = rest := by
  unfold Terminal.ask
  rw [h]
  simp only [Text.fromUTF8?_bytes, and_self]

theorem typed_cons (answer : String) (rest : List String) :
    typed (answer :: rest) = bytes answer ++ newline :: typed rest := by
  simp [typed, Text.bytes_append]

/-- The first answer makes the first line, and what is behind it makes the others. -/
theorem InStep.firstLine {t : Terminal} {answer : String} {rest : List String}
    {questions : List String} (h : InStep t ⟨answer :: rest, questions⟩) :
    ∃ text unread, splitLine t.unread = (bytes text, unread) ∧ Text.trim text = Text.trim answer ∧
      (unread = typed rest ∨ unread = (typed rest).dropLast) := by
  have hanswer : newline ∉ bytes answer :=
    Text.newline_not_mem_bytes (h.plain answer List.mem_cons_self)
  have hline (unread : List UInt8) :
      splitLine (bytes answer ++ newline :: unread) = (bytes (answer ++ "\n"), unread) := by
    rw [splitLine_append hanswer, Text.bytes_append, Text.bytes_newline]
  have hunread := h.unread
  rw [typed_cons] at hunread
  rcases hunread with hunread | hunread
  · exact ⟨answer ++ "\n", typed rest, by rw [hunread, hline], Text.trim_append_newline answer,
      .inl rfl⟩
  rw [List.dropLast_append_of_ne_nil (List.cons_ne_nil _ _)] at hunread
  by_cases hrest : typed rest = []
  · refine ⟨answer, [], ?_, rfl, .inl hrest.symm⟩
    rw [hunread, hrest, List.dropLast_singleton, List.append_nil]
    exact splitLine_of_not_mem hanswer
  · refine ⟨answer ++ "\n", (typed rest).dropLast, ?_, Text.trim_append_newline answer, .inr rfl⟩
    rw [hunread, List.dropLast_cons_of_ne_nil hrest, hline]

/-- A question gets the same answer from both, also where nothing is left. -/
theorem InStep.ask {t : Terminal} {s : Script} (h : InStep t s) (question : String) :
    (t.ask question).1.answer = (s.ask question).1.answer ∧
      InStep (t.ask question).2 (s.ask question).2 := by
  obtain ⟨answers, questions⟩ := s
  cases answers with
  | nil =>
    have hunread : t.unread = [] := by
      rcases h.unread with hunread | hunread <;> exact hunread
    have hline : splitLine t.unread = (bytes "", []) := by
      rw [hunread]
      rfl
    obtain ⟨hanswer, hleft⟩ := Terminal.ask_eq hline question
    exact ⟨hanswer, List.forall_mem_nil _, .inl hleft⟩
  | cons answer rest =>
    obtain ⟨text, unread, hline, htrim, hrest⟩ := h.firstLine
    obtain ⟨hanswer, hleft⟩ := Terminal.ask_eq hline question
    refine ⟨?_, fun other hother => h.plain other (List.mem_cons_of_mem answer hother), ?_⟩
    · rw [hanswer, htrim]
      rfl
    · rw [hleft]
      exact hrest

end BuildConductor
