import Mathlib.Algebra.Ring.Nat
import BuildConductor.Rehearsal.Basic

/-! What a rehearsal did.

A `Rehearsal.Entry` is a call with its answer and what that came from, and a book is a list of
them. `Rehearsal.Answers` says what a call has to be answered with behind the calls of a book:
it counts how often an expectation answered in the book, and looks at no state. The state
after any calls is accounted for by such a book (`runAll_accounted`): one call accounts for
one more entry (`Accounts.run`), and all calls one after the other for all of theirs. -/
namespace BuildConductor

/-- Whether a pattern means a command. -/
def Pattern.Covers (command : Command) : Pattern → Prop
  | .exact text => command.display = text
  | .startsWith text => text.toList <+: command.display.toList
  | .any => True

theorem Pattern.matches_iff (pattern : Pattern) (command : Command) :
    pattern.matches command.display = true ↔ pattern.Covers command := by
  cases pattern with
  | exact text => exact beq_iff_eq
  | startsWith text => exact List.isPrefixOf_iff_prefix
  | any => exact iff_of_true rfl trivial

/-! ### Expectations -/

namespace Expectation

/-- An expectation after it has answered once more. -/
def use (e : Expectation) : Expectation :=
  {e with used := e.used + 1}

theorem fits_iff (e : Expectation) (command : Command) :
    e.fits command.display = true ↔
      e.pattern.Covers command ∧ ∀ limit ∈ e.limit, e.used < limit := by
  rw [fits, Bool.and_eq_true, Pattern.matches_iff, isAvailable]
  cases e.limit <;> simp

/-- Either no expectation fits, or the first that does answers and is used once more. -/
theorem useFirst_cases (display : String) (es : List Expectation) :
    (useFirst display es = none ∧ ∀ e ∈ es, e.fits display = false) ∨
      ∃ before e after, es = before ++ e :: after ∧ (∀ other ∈ before, other.fits display = false) ∧
        e.fits display = true ∧ useFirst display es = some (e.answer, before ++ e.use :: after) := by
  induction es with
  | nil => exact .inl ⟨rfl, List.forall_mem_nil _⟩
  | cons e rest ih =>
    cases hfits : e.fits display with
    | true =>
      exact .inr ⟨[], e, rest, rfl, List.forall_mem_nil _, hfits, by rw [useFirst, if_pos hfits]; rfl⟩
    | false =>
      rw [useFirst, if_neg (by rw [hfits]; exact Bool.false_ne_true)]
      rcases ih with ⟨hnone, hall⟩ | ⟨before, first, after, rfl, hbefore, hfirst, huse⟩
      · exact .inl ⟨by rw [hnone]; rfl, List.forall_mem_cons.2 ⟨hfits, hall⟩⟩
      · exact .inr ⟨e :: before, first, after, rfl, List.forall_mem_cons.2 ⟨hfits, hbefore⟩, hfirst,
          by rw [huse]; rfl⟩

end Expectation

namespace Rehearsal

/-! ### Books -/

/-- What an answer came from. -/
inductive Source where
  /-- No such tool is there. -/
  | missing
  /-- The expectation with this index. -/
  | expectation (index : Nat)
  | fallback
  /-- Nothing is said about such a command. -/
  | unexpected
deriving DecidableEq

def Source.isExpectation : Source → Bool
  | .expectation _ => true
  | _ => false

/-- A call and what became of it. -/
structure Entry where
  call : Call
  source : Source
  answer : Except LaunchFailure Output

/-- How often an expectation answered. -/
def uses (book : List Entry) (index : Nat) : Nat :=
  book.countP fun entry => entry.source = .expectation index

/-- Whether an expectation can answer a command behind the calls of a book. -/
structure Ready (start : Rehearsal) (book : List Entry) (command : Command) (index : Nat)
    (e : Expectation) : Prop where
  listed : start.expectations[index]? = some e
  covers : e.pattern.Covers command
  left : ∀ limit ∈ e.limit, uses book index < limit

/-- What a call is to be answered with behind the calls of a book. -/
inductive Answers (start : Rehearsal) (book : List Entry) (call : Call) :
    Source → Except LaunchFailure Output → Prop
  | missing (h : call.command.program ∈ start.missing) :
    Answers start book call .missing (.error (Command.missingTool call.command.program))
  | expectation {index : Nat} {e : Expectation} (hthere : call.command.program ∉ start.missing)
    (hready : start.Ready book call.command index e)
    (hfirst : ∀ earlier < index, ∀ other, ¬start.Ready book call.command earlier other) :
    Answers start book call (.expectation index) e.answer
  | fallback {output : Output} (hthere : call.command.program ∉ start.missing)
    (hnone : ∀ index e, ¬start.Ready book call.command index e)
    (h : start.fallback = some output) :
    Answers start book call .fallback (.ok output)
  | unexpected (hthere : call.command.program ∉ start.missing)
    (hnone : ∀ index e, ¬start.Ready book call.command index e) (h : start.fallback = none) :
    Answers start book call .unexpected
      (.error ⟨["unexpected command: " ++ call.command.display]⟩)

/-- Whether a book accounts for all that happened between two states. -/
structure Accounts (start : Rehearsal) (book : List Entry) (last : Rehearsal) : Prop where
  answered : ∀ past entry rest, book = past ++ entry :: rest →
    start.Answers past entry.call entry.source entry.answer
  /-- Nothing of an expectation changes but its count, which is the one of the book. -/
  used : ∀ index, last.expectations[index]? =
    start.expectations[index]?.map fun (e : Expectation) => {e with used := uses book index}
  within : ∀ e ∈ last.expectations, ∀ limit ∈ e.limit, e.used ≤ limit
  total : (last.expectations.map Expectation.used).sum =
    book.countP fun entry => entry.source.isExpectation
  calls : last.calls = start.calls ++ book.map Entry.call
  fallback : last.fallback = start.fallback
  missing : last.missing = start.missing

/-- Whether no expectation has been used yet. -/
def Unused (rehearsal : Rehearsal) : Prop :=
  ∀ e ∈ rehearsal.expectations, e.used = 0

theorem Unused.accounts {start : Rehearsal} (h : start.Unused) : start.Accounts [] start where
  answered past entry rest heq := absurd heq (by simp)
  used index := by
    cases he : start.expectations[index]? with
    | none => rfl
    | some e =>
      have hused := h e (List.mem_of_getElem? he)
      rw [Option.map_some, show uses [] index = e.used by rw [hused]; rfl]
  within e he limit _ := by
    rw [h e he]
    exact Nat.zero_le limit
  total := by
    rw [List.map_congr_left (g := fun _ => 0) h, List.map_const', List.sum_replicate_nat,
      Nat.mul_zero]
    rfl
  calls := (List.append_nil _).symm
  fallback := rfl
  missing := rfl

/-! ### One call -/

/-- What a call does: a missing tool and a command without an expectation only enter the
record, and otherwise the first expectation that fits is used. -/
theorem run_cases (call : Call) (rehearsal : Rehearsal) :
    let recorded := {rehearsal with calls := rehearsal.calls ++ [call]}
    (call.command.program ∈ rehearsal.missing ∧
      rehearsal.run call = (.error (Command.missingTool call.command.program), recorded)) ∨
    call.command.program ∉ rehearsal.missing ∧
      ((∃ before e after, rehearsal.expectations = before ++ e :: after ∧
        (∀ other ∈ before, other.fits call.command.display = false) ∧
        e.fits call.command.display = true ∧
        rehearsal.run call = (e.answer, {recorded with expectations := before ++ e.use :: after})) ∨
      (∀ e ∈ rehearsal.expectations, e.fits call.command.display = false) ∧
        ((∃ output, rehearsal.fallback = some output ∧
          rehearsal.run call = (.ok output, recorded)) ∨
        rehearsal.fallback = none ∧ rehearsal.run call =
          (.error ⟨["unexpected command: " ++ call.command.display]⟩, recorded))) := by
  intro recorded
  by_cases hmissing : call.command.program ∈ rehearsal.missing
  · exact .inl ⟨hmissing, by rw [run, answer, if_pos (List.contains_iff_mem.2 hmissing)]⟩
  have hthere : rehearsal.missing.contains call.command.program = false := by simpa using hmissing
  refine .inr ⟨hmissing, ?_⟩
  rcases Expectation.useFirst_cases call.command.display rehearsal.expectations with
    ⟨hnone, hall⟩ | ⟨before, e, after, heq, hbefore, hfits, huse⟩
  · refine .inr ⟨hall, ?_⟩
    cases hfallback : rehearsal.fallback with
    | none =>
      simp only [run, answer, hthere, hnone, hfallback, Bool.false_eq_true, if_false]
      exact .inr ⟨trivial, by rw [← hfallback]⟩
    | some output =>
      simp only [run, answer, hthere, hnone, hfallback, Bool.false_eq_true, if_false]
      exact .inl ⟨output, rfl, by rw [← hfallback]⟩
  · refine .inl ⟨before, e, after, heq, hbefore, hfits, ?_⟩
    simp only [run, answer, hthere, huse, Bool.false_eq_true, if_false]
    rfl

theorem uses_concat (book : List Entry) (entry : Entry) (index : Nat) :
    uses (book ++ [entry]) index =
      uses book index + if entry.source = .expectation index then 1 else 0 := by
  simp [uses, List.countP_append, List.countP_cons]

section Step
variable {start rehearsal : Rehearsal} {book : List Entry} (h : start.Accounts book rehearsal)
include h

/-- An expectation that is ready behind the book fits in the state. -/
theorem Accounts.fits_of_ready {command : Command} {index : Nat} {first : Expectation}
    (hready : start.Ready book command index first) :
    ∃ e, rehearsal.expectations[index]? = some e ∧ e.fits command.display = true := by
  refine ⟨{first with used := uses book index}, ?_, ?_⟩
  · rw [h.used, hready.listed, Option.map_some]
  · exact (Expectation.fits_iff _ _).2 ⟨hready.covers, hready.left⟩

/-- An expectation that fits in the state is ready behind the book. -/
theorem Accounts.ready_of_fits {command : Command} {index : Nat} {e : Expectation}
    (he : rehearsal.expectations[index]? = some e) (hfits : e.fits command.display = true) :
    ∃ first, start.Ready book command index first ∧ e = {first with used := uses book index} := by
  rw [h.used] at he
  obtain ⟨first, hfirst, rfl⟩ := Option.map_eq_some_iff.1 he
  obtain ⟨hcovers, hleft⟩ := (Expectation.fits_iff _ _).1 hfits
  exact ⟨first, ⟨hfirst, hcovers, hleft⟩, rfl⟩

/-- None is ready where none fits. -/
theorem Accounts.not_ready {command : Command}
    (hall : ∀ e ∈ rehearsal.expectations, e.fits command.display = false) (index : Nat)
    (first : Expectation) : ¬start.Ready book command index first := by
  intro hready
  obtain ⟨e, he, hfits⟩ := h.fits_of_ready hready
  rw [hall e (List.mem_of_getElem? he)] at hfits
  cases hfits

/-- One more entry that is answered as it is to be. -/
theorem Accounts.answered_concat {entry : Entry}
    (hentry : start.Answers book entry.call entry.source entry.answer) (past : List Entry)
    (other : Entry) (rest : List Entry) (heq : book ++ [entry] = past ++ other :: rest) :
    start.Answers past other.call other.source other.answer := by
  rcases List.eq_nil_or_concat rest with rfl | ⟨rest, last, rfl⟩
  · obtain ⟨rfl, hsame⟩ := List.append_inj' heq rfl
    cases hsame
    exact hentry
  · rw [List.concat_eq_append, ← List.cons_append, ← List.append_assoc] at heq
    exact h.answered past other rest (List.append_inj' heq rfl).1

/-- A call that uses no expectation is accounted for by its entry. -/
theorem Accounts.record {entry : Entry} (hsource : entry.source.isExpectation = false)
    (hentry : start.Answers book entry.call entry.source entry.answer) :
    start.Accounts (book ++ [entry])
      {rehearsal with calls := rehearsal.calls ++ [entry.call]} where
  answered := h.answered_concat hentry
  used index := by
    have hne : entry.source ≠ .expectation index := fun heq => by
      rw [heq] at hsource
      cases hsource
    rw [uses_concat, if_neg hne, Nat.add_zero]
    exact h.used index
  within := h.within
  total := by
    rw [List.countP_append, List.countP_singleton, hsource]
    exact h.total
  calls := by rw [h.calls, List.map_append, List.append_assoc]; rfl
  fallback := h.fallback
  missing := h.missing

/-- A call that is answered by the first expectation that fits is accounted for by its
entry. -/
theorem Accounts.use {call : Call} {before after : List Expectation} {e : Expectation}
    (hthere : call.command.program ∉ start.missing)
    (heq : rehearsal.expectations = before ++ e :: after)
    (hbefore : ∀ other ∈ before, other.fits call.command.display = false)
    (hfits : e.fits call.command.display = true) :
    start.Accounts (book ++ [⟨call, .expectation before.length, e.answer⟩])
      {rehearsal with
        calls := rehearsal.calls ++ [call], expectations := before ++ e.use :: after} where
  answered := by
    have he : rehearsal.expectations[before.length]? = some e := by rw [heq]; simp
    obtain ⟨first, hready, rfl⟩ := h.ready_of_fits he hfits
    refine h.answered_concat (.expectation hthere hready fun earlier hearlier other hother => ?_)
    obtain ⟨found, hfound, hfits⟩ := h.fits_of_ready hother
    rw [heq, List.getElem?_append_left hearlier] at hfound
    rw [hbefore found (List.mem_of_getElem? hfound)] at hfits
    cases hfits
  used index := by
    have hset : before ++ e.use :: after = rehearsal.expectations.set before.length e.use := by
      rw [heq]
      simp
    have he : rehearsal.expectations[before.length]? = some e := by rw [heq]; simp
    rw [hset, List.getElem?_set, uses_concat]
    by_cases hindex : before.length = index
    · subst hindex
      obtain ⟨first, hready, rfl⟩ := h.ready_of_fits he hfits
      have hlength : before.length < rehearsal.expectations.length := by rw [heq]; simp
      rw [if_pos rfl, if_pos hlength, hready.listed, if_pos rfl]
      rfl
    · have hother : Source.expectation before.length ≠ .expectation index :=
        fun hsame => hindex (Source.expectation.inj hsame)
      rw [if_neg hindex, if_neg hother, h.used, Nat.add_zero]
  within := by
    have hwithin := h.within
    rw [heq] at hwithin
    obtain ⟨hearlier, hlater⟩ := List.forall_mem_append.1 hwithin
    refine List.forall_mem_append.2 ⟨hearlier, List.forall_mem_cons.2 ⟨fun limit hlimit => ?_,
      (List.forall_mem_cons.1 hlater).2⟩⟩
    exact ((Expectation.fits_iff _ _).1 hfits).2 limit hlimit
  total := by
    have htotal := h.total
    rw [heq] at htotal
    simp only [List.map_append, List.map_cons, List.sum_append, List.sum_cons,
      List.countP_append, List.countP_singleton, Expectation.use, Source.isExpectation,
      if_true] at htotal ⊢
    omega
  calls := by rw [h.calls, List.map_append, List.append_assoc]; rfl
  fallback := h.fallback
  missing := h.missing

/-- Every call is accounted for by one more entry. -/
theorem Accounts.run (call : Call) : ∃ source,
    start.Accounts (book ++ [⟨call, source, (rehearsal.run call).1⟩]) (rehearsal.run call).2 := by
  rcases run_cases call rehearsal with ⟨hmissing, hrun⟩ | ⟨hthere, hfound | ⟨hall, hnone⟩⟩
  · rw [hrun]
    exact ⟨.missing, h.record rfl (.missing (h.missing ▸ hmissing))⟩
  · obtain ⟨before, e, after, heq, hbefore, hfits, hrun⟩ := hfound
    rw [hrun]
    exact ⟨_, h.use (h.missing ▸ hthere) heq hbefore hfits⟩
  · have hthere := h.missing ▸ hthere
    have hready := h.not_ready hall
    rcases hnone with ⟨output, hfallback, hrun⟩ | ⟨hfallback, hrun⟩
    · rw [hrun]
      exact ⟨.fallback, h.record rfl (.fallback hthere hready (h.fallback ▸ hfallback))⟩
    · rw [hrun]
      exact ⟨.unexpected, h.record rfl (.unexpected hthere hready (h.fallback ▸ hfallback))⟩

end Step

/-- A tool that is missing answers nothing but that. -/
theorem Answers.of_missing {start : Rehearsal} {book : List Entry} {call : Call} {source : Source}
    {answer : Except LaunchFailure Output} (h : start.Answers book call source answer)
    (hmissing : call.command.program ∈ start.missing) :
    source = .missing ∧ answer = .error (Command.missingTool call.command.program) := by
  cases h with
  | missing => exact ⟨rfl, rfl⟩
  | expectation hthere => exact absurd hmissing hthere
  | fallback hthere => exact absurd hmissing hthere
  | unexpected hthere => exact absurd hmissing hthere

/-! ### All calls -/

/-- The answers to calls one after the other, and the state after them. -/
def runAll (rehearsal : Rehearsal) : List Call → List (Except LaunchFailure Output) × Rehearsal
  | [] => ([], rehearsal)
  | call :: calls =>
    let (answer, next) := rehearsal.run call
    let (answers, last) := next.runAll calls
    (answer :: answers, last)

theorem Accounts.runAll {start rehearsal : Rehearsal} {book : List Entry}
    (h : start.Accounts book rehearsal) (calls : List Call) :
    ∃ more : List Entry, more.map Entry.call = calls ∧
      more.map Entry.answer = (rehearsal.runAll calls).1 ∧
      start.Accounts (book ++ more) (rehearsal.runAll calls).2 := by
  induction calls generalizing rehearsal book with
  | nil => exact ⟨[], rfl, rfl, by rw [List.append_nil]; exact h⟩
  | cons call calls ih =>
    obtain ⟨source, hnext⟩ := h.run call
    obtain ⟨more, hcalls, hanswers, hlast⟩ := ih hnext
    refine ⟨⟨call, source, (rehearsal.run call).1⟩ :: more, ?_, ?_, ?_⟩
    · rw [List.map_cons, hcalls]
    · rw [List.map_cons, hanswers]
      rfl
    · rw [List.append_cons]
      exact hlast

theorem firstUnmet_eq_none_iff (index : Nat) (es : List Expectation) :
    firstUnmet index es = none ↔ ∀ e ∈ es, ∀ limit ∈ e.limit, e.used = limit := by
  induction es generalizing index with
  | nil => exact iff_of_true rfl (List.forall_mem_nil _)
  | cons e rest ih =>
    rw [List.forall_mem_cons, firstUnmet]
    cases e.limit with
    | none => simp [ih]
    | some limit => by_cases hused : e.used = limit <;> simp [ih, hused]

theorem verify_eq_ok_iff (rehearsal : Rehearsal) :
    rehearsal.verify = .ok () ↔
      ∀ e ∈ rehearsal.expectations, ∀ limit ∈ e.limit, e.used = limit := by
  rw [← firstUnmet_eq_none_iff 0, verify]
  cases firstUnmet 0 rehearsal.expectations <;> simp

/-- Whatever is called, a rehearsal that starts unused answers as a book says in which every
call has an entry, in order: with the first expectation that covers it and has uses left, else
with the fallback, else with a failure, which is also all that a missing tool gets. No
expectation is used more often than its limit, nor counted otherwise than in the book, every
call is recorded, and the rehearsal verifies if and only if all limits are reached. -/
theorem runAll_accounted {start : Rehearsal} (h : start.Unused) (calls : List Call) :
    ∃ book : List Entry, book.map Entry.call = calls ∧
      book.map Entry.answer = (start.runAll calls).1 ∧
      start.Accounts book (start.runAll calls).2 ∧
      (∀ entry ∈ book, entry.call.command.program ∈ start.missing → entry.source = .missing ∧
        entry.answer = .error (Command.missingTool entry.call.command.program)) ∧
      ((start.runAll calls).2.verify = .ok () ↔
        ∀ e ∈ (start.runAll calls).2.expectations, ∀ limit ∈ e.limit, e.used = limit) := by
  obtain ⟨book, hcalls, hanswers, haccounts⟩ := h.accounts.runAll calls
  refine ⟨book, hcalls, hanswers, haccounts, fun entry hentry hmissing => ?_, verify_eq_ok_iff _⟩
  obtain ⟨past, rest, heq⟩ := List.append_of_mem hentry
  exact (haccounts.answered past entry rest heq).of_missing hmissing

/-- Expectations that cover the same commands, one that can never be used, and a tool that is
missing. -/
def overlapping : Rehearsal where
  expectations :=
    [⟨.exact "git status", .ok (silent ⟨some 0⟩), some 1, 0⟩,
      ⟨.startsWith "git", .ok (silent ⟨some 1⟩), some 0, 0⟩,
      ⟨.any, .ok (silent ⟨none⟩), some 2, 0⟩]
  fallback := none
  missing := ["ctest"]
  calls := []

/-- Two calls of the same command, one of the missing tool between them, and one more than
there is an answer for. -/
def overlappingCalls : List Call :=
  [⟨⟨"git", ["status"]⟩, ⟨"/a"⟩, true⟩, ⟨⟨"ctest", []⟩, ⟨"/a"⟩, false⟩,
    ⟨⟨"git", ["status"]⟩, ⟨"/b"⟩, false⟩, ⟨⟨"cmake", []⟩, ⟨"/b"⟩, false⟩,
    ⟨⟨"cmake", []⟩, ⟨"/b"⟩, false⟩]

theorem runAll_accounted_overlapping :
    overlapping.Unused ∧
      (∃ book : List Entry, book.map Entry.call = overlappingCalls ∧
        overlapping.Accounts book (overlapping.runAll overlappingCalls).2) ∧
      (overlapping.runAll overlappingCalls).2.expectations.map Expectation.used = [1, 0, 2] ∧
      (overlapping.runAll overlappingCalls).2.verify = .ok () := by
  have hunused : overlapping.Unused := by
    simp [Unused, overlapping]
  obtain ⟨book, hcalls, -, haccounts, -, hverify⟩ := runAll_accounted hunused overlappingCalls
  exact ⟨hunused, ⟨book, hcalls, haccounts⟩, by decide, hverify.2 (by decide)⟩

end Rehearsal

end BuildConductor
