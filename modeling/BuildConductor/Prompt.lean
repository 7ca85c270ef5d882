import BuildConductor.Text.Blank
import BuildConductor.Text.Case

/-! Asking.

A prompter answers questions from a state of its own. Two are given: a terminal
that reads lines of bytes, and a script of answers that are ready. -/
namespace BuildConductor

/-- Why a question stays without an answer. -/
inductive PromptError where
  /-- The line that was read is not text. -/
  | notText
deriving DecidableEq, Repr

def PromptError.message : PromptError → String
  | .notText => "failed to read answer: stream did not contain valid UTF-8"

/-- The answer to a question, and what asking showed. -/
structure Reply where
  answer : Except PromptError String
  shown : String

/-- Somebody who can be asked. An empty answer accepts the default. -/
structure Prompter (π : Type) where
  ask : String → π → Reply × π

/-- A yes-or-no question with its default. -/
def confirmQuestion (question : String) (default : Bool) : String :=
  question ++ " [y/n] (default: " ++ (if default then "y" else "n") ++ "): "

/-- Where yes is the default all but an explicit no means yes, and the other way
round. -/
def isConfirmed (default : Bool) (answer : String) : Bool :=
  let answer := Text.lower answer
  if default then answer != "n" && answer != "no" else answer == "y" || answer == "yes"

/-! ### A terminal -/

/-- Bytes that are still to be read, and everything shown so far. -/
structure Terminal where
  unread : List UInt8
  transcript : String

/-- Bytes up to and including the first newline, and the bytes after it. -/
def splitLine : List UInt8 → List UInt8 × List UInt8
  | [] => ([], [])
  | b :: rest =>
    if b = 0x0A then ([b], rest)
    else
      let (line, rest) := splitLine rest
      (b :: line, rest)

/-- Reads one line. Where the input has ended the answer is empty, and a newline
keeps the transcript readable. -/
def Terminal.ask (question : String) (t : Terminal) : Reply × Terminal :=
  let (line, rest) := splitLine t.unread
  let shown := if line.isEmpty then question ++ "\n" else question
  let answer :=
    match String.fromUTF8? ⟨line.toArray⟩ with
    | some s => .ok (Text.trim s)
    | none => .error .notText
  (⟨answer, shown⟩, ⟨rest, t.transcript ++ shown⟩)

def terminalPrompter : Prompter Terminal := ⟨Terminal.ask⟩

/-! ### A script -/

/-- Answers that are ready, and the questions asked so far. -/
structure Script where
  answers : List String
  questions : List String
deriving DecidableEq, Repr

/-- Gives the next answer; where they have run out, the empty one. -/
def Script.ask (question : String) (s : Script) : Reply × Script :=
  let answer :=
    match s.answers with
    | [] => ""
    | answer :: _ => Text.trim answer
  (⟨.ok answer, ""⟩, ⟨s.answers.tail, s.questions ++ [question]⟩)

def scriptPrompter : Prompter Script := ⟨Script.ask⟩

end BuildConductor
