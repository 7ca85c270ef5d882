/-! Texts for terminals.

A terminal takes an escape character and what follows it for a sequence that says
how to go on, and other control characters for orders. `plain` leaves out both,
for a reader that is no terminal: only tabs and the ends of lines and pages stay.
Texts without control characters stay as they are. -/
namespace BuildConductor.Text

/-- A text in a style, which ends with it. -/
def styled (style text : String) : String :=
  "\x1b[" ++ style ++ "m" ++ text ++ "\x1b[0m"

/-- The control characters that lay out a text. -/
def isLayout (c : Char) : Bool :=
  c == '\t' || c == '\n' || c == '\x0c' || c == '\r'

/-- Whether a character is shown where no sequence is open. -/
def isShown (c : Char) : Bool :=
  if c.toNat < 0x20 then isLayout c else c.toNat != 0x7F

/-- What a character can be in a sequence. -/
inductive SequencePart where
  | intermediate
  | parameter
  /-- A parameter that makes the sequence a private one. -/
  | privateMark
  | final
  /-- A control character, or none of ASCII. -/
  | other
deriving DecidableEq, Repr

def SequencePart.ofChar (c : Char) : SequencePart :=
  let n := c.toNat
  if n < 0x20 then .other
  else if n < 0x30 then .intermediate
  else if n < 0x3C then .parameter
  else if n < 0x40 then .privateMark
  else if n < 0x7F then .final
  else .other

/-- The sequence that is open at some place of a text. -/
inductive Sequence where
  /-- No sequence. -/
  | closed
  /-- After the escape character. -/
  | escape
  | escapeTail
  | control
  | device
  | deviceParameters
  | deviceTail
  /-- A string that is open until its terminator comes. -/
  | string
  /-- A string that the bell character ends. -/
  | command
deriving DecidableEq, Repr

/-- Whether a character ends a string: one of its bytes is the terminator of the
eight-bit codes. -/
def endsString (c : Char) : Bool :=
  (String.utf8EncodeChar c).contains 0x9C

namespace Sequence

/-- What the character after an escape character opens, if it opens anything. -/
def opened (c : Char) : Sequence :=
  if c = '[' then .control
  else if c = ']' then .command
  else if c = 'P' then .device
  else if c = 'X' ∨ c = '^' ∨ c = '_' then .string
  else .closed

/-- The sequence that is open after a character that is no escape character and
cancels nothing. -/
def continued (sequence : Sequence) (c : Char) : Sequence :=
  match sequence, SequencePart.ofChar c with
  | .closed, _ => .closed
  | .escape, .intermediate => .escapeTail
  | .escape, .final => opened c
  | .escape, .parameter | .escape, .privateMark => .closed
  | .escapeTail, .parameter | .escapeTail, .privateMark | .escapeTail, .final => .closed
  | .control, .final => .closed
  | .device, .intermediate | .deviceParameters, .intermediate => .deviceTail
  | .device, .parameter | .device, .privateMark => .deviceParameters
  | .deviceParameters, .privateMark => .string
  | .deviceTail, .parameter | .deviceTail, .privateMark => .string
  | .device, .final | .deviceParameters, .final | .deviceTail, .final => .string
  | .string, _ => if endsString c then .closed else .string
  | .command, _ => if c = '\x07' then .closed else .command
  | sequence, _ => sequence

/-- The sequence that is open after a character. An escape character opens a new
one everywhere. -/
def after (sequence : Sequence) (c : Char) : Sequence :=
  if c = '\x1b' then .escape
  else if c = '\x18' ∨ c = '\x1a' then .closed
  else sequence.continued c

/-- Whether a character that can be shown is shown in spite of the sequence. -/
def admits (sequence : Sequence) (c : Char) : Bool :=
  match sequence with
  | .closed => true
  | .escape | .escapeTail | .control => isLayout c
  | _ => false

end Sequence

/-- How far a text has been looked through. -/
structure Scan where
  sequence : Sequence
  /-- Whether the last character was shown. -/
  showing : Bool
deriving DecidableEq, Repr

namespace Scan

def shows (scan : Scan) (c : Char) : Bool :=
  isShown c && (scan.showing || scan.sequence.admits c)

/-- A sequence that a line end interrupts goes on at the next control character;
a character beyond ASCII closes it. -/
def next (scan : Scan) (c : Char) : Scan :=
  if scan.showing && isShown c then
    ⟨if c.toNat < 0x80 then scan.sequence else .closed, true⟩
  else
    ⟨scan.sequence.after c, scan.shows c⟩

end Scan

/-- What is shown of the rest of a text. -/
def shownList (scan : Scan) : List Char → List Char
  | [] => []
  | c :: rest =>
    if scan.shows c then c :: shownList (scan.next c) rest else shownList (scan.next c) rest

/-- A text without what only a terminal understands. -/
def plain (s : String) : String :=
  String.ofList (shownList ⟨.closed, false⟩ s.toList)

/-- Nothing is shown but what can be. -/
theorem isShown_of_mem_shownList {scan : Scan} {cs : List Char} {c : Char}
    (h : c ∈ shownList scan cs) : isShown c = true := by
  induction cs generalizing scan with
  | nil => simp [shownList] at h
  | cons d rest ih =>
    unfold shownList at h
    split at h
    · rename_i hd
      rcases List.mem_cons.1 h with rfl | h
      · exact (Bool.and_eq_true_iff.1 hd).1
      · exact ih h
    · exact ih h

theorem next_closed {showing : Bool} {c : Char} (h : isShown c = true) :
    Scan.next ⟨.closed, showing⟩ c = ⟨.closed, true⟩ := by
  have hcontrol : c ≠ '\x1b' := by
    rintro rfl
    simp [isShown, isLayout] at h
  cases showing with
  | true => simp [Scan.next, h]
  | false =>
    simp [Scan.next, Scan.shows, Sequence.admits, Sequence.after, Sequence.continued, h, hcontrol]

/-- A text in which everything can be shown is shown as it is. -/
theorem shownList_of_isShown {showing : Bool} {cs : List Char}
    (h : ∀ c ∈ cs, isShown c = true) : shownList ⟨.closed, showing⟩ cs = cs := by
  induction cs generalizing showing with
  | nil => rfl
  | cons c rest ih =>
    have hc := h c (List.mem_cons_self ..)
    have hshows : Scan.shows ⟨.closed, showing⟩ c = true := by
      simp [Scan.shows, Sequence.admits, hc]
    unfold shownList
    rw [if_pos hshows, next_closed hc, ih fun d hd => h d (List.mem_cons_of_mem c hd)]

example : plain "\x1b[1;31mred\x1b[0m and\ttab\x07" = "red and\ttab" := by decide +kernel
example : plain "\x1b]0;title\x07text" = "text" := by decide +kernel

end BuildConductor.Text
