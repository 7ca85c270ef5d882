import Mathlib.Tactic.Choose
import BuildConductor.Proofs.Json.Brackets

/-! The form of texts.

`Written` is the grammar of texts whatever they mean: numbers may be of any size, brackets
may be nested to any depth, and an escape need not stand for a character. It says which
tree of scalars, lists and objects a text is written for; what spells a value is one of
these texts (`Spells.exists_tree`). A string either spells characters or is refused where
they are asked for (`StringBody.settled`). -/
namespace BuildConductor.Json

open Decimal (ne_of_isDigit)

/-! ### Strings -/

/-- The units of a string: a character, or an escape. -/
inductive StringUnit : List Char → Prop
  | plain {c : Char} (hquote : c ≠ '"') (hbackslash : c ≠ '\\') (hcontrol : ¬c.toNat < 0x20) :
    StringUnit [c]
  | short {letter c : Char} (h : shortEscape? letter = some c) : StringUnit ['\\', letter]
  | hex {a b c d : Char} {n : Nat} (h : hexQuad? a b c d = some n) :
    StringUnit ['\\', 'u', a, b, c, d]

/-- What stands between the quotes of a string. -/
inductive StringBody : List Char → Prop
  | nil : StringBody []
  | cons {piece rest : List Char} (hunit : StringUnit piece) (hrest : StringBody rest) :
    StringBody (piece ++ rest)

/-- Whether a character stands for itself in a string. -/
def isPlain (c : Char) : Bool :=
  c != '"' && c != '\\' && !decide (c.toNat < 0x20)

theorem StringBody.of_plain {text : List Char} (h : text.all isPlain = true) :
    StringBody text := by
  induction text with
  | nil => exact .nil
  | cons c text ih =>
    simp only [List.all_cons, isPlain, Bool.and_eq_true, bne_iff_ne, Bool.not_eq_true',
      decide_eq_false_iff_not] at h
    obtain ⟨⟨⟨hquote, hbackslash⟩, hcontrol⟩, hrest⟩ := h
    exact .cons (.plain hquote hbackslash hcontrol) (ih (by simpa [isPlain] using hrest))

theorem SpellsChar.body {piece rest : List Char} {c : Char} (h : SpellsChar piece c)
    (hrest : StringBody rest) : StringBody (piece ++ rest) := by
  cases h with
  | plain hquote hbackslash hcontrol => exact .cons (.plain hquote hbackslash hcontrol) hrest
  | short h => exact .cons (.short h) hrest
  | codeUnit h => exact .cons (.hex h) hrest
  | @pair a b c d e f g h _ _ hfirst _ hsecond _ =>
    -- Each half is an escape of its own.
    have hhalf : StringBody (['\\', 'u', e, f, g, h] ++ rest) := .cons (.hex hsecond) hrest
    have hboth : StringBody (['\\', 'u', a, b, c, d] ++ (['\\', 'u', e, f, g, h] ++ rest)) :=
      .cons (.hex hfirst) hhalf
    exact hboth

theorem SpellsChars.body {spelled text : List Char} (h : SpellsChars spelled text) :
    StringBody spelled := by
  induction h with
  | nil => exact .nil
  | cons hc _ ih => exact hc.body ih

/-- Whether a string spells characters, or is refused where they are asked for. -/
def SettledBody (body : List Char) : Prop :=
  (∃ text, SpellsChars body text) ∨ ∀ rest, (readChars (body ++ '"' :: rest)).toOption = none

theorem SettledBody.cons {piece rest : List Char} {c : Char} (h : SpellsChar piece c)
    (hrest : SettledBody rest) : SettledBody (piece ++ rest) := by
  rcases hrest with ⟨text, htext⟩ | hrefused
  · exact .inl ⟨c :: text, .cons h htext⟩
  · refine .inr fun more => ?_
    rw [List.append_assoc, h.read, except_map_toOption, hrefused more, Option.map_none]

theorem settledBody_of_readEscape {tail : List Char}
    (h : ∀ rest, (readEscape (tail ++ '"' :: rest)).toOption = none) :
    SettledBody ('\\' :: tail) := by
  refine .inr fun rest => ?_
  have hrest := h rest
  rw [List.cons_append, readChars]
  simp only [Char.reduceEq, if_false, if_true]
  split <;> rename_i heq
  · rfl
  · rw [heq] at hrest
    cases hrest

section Surrogates
variable {a b c d : Char} {n : Nat} (h : hexQuad? a b c d = some n)
include h

/-- The second half of a pair does not come first. -/
theorem readEscape_low (hlow : isLowSurrogate n = true) (rest : List Char) :
    readEscape ('u' :: a :: b :: c :: d :: rest) = .error ⟨.loneSurrogate, rest, 0⟩ := by
  rw [readEscape_hex]
  simp only [readCodePoint, readHex, h, hlow, if_true]

/-- The first half of a pair wants the second. -/
theorem readEscape_high (hhigh : isHighSurrogate n = true) (rest : List Char) :
    readEscape ('u' :: a :: b :: c :: d :: rest) = readLowSurrogate n rest := by
  rw [readEscape_hex]
  simp only [readCodePoint, readHex, h, not_isLowSurrogate hhigh, hhigh, Bool.false_eq_true,
    if_false, if_true]

end Surrogates

/-- After the first half of a pair, the string goes on with the second half, or it is
refused. -/
theorem settledBody_after_high {a b c d : Char} {n : Nat} (h : hexQuad? a b c d = some n)
    (hhigh : isHighSurrogate n = true) {piece rest : List Char} (hunit : StringUnit piece)
    (hrest : SettledBody rest) : SettledBody ('\\' :: 'u' :: a :: b :: c :: d :: (piece ++ rest)) := by
  cases hunit with
  | plain _ hbackslash _ =>
    refine settledBody_of_readEscape fun more => ?_
    simp only [List.cons_append, List.nil_append, readEscape_high h hhigh, readLowSurrogate,
      hbackslash, if_false]
    rfl
  | @short letter _ hletter =>
    have hu : letter ≠ 'u' := by
      rintro rfl
      cases hletter
    refine settledBody_of_readEscape fun more => ?_
    simp only [List.cons_append, List.nil_append, readEscape_high h hhigh, readLowSurrogate,
      readLowSurrogate.readLowDigits, hu, if_true, if_false]
    rfl
  | @hex e f g i low hquad =>
    by_cases hlow : isLowSurrogate low = true
    · exact hrest.cons (.pair h hhigh hquad hlow)
    · refine settledBody_of_readEscape fun more => ?_
      simp only [List.cons_append, List.nil_append, readEscape_high h hhigh, readLowSurrogate,
        readLowSurrogate.readLowDigits, readHex, hquad, hlow, if_true]
      rfl

/-- A string spells characters, or it is refused where they are asked for. -/
theorem StringBody.settled {body : List Char} (h : StringBody body) : SettledBody body := by
  -- The first half of a pair depends on the unit after it.
  suffices hboth : SettledBody body ∧ ∀ {a b c d : Char} {n : Nat}, hexQuad? a b c d = some n →
      isHighSurrogate n = true → SettledBody ('\\' :: 'u' :: a :: b :: c :: d :: body) from hboth.1
  induction h with
  | nil =>
    refine ⟨.inl ⟨[], .nil⟩, fun h hhigh => ?_⟩
    refine settledBody_of_readEscape fun more => ?_
    simp only [List.cons_append, List.nil_append, readEscape_high h hhigh]
    rfl
  | @cons _ rest hunit _ ih =>
    refine ⟨?_, fun h hhigh => settledBody_after_high h hhigh hunit ih.1⟩
    cases hunit with
    | plain hquote hbackslash hcontrol => exact ih.1.cons (.plain hquote hbackslash hcontrol)
    | short h => exact ih.1.cons (.short h)
    | @hex a b c d n h =>
      by_cases hlow : isLowSurrogate n = true
      · refine settledBody_of_readEscape fun more => ?_
        have hlone := readEscape_low h hlow (rest ++ '"' :: more)
        exact congrArg Except.toOption hlone
      by_cases hhigh : isHighSurrogate n = true
      · exact ih.2 h hhigh
      · exact ih.1.cons (.codeUnit h (by simpa using hlow) (by simpa using hhigh))

/-! ### Trees -/

/-- A scalar, as it is written. -/
inductive ScalarText : List Char → Prop
  | null : ScalarText "null".toList
  | true : ScalarText "true".toList
  | false : ScalarText "false".toList
  | positive {text : List Char} {parts : NumberParts} (hparts : SpellsParts text parts) :
    ScalarText text
  | negative {text : List Char} {parts : NumberParts} (hparts : SpellsParts text parts) :
    ScalarText ('-' :: text)
  | string {body : List Char} (hbody : StringBody body) : ScalarText ('"' :: (body ++ ['"']))

/-- The scalars, lists and objects of a text. Scalars and keys are kept as they are
written. -/
inductive Tree where
  | scalar (text : List Char)
  | array (items : List Tree)
  | object (members : List (List Char × Tree))
deriving Inhabited

/-- A tree within brackets, as it is written there. -/
structure Branch where
  before : List Char
  text : List Char
  after : List Char
  tree : Tree

namespace Branch

def written (branch : Branch) : List Char :=
  branch.before ++ (branch.text ++ branch.after)

structure Spaced (branch : Branch) : Prop where
  before : AllSpaces branch.before
  after : AllSpaces branch.after

end Branch

/-- A member of an object, as it is written there. -/
structure KeyedBranch where
  before : List Char
  keyText : List Char
  afterKey : List Char
  branch : Branch

namespace KeyedBranch

def written (member : KeyedBranch) : List Char :=
  member.before ++
    '"' :: (member.keyText ++ '"' :: (member.afterKey ++ ':' :: member.branch.written))

def keyed (member : KeyedBranch) : List Char × Tree :=
  (member.keyText, member.branch.tree)

structure Spaced (member : KeyedBranch) : Prop where
  before : AllSpaces member.before
  key : StringBody member.keyText
  afterKey : AllSpaces member.afterKey
  branch : member.branch.Spaced

end KeyedBranch

/-- The texts that are written for a tree. -/
inductive Written : List Char → Tree → Prop
  | scalar {text : List Char} (h : ScalarText text) : Written text (.scalar text)
  | array {blanks : List Char} {branches : List Branch} (hblanks : AllSpaces blanks)
    (hspaced : ∀ branch ∈ branches, branch.Spaced)
    (hwritten : ∀ branch ∈ branches, Written branch.text branch.tree) :
    Written ('[' :: (separated blanks (branches.map Branch.written) ++ [']']))
      (.array (branches.map Branch.tree))
  | object {blanks : List Char} {members : List KeyedBranch} (hblanks : AllSpaces blanks)
    (hspaced : ∀ member ∈ members, member.Spaced)
    (hwritten : ∀ member ∈ members, Written member.branch.text member.branch.tree) :
    Written ('\x7b' :: (separated blanks (members.map KeyedBranch.written) ++ ['\x7d']))
      (.object (members.map KeyedBranch.keyed))

/-- Whether a text is written for a tree, with blanks around it. -/
def Tree.HasText (tree : Tree) (text : String) : Prop :=
  ∃ body, Written body tree ∧ Frames body text.toList

theorem Branch.Spaced.frames {branch : Branch} (h : branch.Spaced) :
    Frames branch.text branch.written :=
  ⟨_, _, h.before, h.after, rfl⟩

/-- A scalar begins with neither a blank nor a bracket. -/
theorem ScalarText.starts {text : List Char} (h : ScalarText text) :
    ∃ c rest, text = c :: rest ∧ isSpace c = Bool.false ∧ c ≠ ']' ∧ c ≠ '[' ∧ c ≠ '\x7b' := by
  cases h with
  | positive hparts =>
    obtain ⟨c, rest, htext, hc⟩ := hparts.exists_digit
    exact ⟨c, rest, htext, isSpace_of_isDigit hc, ne_of_isDigit hc rfl, ne_of_isDigit hc rfl,
      ne_of_isDigit hc rfl⟩
  | _ => exact ⟨_, _, rfl, rfl, by decide⟩

theorem Written.starts {text : List Char} {tree : Tree} (h : Written text tree) :
    StartsValue text := by
  cases h with
  | scalar h =>
    obtain ⟨c, rest, htext, hspace, hbracket, -⟩ := h.starts
    exact ⟨c, rest, htext, hspace, hbracket⟩
  | _ => exact ⟨_, _, rfl, rfl, by decide⟩

/-- What spells a value is written for a tree. -/
theorem Spells.exists_tree {depth : Nat} {text : List Char} {v : Json} (h : Spells depth text v) :
    ∃ tree, Written text tree := by
  induction h with
  | null => exact ⟨_, .scalar .null⟩
  | true => exact ⟨_, .scalar .true⟩
  | false => exact ⟨_, .scalar .false⟩
  | positive hparts => exact ⟨_, .scalar (.positive hparts)⟩
  | negative hparts => exact ⟨_, .scalar (.negative hparts)⟩
  | string h => exact ⟨_, .scalar (.string h.body)⟩
  | @array _ blanks items hblanks hspaced _ ih =>
    choose! tree htree using ih
    let branch (item : Item) : Branch := ⟨item.before, item.text, item.after, tree item⟩
    have hbranches : ∀ b ∈ items.map branch, b.Spaced := List.forall_mem_map.2 fun item hitem =>
      ⟨(hspaced item hitem).before, (hspaced item hitem).after⟩
    have hwritten := Written.array hblanks hbranches (List.forall_mem_map.2 htree)
    rw [List.map_map] at hwritten
    exact ⟨_, hwritten⟩
  | @object _ blanks members hblanks hspaced _ ih =>
    choose! tree htree using ih
    let branch (m : Member) : KeyedBranch :=
      ⟨m.before, m.keyText, m.afterKey, m.item.before, m.item.text, m.item.after, tree m⟩
    have hbranches : ∀ b ∈ members.map branch, b.Spaced := List.forall_mem_map.2 fun m hm =>
      ⟨(hspaced m hm).before, (hspaced m hm).key.body, (hspaced m hm).afterKey,
        (hspaced m hm).item.before, (hspaced m hm).item.after⟩
    have hwritten := Written.object hblanks hbranches (List.forall_mem_map.2 htree)
    rw [List.map_map] at hwritten
    exact ⟨_, hwritten⟩

end BuildConductor.Json
