import BuildConductor.Json.Skip
import BuildConductor.Proofs.Json.Decoding
import BuildConductor.Proofs.Json.Syntax

/-! Values that are passed over.

What is passed over is anything that has the form of a value, to its end:
`Written.passedOver`. The brackets still open are kept in a list, so the induction is on
the form of the text, for all brackets around it; within brackets, the pieces between
commas are passed over one by one. -/
namespace BuildConductor.Json

open Decimal (ne_of_isDigit)

/-! ### Strings and numbers -/

theorem skipString_of_skipEscape {cs rest after : List Char} (hescape : skipEscape cs = .ok rest)
    (hrest : skipString rest = .ok after) : skipString ('\\' :: cs) = .ok after := by
  rw [skipString]
  simp only [Char.reduceEq, if_false, if_true]
  split <;> rename_i heq <;> rw [hescape] at heq <;> cases heq
  exact hrest

theorem skipEscape_codeUnit {a b c d : Char} {n : Nat} (h : hexQuad? a b c d = some n)
    (rest : List Char) : skipEscape ('u' :: a :: b :: c :: d :: rest) = .ok rest := by
  have hu : shortEscape? 'u' = none := rfl
  simp only [skipEscape, hu, readHex, h, if_true]
  rfl

theorem StringUnit.skip {piece rest after : List Char} (h : StringUnit piece)
    (hrest : skipString rest = .ok after) : skipString (piece ++ rest) = .ok after := by
  cases h with
  | plain hquote hbackslash hcontrol =>
    rw [List.singleton_append, skipString]
    simp only [hquote, hbackslash, hcontrol, if_false]
    exact hrest
  | @short letter _ h =>
    have hescape : skipEscape (letter :: rest) = .ok rest := by
      simp only [skipEscape, h]
    exact skipString_of_skipEscape hescape hrest
  | hex h => exact skipString_of_skipEscape (skipEscape_codeUnit h rest) hrest

theorem StringBody.skip {body : List Char} (h : StringBody body) (rest : List Char) :
    skipString (body ++ '"' :: rest) = .ok rest := by
  induction h with
  | nil =>
    rw [List.nil_append, skipString]
    simp only [if_true]
  | cons hunit _ ih =>
    rw [List.append_assoc]
    exact hunit.skip ih

theorem SpellsParts.skipNumber {text rest : List Char} {parts : NumberParts}
    (h : SpellsParts text parts) (hrest : EndsNumber rest) :
    Json.skipNumber (text ++ rest) = .ok rest := by
  rw [Json.skipNumber, h.read .invalidNumber hrest]
  rfl

/-! ### Values -/

/-- What is left to do after a bracket has been opened, or after a value. -/
def skipFrom (afterValue : Bool) (brackets : List Bracket) (cs : List Char) :
    Except Fault (List Char) :=
  match skipClosing afterValue brackets cs with
  | .error fault => .error fault
  | .ok ([], rest) => .ok rest
  | .ok (bracket :: outer, rest) => skipValue (bracket :: outer) rest

theorem skipValue_of_skipFirst {cs rest : List Char} {opened : Option Bracket}
    (h : skipFirst cs = .ok (opened, rest)) (brackets : List Bracket) :
    skipValue brackets cs = skipFrom opened.isNone (opened.toList ++ brackets) rest := by
  rw [skipValue, skipFrom]
  split <;> rename_i heq <;> rw [h] at heq <;> cases heq
  split <;> rename_i heq <;> rw [heq]

theorem skipFirst_append {blanks : List Char} (hblanks : AllSpaces blanks) (cs : List Char) :
    skipFirst (blanks ++ cs) = skipFirst cs := by
  simp only [skipFirst, skipSpaces_append hblanks]

theorem skipValue_append {blanks : List Char} (hblanks : AllSpaces blanks)
    (brackets : List Bracket) (cs : List Char) :
    skipValue brackets (blanks ++ cs) = skipValue brackets cs := by
  have hfirst := skipFirst_append hblanks cs
  cases h : skipFirst cs with
  | ok r => rw [skipValue_of_skipFirst (hfirst.trans h), skipValue_of_skipFirst h]
  | error fault =>
    rw [skipValue, skipValue]
    split <;> rename_i heq <;> rw [hfirst, h] at heq <;> cases heq
    symm
    split <;> rename_i heq <;> rw [h] at heq <;> cases heq
    rfl

theorem skipFrom_append {blanks : List Char} (hblanks : AllSpaces blanks) (afterValue : Bool)
    (bracket : Bracket) (outer : List Bracket) (cs : List Char) :
    skipFrom afterValue (bracket :: outer) (blanks ++ cs) =
      skipFrom afterValue (bracket :: outer) cs := by
  simp only [skipFrom, skipClosing, skipSpaces_append hblanks]

theorem Bracket.closing_not_space (bracket : Bracket) : isSpace bracket.closing = false := by
  cases bracket <;> rfl

theorem skipFrom_closing {blanks : List Char} (hblanks : AllSpaces blanks) (afterValue : Bool)
    (bracket : Bracket) (outer : List Bracket) (rest : List Char) :
    skipFrom afterValue (bracket :: outer) (blanks ++ bracket.closing :: rest) =
      skipFrom true outer rest := by
  simp only [skipFrom, skipClosing, skipSpaces_blanks_cons hblanks bracket.closing_not_space,
    if_true]

theorem skipFrom_comma {bracket : Bracket} {cs start : List Char}
    (h : skipKey bracket cs = .ok start) (outer : List Bracket) :
    skipFrom true (bracket :: outer) (',' :: cs) = skipValue (bracket :: outer) start := by
  have hclosing : ',' ≠ bracket.closing := by cases bracket <;> decide
  simp only [skipFrom, skipClosing, skipSpaces_cons (c := ',') rfl, hclosing, if_false, if_true,
    h, Except.map, Bool.true_eq_false]

/-- What stands between commas within a bracket: it does not begin by closing the
bracket, and it is passed over. -/
structure Passes (bracket : Bracket) (piece : List Char) : Prop where
  starts : ∃ blanks c rest, piece = blanks ++ c :: rest ∧ AllSpaces blanks ∧ isSpace c = false ∧
    c ≠ bracket.closing
  passed : ∀ outer more, EndsNumber more → ∃ start, skipKey bracket (piece ++ more) = .ok start ∧
    skipValue (bracket :: outer) start = skipFrom true (bracket :: outer) more

/-- The first piece is passed over as if it came after a comma. -/
theorem Passes.skipFrom_first {bracket : Bracket} {piece : List Char} (h : Passes bracket piece)
    (outer : List Bracket) {more : List Char} (hmore : EndsNumber more) :
    skipFrom false (bracket :: outer) (piece ++ more) =
      skipFrom true (bracket :: outer) (',' :: (piece ++ more)) := by
  obtain ⟨start, hkey, -⟩ := h.passed outer more hmore
  obtain ⟨blanks, c, rest, rfl, hblanks, hspace, hclosing⟩ := h.starts
  have hskip := skipSpaces_blanks_cons hblanks hspace (rest ++ more)
  rw [skipFrom_comma hkey]
  simp only [List.append_assoc, List.cons_append] at hkey ⊢
  cases bracket with
  | list =>
    cases hkey
    simp only [skipFrom, skipClosing, hskip, hclosing, if_false, if_true, skipKey, Except.map,
      skipValue_append hblanks]
  | map =>
    have hkey' : skipKey .map (c :: (rest ++ more)) = .ok start := by
      simp only [skipKey, hskip] at hkey
      simp only [skipKey, skipSpaces_cons hspace]
      exact hkey
    simp only [skipFrom, skipClosing, hskip, hclosing, if_false, if_true, hkey', Except.map]

theorem skipFrom_afterCommas {bracket : Bracket} {pieces : List (List Char)}
    (h : ∀ piece ∈ pieces, Passes bracket piece) (outer : List Bracket) (rest : List Char) :
    skipFrom true (bracket :: outer) (afterCommas pieces ++ bracket.closing :: rest) =
      skipFrom true outer rest := by
  induction pieces with
  | nil => exact skipFrom_closing (List.forall_mem_nil _) true bracket outer rest
  | cons piece pieces ih =>
    have hends : EndsNumber (afterCommas pieces ++ bracket.closing :: rest) :=
      endsNumber_afterCommas (List.forall_mem_nil _) pieces
        (endsNumber_cons (by cases bracket <;> decide) rest)
    obtain ⟨start, hkey, hstart⟩ := (h piece (List.mem_cons_self ..)).passed outer _ hends
    have hmore := ih fun piece hpiece => h piece (List.mem_cons_of_mem _ hpiece)
    simp only [afterCommas, List.flatMap_cons, List.cons_append, List.append_assoc] at hkey hmore ⊢
    rw [skipFrom_comma hkey, hstart]
    exact hmore

/-- Everything between brackets is passed over, and the bracket that ends it. -/
theorem skipFrom_separated {bracket : Bracket} {blanks : List Char} {pieces : List (List Char)}
    (hblanks : AllSpaces blanks) (h : ∀ piece ∈ pieces, Passes bracket piece)
    (outer : List Bracket) (rest : List Char) :
    skipFrom false (bracket :: outer) (separated blanks pieces ++ bracket.closing :: rest) =
      skipFrom true outer rest := by
  cases pieces with
  | nil => exact skipFrom_closing hblanks false bracket outer rest
  | cons piece pieces =>
    have hends : EndsNumber (afterCommas pieces ++ bracket.closing :: rest) :=
      endsNumber_afterCommas (List.forall_mem_nil _) pieces
        (endsNumber_cons (by cases bracket <;> decide) rest)
    have hfirst := (h piece (List.mem_cons_self ..)).skipFrom_first outer hends
    have hall := skipFrom_afterCommas h outer rest
    simp only [afterCommas, List.flatMap_cons, List.cons_append, List.append_assoc] at hfirst hall
    simp only [separated, afterCommas, List.append_assoc]
    rw [hfirst, hall]

/-- Whether a text is passed over to its end within any brackets. -/
def PassedOver (text : List Char) : Prop :=
  ∀ brackets rest, EndsNumber rest →
    skipValue brackets (text ++ rest) = skipFrom true brackets rest

theorem passedOver_of_skipFirst {text : List Char}
    (h : ∀ rest, EndsNumber rest → skipFirst (text ++ rest) = .ok (none, rest)) :
    PassedOver text :=
  fun brackets rest hrest => skipValue_of_skipFirst (h rest hrest) brackets

theorem PassedOver.framed {text piece : List Char} (h : PassedOver text)
    (hframes : Frames text piece) (bracket : Bracket) (outer : List Bracket) {more : List Char}
    (hmore : EndsNumber more) :
    skipValue (bracket :: outer) (piece ++ more) = skipFrom true (bracket :: outer) more := by
  obtain ⟨before, after, hbefore, hafter, rfl⟩ := hframes
  simp only [List.append_assoc]
  rw [skipValue_append hbefore, h _ _ (endsNumber_append hafter hmore), skipFrom_append hafter]

theorem Branch.passes {branch : Branch} (h : PassedOver branch.text) (hspaced : branch.Spaced)
    (hstarts : StartsValue branch.text) : Passes .list branch.written := by
  obtain ⟨c, rest, htext, hspace, hbracket⟩ := hstarts
  refine ⟨⟨branch.before, c, rest ++ branch.after, ?_, hspaced.before, hspace, hbracket⟩, ?_⟩
  · rw [Branch.written, htext, List.cons_append]
  · exact fun outer more hmore => ⟨_, rfl, h.framed hspaced.frames .list outer hmore⟩

theorem KeyedBranch.passes {m : KeyedBranch} (h : PassedOver m.branch.text) (hspaced : m.Spaced) :
    Passes .map m.written := by
  refine ⟨⟨m.before, '"', _, rfl, hspaced.before, rfl, by decide⟩, fun outer more hmore =>
    ⟨m.branch.written ++ more, ?_, h.framed hspaced.branch.frames .map outer hmore⟩⟩
  have hskip := skipSpaces_blanks_cons hspaced.before (c := '"') rfl
    (m.keyText ++ '"' :: (m.afterKey ++ ':' :: (m.branch.written ++ more)))
  simp only [skipKey, KeyedBranch.written, List.append_assoc, List.cons_append, hskip, if_true,
    hspaced.key.skip, readColon, skipSpaces_blanks_cons hspaced.afterKey (c := ':') rfl]

/-- A scalar is passed over, whatever it means. -/
theorem ScalarText.passedOver {text : List Char} (h : ScalarText text) : PassedOver text := by
  cases h with
  | null => exact passedOver_of_skipFirst fun _ _ => rfl
  | true => exact passedOver_of_skipFirst fun _ _ => rfl
  | false => exact passedOver_of_skipFirst fun _ _ => rfl
  | positive hparts =>
    refine passedOver_of_skipFirst fun rest hrest => ?_
    obtain ⟨c, more, rfl, hc⟩ := hparts.exists_digit
    have hskip := hparts.skipNumber hrest
    rw [List.cons_append] at hskip ⊢
    simp only [skipFirst, skipSpaces_cons (isSpace_of_isDigit hc), ne_of_isDigit hc (d := 'n') rfl,
      ne_of_isDigit hc (d := 't') rfl, ne_of_isDigit hc (d := 'f') rfl,
      ne_of_isDigit hc (d := '-') rfl, hc, hskip, if_false, if_true, Except.map]
  | negative hparts =>
    refine passedOver_of_skipFirst fun rest hrest => ?_
    simp only [skipFirst, List.cons_append, skipSpaces_cons (c := '-') rfl,
      hparts.skipNumber hrest, Char.reduceEq, if_false, if_true, Except.map]
  | string hbody =>
    refine passedOver_of_skipFirst fun rest _ => ?_
    simp only [skipFirst, List.cons_append, List.append_assoc, List.nil_append,
      skipSpaces_cons (c := '"') rfl, hbody.skip rest, Char.reduceEq, Char.reduceIsDigit,
      Bool.false_eq_true, if_false, if_true, Except.map]

/-- Brackets are passed over with what stands between them. -/
theorem passedOver_brackets (bracket : Bracket) {opening : Char} {blanks : List Char}
    {pieces : List (List Char)}
    (hfirst : ∀ cs, skipFirst (opening :: cs) = .ok (some bracket, cs))
    (hblanks : AllSpaces blanks) (h : ∀ piece ∈ pieces, Passes bracket piece) :
    PassedOver (opening :: (separated blanks pieces ++ [bracket.closing])) := by
  intro brackets rest _
  have hinner := skipFrom_separated hblanks h brackets rest
  rw [List.cons_append, List.append_assoc, ← hinner]
  exact skipValue_of_skipFirst (hfirst _) brackets

/-- Whatever has the form of a value is passed over. -/
theorem Written.passedOver {text : List Char} {tree : Tree} (h : Written text tree) :
    PassedOver text := by
  induction h with
  | scalar h => exact h.passedOver
  | array hblanks hspaced hwritten ih =>
    refine passedOver_brackets .list (fun _ => rfl) hblanks ?_
    exact List.forall_mem_map.2 fun branch hbranch =>
      Branch.passes (ih branch hbranch) (hspaced branch hbranch) (hwritten branch hbranch).starts
  | object hblanks hspaced _ ih =>
    refine passedOver_brackets .map (fun _ => rfl) hblanks ?_
    exact List.forall_mem_map.2 fun m hm => KeyedBranch.passes (ih m hm) (hspaced m hm)

theorem skipped_gives {text : List Char} {tree : Tree} (h : Written text tree) :
    skipped.Gives text (some ()) := by
  intro blanks rest hblanks hrest
  have hskip : skipValue [] (blanks ++ (text ++ rest)) = .ok rest := by
    rw [skipValue_append hblanks, h.passedOver [] rest hrest]
    rfl
  simp only [skipped, hskip]
  rfl

/-- Any value can be passed over. -/
theorem skipped_decodes (depth : Nat) : skipped.Decodes depth fun _ => some () := by
  intro text v h
  obtain ⟨tree, htree⟩ := h.exists_tree
  exact skipped_gives htree

end BuildConductor.Json
