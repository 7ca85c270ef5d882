import BuildConductor.Text.Lines

/-! Texts line by line.

A text is a line without a newline, or such a line, a newline, and a text again:
`lineInduction` is the induction over that. What is read of each line of a text can so be
read of parts of the text (`filterMap_lines_append`), if a carriage return at the end of a
line makes no difference to it. -/
namespace BuildConductor.Text

@[elab_as_elim]
theorem lineInduction {motive : List Char → Prop} (last : ∀ line, '\n' ∉ line → motive line)
    (next : ∀ line rest, '\n' ∉ line → motive rest → motive (line ++ '\n' :: rest))
    (cs : List Char) : motive cs := by
  -- The line that was begun before the text goes along.
  have hbegun : ∀ line, '\n' ∉ line → motive (line ++ cs) := by
    induction cs with
    | nil =>
      intro line hline
      rw [List.append_nil]
      exact last line hline
    | cons c rest ih =>
      intro line hline
      by_cases hc : c = '\n'
      · subst hc
        exact next line rest hline (ih [] List.not_mem_nil)
      · rw [List.append_cons]
        refine ih (line ++ [c]) fun hmem => ?_
        rcases List.mem_append.1 hmem with hmem | hmem
        · exact hline hmem
        · exact hc (List.mem_singleton.1 hmem).symm
  exact hbegun [] List.not_mem_nil

/-! ### Pieces -/

theorem pieces_line {line : List Char} (h : '\n' ∉ line) (rest : List Char) :
    pieces (line ++ '\n' :: rest) = (line ++ ['\n']) :: pieces rest := by
  induction line with
  | nil => rw [List.nil_append, pieces, if_pos rfl, List.nil_append]
  | cons c line ih =>
    have hc : c ≠ '\n' := fun heq => h (heq ▸ List.mem_cons_self)
    rw [List.cons_append, pieces, if_neg hc, ih fun hmem => h (List.mem_cons_of_mem c hmem)]
    rfl

theorem pieces_last {line : List Char} (h : '\n' ∉ line) (hne : line ≠ []) : pieces line = [line] := by
  induction line with
  | nil => exact absurd rfl hne
  | cons c line ih =>
    have hc : c ≠ '\n' := fun heq => h (heq ▸ List.mem_cons_self)
    rw [pieces, if_neg hc]
    cases line with
    | nil => rfl
    | cons d line => rw [ih (fun hmem => h (List.mem_cons_of_mem c hmem)) nofun]

/-! ### Line ends -/

theorem dropLineEnd_of_not_mem {line : List Char} (h : '\n' ∉ line) : dropLineEnd line = line := by
  unfold dropLineEnd
  split
  · rename_i hreverse
    exact absurd (List.mem_reverse.1 (hreverse ▸ List.mem_cons_self)) h
  · rename_i hreverse
    exact absurd (List.mem_reverse.1 (hreverse ▸ List.mem_cons_self)) h
  · rfl

/-- A line that ends in a carriage return loses it with its newline, and no other line loses
anything else. -/
theorem dropLineEnd_line (line : List Char) :
    line = dropLineEnd (line ++ ['\n']) ∨ line = dropLineEnd (line ++ ['\n']) ++ ['\r'] := by
  unfold dropLineEnd
  rw [List.reverse_append, List.reverse_singleton, List.singleton_append]
  split
  · rename_i body hreverse
    have hline := List.reverse_eq_iff.1 (List.tail_eq_of_cons_eq hreverse)
    exact .inr (hline.trans List.reverse_cons)
  · rename_i body _ hreverse
    exact .inl (List.reverse_eq_iff.1 (List.tail_eq_of_cons_eq hreverse))
  · rename_i hother
    exact absurd rfl (hother line.reverse)

/-! ### What is read of lines -/

section Reading
variable {β : Type} {read : List Char → Option β}

theorem filterMap_lines_last (hempty : read [] = none) {line : List Char} (h : '\n' ∉ line) :
    (lines line).filterMap read = (read line).toList := by
  by_cases hne : line = []
  · subst hne
    rw [hempty]
    rfl
  · rw [lines, pieces_last h hne, List.map_singleton, dropLineEnd_of_not_mem h]
    cases hread : read line <;> simp [hread]

theorem filterMap_lines_line (hreturn : ∀ line, read (line ++ ['\r']) = read line)
    {line : List Char} (h : '\n' ∉ line) (rest : List Char) :
    (lines (line ++ '\n' :: rest)).filterMap read =
      (read line).toList ++ (lines rest).filterMap read := by
  have hread : read (dropLineEnd (line ++ ['\n'])) = read line := by
    rcases dropLineEnd_line line with hline | hline
    · rw [← hline]
    · rw [← hreturn, ← hline]
  rw [lines, pieces_line h, List.map_cons, List.filterMap_cons, hread]
  cases read line <;> rfl

/-- Two texts with a newline between them are read one after the other. -/
theorem filterMap_lines_append (hempty : read [] = none)
    (hreturn : ∀ line, read (line ++ ['\r']) = read line) (first second : List Char) :
    (lines (first ++ '\n' :: second)).filterMap read =
      (lines first).filterMap read ++ (lines second).filterMap read := by
  induction first using lineInduction with
  | last line h => rw [filterMap_lines_line hreturn h, filterMap_lines_last hempty h]
  | next line rest h ih =>
    rw [List.append_assoc, List.cons_append, filterMap_lines_line hreturn h, ih,
      filterMap_lines_line hreturn h, List.append_assoc]

end Reading

end BuildConductor.Text
