/-! Lines of a text.

`pieces` cuts a text after every newline, so that joining the pieces gives the
text back; `lines` drops the line ends. Positions in a text are counted over the
pieces, records are read from the lines. -/
namespace BuildConductor.Text

/-- The text cut after every newline. Only the last piece may lack one. -/
def pieces : List Char → List (List Char)
  | [] => []
  | c :: rest =>
    if c = '\n' then ['\n'] :: pieces rest
    else match pieces rest with
      | [] => [[c]]
      | piece :: more => (c :: piece) :: more

/-- Nothing is lost by cutting. -/
theorem flatten_pieces (cs : List Char) : (pieces cs).flatten = cs := by
  induction cs with
  | nil => rfl
  | cons c rest ih =>
    unfold pieces
    split
    · rename_i h
      simp [ih, h]
    · split <;> rename_i h <;> rw [h] at ih <;> simp_all

/-- A piece without its line end: the newline, and one carriage return before it. -/
def dropLineEnd (piece : List Char) : List Char :=
  match piece.reverse with
  | '\n' :: '\r' :: body => body.reverse
  | '\n' :: body => body.reverse
  | _ => piece

/-- The lines of a text, without their line ends. -/
def lines (cs : List Char) : List (List Char) :=
  (pieces cs).map dropLineEnd

end BuildConductor.Text
