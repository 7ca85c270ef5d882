import Mathlib.Data.List.Forall2
import BuildConductor.Proofs.Json.Spelling

/-! What readers make of what stands between brackets.

`Reader.Gives` is the verdict of a reader on one text: what it gives there, or that it
refuses. For lists and objects the verdict follows from those on their pieces: a list is
its items one by one (`readList_separated`), and each member of an object takes the state
on by one step (`readObject_separated`). Both are shown once, whatever the pieces mean
and however they are known. -/
namespace BuildConductor.Json

/-! ### Verdicts -/

/-- Whether a reader gives a result on a text and leaves what follows, whatever blanks
stand before it. Where there is no result, the reader refuses. -/
def Reader.Gives {α : Type} (reader : Reader α) (text : List Char) (result : Option α) : Prop :=
  ∀ blanks rest, AllSpaces blanks → EndsNumber rest →
    (reader.read (blanks ++ (text ++ rest))).toOption = result.map fun a => (a, rest)

theorem Reader.map_toOption {α β : Type} (reader : Reader α) (f : α → β) (cs : List Char) :
    ((reader.map f).read cs).toOption = (reader.read cs).toOption.map fun r => (f r.1, r.2) := by
  simp only [Reader.map]
  cases reader.read cs <;> rfl

theorem Reader.Gives.map {α β : Type} {reader : Reader α} {text : List Char} {result : Option α}
    (h : reader.Gives text result) (f : α → β) : (reader.map f).Gives text (result.map f) := by
  intro blanks rest hblanks hrest
  rw [Reader.map_toOption, h blanks rest hblanks hrest]
  simp only [Option.map_map, Function.comp_def]

theorem except_map_toOption {ε α β : Type} (e : Except ε α) (f : α → β) :
    (e.map f).toOption = e.toOption.map f := by
  cases e <;> rfl

theorem except_bind_toOption {ε α β : Type} (e : Except ε α) (f : α → Except ε β) :
    (e.bind f).toOption = e.toOption.bind fun a => (f a).toOption := by
  cases e <;> rfl

/-- Whether a piece is a text with blanks around it. -/
def Frames (text piece : List Char) : Prop :=
  ∃ before after, AllSpaces before ∧ AllSpaces after ∧ piece = before ++ (text ++ after)

/-- A framed text is read up to the blanks that follow it. -/
theorem Reader.Gives.framed {α : Type} {reader : Reader α} {text piece : List Char}
    {result : Option α} (h : reader.Gives text result) (hframes : Frames text piece)
    {more : List Char} (hmore : EndsNumber more) :
    ∃ after, AllSpaces after ∧
      (reader.read (piece ++ more)).toOption = result.map fun a => (a, after ++ more) := by
  obtain ⟨before, after, hbefore, hafter, rfl⟩ := hframes
  refine ⟨after, hafter, ?_⟩
  simp only [List.append_assoc]
  exact h before (after ++ more) hbefore (endsNumber_append hafter hmore)

/-- A text with nothing but blanks around it is read to the end. -/
theorem Reader.Gives.all {α : Type} {reader : Reader α} {text cs : List Char} {result : Option α}
    (h : reader.Gives text result) (hframes : Frames text cs) :
    (readAll reader cs).toOption = result := by
  obtain ⟨after, hafter, hread⟩ := h.framed hframes endsNumber_nil
  have hblank : skipSpaces after = [] := by
    have hskip := skipSpaces_append hafter []
    rwa [List.append_nil] at hskip
  rw [List.append_nil, List.append_nil] at hread
  rw [readAll]
  cases hcs : reader.read cs with
  | error fault =>
    rw [hcs] at hread
    cases result with
    | none => rfl
    | some a => cases hread
  | ok r =>
    rw [hcs] at hread
    cases result with
    | none => cases hread
    | some a =>
      cases hread
      simp only [hblank]
      rfl

/-! ### Objects -/

section Members
variable {σ : Type}

/-- The members of an object from some place on, and its end. -/
def closedMembers (member : σ → String → Option (Reader σ)) (first : Bool) (state : σ)
    (cs : List Char) : Option (σ × List Char) :=
  (readMembers member first state cs).toOption.bind fun r =>
    (endObject r.2).toOption.map fun rest => (r.1, rest)

theorem readObject_toOption (member : σ → String → Option (Reader σ)) (start : σ)
    (cs : List Char) :
    (readObject member start cs).toOption = closedMembers member true start cs := by
  unfold readObject closedMembers
  cases readMembers member true start cs with
  | error fault => rfl
  | ok r => cases hend : endObject r.2 <;> simp [hend, Except.toOption]

variable {member : σ → String → Option (Reader σ)} {first : Bool} {state : σ}
  {cs start : List Char}

theorem closedMembers_refused {fault : Fault} (hnext : nextKey? first cs = .error fault) :
    closedMembers member first state cs = none := by
  have hread : readMembers member first state cs = .error fault := by
    rw [readMembers]
    split <;> rename_i heq <;> rw [hnext] at heq <;> cases heq
    rfl
  rw [closedMembers, hread]
  rfl

theorem closedMembers_closed (hnext : nextKey? first cs = .ok none) :
    closedMembers member first state cs =
      (endObject cs).toOption.map fun rest => (state, rest) := by
  rw [closedMembers, readMembers_done state hnext]
  rfl

theorem closedMembers_next (hnext : nextKey? first cs = .ok (some start)) :
    closedMembers member first state cs =
      (readString start).toOption.bind fun key =>
        (member state key.1).bind fun reader =>
          (readColon key.2).toOption.bind fun value =>
            (reader.read value).toOption.bind fun r => closedMembers member false r.1 r.2 := by
  have hread : readMembers member first state cs =
      (readString start).bind fun key =>
        (member state key.1).elim (.error (repeatedKey key.1 key.2)) fun reader =>
          (readColon key.2).bind fun value =>
            (reader.read value).bind fun r => readMembers member false r.1 r.2 := by
    rw [readMembers]
    split <;> rename_i heq <;> rw [hnext] at heq <;> cases heq
    split <;> rename_i hkey <;> rw [hkey]
    · rfl
    rename_i key afterKey
    simp only [Except.bind]
    cases member state key with
    | none => rfl
    | some reader =>
      simp only [Option.elim_some]
      split <;> rename_i hcolon <;> rw [hcolon]
      split <;> rename_i hvalue <;> simp only [hvalue]
  rw [closedMembers, hread, except_bind_toOption, Option.bind_assoc]
  refine congrArg _ (funext fun key => ?_)
  cases member state key.1 with
  | none => rfl
  | some reader =>
    simp only [Option.elim_some, Option.bind_some, except_bind_toOption, Option.bind_assoc]
    rfl

/-- Blanks before the next member, or before the end, do nothing. -/
theorem closedMembers_append {blanks : List Char} (hblanks : AllSpaces blanks) (cs : List Char) :
    closedMembers member first state (blanks ++ cs) = closedMembers member first state cs := by
  have hnext : nextKey? first (blanks ++ cs) = nextKey? first cs := by
    simp only [nextKey?, skipSpaces_append hblanks]
  have hend : endObject (blanks ++ cs) = endObject cs := by
    simp only [endObject, skipSpaces_append hblanks]
  cases hcs : nextKey? first cs with
  | error fault => rw [closedMembers_refused (hnext.trans hcs), closedMembers_refused hcs]
  | ok found =>
    cases found with
    | none => rw [closedMembers_closed (hnext.trans hcs), closedMembers_closed hcs, hend]
    | some start => rw [closedMembers_next (hnext.trans hcs), closedMembers_next hcs]

theorem closedMembers_done (state : σ) {first : Bool} {blanks : List Char}
    (hblanks : AllSpaces blanks) (rest : List Char) :
    closedMembers member first state (blanks ++ '\x7d' :: rest) = some (state, rest) := by
  rw [closedMembers_closed (nextKey?_brace first hblanks rest), endObject_brace hblanks]
  rfl

/-- Steps taken one after another, as long as none is refused. -/
def runSteps (steps : List (σ → Option σ)) (state : σ) : Option σ :=
  steps.foldlM (fun state step => step state) state

theorem runSteps_cons (step : σ → Option σ) (steps : List (σ → Option σ)) (state : σ) :
    runSteps (step :: steps) state = (step state).bind fun next => runSteps steps next :=
  List.foldlM_cons

/-- What stands between commas within braces: a key and what goes with it, which takes
the state on by a step, or is refused. -/
structure Advances (member : σ → String → Option (Reader σ)) (piece : List Char)
    (step : σ → Option σ) : Prop where
  key : ∃ before rest, AllSpaces before ∧ piece = before ++ '"' :: rest
  reads : ∀ state more, EndsNumber more →
    closedMembers member false state (',' :: (piece ++ more)) =
      (step state).bind fun next => closedMembers member false next more

/-- The first member is read as if it came after a comma. -/
theorem Advances.reads_first {piece : List Char} {step : σ → Option σ}
    (h : Advances member piece step) (state : σ) {more : List Char} (hmore : EndsNumber more) :
    closedMembers member true state (piece ++ more) =
      (step state).bind fun next => closedMembers member false next more := by
  rw [← h.reads state more hmore]
  obtain ⟨before, rest, hbefore, rfl⟩ := h.key
  simp only [List.append_assoc, List.cons_append]
  rw [closedMembers_next (nextKey?_quote hbefore _), closedMembers_next (nextKey?_comma hbefore _)]

/-- A member with a key that can be read does what its value makes of the state. -/
theorem advances_of_key {before keyText afterKey text piece : List Char} {key : String}
    {step : σ → Option σ} (hbefore : AllSpaces before) (hafterKey : AllSpaces afterKey)
    (hframes : Frames text piece)
    (hkey : ∀ rest, readString (keyText ++ '"' :: rest) = .ok (key, rest))
    (hvalue : ∀ state,
      match member state key with
      | none => step state = none
      | some reader => reader.Gives text (step state)) :
    Advances member (before ++ '"' :: (keyText ++ '"' :: (afterKey ++ ':' :: piece))) step := by
  refine ⟨⟨before, _, hbefore, rfl⟩, fun state more hmore => ?_⟩
  have hcolon : readColon (afterKey ++ ':' :: (piece ++ more)) = .ok (piece ++ more) := by
    simp only [readColon, skipSpaces_blanks_cons hafterKey (c := ':') rfl, if_true]
  simp only [List.append_assoc, List.cons_append]
  rw [closedMembers_next (nextKey?_comma hbefore _)]
  simp only [hkey, Except.toOption, Option.bind_some]
  have hstate := hvalue state
  cases hmember : member state key with
  | none =>
    simp only [hmember] at hstate
    simp only [hstate, Option.bind_none]
  | some reader =>
    simp only [hmember] at hstate
    obtain ⟨after, hafter, hread⟩ := hstate.framed hframes hmore
    simp only [Except.toOption] at hread
    simp only [Option.bind_some, hcolon, hread, Option.bind_map, Function.comp_def,
      closedMembers_append hafter]

/-- A member whose key cannot be read is refused. -/
theorem advances_of_unreadable {before keyText : List Char} (hbefore : AllSpaces before)
    (hkey : ∀ rest, (readString (keyText ++ '"' :: rest)).toOption = none) (rest : List Char) :
    Advances member (before ++ '"' :: (keyText ++ '"' :: rest)) fun _ => none := by
  refine ⟨⟨before, _, hbefore, rfl⟩, fun state more _ => ?_⟩
  simp only [List.append_assoc, List.cons_append]
  rw [closedMembers_next (nextKey?_comma hbefore _), hkey]
  rfl

theorem closedMembers_afterCommas {pieces : List (List Char)} {steps : List (σ → Option σ)}
    (h : List.Forall₂ (Advances member) pieces steps) (state : σ) (rest : List Char) :
    closedMembers member false state (afterCommas pieces ++ '\x7d' :: rest) =
      (runSteps steps state).map fun final => (final, rest) := by
  induction h generalizing state with
  | nil => exact closedMembers_done state (List.forall_mem_nil _) rest
  | @cons piece step pieces steps hpiece _ ih =>
    have hends : EndsNumber (afterCommas pieces ++ '\x7d' :: rest) :=
      endsNumber_afterCommas (List.forall_mem_nil _) pieces (endsNumber_cons (by decide) rest)
    have hfirst := hpiece.reads state _ hends
    simp only [afterCommas, List.flatMap_cons, List.cons_append, List.append_assoc] at hfirst ih ⊢
    rw [hfirst, runSteps_cons]
    cases step state with
    | none => rfl
    | some next => exact ih next

/-- An object is folded over the steps of its members as they come. -/
theorem readObject_separated {pieces : List (List Char)} {steps : List (σ → Option σ)}
    (h : List.Forall₂ (Advances member) pieces steps) (start : σ) {blanks : List Char}
    (hblanks : AllSpaces blanks) (rest : List Char) :
    (readObject member start (separated blanks pieces ++ '\x7d' :: rest)).toOption =
      (runSteps steps start).map fun final => (final, rest) := by
  rw [readObject_toOption]
  cases h with
  | nil => exact closedMembers_done start hblanks rest
  | @cons piece step pieces steps hpiece hpieces =>
    have hends : EndsNumber (afterCommas pieces ++ '\x7d' :: rest) :=
      endsNumber_afterCommas (List.forall_mem_nil _) pieces (endsNumber_cons (by decide) rest)
    rw [separated, List.append_assoc, hpiece.reads_first start hends, runSteps_cons]
    cases step start with
    | none => rfl
    | some next => exact closedMembers_afterCommas hpieces next rest

end Members

/-! ### Lists -/

/-- Whether a piece between commas is an item of a list on which a reader gives a
result. -/
def Reader.GivesItem {α : Type} (reader : Reader α) (piece : List Char) (result : Option α) :
    Prop :=
  ∃ text, StartsValue text ∧ Frames text piece ∧ reader.Gives text result

/-- An item starts after the blanks before it, whether it comes first or after a comma,
and what comes after it are blanks. -/
theorem Reader.GivesItem.starts {α : Type} {reader : Reader α} {piece : List Char}
    {result : Option α} (h : reader.GivesItem piece result) {more : List Char}
    (hmore : EndsNumber more) :
    ∃ start after, AllSpaces after ∧ nextItem? true (piece ++ more) = .ok (some start) ∧
      nextItem? false (',' :: (piece ++ more)) = .ok (some start) ∧
      (reader.read start).toOption = result.map fun a => (a, after ++ more) := by
  obtain ⟨text, hstarts, ⟨before, after, hbefore, hafter, rfl⟩, hgives⟩ := h
  have hread := hgives [] _ (List.forall_mem_nil _) (endsNumber_append hafter hmore)
  refine ⟨text ++ (after ++ more), after, hafter, ?_, ?_, hread⟩
  · have hskip := hstarts.skipSpaces hbefore (after ++ more)
    simpa only [List.append_assoc] using nextItem?_start hstarts hskip rfl
  · simpa only [List.append_assoc] using nextItem?_comma hstarts hbefore

section Items
variable {α : Type} {reader : Reader α} {first : Bool} {cs start : List Char}

/-- The items of a list from some place on, and its end. -/
def closedItems (reader : Reader α) (first : Bool) (cs : List Char) :
    Option (List α × List Char) :=
  (readItems reader first cs).toOption.bind fun r =>
    (endList r.2).toOption.map fun rest => (r.1, rest)

theorem readList_toOption (reader : Reader α) (cs : List Char) :
    (readList reader cs).toOption = closedItems reader true cs := by
  unfold readList closedItems
  cases readItems reader true cs with
  | error fault => rfl
  | ok r => cases hend : endList r.2 <;> simp [hend, Except.toOption]

theorem closedItems_refused {fault : Fault} (hnext : nextItem? first cs = .error fault) :
    closedItems reader first cs = none := by
  have hread : readItems reader first cs = .error fault := by
    rw [readItems]
    split <;> rename_i heq <;> rw [hnext] at heq <;> cases heq
    rfl
  rw [closedItems, hread]
  rfl

theorem closedItems_closed (hnext : nextItem? first cs = .ok none) :
    closedItems reader first cs = (endList cs).toOption.map fun rest => ([], rest) := by
  rw [closedItems, readItems_done reader hnext]
  rfl

theorem closedItems_next (hnext : nextItem? first cs = .ok (some start)) :
    closedItems reader first cs =
      (reader.read start).toOption.bind fun r =>
        (closedItems reader false r.2).map fun more => (r.1 :: more.1, more.2) := by
  have hread : readItems reader first cs =
      (reader.read start).bind fun r =>
        (readItems reader false r.2).map fun more => (r.1 :: more.1, more.2) := by
    rw [readItems]
    split <;> rename_i heq <;> rw [hnext] at heq <;> cases heq
    split <;> rename_i heq <;> rw [heq]
    · rfl
    · cases hmore : readItems reader false _ <;> simp only [Except.bind, hmore, Except.map]
  rw [closedItems, hread]
  cases reader.read start with
  | error fault => rfl
  | ok r =>
    simp only [closedItems, Except.bind, Except.toOption, Option.bind_some]
    cases readItems reader false r.2 with
    | error fault => rfl
    | ok more => simp only [Except.map, Option.bind_some, Option.map_map, Function.comp_def]

theorem nextItem?_append {blanks : List Char} (hblanks : AllSpaces blanks) (cs : List Char) :
    nextItem? first (blanks ++ cs) = nextItem? first cs := by
  simp only [nextItem?, skipSpaces_append hblanks]

theorem endList_append {blanks : List Char} (hblanks : AllSpaces blanks) (cs : List Char) :
    endList (blanks ++ cs) = endList cs := by
  simp only [endList, skipSpaces_append hblanks]

/-- Blanks before the next item, or before the end, do nothing. -/
theorem closedItems_append {blanks : List Char} (hblanks : AllSpaces blanks) (cs : List Char) :
    closedItems reader first (blanks ++ cs) = closedItems reader first cs := by
  have hnext : nextItem? first (blanks ++ cs) = nextItem? first cs := nextItem?_append hblanks cs
  cases hcs : nextItem? first cs with
  | error fault => rw [closedItems_refused (hnext.trans hcs), closedItems_refused hcs]
  | ok found =>
    cases found with
    | none =>
      rw [closedItems_closed (hnext.trans hcs), closedItems_closed hcs, endList_append hblanks]
    | some start => rw [closedItems_next (hnext.trans hcs), closedItems_next hcs]

theorem closedItems_done {blanks : List Char} (hblanks : AllSpaces blanks) (rest : List Char) :
    closedItems reader first (blanks ++ ']' :: rest) = some ([], rest) := by
  rw [closedItems_closed (nextItem?_bracket first hblanks rest), endList_bracket hblanks]
  rfl

/-- An item that has been found, and those after it. -/
theorem closedItems_item {result : Option α} {after more : List Char} (hafter : AllSpaces after)
    (hnext : nextItem? first cs = .ok (some start))
    (hread : (reader.read start).toOption = result.map fun a => (a, after ++ more)) :
    closedItems reader first cs =
      result.bind fun a => (closedItems reader false more).map fun r => (a :: r.1, r.2) := by
  rw [closedItems_next hnext, hread, Option.bind_map]
  simp only [Function.comp_def, closedItems_append hafter]

theorem closedItems_afterCommas {pieces : List (List Char)} {results : List (Option α)}
    (h : List.Forall₂ reader.GivesItem pieces results) (rest : List Char) :
    closedItems reader false (afterCommas pieces ++ ']' :: rest) =
      (results.mapM id).map fun as => (as, rest) := by
  induction h with
  | nil => exact closedItems_done (List.forall_mem_nil _) rest
  | @cons piece result pieces results hpiece _ ih =>
    have hends : EndsNumber (afterCommas pieces ++ ']' :: rest) :=
      endsNumber_afterCommas (List.forall_mem_nil _) pieces (endsNumber_cons (by decide) rest)
    obtain ⟨start, after, hafter, -, hnext, hread⟩ := hpiece.starts hends
    have hfirst := closedItems_item hafter hnext hread
    simp only [afterCommas, List.flatMap_cons, List.cons_append, List.append_assoc] at hfirst ih ⊢
    rw [hfirst, ih, List.mapM_cons]
    cases result with
    | none => rfl
    | some a =>
      simp only [id_eq, Option.bind_some, Option.map_map, Option.bind_eq_bind]
      cases results.mapM id <;> rfl

/-- A list is read item by item. -/
theorem readList_separated {pieces : List (List Char)} {results : List (Option α)}
    (h : List.Forall₂ reader.GivesItem pieces results) {blanks : List Char}
    (hblanks : AllSpaces blanks) (rest : List Char) :
    (readList reader (separated blanks pieces ++ ']' :: rest)).toOption =
      (results.mapM id).map fun as => (as, rest) := by
  rw [readList_toOption]
  cases h with
  | nil => exact closedItems_done hblanks rest
  | @cons piece result pieces results hpiece hpieces =>
    have hends : EndsNumber (afterCommas pieces ++ ']' :: rest) :=
      endsNumber_afterCommas (List.forall_mem_nil _) pieces (endsNumber_cons (by decide) rest)
    obtain ⟨start, after, hafter, hfirst, hcomma, hread⟩ := hpiece.starts hends
    -- The first item is read as if it came after a comma.
    have hall := closedItems_afterCommas (.cons hpiece hpieces) rest
    rw [← hall, separated, List.append_assoc, closedItems_item hafter hfirst hread]
    simp only [afterCommas, List.flatMap_cons, List.cons_append, List.append_assoc]
      at hcomma hread ⊢
    rw [closedItems_item hafter hcomma hread]

end Items

/-! ### Values of any kind -/

theorem readValue_list (item : Reader Json) (cs : List Char) :
    readValue (some item) ('[' :: cs) = (readList item cs).map fun r => (.array r.1, r.2) := by
  simp only [readValue, skipSpaces_cons (c := '[') rfl, Char.reduceEq, Char.reduceIsDigit,
    Bool.false_eq_true, if_false, if_true]

theorem readValue_object (item : Reader Json) (cs : List Char) :
    readValue (some item) ('\x7b' :: cs) =
      (readObject (fun members key => some (item.map fun v => insertEntry key v members)) []
        cs).map fun r => (.object r.1, r.2) := by
  simp only [readValue, skipSpaces_cons (c := '\x7b') rfl, Char.reduceEq, Char.reduceIsDigit,
    Bool.false_eq_true, if_false, if_true]

end BuildConductor.Json
