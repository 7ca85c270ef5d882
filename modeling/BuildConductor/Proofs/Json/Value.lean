import BuildConductor.Proofs.Json.Lexeme

/-! Values, written and read back.

`Json.Orderly` is what a reader gives: objects with each key once and in order,
and brackets nested no deeper than the reader goes. `value_takes` is the converse:
an orderly value whose numbers are integers of 64 bits is read back from its text,
in any layout that puts nothing but blanks between the parts. Lists and objects
are treated once for all readers, by `readList_written` and `readObject_written`. -/
namespace BuildConductor

/-- Whether a number is an integer of 64 bits, with or without a sign. -/
def Number.IsInteger64 : Number → Prop
  | .integer value => -(Nat.pow 2 63 : Nat) ≤ value ∧ value < (Nat.pow 2 64 : Nat)
  | .real _ => False

instance : (n : Number) → Decidable n.IsInteger64
  | .integer value =>
    inferInstanceAs (Decidable (-(Nat.pow 2 63 : Nat) ≤ value ∧ value < (Nat.pow 2 64 : Nat)))
  | .real _ => inferInstanceAs (Decidable False)

/-- A new key that comes after all others is put at the end. -/
theorem insertEntry_last {α : Type} {key : String} (value : α) {entries : List (String × α)}
    (h : ∀ entry ∈ entries, entry.1 < key) :
    insertEntry key value entries = entries ++ [(key, value)] := by
  induction entries with
  | nil => rfl
  | cons entry rest ih =>
    have hentry : entry.1 < key := h entry (List.mem_cons_self ..)
    have hnot : ¬key < entry.1 := fun hlt => String.lt_irrefl _ (String.lt_trans hentry hlt)
    rw [insertEntry, if_neg hnot, if_pos hentry,
      ih fun e he => h e (List.mem_cons_of_mem _ he), List.cons_append]

/-- In a row of entries with ascending keys, those before one have smaller keys. -/
theorem keysAscend_append_cons {α : Type} {before after : List (String × α)} {entry : String × α}
    (h : KeysAscend (before ++ entry :: after)) : ∀ e ∈ before, e.1 < entry.1 := by
  intro e he
  exact (List.pairwise_append.1 h).2.2 e he entry (List.mem_cons_self ..)

namespace Json

open Decimal (ne_of_isDigit)

/-! ### Numbers of a value -/

mutual

/-- All numbers in a value, at any depth. -/
def numbers : Json → List Number
  | .null | .bool _ | .string _ => []
  | .number n => [n]
  | .array items => numbersOfItems items
  | .object members => numbersOfMembers members

def numbersOfItems : List Json → List Number
  | [] => []
  | item :: items => item.numbers ++ numbersOfItems items

def numbersOfMembers : List (String × Json) → List Number
  | [] => []
  | (_, value) :: members => value.numbers ++ numbersOfMembers members

end

theorem numbers_subset_items {item : Json} {items : List Json} (h : item ∈ items) :
    item.numbers ⊆ numbersOfItems items := by
  induction items with
  | nil => cases h
  | cons first items ih =>
    rw [numbersOfItems]
    rcases List.mem_cons.1 h with rfl | h
    · exact List.subset_append_left _ _
    · exact List.subset_append_of_subset_right _ (ih h)

theorem numbers_subset_members {member : String × Json} {members : List (String × Json)}
    (h : member ∈ members) : member.2.numbers ⊆ numbersOfMembers members := by
  induction members with
  | nil => cases h
  | cons first members ih =>
    rw [numbersOfMembers]
    rcases List.mem_cons.1 h with rfl | h
    · exact List.subset_append_left _ _
    · exact List.subset_append_of_subset_right _ (ih h)

/-- A value as a reader gives it that allows for brackets nested to a depth. -/
inductive Orderly : Nat → Json → Prop
  | null (depth : Nat) : Orderly depth .null
  | bool (depth : Nat) (b : Bool) : Orderly depth (.bool b)
  | number (depth : Nat) (n : Number) : Orderly depth (.number n)
  | string (depth : Nat) (s : String) : Orderly depth (.string s)
  | array {depth : Nat} {items : List Json} (hitems : ∀ item ∈ items, Orderly depth item) :
    Orderly (depth + 1) (.array items)
  | object {depth : Nat} {members : List (String × Json)} (hascend : KeysAscend members)
    (hmembers : ∀ member ∈ members, Orderly depth member.2) : Orderly (depth + 1) (.object members)

/-! ### Readers and texts -/

/-- Whether a reader takes a text for a value and leaves what follows, whatever
blanks stand before it. -/
def Reader.Takes {α : Type} (reader : Reader α) (written : List Char) (a : α) : Prop :=
  ∀ blanks rest, AllSpaces blanks → EndsNumber rest →
    reader.read (blanks ++ written ++ rest) = .ok (a, rest)

/-- Whether a text begins like a value: with neither a blank nor the end of a list. -/
def StartsValue (written : List Char) : Prop :=
  ∃ c rest, written = c :: rest ∧ isSpace c = false ∧ c ≠ ']'

/-- Whether a layout puts nothing but blanks between the parts of a value. -/
structure Spacing.IsBlank (spacing : Spacing) : Prop where
  lineBreak : ∀ depth, AllSpaces (spacing.lineBreak depth)
  afterColon : AllSpaces spacing.afterColon

theorem prettySpacing_isBlank : prettySpacing.IsBlank := by
  refine ⟨fun depth c hc => ?_, fun c hc => ?_⟩
  · rcases List.mem_cons.1 hc with rfl | hc
    · rfl
    · rw [List.eq_of_mem_replicate hc]
      rfl
  · rw [List.mem_singleton.1 hc]
    rfl

theorem Reader.Takes.map {α β : Type} {reader : Reader α} {written : List Char} {a : α}
    (h : reader.Takes written a) (f : α → β) : (reader.map f).Takes written (f a) := by
  intro blanks rest hblanks hrest
  simp only [Reader.map, h blanks rest hblanks hrest]

theorem text_takes (s : String) : text.Takes (writeString s) s := by
  intro blanks rest hblanks _
  simp only [text, writeString, List.cons_append, List.append_assoc, List.nil_append,
    skipSpaces_blanks_cons hblanks (c := '"') rfl, if_true, readString_written]

theorem boolean_takes (spacing : Spacing) (depth : Nat) (b : Bool) :
    boolean.Takes (write spacing depth (.bool b)) b := by
  intro blanks rest hblanks _
  cases b with
  | true =>
    have hskip := skipSpaces_blanks_cons hblanks (c := 't') rfl ("rue".toList ++ rest)
    simp only [boolean, write]
    simp_all [readName, Except.map]
  | false =>
    have hskip := skipSpaces_blanks_cons hblanks (c := 'f') rfl ("alse".toList ++ rest)
    simp only [boolean, write]
    simp_all [readName, Except.map]

theorem optional_boolean_takes (spacing : Spacing) (depth : Nat) (b : Bool) :
    (optional boolean).Takes (write spacing depth (.bool b)) (some b) := by
  intro blanks rest hblanks hrest
  have hread := (boolean_takes spacing depth b).map some blanks rest hblanks hrest
  cases b with
  | true =>
    have hskip := skipSpaces_blanks_cons hblanks (c := 't') rfl ("rue".toList ++ rest)
    simp only [optional, write] at hread ⊢
    simp_all
  | false =>
    have hskip := skipSpaces_blanks_cons hblanks (c := 'f') rfl ("alse".toList ++ rest)
    simp only [optional, write] at hread ⊢
    simp_all

/-! ### Lists -/

/-- The text of an item begins like a value, and the reader takes it for the item. -/
structure ItemTaken (item : Reader Json) (spacing : Spacing) (depth : Nat) (value : Json) :
    Prop where
  starts : StartsValue (write spacing depth value)
  takes : item.Takes (write spacing depth value) value

/-- What comes after an item ends a number: a comma, or blanks and the bracket. -/
theorem endsNumber_writeItems {spacing : Spacing} (hspacing : spacing.IsBlank) (depth column : Nat)
    (items : List Json) (rest : List Char) :
    EndsNumber (writeItems spacing depth items ++ (spacing.lineBreak column ++ ']' :: rest)) := by
  cases items with
  | nil =>
    rw [writeItems, List.nil_append]
    exact endsNumber_append (hspacing.lineBreak column) (endsNumber_cons (by decide) rest)
  | cons item items =>
    rw [writeItems]
    exact endsNumber_cons (by decide) _

theorem nextItem?_start {first : Bool} {cs written rest : List Char} (h : StartsValue written)
    (hcs : skipSpaces cs = written ++ rest) (hfirst : first = true) :
    nextItem? first cs = .ok (some (written ++ rest)) := by
  obtain ⟨c, more, rfl, -, hbracket⟩ := h
  rw [List.cons_append] at hcs
  simp only [nextItem?, hcs, hbracket, if_false, hfirst, if_true, List.cons_append]

theorem nextItem?_comma {blanks written rest : List Char} (h : StartsValue written)
    (hblanks : AllSpaces blanks) :
    nextItem? false (',' :: (blanks ++ (written ++ rest))) = .ok (some (written ++ rest)) := by
  obtain ⟨c, more, rfl, hspace, hbracket⟩ := h
  have hcomma := skipSpaces_cons (c := ',') rfl (blanks ++ (c :: more ++ rest))
  have hstart := skipSpaces_blanks_cons hblanks hspace (more ++ rest)
  rw [List.cons_append] at hcomma
  simp only [nextItem?, List.cons_append, hcomma, hstart, hbracket, if_false, Char.reduceEq,
    Bool.false_eq_true, if_true]

theorem nextItem?_bracket (first : Bool) {blanks : List Char} (hblanks : AllSpaces blanks)
    (rest : List Char) : nextItem? first (blanks ++ ']' :: rest) = .ok none := by
  simp only [nextItem?, skipSpaces_blanks_cons hblanks (c := ']') rfl, if_true]

theorem endList_bracket {blanks : List Char} (hblanks : AllSpaces blanks) (rest : List Char) :
    endList (blanks ++ ']' :: rest) = .ok rest := by
  simp only [endList, skipSpaces_blanks_cons hblanks (c := ']') rfl, if_true]

theorem readItems_done {α : Type} (item : Reader α) {first : Bool} {cs : List Char}
    (h : nextItem? first cs = .ok none) : readItems item first cs = .ok ([], cs) := by
  rw [readItems]
  split <;> simp_all

theorem readItems_next {α : Type} {item : Reader α} {first : Bool}
    {cs start rest after : List Char} {a : α} {as : List α}
    (hnext : nextItem? first cs = .ok (some start))
    (hitem : item.read start = .ok (a, rest))
    (hmore : readItems item false rest = .ok (as, after)) :
    readItems item first cs = .ok (a :: as, after) := by
  rw [readItems]
  split <;> rename_i heq <;> rw [hnext] at heq <;> cases heq
  split <;> rename_i heq <;> rw [hitem] at heq <;> cases heq
  rw [hmore]

section Layout
variable {spacing : Spacing} (hspacing : spacing.IsBlank)
include hspacing

/-- Items after the first are read up to the bracket that ends them. -/
theorem readItems_written {item : Reader Json} {depth : Nat} {items : List Json}
    (h : ∀ value ∈ items, ItemTaken item spacing depth value) (column : Nat) (rest : List Char) :
    readItems item false
        (writeItems spacing depth items ++ (spacing.lineBreak column ++ ']' :: rest)) =
      .ok (items, spacing.lineBreak column ++ ']' :: rest) := by
  induction items with
  | nil => exact readItems_done item (nextItem?_bracket false (hspacing.lineBreak column) rest)
  | cons value items ih =>
    obtain ⟨hstarts, htakes⟩ := h value (List.mem_cons_self ..)
    have hmore := ih fun v hv => h v (List.mem_cons_of_mem _ hv)
    have hends := endsNumber_writeItems hspacing depth column items rest
    have hitem := htakes [] _ (List.forall_mem_nil _) hends
    simp only [writeItems, List.cons_append, List.append_assoc, List.nil_append] at hitem ⊢
    exact readItems_next (nextItem?_comma hstarts (hspacing.lineBreak depth)) hitem hmore

/-- A list is read back from what stands after its opening bracket. -/
theorem readList_written {item : Reader Json} {depth : Nat} {items : List Json}
    (h : ∀ value ∈ items, ItemTaken item spacing (depth + 1) value) :
    ∃ body, write spacing depth (.array items) = '[' :: body ∧
      ∀ rest, readList item (body ++ rest) = .ok (items, rest) := by
  cases items with
  | nil =>
    refine ⟨[']'], rfl, fun rest => ?_⟩
    have hnone := nextItem?_bracket true (List.forall_mem_nil _) rest
    have hread := readItems_done item hnone
    have hclose := endList_bracket (List.forall_mem_nil _) rest
    rw [List.nil_append] at hread hclose
    rw [List.singleton_append, readList, hread]
    simp only [hclose]
  | cons value items =>
    refine ⟨spacing.lineBreak (depth + 1) ++ (write spacing (depth + 1) value ++
      (writeItems spacing (depth + 1) items ++ (spacing.lineBreak depth ++ [']']))),
      by simp [write], fun rest => ?_⟩
    obtain ⟨hstarts, htakes⟩ := h value (List.mem_cons_self ..)
    have hmore := readItems_written hspacing
      (fun v hv => h v (List.mem_cons_of_mem _ hv)) depth rest
    have hends := endsNumber_writeItems hspacing (depth + 1) depth items rest
    have hitem := htakes [] _ (List.forall_mem_nil _) hends
    have hskip (more : List Char) :
        skipSpaces (spacing.lineBreak (depth + 1) ++ (write spacing (depth + 1) value ++ more)) =
          write spacing (depth + 1) value ++ more := by
      obtain ⟨c, tail, hwritten, hspace, -⟩ := hstarts
      rw [hwritten, List.cons_append]
      exact skipSpaces_blanks_cons (hspacing.lineBreak (depth + 1)) hspace _
    simp only [List.append_assoc, List.nil_append, List.cons_append] at hitem ⊢
    rw [readList, readItems_next (nextItem?_start hstarts (hskip _) rfl) hitem hmore]
    simp only [endList_bracket (hspacing.lineBreak depth)]

end Layout

/-! ### Objects -/

/-- The members of an object, one after the other, take a state to another: each
key has a reader, and that takes the text of the value for the next state. -/
inductive Fills {σ : Type} (member : σ → String → Option (Reader σ)) (spacing : Spacing)
    (depth : Nat) : σ → List (String × Json) → σ → Prop
  | nil (state : σ) : Fills member spacing depth state [] state
  | cons {state next final : σ} {key : String} {value : Json} {members : List (String × Json)}
    {reader : Reader σ} (hreader : member state key = some reader)
    (htakes : reader.Takes (write spacing depth value) next)
    (hrest : Fills member spacing depth next members final) :
    Fills member spacing depth state ((key, value) :: members) final

theorem endsNumber_writeMembers {spacing : Spacing} (hspacing : spacing.IsBlank)
    (depth column : Nat) (members : List (String × Json)) (rest : List Char) :
    EndsNumber
      (writeMembers spacing depth members ++ (spacing.lineBreak column ++ '\x7d' :: rest)) := by
  cases members with
  | nil =>
    rw [writeMembers, List.nil_append]
    exact endsNumber_append (hspacing.lineBreak column) (endsNumber_cons (by decide) rest)
  | cons member members =>
    rw [writeMembers]
    exact endsNumber_cons (by decide) _

theorem nextKey?_brace (first : Bool) {blanks : List Char} (hblanks : AllSpaces blanks)
    (rest : List Char) : nextKey? first (blanks ++ '\x7d' :: rest) = .ok none := by
  simp only [nextKey?, skipSpaces_blanks_cons hblanks (c := '\x7d') rfl, if_true]

theorem nextKey?_quote {blanks : List Char} (hblanks : AllSpaces blanks) (rest : List Char) :
    nextKey? true (blanks ++ '"' :: rest) = .ok (some rest) := by
  simp only [nextKey?, skipSpaces_blanks_cons hblanks (c := '"') rfl, Char.reduceEq, if_false,
    if_true]

theorem nextKey?_comma {blanks : List Char} (hblanks : AllSpaces blanks) (rest : List Char) :
    nextKey? false (',' :: (blanks ++ '"' :: rest)) = .ok (some rest) := by
  simp only [nextKey?, skipSpaces_cons (c := ',') rfl,
    skipSpaces_blanks_cons hblanks (c := '"') rfl, Char.reduceEq, Bool.false_eq_true, if_false,
    if_true]

theorem readColon_colon (rest : List Char) : readColon (':' :: rest) = .ok rest := by
  simp only [readColon, skipSpaces_cons (c := ':') rfl, if_true]

theorem endObject_brace {blanks : List Char} (hblanks : AllSpaces blanks) (rest : List Char) :
    endObject (blanks ++ '\x7d' :: rest) = .ok rest := by
  simp only [endObject, skipSpaces_blanks_cons hblanks (c := '\x7d') rfl, if_true]

section Members
variable {σ : Type} {member : σ → String → Option (Reader σ)}

theorem readMembers_done (state : σ) {first : Bool} {cs : List Char}
    (h : nextKey? first cs = .ok none) : readMembers member first state cs = .ok (state, cs) := by
  rw [readMembers]
  split <;> simp_all

/-- A member that is read leaves those behind it to be read. -/
theorem readMembers_step {first : Bool} {state next : σ} {key : String}
    {cs start afterKey afterColon rest : List Char} {reader : Reader σ}
    (hnext : nextKey? first cs = .ok (some start)) (hkey : readString start = .ok (key, afterKey))
    (hreader : member state key = some reader) (hcolon : readColon afterKey = .ok afterColon)
    (hvalue : reader.read afterColon = .ok (next, rest)) :
    readMembers member first state cs = readMembers member false next rest := by
  rw [readMembers]
  split <;> rename_i heq <;> rw [hnext] at heq <;> cases heq
  split <;> rename_i heq <;> rw [hkey] at heq <;> cases heq
  rw [hreader]
  simp only
  split <;> rename_i heq <;> rw [hcolon] at heq <;> cases heq
  split <;> rename_i heq <;> rw [hvalue] at heq <;> cases heq
  rfl

theorem readMembers_next {first : Bool} {state next final : σ} {key : String}
    {cs start afterKey afterColon rest after : List Char} {reader : Reader σ}
    (hnext : nextKey? first cs = .ok (some start)) (hkey : readString start = .ok (key, afterKey))
    (hreader : member state key = some reader) (hcolon : readColon afterKey = .ok afterColon)
    (hvalue : reader.read afterColon = .ok (next, rest))
    (hmore : readMembers member false next rest = .ok (final, after)) :
    readMembers member first state cs = .ok (final, after) :=
  (readMembers_step hnext hkey hreader hcolon hvalue).trans hmore

/-- Members after the first are read up to the brace that ends them. -/
theorem readMembers_written {spacing : Spacing} (hspacing : spacing.IsBlank) {depth : Nat}
    {state final : σ} {members : List (String × Json)}
    (h : Fills member spacing depth state members final) (column : Nat) (rest : List Char) :
    readMembers member false state
        (writeMembers spacing depth members ++ (spacing.lineBreak column ++ '\x7d' :: rest)) =
      .ok (final, spacing.lineBreak column ++ '\x7d' :: rest) := by
  induction h with
  | nil state =>
    exact readMembers_done state (nextKey?_brace false (hspacing.lineBreak column) rest)
  | @cons state next final key value members reader hreader htakes _ ih =>
    have hends := endsNumber_writeMembers hspacing depth column members rest
    have hvalue := htakes _ _ hspacing.afterColon hends
    simp only [writeMembers, writeString, List.cons_append, List.append_assoc,
      List.nil_append] at hvalue ⊢
    exact readMembers_next (nextKey?_comma (hspacing.lineBreak depth) _) (readString_written key _)
      hreader (readColon_colon _) hvalue ih

/-- An object is read back from what stands after its opening brace. -/
theorem readObject_written {spacing : Spacing} (hspacing : spacing.IsBlank) {depth : Nat}
    {state final : σ} {members : List (String × Json)}
    (h : Fills member spacing (depth + 1) state members final) :
    ∃ body, write spacing depth (.object members) = '\x7b' :: body ∧
      ∀ rest, readObject member state (body ++ rest) = .ok (final, rest) := by
  cases h with
  | nil =>
    refine ⟨['\x7d'], rfl, fun rest => ?_⟩
    have hread : readMembers member true state ('\x7d' :: rest) = .ok (state, '\x7d' :: rest) :=
      readMembers_done state (nextKey?_brace true (List.forall_mem_nil _) rest)
    have hclose := endObject_brace (List.forall_mem_nil _) rest
    rw [List.nil_append] at hclose
    rw [List.singleton_append, readObject, hread]
    simp only [hclose]
  | @cons _ next _ key value members reader hreader htakes hrest =>
    refine ⟨spacing.lineBreak (depth + 1) ++ (writeString key ++ ':' :: (spacing.afterColon ++
      (write spacing (depth + 1) value ++ (writeMembers spacing (depth + 1) members ++
        (spacing.lineBreak depth ++ ['\x7d']))))), by simp [write], fun rest => ?_⟩
    have hends := endsNumber_writeMembers hspacing (depth + 1) depth members rest
    have hvalue := htakes _ _ hspacing.afterColon hends
    have hmore := readMembers_written hspacing hrest depth rest
    simp only [writeString, List.cons_append, List.append_assoc, List.nil_append] at hvalue ⊢
    rw [readObject, readMembers_next (nextKey?_quote (hspacing.lineBreak (depth + 1)) _)
      (readString_written key _) hreader (readColon_colon _) hvalue hmore]
    simp only [endObject_brace (hspacing.lineBreak depth)]

end Members

/-- A state that takes in every member as an entry of a map has all entries of the
map in the end. -/
theorem fills_insert {σ α : Type} {member : σ → String → Option (Reader σ)} {item : Reader α}
    {spacing : Spacing} {depth : Nat} (state : KeyMap α → σ) (value : α → Json)
    (done all : KeyMap α) (entries : List (String × α))
    (hall : all.entries = done.entries ++ entries)
    (hmember : ∀ m : KeyMap α, ∀ entry ∈ entries,
      member (state m) entry.1 = some (item.map fun a => state (m.insert entry.1 a)))
    (htakes : ∀ entry ∈ entries, item.Takes (write spacing depth (value entry.2)) entry.2) :
    Fills member spacing depth (state done) (entries.map fun entry => (entry.1, value entry.2))
      (state all) := by
  induction entries generalizing done with
  | nil =>
    have hdone : all = done := KeyMap.ext (by rw [hall, List.append_nil])
    rw [hdone]
    exact .nil _
  | cons entry entries ih =>
    have hascend : KeysAscend (done.entries ++ entry :: entries) := hall ▸ all.ascend
    have hlast : (done.insert entry.1 entry.2).entries = done.entries ++ [entry] :=
      insertEntry_last entry.2 (keysAscend_append_cons hascend)
    have hnext : all.entries = (done.insert entry.1 entry.2).entries ++ entries := by
      rw [hall, hlast, ← List.append_cons]
    have hentry := (htakes entry (List.mem_cons_self ..)).map fun a => state (done.insert entry.1 a)
    exact .cons (hmember done entry (List.mem_cons_self ..)) hentry
      (ih _ hnext (fun m e he => hmember m e (List.mem_cons_of_mem _ he))
        fun e he => htakes e (List.mem_cons_of_mem _ he))

/-! ### Values -/

theorem readValue_append (item : Option (Reader Json)) {blanks : List Char}
    (hblanks : AllSpaces blanks) (cs : List Char) :
    readValue item (blanks ++ cs) = readValue item cs := by
  simp only [readValue, skipSpaces_append hblanks]

theorem exists_readValue (depth : Nat) : ∃ item, (value depth).read = readValue item := by
  cases depth with
  | zero => exact ⟨none, rfl⟩
  | succ depth => exact ⟨some (value depth), rfl⟩

section Numbers
variable {text rest : List Char} {parts : NumberParts} {n : Number} (h : SpellsParts text parts)
  (hrest : EndsNumber rest)
include h hrest

theorem readValue_positive (hvalue : ∀ unread, numberOfParts false parts unread = .ok n)
    (item : Option (Reader Json)) : readValue item (text ++ rest) = .ok (.number n, rest) := by
  have hread := h.readNumber hvalue hrest
  obtain ⟨c, more, rfl, hc⟩ := h.exists_digit
  rw [List.cons_append] at hread ⊢
  simp only [readValue, skipSpaces_cons (isSpace_of_isDigit hc), ne_of_isDigit hc (d := 'n') rfl,
    ne_of_isDigit hc (d := 't') rfl, ne_of_isDigit hc (d := 'f') rfl,
    ne_of_isDigit hc (d := '-') rfl, hc, hread, if_false, if_true, Except.map]

theorem readValue_negative (hvalue : ∀ unread, numberOfParts true parts unread = .ok n)
    (item : Option (Reader Json)) :
    readValue item ('-' :: text ++ rest) = .ok (.number n, rest) := by
  have hread := h.readNumber hvalue hrest
  simp only [readValue, List.cons_append, skipSpaces_cons (c := '-') rfl, hread,
    Char.reduceEq, if_false, if_true, Except.map]

end Numbers

theorem writeNumber_natural (n : Nat) : writeNumber (.integer n) = Nat.toDigits 10 n := by
  rw [writeNumber, Int.toString_eq_repr, Int.repr_eq_if, if_pos (Int.natCast_nonneg n)]
  exact Nat.toList_repr

theorem writeNumber_negative {n : Nat} (hpos : 0 < n) :
    writeNumber (.integer (-n)) = '-' :: Nat.toDigits 10 n := by
  rw [writeNumber, Int.toString_eq_repr, Int.repr_eq_if, if_neg (by omega), String.toList_append,
    Int.neg_neg, Int.toNat_natCast, Nat.toList_repr]
  rfl

/-- An integer of 64 bits is read back from its text. -/
theorem readValue_number (item : Option (Reader Json)) {n : Number} (hn : n.IsInteger64)
    {rest : List Char} (hrest : EndsNumber rest) :
    StartsValue (writeNumber n) ∧
      readValue item (writeNumber n ++ rest) = .ok (.number n, rest) := by
  cases n with
  | real x => exact hn.elim
  | integer value =>
    obtain ⟨hlow, hhigh⟩ := hn
    by_cases hsign : 0 ≤ value
    · obtain ⟨n, rfl⟩ := Int.eq_ofNat_of_zero_le hsign
      have hparts := spellsParts_toDigits n
      rw [writeNumber_natural]
      refine ⟨?_, readValue_positive hparts hrest (numberOfParts_natural (by omega)) item⟩
      obtain ⟨c, digits, hdigits, hc⟩ := hparts.exists_digit
      exact ⟨c, digits, hdigits, isSpace_of_isDigit hc, ne_of_isDigit hc rfl⟩
    · obtain ⟨n, rfl⟩ := Int.exists_eq_neg_ofNat (by omega : value ≤ 0)
      have hvalue := numberOfParts_negative (n := n) (by omega) (by omega)
      rw [writeNumber_negative (by omega)]
      exact ⟨⟨_, _, rfl, rfl, by decide⟩,
        readValue_negative (spellsParts_toDigits n) hrest hvalue item⟩

/-- What is read back where it stands is read back after blanks, at any depth. -/
theorem itemTaken_of_readValue {spacing : Spacing} {column : Nat} {v : Json}
    (hstart : StartsValue (write spacing column v))
    (hread : ∀ item rest, EndsNumber rest →
      readValue item (write spacing column v ++ rest) = .ok (v, rest)) (depth : Nat) :
    ItemTaken (value depth) spacing column v := by
  obtain ⟨item, hitem⟩ := exists_readValue depth
  refine ⟨hstart, fun blanks rest hblanks hrest => ?_⟩
  rw [hitem, List.append_assoc, readValue_append item hblanks]
  exact hread item rest hrest

/-- A list is read back if its items are. -/
theorem array_taken {spacing : Spacing} (hspacing : spacing.IsBlank) {depth column : Nat}
    {items : List Json}
    (h : ∀ item ∈ items, ItemTaken (value depth) spacing (column + 1) item) :
    ItemTaken (value (depth + 1)) spacing column (.array items) := by
  obtain ⟨body, hwritten, hread⟩ := readList_written hspacing h
  refine ⟨⟨'[', body, hwritten, rfl, by decide⟩, fun blanks rest hblanks _ => ?_⟩
  show readValue (some (value depth)) _ = _
  rw [List.append_assoc, readValue_append _ hblanks, hwritten, List.cons_append]
  simp only [readValue, skipSpaces_cons (c := '[') rfl, hread, Char.reduceEq, Char.reduceIsDigit,
    Bool.false_eq_true, if_false, if_true, Except.map]

/-- An object is read back if the values of its members are and its keys ascend. -/
theorem object_taken {spacing : Spacing} (hspacing : spacing.IsBlank) {depth column : Nat}
    {members : List (String × Json)} (hascend : KeysAscend members)
    (h : ∀ member ∈ members,
      (value depth).Takes (write spacing (column + 1) member.2) member.2) :
    ItemTaken (value (depth + 1)) spacing column (.object members) := by
  have hfills : Fills (fun members key =>
      some ((value depth).map fun v => insertEntry key v members)) spacing (column + 1) []
      (members.map fun member => (member.1, member.2)) members :=
    fills_insert KeyMap.entries (fun v => v) .empty ⟨members, hascend⟩ members rfl
      (fun _ _ _ => rfl) h
  rw [List.map_id'] at hfills
  obtain ⟨body, hwritten, hread⟩ := readObject_written hspacing hfills
  refine ⟨⟨'\x7b', body, hwritten, rfl, by decide⟩, fun blanks rest hblanks _ => ?_⟩
  show readValue (some (value depth)) _ = _
  rw [List.append_assoc, readValue_append _ hblanks, hwritten, List.cons_append]
  simp only [readValue, skipSpaces_cons (c := '\x7b') rfl, hread, Char.reduceEq,
    Char.reduceIsDigit, Bool.false_eq_true, if_false, if_true, Except.map]

/-- An orderly value whose numbers are integers of 64 bits is read back from its
text, at any depth and in any layout. -/
theorem value_takes {spacing : Spacing} (hspacing : spacing.IsBlank) {depth : Nat} {v : Json}
    (h : v.Orderly depth) (hnumbers : ∀ n ∈ v.numbers, n.IsInteger64) (column : Nat) :
    ItemTaken (value depth) spacing column v := by
  induction h generalizing column with
  | null depth =>
    exact itemTaken_of_readValue ⟨_, _, rfl, rfl, by decide⟩ (fun _ _ _ => rfl) depth
  | bool depth b =>
    cases b <;>
    exact itemTaken_of_readValue ⟨_, _, rfl, rfl, by decide⟩ (fun _ _ _ => rfl) depth
  | number depth n =>
    have hn := hnumbers n (List.mem_singleton_self n)
    have hstart : StartsValue (write spacing column (.number n)) :=
      (readValue_number none hn endsNumber_nil).1
    refine itemTaken_of_readValue hstart (fun item rest hrest => ?_) depth
    exact (readValue_number item hn hrest).2
  | string depth s =>
    refine itemTaken_of_readValue ⟨_, _, rfl, rfl, by decide⟩ (fun item rest _ => ?_) depth
    simp only [write, writeString, readValue, List.cons_append, List.append_assoc,
      List.nil_append, skipSpaces_cons (c := '"') rfl, readString_written]
    rfl
  | array _ ih =>
    exact array_taken hspacing fun item hitem =>
      ih item hitem (fun n hn => hnumbers n (numbers_subset_items hitem hn)) (column + 1)
  | object hascend _ ih =>
    refine object_taken hspacing hascend fun member hmember => ?_
    have hmembers := fun n hn => hnumbers n (numbers_subset_members hmember hn)
    exact (ih member hmember hmembers (column + 1)).takes

end Json

end BuildConductor
