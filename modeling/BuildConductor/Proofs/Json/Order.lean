import Mathlib.Data.List.Pairwise
import BuildConductor.Proofs.Json.Reordering
import BuildConductor.Proofs.Json.Skipping

/-! Readers that are blind to the order of members.

A reader is blind to the order of members (`Reader.OrderBlind`) if it makes the same of
all texts that differ in nothing else, as long as no object has a key more than once. An
object is read by one step for each member. Where members of different keys set different
parts of the state, the steps commute, and so any order of them leads to the same end:
that is `Assignment.Independent.judges`, for every object. Values of any kind are read
blindly by induction on the depth of their brackets. -/
namespace BuildConductor

/-! ### Entries -/

section Entries
variable {α : Type} {key other : String} {entry : String × α} {rest : List (String × α)}

theorem insertEntry_of_lt (h : key < entry.1) (v : α) :
    insertEntry key v (entry :: rest) = (key, v) :: entry :: rest :=
  if_pos h

theorem insertEntry_of_gt (h : entry.1 < key) (v : α) :
    insertEntry key v (entry :: rest) = entry :: insertEntry key v rest := by
  rw [insertEntry, if_neg (String.lt_asymm h), if_pos h]

theorem insertEntry_of_eq (h : key = entry.1) (v : α) :
    insertEntry key v (entry :: rest) = (key, v) :: rest := by
  rw [insertEntry, if_neg (h ▸ String.lt_irrefl key), if_neg (h ▸ String.lt_irrefl key)]

/-- Of two keys, or of a key and that of an entry, one comes first, or they are equal. -/
theorem key_cases (key other : String) : key < other ∨ other < key ∨ key = other := by
  by_cases hlt : key < other
  · exact .inl hlt
  by_cases hgt : other < key
  · exact .inr (.inl hgt)
  · exact .inr (.inr (eq_of_not_lt hlt hgt))

/-- A larger key goes behind a smaller one. -/
theorem insertEntry_comm_of_lt (h : key < other) (v w : α) (entries : List (String × α)) :
    insertEntry other w (insertEntry key v entries) =
      insertEntry key v (insertEntry other w entries) := by
  induction entries with
  | nil => rw [insertEntry, insertEntry, insertEntry_of_gt h, insertEntry_of_lt h, insertEntry]
  | cons entry rest ih =>
    rcases key_cases key entry.1 with hkey | hkey | hkey
    · rw [insertEntry_of_lt hkey, insertEntry_of_gt h]
      rcases key_cases other entry.1 with hother | hother | hother
      · rw [insertEntry_of_lt hother, insertEntry_of_lt h]
      · rw [insertEntry_of_gt hother, insertEntry_of_lt hkey]
      · rw [insertEntry_of_eq hother, insertEntry_of_lt h]
    · have hother := String.lt_trans hkey h
      rw [insertEntry_of_gt hkey, insertEntry_of_gt hother, ih, insertEntry_of_gt hother,
        insertEntry_of_gt hkey]
    · rw [insertEntry_of_eq hkey, insertEntry_of_gt h, insertEntry_of_gt (hkey ▸ h),
        insertEntry_of_eq hkey]

theorem insertEntry_comm (h : key ≠ other) (v w : α) (entries : List (String × α)) :
    insertEntry other w (insertEntry key v entries) =
      insertEntry key v (insertEntry other w entries) := by
  rcases key_cases key other with hlt | hgt | heq
  · exact insertEntry_comm_of_lt hlt v w entries
  · exact (insertEntry_comm_of_lt hgt w v entries).symm
  · exact absurd heq h

theorem KeyMap.insert_comm (h : key ≠ other) (v w : α) (m : KeyMap α) :
    (m.insert key v).insert other w = (m.insert other w).insert key v :=
  KeyMap.ext (insertEntry_comm h v w m.entries)

end Entries

namespace Json

open Decimal (ne_of_isDigit)

theorem Reader.ext {α : Type} {reader other : Reader α}
    (h : ∀ cs, reader.read cs = other.read cs) : reader = other := by
  cases reader
  cases other
  cases funext h
  rfl

theorem Reader.map_map {α β γ : Type} (reader : Reader α) (f : α → β) (g : β → γ) :
    (reader.map f).map g = reader.map fun a => g (f a) := by
  refine Reader.ext fun cs => ?_
  simp only [Reader.map]
  cases reader.read cs <;> rfl

/-! ### Blind readers -/

/-- Whether a reader gives a result on every text that is written for a tree in some
order. -/
def Reader.Judges {α : Type} (reader : Reader α) (tree : Tree) (result : Option α) : Prop :=
  ∀ other text, tree.Reordered other → Written text other → reader.Gives text result

/-- Whether a reader gives the same on all texts of a tree without repeated keys, in
whatever order the members are written. -/
def Reader.OrderBlind {α : Type} (reader : Reader α) : Prop :=
  ∀ tree : Tree, tree.Unrepeated → ∃ result, reader.Judges tree result

section Blind
variable {α β : Type} {reader : Reader α}

theorem Reader.OrderBlind.map (h : reader.OrderBlind) (f : α → β) :
    (reader.map f).OrderBlind := by
  intro tree htree
  obtain ⟨result, hresult⟩ := h tree htree
  exact ⟨result.map f, fun other text hother hwritten => (hresult other text hother hwritten).map f⟩

/-- What is given has the properties of whatever the reader gives. -/
theorem Reader.OrderBlind.exists_yielded (h : reader.OrderBlind) {P : α → Prop}
    (hyields : reader.Yields P) {tree : Tree} (htree : tree.Unrepeated) :
    ∃ result, reader.Judges tree result ∧ ∀ a, result = some a → P a := by
  by_cases hsome : ∃ other text, tree.Reordered other ∧ Written text other
  · obtain ⟨other, text, hother, hwritten⟩ := hsome
    obtain ⟨result, hresult⟩ := h tree htree
    refine ⟨result, hresult, ?_⟩
    rintro a rfl
    have hread := hresult other text hother hwritten [] [] (List.forall_mem_nil _) endsNumber_nil
    cases hgiven : reader.read ([] ++ (text ++ [])) with
    | error fault =>
      rw [hgiven] at hread
      cases hread
    | ok given =>
      rw [hgiven] at hread
      cases hread
      exact hyields _ a [] hgiven
  · refine ⟨none, fun other text hother hwritten => ?_, fun a ha => nomatch ha⟩
    exact absurd ⟨other, text, hother, hwritten⟩ hsome

/-- A reader is blind if it is on scalars, on lists and on objects. -/
theorem Reader.orderBlind_of_kinds
    (hscalar : ∀ text, ScalarText text → ∃ result, reader.Gives text result)
    (harray : ∀ items : List Tree, (∀ item ∈ items, item.Unrepeated) →
      ∃ result, reader.Judges (.array items) result)
    (hobject : ∀ members, (Tree.object members).Unrepeated →
      ∃ result, reader.Judges (.object members) result) : reader.OrderBlind := by
  intro tree htree
  cases htree with
  | scalar text =>
    by_cases htext : ScalarText text
    · obtain ⟨result, hresult⟩ := hscalar text htext
      refine ⟨result, fun other written hother hwritten => ?_⟩
      cases hother
      cases hwritten
      exact hresult
    · refine ⟨none, fun other written hother hwritten => ?_⟩
      cases hother
      cases hwritten with
      | scalar h => exact absurd h htext
  | array hitems => exact harray _ hitems
  | object hkeys hmembers => exact hobject _ (.object hkeys hmembers)

theorem Reader.judges_array_of_refused (h : ∀ more, reader.Gives ('[' :: more) none)
    (items : List Tree) : reader.Judges (.array items) none := by
  intro other text hother hwritten
  obtain ⟨_, _, _, rfl, _⟩ := hwritten.of_array hother
  exact h _

theorem Reader.judges_object_of_refused (h : ∀ more, reader.Gives ('\x7b' :: more) none)
    (members : List (List Char × Tree)) : reader.Judges (.object members) none := by
  intro other text hother hwritten
  obtain ⟨_, _, _, _, rfl, _⟩ := hwritten.of_object hother
  exact h _

/-- A reader that wants a scalar is blind. -/
theorem Reader.orderBlind_of_scalars
    (hscalar : ∀ text, ScalarText text → ∃ result, reader.Gives text result)
    (harray : ∀ more, reader.Gives ('[' :: more) none)
    (hobject : ∀ more, reader.Gives ('\x7b' :: more) none) : reader.OrderBlind :=
  Reader.orderBlind_of_kinds hscalar (fun items _ => ⟨none, judges_array_of_refused harray items⟩)
    fun members _ => ⟨none, judges_object_of_refused hobject members⟩

/-- A reader that wants an object is blind if it is on objects. -/
theorem Reader.orderBlind_of_objects
    (hrefuses : ∀ {c : Char}, isSpace c = false → c ≠ '\x7b' → ∀ more,
      reader.Gives (c :: more) none)
    (hobject : ∀ members, (Tree.object members).Unrepeated →
      ∃ result, reader.Judges (.object members) result) : reader.OrderBlind := by
  refine Reader.orderBlind_of_kinds (fun text htext => ?_)
    (fun items _ => ⟨none, judges_array_of_refused (hrefuses rfl (by decide)) items⟩) hobject
  obtain ⟨c, more, rfl, hspace, -, -, hbrace⟩ := htext.starts
  exact ⟨none, hrefuses hspace hbrace more⟩

end Blind

/-! ### Scalars -/

theorem realOfParts_toOption (negative : Bool) (parts : NumberParts) (unread other : List Char) :
    (realOfParts negative parts unread).toOption = (realOfParts negative parts other).toOption := by
  unfold realOfParts
  -- How a number is rounded is of no concern here, and must not be computed.
  obtain ⟨ofNat, hofNat⟩ : ∃ f, Decimal.Binary64.ofNat? = f := ⟨_, rfl⟩
  rw [hofNat]
  simp only
  split
  · split <;> rfl
  split
  · split <;> rfl
  · split <;> rfl

/-- Whether parts are a number does not depend on what follows. -/
theorem numberOfParts_toOption (negative : Bool) (parts : NumberParts) (unread other : List Char) :
    (numberOfParts negative parts unread).toOption =
      (numberOfParts negative parts other).toOption := by
  unfold numberOfParts
  simp only
  split
  · rfl
  split
  · rfl
  exact realOfParts_toOption negative parts unread other

/-- Parts are a number whatever follows, or they are refused. -/
theorem SpellsParts.number_or_refused (negative : Bool) {text : List Char} {parts : NumberParts}
    (h : SpellsParts text parts) :
    (∃ n, ∀ unread, numberOfParts negative parts unread = .ok n) ∨
      ∀ rest, EndsNumber rest → (Json.readNumber negative (text ++ rest)).toOption = none := by
  cases hn : numberOfParts negative parts [] with
  | ok n =>
    refine .inl ⟨n, fun unread => ?_⟩
    have hsame := numberOfParts_toOption negative parts unread []
    cases hunread : numberOfParts negative parts unread with
    | ok m =>
      rw [hunread, hn] at hsame
      exact congrArg _ (Option.some.inj hsame)
    | error fault =>
      rw [hunread, hn] at hsame
      cases hsame
  | error fault =>
    refine .inr fun rest hrest => ?_
    have hsame := numberOfParts_toOption negative parts rest []
    cases hunread : numberOfParts negative parts rest with
    | ok m =>
      rw [hunread, hn] at hsame
      cases hsame
    | error fault =>
      simp only [Json.readNumber, h.read .endInValue hrest, hunread]
      rfl

theorem readString_refused {cs : List Char} (h : (readChars cs).toOption = none) :
    (readString cs).toOption = none := by
  rw [readString]
  cases hcs : readChars cs with
  | error fault => rfl
  | ok r =>
    rw [hcs] at h
    cases h

/-- A scalar spells a value, or it is refused where values are kept. -/
theorem ScalarText.spells_or_refused {text : List Char} (h : ScalarText text) (depth : Nat) :
    (∃ v, Spells depth text v) ∨
      ∀ item rest, EndsNumber rest → (readValue item (text ++ rest)).toOption = none := by
  cases h with
  | null => exact .inl ⟨_, .null⟩
  | true => exact .inl ⟨_, .true⟩
  | false => exact .inl ⟨_, .false⟩
  | positive hparts =>
    rcases hparts.number_or_refused Bool.false with ⟨n, hn⟩ | hrefused
    · exact .inl ⟨_, .positive hparts hn⟩
    · refine .inr fun item rest hrest => ?_
      have hnone := hrefused rest hrest
      obtain ⟨c, more, rfl, hc⟩ := hparts.exists_digit
      rw [List.cons_append] at hnone ⊢
      simp only [readValue, skipSpaces_cons (isSpace_of_isDigit hc),
        ne_of_isDigit hc (d := 'n') rfl, ne_of_isDigit hc (d := 't') rfl,
        ne_of_isDigit hc (d := 'f') rfl, ne_of_isDigit hc (d := '-') rfl, hc, if_false, if_true,
        except_map_toOption, hnone, Option.map_none]
  | negative hparts =>
    rcases hparts.number_or_refused Bool.true with ⟨n, hn⟩ | hrefused
    · exact .inl ⟨_, .negative hparts hn⟩
    · refine .inr fun item rest hrest => ?_
      simp only [readValue, List.cons_append, skipSpaces_cons (c := '-') rfl, Char.reduceEq,
        if_false, if_true, except_map_toOption, hrefused rest hrest, Option.map_none]
  | string hbody =>
    rcases hbody.settled with ⟨text, htext⟩ | hrefused
    · exact .inl ⟨_, .string htext⟩
    · refine .inr fun item rest _ => ?_
      simp only [readValue, List.cons_append, List.append_assoc, List.nil_append,
        skipSpaces_cons (c := '"') rfl, Char.reduceEq, Char.reduceIsDigit, Bool.false_eq_true,
        if_false, if_true, except_map_toOption, readString_refused (hrefused rest),
        Option.map_none]

/-- A reader that wants a scalar refuses what begins with another character. -/
theorem boolean_refuses {c : Char} (hspace : isSpace c = false) (htrue : c ≠ 't')
    (hfalse : c ≠ 'f') (more : List Char) : boolean.Gives (c :: more) none := by
  intro blanks rest hblanks _
  simp only [boolean, List.cons_append, skipSpaces_blanks_cons hblanks hspace, htrue, hfalse,
    if_false]
  rfl

theorem text_refuses {c : Char} (hspace : isSpace c = false) (hquote : c ≠ '"')
    (more : List Char) : text.Gives (c :: more) none := by
  intro blanks rest hblanks _
  simp only [text, List.cons_append, skipSpaces_blanks_cons hblanks hspace, hquote, if_false]
  rfl

theorem boolean_orderBlind : boolean.OrderBlind := by
  refine Reader.orderBlind_of_scalars (fun text htext => ?_)
    (boolean_refuses rfl (by decide) (by decide)) (boolean_refuses rfl (by decide) (by decide))
  cases htext with
  | true => exact ⟨_, (boolean_decodes 0).gives .true⟩
  | false => exact ⟨_, (boolean_decodes 0).gives .false⟩
  | positive hparts =>
    obtain ⟨c, more, rfl, hc⟩ := hparts.exists_digit
    exact ⟨_, boolean_refuses (isSpace_of_isDigit hc) (ne_of_isDigit hc rfl) (ne_of_isDigit hc rfl)
      more⟩
  | _ => exact ⟨_, boolean_refuses rfl (by decide) (by decide) _⟩

theorem text_orderBlind : text.OrderBlind := by
  refine Reader.orderBlind_of_scalars (fun written hwritten => ?_)
    (text_refuses rfl (by decide)) (text_refuses rfl (by decide))
  cases hwritten with
  | positive hparts =>
    obtain ⟨c, more, rfl, hc⟩ := hparts.exists_digit
    exact ⟨_, text_refuses (isSpace_of_isDigit hc) (ne_of_isDigit hc rfl) more⟩
  | string hbody =>
    rcases hbody.settled with ⟨s, hs⟩ | hrefused
    · exact ⟨_, (text_decodes 0).gives (.string hs)⟩
    · refine ⟨none, fun blanks rest hblanks _ => ?_⟩
      simp only [text, List.cons_append, List.append_assoc, List.nil_append,
        skipSpaces_blanks_cons hblanks (c := '"') rfl, if_true,
        readString_refused (hrefused rest), Option.map_none]
  | _ => exact ⟨_, text_refuses rfl (by decide) _⟩

/-- Where there is no `null`, an optional value is a value. -/
theorem optional_gives {α : Type} {reader : Reader α} {c : Char} {more : List Char}
    {result : Option α} (hspace : isSpace c = false) (hnull : c ≠ 'n')
    (h : reader.Gives (c :: more) result) :
    (optional reader).Gives (c :: more) (result.map some) := by
  intro blanks rest hblanks hrest
  have hread := h.map some blanks rest hblanks hrest
  simp only [optional, List.cons_append, skipSpaces_blanks_cons hblanks hspace]
  split
  · rename_i heq
    cases heq
    exact absurd rfl hnull
  · exact hread

theorem optional_boolean_orderBlind : (optional boolean).OrderBlind := by
  have hrefuses {c : Char} (hspace : isSpace c = false) (hnull : c ≠ 'n') (htrue : c ≠ 't')
      (hfalse : c ≠ 'f') (more : List Char) : (optional boolean).Gives (c :: more) none :=
    optional_gives hspace hnull (boolean_refuses hspace htrue hfalse more)
  refine Reader.orderBlind_of_scalars (fun text htext => ?_)
    (hrefuses rfl (by decide) (by decide) (by decide))
    (hrefuses rfl (by decide) (by decide) (by decide))
  cases htext with
  | null => exact ⟨_, (optional_boolean_decodes 0).gives .null⟩
  | true => exact ⟨_, (optional_boolean_decodes 0).gives .true⟩
  | false => exact ⟨_, (optional_boolean_decodes 0).gives .false⟩
  | positive hparts =>
    obtain ⟨c, more, rfl, hc⟩ := hparts.exists_digit
    exact ⟨_, hrefuses (isSpace_of_isDigit hc) (ne_of_isDigit hc rfl) (ne_of_isDigit hc rfl)
      (ne_of_isDigit hc rfl) more⟩
  | _ => exact ⟨_, hrefuses rfl (by decide) (by decide) (by decide) _⟩

theorem skipped_orderBlind : skipped.OrderBlind :=
  fun _ _ => ⟨some (), fun _ _ _ hwritten => skipped_gives hwritten⟩

/-! ### Lists -/

theorem Branch.Renders.givesItem {α : Type} {reader : Reader α} {branch : Branch} {tree : Tree}
    {result : Option α} (h : branch.Renders tree) (hjudges : reader.Judges tree result) :
    reader.GivesItem branch.written result :=
  ⟨_, h.written.starts, h.spaced.frames, hjudges _ _ h.reordered h.written⟩

/-- A list of what a blind reader reads is read the same in every order. -/
theorem Reader.OrderBlind.judges_list {α : Type} {reader : Reader α} (h : reader.OrderBlind)
    {items : List Tree} (hitems : ∀ item ∈ items, item.Unrepeated) :
    ∃ result : Option (List α), ∀ other text, (Tree.array items).Reordered other →
      Written text other → ∃ inner, text = '[' :: inner ∧ ∀ rest,
        (readList reader (inner ++ rest)).toOption = result.map fun as => (as, rest) := by
  choose! result hresult using fun item hitem => h item (hitems item hitem)
  refine ⟨(items.map result).mapM id, fun other text hother hwritten => ?_⟩
  obtain ⟨blanks, branches, hblanks, rfl, hrenders⟩ := hwritten.of_array hother
  refine ⟨_, rfl, fun rest => ?_⟩
  have hpieces : List.Forall₂ reader.GivesItem (branches.map Branch.written) (items.map result) :=
    forall₂_map_of_mem hrenders fun item hitem branch h => h.givesItem (hresult item hitem)
  have hread := readList_separated hpieces hblanks rest
  simpa only [List.append_assoc, List.cons_append, List.nil_append] using hread

/-! ### Objects -/

/-- How the members of an object are read that each set a part of the state: whether a
key is refused, and how what goes with it is read. -/
structure Assignment (σ : Type) where
  refused : String → σ → Bool
  setter : String → Reader (σ → σ)

namespace Assignment
variable {σ : Type}

def member (a : Assignment σ) (state : σ) (key : String) : Option (Reader σ) :=
  if a.refused key state then none else some ((a.setter key).map fun set => set state)

/-- What a member does to the state when its value has been read. -/
def step (a : Assignment σ) (key : String) (result : Option (σ → σ)) (state : σ) : Option σ :=
  if a.refused key state then none else result.map fun set => set state

/-- Whether members of different keys set different parts of the state. `Sets` says what
a key may set. -/
structure Independent (a : Assignment σ) (Sets : String → (σ → σ) → Prop) : Prop where
  blind : ∀ key, (a.setter key).OrderBlind
  yields : ∀ key, (a.setter key).Yields (Sets key)
  kept : ∀ {key other set}, key ≠ other → Sets key set → ∀ state,
    a.refused other (set state) = a.refused other state
  comm : ∀ {key other set set'}, key ≠ other → Sets key set → Sets other set' → ∀ state,
    set' (set state) = set (set' state)

variable {a : Assignment σ} {Sets : String → (σ → σ) → Prop}

/-- The steps of members of different keys commute. -/
theorem Independent.step_comm (h : a.Independent Sets) {key other : String} (hne : key ≠ other)
    {result result' : Option (σ → σ)} (hresult : ∀ set, result = some set → Sets key set)
    (hresult' : ∀ set, result' = some set → Sets other set) (state : σ) :
    (a.step key result state).bind (a.step other result') =
      (a.step other result' state).bind (a.step key result) := by
  have hnone (key : String) : a.step key none = fun _ => none := by
    funext state
    simp [step]
  cases result with
  | none => simp [hnone]
  | some set =>
    cases result' with
    | none => simp [hnone]
    | some set' =>
      have hkept := h.kept hne (hresult set rfl) state
      have hkept' := h.kept hne.symm (hresult' set' rfl) state
      have hcomm := h.comm hne (hresult set rfl) (hresult' set' rfl) state
      by_cases hkey : a.refused key state = true <;>
        by_cases hother : a.refused other state = true <;>
        simp [step, hkey, hother, hkept, hkept', hcomm]

/-- The steps that a member with a key can be read as: it is always refused, or it is
the step of what the key spells. -/
inductive MemberStep (a : Assignment σ) (Sets : String → (σ → σ) → Prop) (keyText : List Char) :
    (σ → Option σ) → Prop
  | refused : MemberStep a Sets keyText fun _ => none
  | read {text : List Char} {result : Option (σ → σ)} (hkey : SpellsChars keyText text)
    (hresult : ∀ set, result = some set → Sets (String.ofList text) set) :
    MemberStep a Sets keyText (a.step (String.ofList text) result)

theorem MemberStep.comm (h : a.Independent Sets) {key other : List Char} {s t : σ → Option σ}
    (hs : a.MemberStep Sets key s) (ht : a.MemberStep Sets other t)
    (hne : DifferentKeys key other) (state : σ) : (s state).bind t = (t state).bind s := by
  cases hs with
  | refused => cases t state <;> rfl
  | @read text result hkey hresult =>
    cases ht with
    | refused => cases a.step (String.ofList text) result state <;> rfl
    | @read text' result' hother hresult' =>
      have hdifferent : String.ofList text ≠ String.ofList text' := by
        intro heq
        have htext : text = text' := by simpa using congrArg String.toList heq
        exact hne text hkey (htext ▸ hother)
      exact h.step_comm hdifferent hresult hresult' state

/-- A member without repeated keys is one step, in whatever order it is written. -/
theorem Independent.exists_step (h : a.Independent Sets) (entry : List Char × Tree)
    (htree : entry.2.Unrepeated) :
    ∃ step, a.MemberStep Sets entry.1 step ∧
      ∀ m : KeyedBranch, m.Renders entry → Advances a.member m.written step := by
  by_cases hkey : ∃ text, SpellsChars entry.1 text
  · obtain ⟨text, htext⟩ := hkey
    obtain ⟨result, hjudges, hyields⟩ := (h.blind (String.ofList text)).exists_yielded
      (h.yields (String.ofList text)) htree
    refine ⟨_, .read htext hyields, fun m hm => ?_⟩
    have hgives := hjudges _ _ hm.branch.reordered hm.branch.written
    refine advances_of_key hm.spaced.before hm.spaced.afterKey hm.branch.spaced.frames
      (hm.key ▸ htext.read) fun state => ?_
    by_cases hrefused : a.refused (String.ofList text) state = true
    · simp only [member, step, hrefused, if_true]
    · simp only [member, step, hrefused]
      exact hgives.map fun set => set state
  · refine ⟨_, .refused, fun m hm => ?_⟩
    have hrefused : ∀ rest, (readString (m.keyText ++ '"' :: rest)).toOption = none := by
      rcases hm.spaced.key.settled with hspelled | hrefused
      · exact absurd (hm.key ▸ hspelled) hkey
      · exact fun rest => readString_refused (hrefused rest)
    exact advances_of_unreadable hm.spaced.before hrefused _

/-- Steps that commute may be taken in any order. -/
theorem runSteps_perm {α : Type} {step : α → σ → Option σ} {as bs : List α} (hperm : as.Perm bs)
    (hcomm : ∀ a ∈ as, ∀ b ∈ as, ∀ state,
      (step a state).bind (step b) = (step b state).bind (step a)) (state : σ) :
    runSteps (as.map step) state = runSteps (bs.map step) state := by
  have hfold (cs : List α) (result : Option σ) :
      cs.foldl (fun result c => result.bind (step c)) result =
        result.bind (runSteps (cs.map step)) := by
    induction cs generalizing result with
    | nil => cases result <;> rfl
    | cons c cs ih =>
      rw [List.foldl_cons, ih, Option.bind_assoc]
      rfl
  have hsame := hperm.foldl_eq' (f := fun result c => result.bind (step c))
    (fun a ha b hb result => ?_) (some state)
  · rwa [hfold, hfold] at hsame
  · cases result with
    | none => rfl
    | some state => exact hcomm a ha b hb state

/-- An object without repeated keys is read the same in every order of its members. -/
theorem Independent.judges (h : a.Independent Sets) {members : List (List Char × Tree)}
    (hmembers : (Tree.object members).Unrepeated) (start : σ) :
    ∃ result : Option σ, ∀ other text, (Tree.object members).Reordered other →
      Written text other → ∃ inner, text = '\x7b' :: inner ∧ ∀ rest,
        (readObject a.member start (inner ++ rest)).toOption =
          result.map fun final => (final, rest) := by
  obtain ⟨hkeys, htrees⟩ : members.Pairwise (fun m n => DifferentKeys m.1 n.1) ∧
      ∀ m ∈ members, m.2.Unrepeated := by
    cases hmembers with
    | object hkeys htrees => exact ⟨hkeys, htrees⟩
  choose! step hstep hadvances using fun m hm => h.exists_step m (htrees m hm)
  refine ⟨runSteps (members.map step) start, fun other text hother hwritten => ?_⟩
  obtain ⟨blanks, branches, middle, hblanks, rfl, hperm, hrenders⟩ := hwritten.of_object hother
  refine ⟨_, rfl, fun rest => ?_⟩
  have hpieces : List.Forall₂ (Advances a.member) (branches.map KeyedBranch.written)
      (middle.map step) :=
    forall₂_map_of_mem hrenders fun m hm branch h => hadvances m (hperm.mem_iff.2 hm) branch h
  have hcomm : ∀ m ∈ members, ∀ n ∈ members, ∀ state,
      (step m state).bind (step n) = (step n state).bind (step m) := by
    have : Std.Symm fun m n : List Char × Tree => DifferentKeys m.1 n.1 :=
      ⟨fun _ _ hne => hne.symm⟩
    intro m hm n hn state
    by_cases hsame : m = n
    · rw [hsame]
    · exact (hstep m hm).comm h (hstep n hn) (hkeys.forall hm hn hsame) state
  have hread := readObject_separated hpieces start hblanks rest
  rw [← runSteps_perm hperm hcomm start] at hread
  simpa only [List.append_assoc, List.cons_append, List.nil_append] using hread

/-! ### Entries of one kind -/

section Inserting
variable {α : Type} {item : Reader α} {insert : String → α → σ → σ}

/-- Members that are all kept, each under its key. -/
def inserting (item : Reader α) (insert : String → α → σ → σ) : Assignment σ where
  refused _ _ := false
  setter key := item.map (insert key)

theorem inserting_member (item : Reader α) (insert : String → α → σ → σ) :
    (inserting item insert).member =
      fun state key => some (item.map fun v => insert key v state) := by
  funext state key
  simp only [member, inserting, Bool.false_eq_true, if_false, Reader.map_map]

theorem inserting_independent (hitem : item.OrderBlind)
    (hcomm : ∀ {key other}, key ≠ other → ∀ v w state,
      insert other w (insert key v state) = insert key v (insert other w state)) :
    (inserting item insert).Independent fun key set => ∃ v, set = insert key v where
  blind key := hitem.map (insert key)
  yields key := item.yields_true.map fun v _ => ⟨v, rfl⟩
  kept _ _ _ := rfl
  comm := by
    rintro key other _ _ hne ⟨v, rfl⟩ ⟨w, rfl⟩ state
    exact hcomm hne v w state

end Inserting

end Assignment

/-! ### Values of any kind -/

theorem value_gives_scalar (depth : Nat) {text : List Char} (h : ScalarText text) :
    ∃ result, (value depth).Gives text result := by
  rcases h.spells_or_refused depth with ⟨v, hv⟩ | hrefused
  · exact ⟨_, (value_decodes depth).gives hv⟩
  · obtain ⟨item, hitem⟩ := exists_readValue depth
    refine ⟨none, fun blanks rest hblanks hrest => ?_⟩
    rw [hitem, readValue_append item hblanks, hrefused item rest hrest, Option.map_none]

/-- Values of any kind are read the same in every order of their members, at any depth. -/
theorem value_orderBlind (depth : Nat) : (value depth).OrderBlind := by
  induction depth with
  | zero =>
    have hrefuses {c : Char} (hspace : isSpace c = false) (h : ∀ more, (readValue none
        (c :: more)).toOption = none) (more : List Char) : (value 0).Gives (c :: more) none := by
      intro blanks rest hblanks _
      show (readValue none _).toOption = _
      rw [readValue_append none hblanks, List.cons_append, h, Option.map_none]
    exact Reader.orderBlind_of_scalars (fun text htext => value_gives_scalar 0 htext)
      (hrefuses rfl fun _ => rfl) (hrefuses rfl fun _ => rfl)
  | succ depth ih =>
    refine Reader.orderBlind_of_kinds (fun text htext => value_gives_scalar _ htext)
      (fun items hitems => ?_) fun members hmembers => ?_
    · obtain ⟨result, hresult⟩ := ih.judges_list hitems
      refine ⟨result.map .array, fun other text hother hwritten blanks rest hblanks _ => ?_⟩
      obtain ⟨inner, rfl, hread⟩ := hresult other text hother hwritten
      show (readValue (some (value depth)) _).toOption = _
      rw [readValue_append _ hblanks, List.cons_append, readValue_list, except_map_toOption, hread,
        Option.map_map, Option.map_map]
      rfl
    · obtain ⟨result, hresult⟩ := (Assignment.inserting_independent ih
        fun hne v w entries => insertEntry_comm hne v w entries).judges hmembers []
      refine ⟨result.map .object, fun other text hother hwritten blanks rest hblanks _ => ?_⟩
      obtain ⟨inner, rfl, hread⟩ := hresult other text hother hwritten
      rw [Assignment.inserting_member] at hread
      show (readValue (some (value depth)) _).toOption = _
      rw [readValue_append _ hblanks, List.cons_append, readValue_object, except_map_toOption,
        hread, Option.map_map, Option.map_map]
      rfl

end Json

end BuildConductor
