import BuildConductor.Proofs.Json.Brackets
import BuildConductor.Proofs.Json.Reading

/-! What readers make of values.

`Reader.Decodes` says what a reader makes of every value, however it is spelled: the
reader gives what the value decodes to and leaves what follows, or it refuses. For lists
and objects that is shown once, for every reader of their items: an object is folded
over its members as they come, a list over its items. `value_decodes` is the case of
values of any kind, which are all read. -/
namespace BuildConductor.Json

open Decimal (ne_of_isDigit)

/-! ### Decoding -/

/-- Whether a reader makes of the values nested up to a depth what they decode to. -/
def Reader.Decodes {α : Type} (reader : Reader α) (depth : Nat) (decode : Json → Option α) : Prop :=
  ∀ text v, Spells depth text v → ∀ blanks rest, AllSpaces blanks → EndsNumber rest →
    (reader.read (blanks ++ (text ++ rest))).toOption = (decode v).map fun a => (a, rest)

/-- What a value decodes to is the verdict on every text that spells it. -/
theorem Reader.Decodes.gives {α : Type} {reader : Reader α} {depth : Nat}
    {decode : Json → Option α} (h : reader.Decodes depth decode) {text : List Char} {v : Json}
    (hspelled : Spells depth text v) : reader.Gives text (decode v) :=
  h text v hspelled

theorem Reader.Decodes.map {α β : Type} {reader : Reader α} {depth : Nat}
    {decode : Json → Option α} (h : reader.Decodes depth decode) (f : α → β) :
    (reader.map f).Decodes depth fun v => (decode v).map f :=
  fun _ _ hspelled => (h.gives hspelled).map f

theorem Item.Spaced.frames {item : Item} (h : item.Spaced) : Frames item.text item.spelled :=
  ⟨_, _, h.before, h.after, rfl⟩

theorem Reader.Decodes.givesItem {α : Type} {reader : Reader α} {depth : Nat}
    {decode : Json → Option α} (h : reader.Decodes depth decode) {item : Item}
    (hspaced : item.Spaced) (hitem : Spells depth item.text item.value) :
    reader.GivesItem item.spelled (decode item.value) :=
  ⟨_, hitem.starts, hspaced.frames, h.gives hitem⟩

/-! ### Scalars -/

def bool? : Json → Option Bool
  | .bool b => some b
  | _ => none

def text? : Json → Option String
  | .string s => some s
  | _ => none

/-- What a switch that may be `null` says. -/
def boolOrNull? : Json → Option (Option Bool)
  | .bool b => some (some b)
  | .null => some none
  | _ => none

theorem boolean_decodes (depth : Nat) : boolean.Decodes depth bool? := by
  intro text v h blanks rest hblanks _
  simp only [boolean, h.starts.skipSpaces hblanks]
  cases h with
  | positive hparts =>
    obtain ⟨c, more, rfl, hc⟩ := hparts.exists_digit
    simp only [List.cons_append, ne_of_isDigit hc (d := 't') rfl, ne_of_isDigit hc (d := 'f') rfl,
      if_false]
    rfl
  | _ => rfl

theorem text_decodes (depth : Nat) : text.Decodes depth text? := by
  intro written v h blanks rest hblanks _
  simp only [text, h.starts.skipSpaces hblanks]
  cases h with
  | positive hparts =>
    obtain ⟨c, more, rfl, hc⟩ := hparts.exists_digit
    simp only [List.cons_append, ne_of_isDigit hc (d := '"') rfl, if_false]
    rfl
  | string h =>
    simp only [List.cons_append, List.append_assoc, List.nil_append, if_true, h.read rest]
    rfl
  | _ => rfl

theorem optional_boolean_decodes (depth : Nat) :
    (optional boolean).Decodes depth boolOrNull? := by
  intro text v h blanks rest hblanks hrest
  have hboolean := ((boolean_decodes depth).map some) text v h blanks rest hblanks hrest
  simp only [optional, h.starts.skipSpaces hblanks]
  cases h with
  | null => rfl
  | positive hparts =>
    obtain ⟨c, more, rfl, hc⟩ := hparts.exists_digit
    split
    · rename_i heq
      cases heq
      cases hc
    · exact hboolean
  | _ => exact hboolean

/-! ### Objects -/

section Members
variable {σ : Type}

/-- Whether the readers of members do what the steps say: a member is refused, or the
value of its key decodes to the next state. -/
def Follows (member : σ → String → Option (Reader σ)) (depth : Nat)
    (step : σ → String × Json → Option σ) : Prop :=
  ∀ state key,
    match member state key with
    | none => ∀ v, step state (key, v) = none
    | some reader => reader.Decodes depth fun v => step state (key, v)

variable {member : σ → String → Option (Reader σ)} {depth : Nat}
  {step : σ → String × Json → Option σ}

/-- One member takes the state on by one step. -/
theorem Follows.advances (h : Follows member depth step) {m : Member} (hspaced : m.Spaced)
    (hitem : Spells depth m.item.text m.item.value) :
    Advances member m.spelled fun state => step state m.entry := by
  refine advances_of_key hspaced.before hspaced.afterKey (hspaced.item.frames) hspaced.key.read
    fun state => ?_
  have hreader := h state m.entry.1
  simp only [Member.entry] at hreader ⊢
  cases hmember : member state (String.ofList m.key) with
  | none =>
    simp only [hmember] at hreader
    exact hreader m.item.value
  | some reader =>
    simp only [hmember] at hreader
    exact hreader.gives hitem

/-- An object is folded over its members as they come. -/
theorem readObject_decodes (h : Follows member depth step) {members : List Member}
    (hspaced : ∀ m ∈ members, m.Spaced)
    (hitems : ∀ m ∈ members, Spells depth m.item.text m.item.value) (start : σ)
    {blanks : List Char} (hblanks : AllSpaces blanks) (rest : List Char) :
    (readObject member start
        (separated blanks (members.map Member.spelled) ++ '\x7d' :: rest)).toOption =
      ((members.map Member.entry).foldlM step start).map fun final => (final, rest) := by
  have hpieces : List.Forall₂ (Advances member) (members.map Member.spelled)
      (members.map fun m state => step state m.entry) := by
    rw [List.forall₂_map_left_iff, List.forall₂_map_right_iff, List.forall₂_same]
    exact fun m hm => h.advances (hspaced m hm) (hitems m hm)
  rw [readObject_separated hpieces start hblanks rest, runSteps, List.foldlM_map, List.foldlM_map]

end Members

/-! ### Lists -/

theorem readList_decodes {α : Type} {reader : Reader α} {depth : Nat} {decode : Json → Option α}
    (h : reader.Decodes depth decode) {items : List Item}
    (hspaced : ∀ item ∈ items, item.Spaced)
    (hitems : ∀ item ∈ items, Spells depth item.text item.value) {blanks : List Char}
    (hblanks : AllSpaces blanks) (rest : List Char) :
    (readList reader (separated blanks (items.map Item.spelled) ++ ']' :: rest)).toOption =
      ((items.map Item.value).mapM decode).map fun as => (as, rest) := by
  have hpieces : List.Forall₂ reader.GivesItem (items.map Item.spelled)
      (items.map fun item => decode item.value) := by
    rw [List.forall₂_map_left_iff, List.forall₂_map_right_iff, List.forall₂_same]
    exact fun item hitem => h.givesItem (hspaced item hitem) (hitems item hitem)
  rw [readList_separated hpieces hblanks rest, List.mapM_map, List.mapM_map]
  rfl

/-! ### Values of any kind -/

mutual

/-- A value as it is kept: objects at any depth have each key once, with its last
value, and in order. -/
def settled : Json → Json
  | .null => .null
  | .bool b => .bool b
  | .number n => .number n
  | .string s => .string s
  | .array items => .array (settledItems items)
  | .object members => ofMembers (settledMembers members)

def settledItems : List Json → List Json
  | [] => []
  | item :: items => item.settled :: settledItems items

def settledMembers : List (String × Json) → List (String × Json)
  | [] => []
  | (key, value) :: members => (key, value.settled) :: settledMembers members

end

theorem settledItems_eq_map (items : List Json) : settledItems items = items.map settled := by
  induction items with
  | nil => rfl
  | cons item items ih => rw [settledItems, ih, List.map_cons]

theorem settledMembers_eq_map (members : List (String × Json)) :
    settledMembers members = members.map fun member => (member.1, member.2.settled) := by
  induction members with
  | nil => rfl
  | cons member members ih => rw [settledMembers, ih, List.map_cons]

/-- A scalar is read where it stands, however deep that is. -/
theorem readValue_scalar {depth : Nat} {text rest : List Char} {v : Json}
    (h : Spells depth text v) (hscalar : v.isScalar = true) (item : Option (Reader Json))
    (hrest : EndsNumber rest) : readValue item (text ++ rest) = .ok (v.settled, rest) := by
  cases h with
  | null => rfl
  | true => rfl
  | false => rfl
  | positive hparts hvalue => exact readValue_positive hparts hrest hvalue item
  | negative hparts hvalue => exact readValue_negative hparts hrest hvalue item
  | string h =>
    have hread := h.read rest
    simp only [readValue, List.cons_append, List.append_assoc, List.nil_append,
      skipSpaces_cons (c := '"') rfl, hread, Char.reduceEq, Char.reduceIsDigit,
      Bool.false_eq_true, if_false, if_true, Except.map, settled]
  | array => cases hscalar
  | object => cases hscalar

/-- Any value is read as it is kept. -/
theorem value_decodes (depth : Nat) : (value depth).Decodes depth fun v => some v.settled := by
  induction depth with
  | zero =>
    intro text v h blanks rest hblanks hrest
    have hscalar : v.isScalar = true := by cases h <;> rfl
    show (readValue none _).toOption = _
    rw [readValue_append none hblanks, readValue_scalar h hscalar none hrest]
    rfl
  | succ depth ih =>
    intro text v h blanks rest hblanks hrest
    show (readValue (some (value depth)) _).toOption = _
    rw [readValue_append _ hblanks]
    by_cases hscalar : v.isScalar = true
    · rw [readValue_scalar h hscalar _ hrest]
      rfl
    cases h with
    | @array _ inner items hinner hspaced hitems =>
      have hread := readList_decodes ih hspaced hitems hinner rest
      simp only [List.cons_append, List.append_assoc, List.nil_append, readValue_list,
        except_map_toOption, hread, settled, settledItems_eq_map]
      rw [show (fun v : Json => some v.settled) = fun v => pure v.settled from rfl, List.mapM_pure]
      rfl
    | @object _ inner members hinner hspaced hitems =>
      let step (entries : List (String × Json)) (m : String × Json) : Option (List (String × Json)) :=
        some (insertEntry m.1 m.2.settled entries)
      have hfollows : Follows (fun entries key =>
          some ((value depth).map fun v => insertEntry key v entries)) depth step :=
        fun entries key => ih.map fun v => insertEntry key v entries
      have hread := readObject_decodes hfollows hspaced hitems [] hinner rest
      simp only [List.cons_append, List.append_assoc, List.nil_append, readValue_object,
        except_map_toOption, hread, settled, settledMembers_eq_map, ofMembers]
      rw [show step = fun entries m => pure (insertEntry m.1 m.2.settled entries) from rfl,
        List.foldlM_pure, List.foldl_map, List.foldl_map, List.foldl_map]
      rfl
    | _ => exact absurd rfl hscalar

end BuildConductor.Json
