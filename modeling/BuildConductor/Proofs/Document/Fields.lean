import Mathlib.Data.List.Nodup
import BuildConductor.Document.Reader
import BuildConductor.Proofs.Json.Skipping

/-! Fields and what they are decoded as.

A record is read member by member, and so are a document and a map: each is a fold over
the members as they come, in which one step may refuse. `isSome_foldlM_iff` says when no
step refuses: when every field comes at most once, with a value that it can be decoded
from. `foldlM_get` says what a part of the state is in the end: what the last value of
its key makes it. A list of switches is the object with the same items under the names
of the fields. -/
namespace BuildConductor

open Json (Reader Spells AllSpaces EndsNumber)

/-! ### The values of a key -/

namespace Json

/-- All values that members give to a key, as they come. -/
def valuesOf (key : String) (members : List (String × Json)) : List Json :=
  members.filterMap fun member => if member.1 = key then some member.2 else none

/-- The last value of a key. -/
def lastOf? (key : String) (members : List (String × Json)) : Option Json :=
  (valuesOf key members).getLast?

/-- Whether there is at most one value, and only a proper one. -/
def AtMostOne (P : Json → Prop) : List Json → Prop
  | [] => True
  | [v] => P v
  | _ => False

/-- The members that a record gives: those of an object, or the items of a list under
the names of the fields in order. -/
def givenMembers? (names : List String) : Json → Option (List (String × Json))
  | .object members => some members
  | .array items => if items.length ≤ names.length then some (names.zip items) else none
  | _ => none

/-- The members of an object. -/
def members : Json → List (String × Json)
  | .object members => members
  | _ => []

/-- Whether a value is an object, all of whose members have a property. -/
def IsMapOf (P : Json → Prop) (v : Json) : Prop :=
  ∃ members, v = .object members ∧ ∀ member ∈ members, P member.2

theorem isMapOf_congr {P Q : Json → Prop} (h : ∀ w, P w ↔ Q w) {v : Json} :
    v.IsMapOf P ↔ v.IsMapOf Q :=
  exists_congr fun _ => and_congr_right fun _ => forall₂_congr fun member _ => h member.2

theorem valuesOf_cons_self (key : String) (v : Json) (members : List (String × Json)) :
    valuesOf key ((key, v) :: members) = v :: valuesOf key members := by
  simp only [valuesOf, List.filterMap_cons, if_true]

theorem valuesOf_cons_of_ne {key other : String} (h : other ≠ key) (v : Json)
    (members : List (String × Json)) :
    valuesOf key ((other, v) :: members) = valuesOf key members := by
  simp only [valuesOf, List.filterMap_cons, h, if_false]

theorem AtMostOne.iff {P Q : Json → Prop} (hiff : ∀ v, P v ↔ Q v) (values : List Json) :
    AtMostOne P values ↔ AtMostOne Q values := by
  match values with
  | [] => exact Iff.rfl
  | [v] => exact hiff v
  | _ :: _ :: _ => exact Iff.rfl

end Json

open Json (valuesOf lastOf? AtMostOne givenMembers?)

/-- A part of the state that only one key changes is in the end what the last value of
the key makes it. -/
theorem foldlM_get {σ β : Type} {step : σ → String × Json → Option σ} (get : σ → β)
    (key : String) (made : Json → β)
    (hown : ∀ state v next, step state (key, v) = some next → get next = made v)
    (hother : ∀ state other v next, other ≠ key → step state (other, v) = some next →
      get next = get state)
    {members : List (String × Json)} {state final : σ}
    (h : members.foldlM step state = some final) :
    get final = (lastOf? key members).elim (get state) made := by
  induction members generalizing state with
  | nil =>
    cases h
    rfl
  | cons member members ih =>
    obtain ⟨other, v⟩ := member
    rw [List.foldlM_cons] at h
    obtain ⟨next, hstep, hrest⟩ := Option.bind_eq_some_iff.1 h
    have hget := ih hrest
    by_cases hkey : other = key
    · subst hkey
      rw [hown _ _ _ hstep] at hget
      rw [hget, lastOf?, lastOf?, Json.valuesOf_cons_self, List.getLast?_cons]
      cases (valuesOf other members).getLast? <;> rfl
    · rw [hother _ _ _ _ hkey hstep] at hget
      rw [hget, lastOf?, lastOf?, Json.valuesOf_cons_of_ne hkey]

/-! ### Maps -/

/-- An object whose values all decode, with the last value of each key. -/
def KeyMap.decode {α : Type} (decode : Json → Option α) : Json → Option (KeyMap α)
  | .object members =>
    members.foldlM (fun m member => (decode member.2).map fun a => m.insert member.1 a) .empty
  | _ => none

section Maps
variable {α : Type} {decode : Json → Option α}

/-- A map that is written as an object is read member by member. -/
theorem KeyMap.reader_object {item : Reader α} {inner : List Char} {result : Option (KeyMap α)}
    (h : ∀ rest, (Json.readObject (fun m key => some (item.map fun value => KeyMap.insert m key value))
      .empty (inner ++ rest)).toOption = result.map fun m => (m, rest)) :
    (KeyMap.reader item).Gives ('\x7b' :: inner) result := by
  intro before rest hbefore _
  simp only [reader, List.cons_append, Json.skipSpaces_blanks_cons hbefore (c := '\x7b') rfl,
    if_true, h rest]

theorem KeyMap.reader_refuses (item : Reader α) {c : Char} (hspace : Json.isSpace c = false)
    (hobject : c ≠ '\x7b') (more : List Char) : (KeyMap.reader item).Gives (c :: more) none := by
  intro before rest hbefore _
  simp only [reader, List.cons_append, Json.skipSpaces_blanks_cons hbefore hspace, hobject, if_false]
  rfl

theorem KeyMap.reader_decodes {item : Reader α} {depth : Nat} (h : item.Decodes depth decode) :
    (KeyMap.reader item).Decodes (depth + 1) (KeyMap.decode decode) := by
  intro text v hspelled
  cases hspelled with
  | positive hparts =>
    obtain ⟨c, more, rfl, hc⟩ := hparts.exists_digit
    exact KeyMap.reader_refuses item (Json.isSpace_of_isDigit hc) (Decimal.ne_of_isDigit hc rfl) more
  | object hinner hspaced hitems =>
    have hfollows : Json.Follows
        (fun m key => some (item.map fun value => KeyMap.insert m key value)) depth
        (fun m member => (decode member.2).map fun a => m.insert member.1 a) :=
      fun m key => h.map fun a => m.insert key a
    refine KeyMap.reader_object fun rest => ?_
    have hread := Json.readObject_decodes hfollows hspaced hitems .empty hinner rest
    simpa only [KeyMap.decode, List.append_assoc, List.cons_append, List.nil_append] using hread
  | _ => exact KeyMap.reader_refuses item rfl (by decide) _

theorem KeyMap.isSome_foldlM_iff (m : KeyMap α) (members : List (String × Json)) :
    (members.foldlM (fun m member => (decode member.2).map fun a => KeyMap.insert m member.1 a)
        m).isSome ↔
      ∀ member ∈ members, (decode member.2).isSome := by
  induction members generalizing m with
  | nil => simp
  | cons member members ih =>
    rw [List.foldlM_cons, List.forall_mem_cons]
    cases decode member.2 with
    | none => simp
    | some a => simpa using ih (m.insert member.1 a)

/-- A value is decoded as a map if and only if it is an object whose values decode. -/
theorem KeyMap.isSome_decode_iff (v : Json) :
    (KeyMap.decode decode v).isSome ↔ v.IsMapOf fun w => (decode w).isSome := by
  cases v with
  | object members =>
    rw [KeyMap.decode, KeyMap.isSome_foldlM_iff]
    exact ⟨fun h => ⟨members, rfl, h⟩, fun ⟨_, heq, h⟩ => by cases heq; exact h⟩
  | _ => exact iff_of_false (by simp [KeyMap.decode]) fun ⟨_, heq, _⟩ => by cases heq

end Maps

/-! ### Lists of fields -/

namespace Field
variable {σ : Type}

/-- The items of a list of fields from some place on, and its end. -/
def closedListed (fields : List (Field σ)) (first : Bool) (state : σ) (cs : List Char) :
    Option (σ × List Char) :=
  (readListed fields first state cs).toOption.bind fun r =>
    (Json.endList r.2).toOption.map fun rest => (r.1, rest)

/-- The pieces of a list that fields read in order, and the step that they take together.
A list may stop early; items after the last field are refused. -/
inductive Lists : List (Field σ) → List (List Char) → (σ → Option σ) → Prop
  | done (fields : List (Field σ)) : Lists fields [] some
  | excess (piece : List Char) (pieces : List (List Char)) : Lists [] (piece :: pieces) fun _ => none
  | item {field : Field σ} {fields : List (Field σ)} {piece : List Char}
    {pieces : List (List Char)} {result : Option (σ → σ)} {step : σ → Option σ}
    (hitem : field.reader.GivesItem piece result) (hrest : Lists fields pieces step) :
    Lists (field :: fields) (piece :: pieces) fun state => result.bind fun set => step (set state)

theorem closedListed_done (fields : List (Field σ)) (first : Bool) (state : σ)
    {blanks : List Char} (hblanks : AllSpaces blanks) (rest : List Char) :
    closedListed fields first state (blanks ++ ']' :: rest) = some (state, rest) := by
  have hread : readListed fields first state (blanks ++ ']' :: rest) =
      .ok (state, blanks ++ ']' :: rest) := by
    cases fields with
    | nil => rfl
    | cons field fields => simp only [readListed, Json.nextItem?_bracket first hblanks]
  rw [closedListed, hread]
  simp only [Except.toOption, Option.bind_some, Json.endList_bracket hblanks, Option.map_some]

/-- A list that goes on after the last field is refused. -/
theorem closedListed_nil (state : σ) (cs : List Char) :
    closedListed [] false state (',' :: cs) = none := by
  have hend : (Json.endList (',' :: cs)).toOption = none := by
    simp only [Json.endList, Json.skipSpaces_cons (c := ',') rfl, Char.reduceEq, if_false, if_true]
    split <;> rfl
  rw [closedListed, readListed, Except.toOption, Option.bind_some, hend, Option.map_none]

/-- Blanks before the next item, or before the end, do nothing. -/
theorem closedListed_append (fields : List (Field σ)) (first : Bool) (state : σ)
    {blanks : List Char} (hblanks : AllSpaces blanks) (cs : List Char) :
    closedListed fields first state (blanks ++ cs) = closedListed fields first state cs := by
  cases fields with
  | nil => simp only [closedListed, readListed, Except.toOption, Option.bind_some,
      Json.endList_append hblanks]
  | cons field fields =>
    simp only [closedListed, readListed, Json.nextItem?_append hblanks]
    cases Json.nextItem? first cs with
    | error fault => rfl
    | ok found =>
      cases found with
      | none => simp only [Except.toOption, Option.bind_some, Json.endList_append hblanks]
      | some start => rfl

/-- An item that has been found is read by the next field. -/
theorem closedListed_item {field : Field σ} (fields : List (Field σ)) (state : σ) {first : Bool}
    {cs start after more : List Char} {result : Option (σ → σ)} (hafter : AllSpaces after)
    (hnext : Json.nextItem? first cs = .ok (some start))
    (hread : (field.reader.read start).toOption = result.map fun set => (set, after ++ more)) :
    closedListed (field :: fields) first state cs =
      result.bind fun set => closedListed fields false (set state) more := by
  have hitem : closedListed (field :: fields) first state cs =
      (field.reader.read start).toOption.bind fun r =>
        closedListed fields false (r.1 state) r.2 := by
    simp only [closedListed, readListed, hnext]
    cases field.reader.read start <;> rfl
  rw [hitem, hread, Option.bind_map]
  simp only [Function.comp_def, closedListed_append _ _ _ hafter]

theorem Lists.afterCommas {fields : List (Field σ)} {pieces : List (List Char)}
    {step : σ → Option σ} (h : Lists fields pieces step) (state : σ) (rest : List Char) :
    closedListed fields false state (Json.afterCommas pieces ++ ']' :: rest) =
      (step state).map fun final => (final, rest) := by
  induction h generalizing state with
  | done fields => exact closedListed_done fields false state (List.forall_mem_nil _) rest
  | excess piece pieces => exact closedListed_nil state _
  | @item field fields piece pieces result step hitem _ ih =>
    have hends : EndsNumber (Json.afterCommas pieces ++ ']' :: rest) :=
      Json.endsNumber_afterCommas (List.forall_mem_nil _) pieces
        (Json.endsNumber_cons (by decide) rest)
    obtain ⟨start, after, hafter, -, hnext, hread⟩ := hitem.starts hends
    have hfirst := closedListed_item fields state hafter hnext hread
    simp only [Json.afterCommas, List.flatMap_cons, List.cons_append, List.append_assoc]
      at hfirst ih ⊢
    rw [hfirst, Option.map_bind]
    exact congrArg _ (funext fun set => ih (set state))

/-- A list is read as the fields it gives in order. -/
theorem Lists.separated {fields : List (Field σ)} {pieces : List (List Char)}
    {step : σ → Option σ} (h : Lists fields pieces step) (hfields : fields ≠ []) (state : σ)
    {blanks : List Char} (hblanks : AllSpaces blanks) (rest : List Char) :
    closedListed fields true state (Json.separated blanks pieces ++ ']' :: rest) =
      (step state).map fun final => (final, rest) := by
  cases h with
  | done fields => exact closedListed_done fields true state hblanks rest
  | excess => exact absurd rfl hfields
  | @item field fields piece pieces result step hitem hrest =>
    have hends : EndsNumber (Json.afterCommas pieces ++ ']' :: rest) :=
      Json.endsNumber_afterCommas (List.forall_mem_nil _) pieces
        (Json.endsNumber_cons (by decide) rest)
    obtain ⟨start, after, hafter, hnext, -, hread⟩ := hitem.starts hends
    rw [Json.separated, List.append_assoc, closedListed_item fields state hafter hnext hread,
      Option.map_bind]
    exact congrArg _ (funext fun set => hrest.afterCommas (set state) rest)

/-- A list that gives the fields of a record in order is read as that. -/
theorem record_list (wanted : Json.Wanted) {fields : List (Field σ)} {pieces : List (List Char)}
    {step : σ → Option σ} (h : Lists fields pieces step) (hfields : fields ≠ []) (start : σ)
    {blanks : List Char} (hblanks : AllSpaces blanks) :
    (record wanted fields start).Gives ('[' :: (Json.separated blanks pieces ++ [']']))
      (step start) := by
  intro before rest hbefore _
  have hclosed := h.separated hfields start hblanks rest
  simp only [record, List.cons_append, List.append_assoc, List.nil_append,
    Json.skipSpaces_blanks_cons hbefore (c := '[') rfl, if_true]
  rw [← hclosed, closedListed]
  cases readListed fields true start _ with
  | error fault => rfl
  | ok r => exact Json.except_map_toOption _ _

/-- A record that is written as an object is read member by member. -/
theorem record_object (wanted : Json.Wanted) {fields : List (Field σ)} {start : σ}
    {inner : List Char} {result : Option σ}
    (h : ∀ rest, (Json.readObject (member fields) start (inner ++ rest)).toOption =
      result.map fun final => (final, rest)) :
    (record wanted fields start).Gives ('\x7b' :: inner) result := by
  intro before rest hbefore _
  simp only [record, List.cons_append, Json.skipSpaces_blanks_cons hbefore (c := '\x7b') rfl,
    Char.reduceEq, if_false, if_true, h rest]

/-- A record is written in brackets of one kind or the other. -/
theorem record_refuses (wanted : Json.Wanted) (fields : List (Field σ)) (start : σ) {c : Char}
    (hspace : Json.isSpace c = false) (hlist : c ≠ '[') (hobject : c ≠ '\x7b')
    (more : List Char) : (record wanted fields start).Gives (c :: more) none := by
  intro before rest hbefore _
  simp only [record, List.cons_append, Json.skipSpaces_blanks_cons hbefore hspace, hlist, hobject,
    if_false]
  rfl

end Field

/-! ### Fields -/

/-- A field, and what a value of its member does to the state. -/
structure Slot (σ : Type) where
  field : Field σ
  decode : Json → Option (σ → σ)

namespace Slot
variable {σ : Type}

/-- A field that is read by a reader, with what the reader makes of a value. -/
def of {β : Type} (field : Field σ) (decode : Json → Option β) (set : β → σ → σ) : Slot σ :=
  ⟨field, fun v => (decode v).map set⟩

theorem isSome_decode_of {β : Type} (field : Field σ) (decode : Json → Option β)
    (set : β → σ → σ) (v : Json) : ((of field decode set).decode v).isSome = (decode v).isSome :=
  Option.isSome_map

def name (slot : Slot σ) : String :=
  slot.field.name

/-- What one member does to the state. A field must not come again; what a member does
that is no field is `other`. -/
def step (slots : List (Slot σ)) (other : σ → String → Json → σ) (state : σ)
    (member : String × Json) : Option σ :=
  match slots.find? fun slot => slot.name == member.1 with
  | some slot =>
    if slot.field.isRead state then none else (slot.decode member.2).map fun set => set state
  | none => some (other state member.1 member.2)

/-- Whether fields have different names and each keeps account of itself alone. -/
structure Lawful (slots : List (Slot σ)) (other : σ → String → Json → σ) : Prop where
  names : (slots.map name).Nodup
  own : ∀ slot ∈ slots, ∀ v set state, slot.decode v = some set →
    slot.field.isRead (set state) = true
  kept : ∀ slot ∈ slots, ∀ s ∈ slots, s.name ≠ slot.name → ∀ v set state,
    slot.decode v = some set → s.field.isRead (set state) = s.field.isRead state
  other : ∀ slot ∈ slots, ∀ state key v,
    slot.field.isRead (other state key v) = slot.field.isRead state

variable {slots : List (Slot σ)} {other : σ → String → Json → σ}

theorem Lawful.eq_of_name_eq (h : Lawful slots other) {slot s : Slot σ} (hslot : slot ∈ slots)
    (hs : s ∈ slots) (hname : s.name = slot.name) : s = slot :=
  List.inj_on_of_nodup_map h.names hs hslot hname

theorem Lawful.found (h : Lawful slots other) {slot : Slot σ} (hslot : slot ∈ slots) :
    (slots.find? fun s => s.name == slot.name) = some slot := by
  cases hfind : slots.find? fun s => s.name == slot.name with
  | none => exact absurd (beq_self_eq_true slot.name) (List.find?_eq_none.1 hfind slot hslot)
  | some s =>
    have hname : s.name = slot.name := by simpa using List.find?_some hfind
    rw [h.eq_of_name_eq hslot (List.mem_of_find?_eq_some hfind) hname]

/-- A member is the one of a field that has not come yet, or it is no field. -/
theorem step_cases {state next : σ} {key : String} {v : Json}
    (h : step slots other state (key, v) = some next) :
    (∃ slot ∈ slots, slot.name = key ∧ slot.field.isRead state = false ∧
        ∃ set, slot.decode v = some set ∧ next = set state) ∨
      ((∀ slot ∈ slots, slot.name ≠ key) ∧ next = other state key v) := by
  unfold step at h
  split at h
  · rename_i slot hfind
    split at h
    · cases h
    · rename_i hread
      obtain ⟨set, hset, rfl⟩ := Option.map_eq_some_iff.1 h
      have hname : slot.name = key := by simpa using List.find?_some hfind
      exact .inl ⟨slot, List.mem_of_find?_eq_some hfind, hname, by simpa using hread, set, hset,
        rfl⟩
  · rename_i hfind
    cases h
    exact .inr ⟨fun slot hslot => by simpa using List.find?_eq_none.1 hfind slot hslot, rfl⟩

/-- Whether a field can take these values of its name: at most one, unless it has been
read before, and only one that it can be decoded from. -/
def Takes (slot : Slot σ) (isRead : Bool) : List Json → Prop
  | [] => True
  | [v] => isRead = false ∧ (slot.decode v).isSome
  | _ => False

theorem takes_cons_iff (slot : Slot σ) (isRead : Bool) (v : Json) (values : List Json) :
    slot.Takes isRead (v :: values) ↔
      isRead = false ∧ (slot.decode v).isSome ∧ slot.Takes true values := by
  match values with
  | [] => simp [Takes]
  | [w] => simp [Takes]
  | _ :: _ :: _ => simp [Takes]

theorem takes_false_iff (slot : Slot σ) (values : List Json) :
    slot.Takes false values ↔ AtMostOne (fun v => (slot.decode v).isSome) values := by
  match values with
  | [] => simp [Takes, AtMostOne]
  | [v] => simp [Takes, AtMostOne]
  | _ :: _ :: _ => simp [Takes, AtMostOne]

theorem Lawful.step_own (h : Lawful slots other) {slot : Slot σ} (hslot : slot ∈ slots)
    (state : σ) (v : Json) :
    step slots other state (slot.name, v) =
      if slot.field.isRead state then none else (slot.decode v).map fun set => set state := by
  simp only [step, h.found hslot]

/-- After the member of a field, every field can take the rest of what it could take. -/
theorem Lawful.takes_own (h : Lawful slots other) {slot : Slot σ} (hslot : slot ∈ slots)
    {state : σ} (hnew : slot.field.isRead state = false) {v : Json} {set : σ → σ}
    (hset : slot.decode v = some set) (members : List (String × Json)) {s : Slot σ}
    (hs : s ∈ slots) :
    s.Takes (s.field.isRead (set state)) (valuesOf s.name members) ↔
      s.Takes (s.field.isRead state) (valuesOf s.name ((slot.name, v) :: members)) := by
  by_cases hsame : s.name = slot.name
  · cases h.eq_of_name_eq hslot hs hsame
    rw [Json.valuesOf_cons_self, takes_cons_iff, h.own slot hslot v set state hset]
    simp [hnew, hset]
  · rw [Json.valuesOf_cons_of_ne (Ne.symm hsame),
      h.kept slot hslot s hs hsame v set state hset]

/-- No member is refused if and only if every field can take its values. -/
theorem isSome_foldlM_iff (hlawful : Lawful slots other) (members : List (String × Json))
    (state : σ) :
    (members.foldlM (step slots other) state).isSome ↔
      ∀ slot ∈ slots, slot.Takes (slot.field.isRead state) (valuesOf slot.name members) := by
  induction members generalizing state with
  | nil => simp [valuesOf, Takes]
  | cons member members ih =>
    obtain ⟨key, v⟩ := member
    rw [List.foldlM_cons]
    cases hfind : slots.find? fun slot => slot.name == key with
    | none =>
      have hstep : step slots other state (key, v) = some (other state key v) := by
        simp only [step, hfind]
      rw [hstep]
      refine (ih _).trans (forall₂_congr fun slot hslot => ?_)
      have hname : slot.name ≠ key := by simpa using List.find?_eq_none.1 hfind slot hslot
      rw [hlawful.other slot hslot, Json.valuesOf_cons_of_ne hname.symm]
    | some slot =>
      have hslot := List.mem_of_find?_eq_some hfind
      have hname : slot.name = key := by simpa using List.find?_some hfind
      subst hname
      rw [hlawful.step_own hslot]
      by_cases hnew : slot.field.isRead state = false
      · cases hdecode : slot.decode v with
        | some set =>
          rw [if_neg (by simp [hnew])]
          exact (ih _).trans (forall₂_congr fun s hs =>
            hlawful.takes_own hslot hnew hdecode members hs)
        | none =>
          refine iff_of_false (by simp [hnew]) fun hall => ?_
          have htakes := hall slot hslot
          rw [Json.valuesOf_cons_self, takes_cons_iff, hdecode] at htakes
          cases htakes.2.1
      · refine iff_of_false (by simp [hnew]) fun hall => ?_
        have htakes := hall slot hslot
        rw [Json.valuesOf_cons_self, takes_cons_iff] at htakes
        exact hnew htakes.1

/-- A part of the state that one field alone changes is in the end what the last value
of the field makes it. -/
theorem Lawful.foldlM_get {β : Type} (h : Lawful slots other) {slot : Slot σ}
    (hslot : slot ∈ slots) (get : σ → β) (made : Json → β)
    (hown : ∀ v set state, slot.decode v = some set → get (set state) = made v)
    (hkept : ∀ s ∈ slots, s.name ≠ slot.name → ∀ v set state, s.decode v = some set →
      get (set state) = get state)
    (hother : ∀ state key v, get (other state key v) = get state)
    {members : List (String × Json)} {state final : σ}
    (hfold : members.foldlM (step slots other) state = some final) :
    get final = (lastOf? slot.name members).elim (get state) made := by
  refine BuildConductor.foldlM_get get slot.name made (fun state v next hstep => ?_)
    (fun state key v next hne hstep => ?_) hfold
  · rcases step_cases hstep with ⟨s, hs, hname, -, set, hset, rfl⟩ | ⟨hno, -⟩
    · cases h.eq_of_name_eq hslot hs hname
      exact hown v set state hset
    · exact absurd rfl (hno slot hslot)
  · rcases step_cases hstep with ⟨s, hs, rfl, -, set, hset, rfl⟩ | ⟨-, rfl⟩
    · exact hkept s hs hne v set state hset
    · exact hother state key v

/-! ### Records -/

/-- The state after a list that gives the fields in order and may stop early. -/
def listed : List (Slot σ) → List Json → σ → Option σ
  | _, [], state => some state
  | [], _ :: _, _ => none
  | slot :: slots, v :: items, state =>
    (slot.decode v).bind fun set => listed slots items (set state)

section Decoding
variable {depth : Nat}

/-- Members that are looked up among fields do what the fields are decoded as. -/
theorem follows {member : σ → String → Option (Reader σ)} {otherwise : σ → String → Reader σ}
    (hmember : ∀ state key, member state key =
      match (slots.map Slot.field).find? fun field => field.name == key with
      | some field =>
        if field.isRead state then none else some (field.reader.map fun set => set state)
      | none => some (otherwise state key))
    (hdecodes : ∀ slot ∈ slots, slot.field.reader.Decodes depth slot.decode)
    (hother : ∀ state key, (otherwise state key).Decodes depth fun v => some (other state key v)) :
    Json.Follows member depth (step slots other) := by
  intro state key
  have hmap : ((slots.map Slot.field).find? fun field => field.name == key) =
      (slots.find? fun slot => slot.name == key).map Slot.field := by
    rw [List.find?_map]
    rfl
  simp only [hmember, hmap, step]
  cases hfind : slots.find? fun slot => slot.name == key with
  | none => exact hother state key
  | some slot =>
    simp only [Option.map_some]
    by_cases hread : slot.field.isRead state = true
    · simp only [hread, if_true, implies_true]
    · simp only [hread]
      exact (hdecodes slot (List.mem_of_find?_eq_some hfind)).map fun set => set state

variable (hdecodes : ∀ slot ∈ slots, slot.field.reader.Decodes depth slot.decode)
include hdecodes

/-- The items of a list are read by the fields as they are decoded. -/
theorem lists_listed {items : List Json.Item} (hspaced : ∀ item ∈ items, item.Spaced)
    (hitems : ∀ item ∈ items, Spells depth item.text item.value) :
    Field.Lists (slots.map Slot.field) (items.map Json.Item.spelled)
      (listed slots (items.map Json.Item.value)) := by
  induction items generalizing slots with
  | nil =>
    cases slots <;> exact .done _
  | cons item items ih =>
    cases slots with
    | nil => exact .excess _ _
    | cons slot slots =>
      have hitem := (hdecodes slot (List.mem_cons_self ..)).givesItem
        (hspaced item (List.mem_cons_self ..)) (hitems item (List.mem_cons_self ..))
      exact .item hitem (ih (fun s hs => hdecodes s (List.mem_cons_of_mem _ hs))
        (fun i hi => hspaced i (List.mem_cons_of_mem _ hi))
        fun i hi => hitems i (List.mem_cons_of_mem _ hi))

/-- What a record is decoded as. -/
def record (slots : List (Slot σ)) (start : σ) : Json → Option σ
  | .object members => members.foldlM (step slots fun state _ _ => state) start
  | .array items => listed slots items start
  | _ => none

theorem record_decodes (wanted : Json.Wanted) (hslots : slots ≠ []) (start : σ) :
    (Field.record wanted (slots.map Slot.field) start).Decodes (depth + 1)
      (record slots start) := by
  intro text v hspelled
  have hne : slots.map Slot.field ≠ [] := by simpa using hslots
  cases hspelled with
  | array hinner hspaced hitems =>
    exact Field.record_list wanted (lists_listed hdecodes hspaced hitems) hne start hinner
  | object hinner hspaced hitems =>
    have hfollows : Json.Follows (Field.member (slots.map Slot.field)) depth
        (step slots fun state _ _ => state) :=
      follows (fun _ _ => rfl) hdecodes fun state _ => (Json.skipped_decodes depth).map fun _ => state
    refine Field.record_object wanted fun rest => ?_
    have hread := Json.readObject_decodes hfollows hspaced hitems start hinner rest
    simpa only [record, List.append_assoc, List.cons_append, List.nil_append] using hread
  | positive hparts =>
    obtain ⟨c, more, rfl, hc⟩ := hparts.exists_digit
    exact Field.record_refuses wanted _ start (Json.isSpace_of_isDigit hc)
      (Decimal.ne_of_isDigit hc rfl) (Decimal.ne_of_isDigit hc rfl) more
  | _ => exact Field.record_refuses wanted _ start rfl (by decide) (by decide) _

end Decoding

/-- Fields that have not come yet may be listed: each item is the member of its field. -/
theorem listed_eq_foldlM (hlawful : Lawful slots other) {todo : List (Slot σ)}
    (hsub : ∀ slot ∈ todo, slot ∈ slots) (hnames : (todo.map Slot.name).Nodup) (items : List Json)
    {state : σ} (hnew : ∀ slot ∈ todo, slot.field.isRead state = false) :
    listed todo items state =
      if items.length ≤ todo.length then
        ((todo.map Slot.name).zip items).foldlM (step slots other) state
      else none := by
  induction todo generalizing items state with
  | nil => cases items <;> rfl
  | cons slot todo ih =>
    cases items with
    | nil => rfl
    | cons v items =>
      have hslot := hsub slot (List.mem_cons_self ..)
      rw [List.map_cons, List.nodup_cons] at hnames
      have hstep : step slots other state (slot.name, v) =
          (slot.decode v).map fun set => set state := by
        rw [hlawful.step_own hslot, hnew slot (List.mem_cons_self ..), if_neg Bool.false_ne_true]
      simp only [listed, List.map_cons, List.zip_cons_cons, List.foldlM_cons, hstep,
        List.length_cons, Nat.add_le_add_iff_right, Option.bind_eq_bind, Option.bind_map]
      cases hdecode : slot.decode v with
      | none => simp
      | some set =>
        refine ih (fun s hs => hsub s (List.mem_cons_of_mem _ hs)) hnames.2 items fun s hs => ?_
        have hne : s.name ≠ slot.name := fun heq =>
          hnames.1 (heq ▸ List.mem_map_of_mem hs)
        have hs' := List.mem_cons_of_mem slot hs
        rw [hlawful.kept slot hslot s (hsub s hs') hne v set state hdecode]
        exact hnew s hs'

/-- A record is a fold over the members that it gives. -/
theorem record_eq_bind (hlawful : Lawful slots fun state _ _ => state) {start : σ}
    (hnew : ∀ slot ∈ slots, slot.field.isRead start = false) (v : Json) :
    record slots start v =
      (givenMembers? (slots.map Slot.name) v).bind fun members =>
        members.foldlM (step slots fun state _ _ => state) start := by
  cases v with
  | array items =>
    rw [record, givenMembers?, listed_eq_foldlM hlawful (fun _ h => h) hlawful.names items hnew,
      List.length_map]
    split <;> rfl
  | _ => rfl

/-- A record is decoded if and only if it gives each field at most once and properly. -/
theorem isSome_record_iff (hlawful : Lawful slots fun state _ _ => state) {start : σ}
    (hnew : ∀ slot ∈ slots, slot.field.isRead start = false) (v : Json) :
    (record slots start v).isSome ↔
      ∃ members, givenMembers? (slots.map Slot.name) v = some members ∧
        ∀ slot ∈ slots,
          AtMostOne (fun v => (slot.decode v).isSome) (valuesOf slot.name members) := by
  rw [record_eq_bind hlawful hnew]
  cases givenMembers? (slots.map Slot.name) v with
  | none => simp
  | some members =>
    simp only [Option.bind_some, isSome_foldlM_iff hlawful, Option.some.injEq, exists_eq_left']
    refine forall₂_congr fun slot hslot => ?_
    rw [hnew slot hslot, takes_false_iff]

end Slot

end BuildConductor
