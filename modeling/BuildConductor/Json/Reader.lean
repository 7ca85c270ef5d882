import BuildConductor.Json.Lexeme

/-! Readers of values.

A reader takes a value from the front of a text, blanks before it included, and
always takes something: that is part of its type, so lists and objects can be
read in a loop. Objects are read member by member into a state; what a key does
to the state, and whether it may come again, is the caller's choice. -/
namespace BuildConductor.Json

structure Reader (α : Type) where
  read : List Char → Except Fault (α × List Char)
  /-- A value takes at least one character. -/
  shortens : ∀ {cs rest : List Char} {a : α}, read cs = .ok (a, rest) → rest.length < cs.length

namespace Reader
variable {α β : Type}

def map (f : α → β) (reader : Reader α) : Reader β where
  read cs :=
    match reader.read cs with
    | .error fault => .error fault
    | .ok (a, rest) => .ok (f a, rest)
  shortens h := by
    split at h
    · cases h
    · rename_i hread
      rw [← rest_eq_of_ok_eq h]
      exact reader.shortens hread

end Reader

/-! ### Values that are not wanted -/

/-- The fault for a value of the wrong type, at the first character of the value.
A scalar is read first, and a fault within it comes before its type; lists and
objects are not entered. -/
def wrongType (wanted : Wanted) (cs : List Char) : Fault :=
  match cs with
  | [] => ⟨.endInValue, [], 0⟩
  | c :: rest =>
    if c = 'n' then afterName .null (readName "ull".toList rest)
    else if c = 't' then afterName (.boolean true) (readName "rue".toList rest)
    else if c = 'f' then afterName (.boolean false) (readName "alse".toList rest)
    else if c = '-' then afterScalar Found.number (readNumber true rest)
    else if c.isDigit then afterScalar Found.number (readNumber false cs)
    else if c = '"' then afterScalar Found.text (readString rest)
    else if c = '[' then ⟨.wrongType .list wanted, cs, 0⟩
    else if c = '\x7b' then ⟨.wrongType .map wanted, cs, 0⟩
    else ⟨.expectedValue, cs, 1⟩
where
  afterName (found : Found) : Except Fault (List Char) → Fault
    | .error fault => fault
    | .ok rest => ⟨.wrongType found wanted, rest, 0⟩
  afterScalar {α : Type} (found : α → Found) : Except Fault (α × List Char) → Fault
    | .error fault => fault
    | .ok (a, rest) => ⟨.wrongType (found a) wanted, rest, 0⟩

/-! ### Scalars -/

/-- `true` or `false`. -/
def boolean : Reader Bool where
  read cs :=
    match skipSpaces cs with
    | [] => .error ⟨.endInValue, [], 0⟩
    | c :: rest =>
      if c = 't' then (readName "rue".toList rest).map fun rest => (true, rest)
      else if c = 'f' then (readName "alse".toList rest).map fun rest => (false, rest)
      else .error (wrongType .boolean (c :: rest))
  shortens {cs rest a} h := by
    have hspaces := length_skipSpaces_le cs
    split at h
    · cases h
    · rename_i heq
      rw [heq, List.length_cons] at hspaces
      split at h
      · rename_i tail _
        cases hname : readName "rue".toList tail with
        | error fault => rw [hname] at h; cases h
        | ok r =>
          rw [hname] at h
          cases h
          exact Nat.lt_of_le_of_lt (readName_length hname) hspaces
      · split at h
        · rename_i tail _ _
          cases hname : readName "alse".toList tail with
          | error fault => rw [hname] at h; cases h
          | ok r =>
            rw [hname] at h
            cases h
            exact Nat.lt_of_le_of_lt (readName_length hname) hspaces
        · cases h

/-- A string. -/
def text : Reader String where
  read cs :=
    match skipSpaces cs with
    | [] => .error ⟨.endInValue, [], 0⟩
    | c :: rest => if c = '"' then readString rest else .error (wrongType .text (c :: rest))
  shortens {cs rest a} h := by
    have hspaces := length_skipSpaces_le cs
    split at h
    · cases h
    · rename_i heq
      rw [heq, List.length_cons] at hspaces
      split at h
      · exact Nat.lt_trans (readString_length h) hspaces
      · cases h

/-- `null`, or a value of the given kind. -/
def optional {α : Type} (reader : Reader α) : Reader (Option α) where
  read cs :=
    match skipSpaces cs with
    | 'n' :: rest => (readName "ull".toList rest).map fun rest => (none, rest)
    | _ => (reader.map some).read cs
  shortens {cs rest a} h := by
    have hspaces := length_skipSpaces_le cs
    split at h
    · rename_i tail heq
      rw [heq, List.length_cons] at hspaces
      cases hname : readName "ull".toList tail with
      | error fault => rw [hname] at h; cases h
      | ok r =>
        rw [hname] at h
        cases h
        exact Nat.lt_of_le_of_lt (readName_length hname) hspaces
    · exact (reader.map some).shortens h

/-! ### Lists -/

/-- Where the next item of a list starts, or `none` at the closing bracket. Items
after the first come after a comma. -/
def nextItem? (first : Bool) (cs : List Char) : Except Fault (Option (List Char)) :=
  match skipSpaces cs with
  | [] => .error ⟨.endInList, [], 0⟩
  | c :: rest =>
    if c = ']' then .ok none
    else if first then .ok (some (c :: rest))
    else if c = ',' then
      match skipSpaces rest with
      | [] => .error ⟨.endInValue, [], 0⟩
      | d :: rest =>
        if d = ']' then .error ⟨.trailingComma, d :: rest, 1⟩ else .ok (some (d :: rest))
    else .error ⟨.expectedCommaOrBracket, c :: rest, 1⟩

theorem nextItem?_length {first : Bool} {cs start : List Char}
    (h : nextItem? first cs = .ok (some start)) : start.length ≤ cs.length := by
  have hspaces := length_skipSpaces_le cs
  unfold nextItem? at h
  split at h
  · cases h
  · rename_i c rest heq
    rw [heq] at hspaces
    split at h
    · cases h
    · split at h
      · cases h
        exact hspaces
      · split at h
        · have hrest := length_skipSpaces_le rest
          split at h
          · cases h
          · rename_i heq
            rw [heq] at hrest
            split at h
            · cases h
            · cases h
              simp only [List.length_cons] at *
              omega
        · cases h

/-- The closing bracket of a list that wants no more items. -/
def endList (cs : List Char) : Except Fault (List Char) :=
  match skipSpaces cs with
  | [] => .error ⟨.endInList, [], 0⟩
  | c :: rest =>
    if c = ']' then .ok rest
    else if c = ',' then
      match skipSpaces rest with
      | ']' :: rest => .error ⟨.trailingComma, ']' :: rest, 1⟩
      | rest => .error ⟨.trailingCharacters, rest, 1⟩
    else .error ⟨.trailingCharacters, c :: rest, 1⟩

theorem endList_length {cs rest : List Char} (h : endList cs = .ok rest) :
    rest.length < cs.length := by
  have hspaces := length_skipSpaces_le cs
  unfold endList at h
  split at h
  · cases h
  · rename_i heq
    rw [heq, List.length_cons] at hspaces
    split at h
    · cases h
      omega
    · split at h
      · split at h <;> cases h
      · cases h

/-- The items of a list up to its closing bracket. -/
def readItems {α : Type} (item : Reader α) (first : Bool) (cs : List Char) :
    Except Fault (List α × List Char) :=
  match _hnext : nextItem? first cs with
  | .error fault => .error fault
  | .ok none => .ok ([], cs)
  | .ok (some start) =>
    match _hitem : item.read start with
    | .error fault => .error fault
    | .ok (a, rest) =>
      match readItems item false rest with
      | .error fault => .error fault
      | .ok (as, rest) => .ok (a :: as, rest)
termination_by cs.length
decreasing_by
  have := nextItem?_length _hnext
  have := item.shortens _hitem
  omega

theorem readItems_length {α : Type} {item : Reader α} {first : Bool} {cs rest : List Char}
    {as : List α} (h : readItems item first cs = .ok (as, rest)) : rest.length ≤ cs.length := by
  fun_induction readItems item first cs generalizing as with
  | case1 => cases h
  | case2 => cases h; exact Nat.le_refl _
  | case3 => cases h
  | case4 => cases h
  | case5 =>
    rename_i hnext _ _ hitem _ _ hread ih
    cases h
    have := nextItem?_length hnext
    have := item.shortens hitem
    have := ih hread
    omega

/-- The items of a list whose opening bracket has been read, and its end. -/
def readList {α : Type} (item : Reader α) (cs : List Char) : Except Fault (List α × List Char) :=
  match readItems item true cs with
  | .error fault => .error fault
  | .ok (as, rest) =>
    match endList rest with
    | .error fault => .error fault
    | .ok rest => .ok (as, rest)

theorem readList_length {α : Type} {item : Reader α} {cs rest : List Char} {as : List α}
    (h : readList item cs = .ok (as, rest)) : rest.length < cs.length := by
  unfold readList at h
  split at h
  · cases h
  · rename_i hitems
    split at h
    · cases h
    · rename_i hend
      cases h
      exact Nat.lt_of_lt_of_le (endList_length hend) (readItems_length hitems)

/-! ### Objects -/

/-- The text after the opening quote of the next key, or `none` at the closing
brace. Members after the first come after a comma. -/
def nextKey? (first : Bool) (cs : List Char) : Except Fault (Option (List Char)) :=
  match skipSpaces cs with
  | [] => .error ⟨.endInObject, [], 0⟩
  | c :: rest =>
    if c = '\x7d' then .ok none
    else if first then
      if c = '"' then .ok (some rest) else .error ⟨.keyNotString, c :: rest, 1⟩
    else if c = ',' then
      match skipSpaces rest with
      | [] => .error ⟨.endInValue, [], 0⟩
      | d :: rest =>
        if d = '"' then .ok (some rest)
        else if d = '\x7d' then .error ⟨.trailingComma, d :: rest, 1⟩
        else .error ⟨.keyNotString, d :: rest, 1⟩
    else .error ⟨.expectedCommaOrBrace, c :: rest, 1⟩

theorem nextKey?_length {first : Bool} {cs start : List Char}
    (h : nextKey? first cs = .ok (some start)) : start.length ≤ cs.length := by
  have hspaces := length_skipSpaces_le cs
  unfold nextKey? at h
  split at h
  · cases h
  · rename_i c rest heq
    rw [heq, List.length_cons] at hspaces
    split at h
    · cases h
    · split at h
      · split at h
        · cases h
          omega
        · cases h
      · split at h
        · have hrest := length_skipSpaces_le rest
          split at h
          · cases h
          · rename_i heq
            rw [heq, List.length_cons] at hrest
            split at h
            · cases h
              omega
            · split at h <;> cases h
        · cases h

/-- The colon after a key. -/
def readColon (cs : List Char) : Except Fault (List Char) :=
  match skipSpaces cs with
  | [] => .error ⟨.endInObject, [], 0⟩
  | c :: rest => if c = ':' then .ok rest else .error ⟨.expectedColon, c :: rest, 1⟩

theorem readColon_length {cs rest : List Char} (h : readColon cs = .ok rest) :
    rest.length < cs.length := by
  have hspaces := length_skipSpaces_le cs
  unfold readColon at h
  split at h
  · cases h
  · rename_i heq
    rw [heq, List.length_cons] at hspaces
    split at h
    · cases h
      omega
    · cases h

/-- The closing brace of an object that wants no more members. -/
def endObject (cs : List Char) : Except Fault (List Char) :=
  match skipSpaces cs with
  | [] => .error ⟨.endInObject, [], 0⟩
  | c :: rest =>
    if c = '\x7d' then .ok rest
    else if c = ',' then .error ⟨.trailingComma, c :: rest, 1⟩
    else .error ⟨.trailingCharacters, c :: rest, 1⟩

theorem endObject_length {cs rest : List Char} (h : endObject cs = .ok rest) :
    rest.length < cs.length := by
  have hspaces := length_skipSpaces_le cs
  unfold endObject at h
  split at h
  · cases h
  · rename_i heq
    rw [heq, List.length_cons] at hspaces
    split at h
    · cases h
      omega
    · split at h <;> cases h

/-- The fault for a key that must not come again. Its place is where the object
would go on: after the key and the blanks that follow, and after a brace that
closes the object there. -/
def repeatedKey (key : String) (cs : List Char) : Fault :=
  match skipSpaces cs with
  | '\x7d' :: rest => ⟨.duplicateField key, rest, 0⟩
  | rest => ⟨.duplicateField key, rest, 0⟩

/-- The members of an object up to its closing brace. `member state key` reads
the value of a key into the state; it is `none` for a key that must not come
again. -/
def readMembers {σ : Type} (member : σ → String → Option (Reader σ)) (first : Bool) (state : σ)
    (cs : List Char) : Except Fault (σ × List Char) :=
  match _hnext : nextKey? first cs with
  | .error fault => .error fault
  | .ok none => .ok (state, cs)
  | .ok (some start) =>
    match _hkey : readString start with
    | .error fault => .error fault
    | .ok (key, afterKey) =>
      match member state key with
      | none => .error (repeatedKey key afterKey)
      | some reader =>
        match _hcolon : readColon afterKey with
        | .error fault => .error fault
        | .ok afterColon =>
          match _hvalue : reader.read afterColon with
          | .error fault => .error fault
          | .ok (state, rest) => readMembers member false state rest
termination_by cs.length
decreasing_by
  have := nextKey?_length _hnext
  have := readString_length _hkey
  have := readColon_length _hcolon
  have := reader.shortens _hvalue
  omega

theorem readMembers_length {σ : Type} {member : σ → String → Option (Reader σ)} {first : Bool}
    {state result : σ} {cs rest : List Char}
    (h : readMembers member first state cs = .ok (result, rest)) : rest.length ≤ cs.length := by
  fun_induction readMembers member first state cs with
  | case1 => cases h
  | case2 => cases h; exact Nat.le_refl _
  | case3 => cases h
  | case4 => cases h
  | case5 => cases h
  | case6 => cases h
  | case7 =>
    rename_i hnext _ _ hkey reader _ _ hcolon _ _ hvalue ih
    have := nextKey?_length hnext
    have := readString_length hkey
    have := readColon_length hcolon
    have := reader.shortens hvalue
    have := ih h
    omega

/-- The members of an object whose opening brace has been read, and its end. -/
def readObject {σ : Type} (member : σ → String → Option (Reader σ)) (start : σ) (cs : List Char) :
    Except Fault (σ × List Char) :=
  match readMembers member true start cs with
  | .error fault => .error fault
  | .ok (state, rest) =>
    match endObject rest with
    | .error fault => .error fault
    | .ok rest => .ok (state, rest)

theorem readObject_length {σ : Type} {member : σ → String → Option (Reader σ)}
    {start result : σ} {cs rest : List Char}
    (h : readObject member start cs = .ok (result, rest)) : rest.length < cs.length := by
  unfold readObject at h
  split at h
  · cases h
  · rename_i hmembers
    split at h
    · cases h
    · rename_i hend
      cases h
      exact Nat.lt_of_lt_of_le (endObject_length hend) (readMembers_length hmembers)

/-! ### Values of any kind -/

/-- A value of any kind. The items of lists and objects are read by `item`; there
is none where brackets are nested too deep. -/
def readValue (item : Option (Reader Json)) (cs : List Char) : Except Fault (Json × List Char) :=
  match skipSpaces cs with
  | [] => .error ⟨.endInValue, [], 0⟩
  | c :: rest =>
    if c = 'n' then (readName "ull".toList rest).map fun rest => (.null, rest)
    else if c = 't' then (readName "rue".toList rest).map fun rest => (.bool true, rest)
    else if c = 'f' then (readName "alse".toList rest).map fun rest => (.bool false, rest)
    else if c = '-' then (readNumber true rest).map fun r => (.number r.1, r.2)
    else if c.isDigit then (readNumber false (c :: rest)).map fun r => (.number r.1, r.2)
    else if c = '"' then (readString rest).map fun r => (.string r.1, r.2)
    else if c = '[' then
      match item with
      | none => .error ⟨.nestedTooDeep, c :: rest, 1⟩
      | some item => (readList item rest).map fun r => (.array r.1, r.2)
    else if c = '\x7b' then
      match item with
      | none => .error ⟨.nestedTooDeep, c :: rest, 1⟩
      | some item =>
        let member (members : List (String × Json)) (key : String) :=
          some (item.map fun value => insertEntry key value members)
        (readObject member [] rest).map fun r => (.object r.1, r.2)
    else .error ⟨.expectedValue, c :: rest, 1⟩

theorem length_of_map_ok {α β : Type} {e : Except Fault α} {f : α → β × List Char} {b : β}
    {rest : List Char} (h : e.map f = .ok (b, rest)) : ∃ a, e = .ok a ∧ (f a).2 = rest := by
  cases e with
  | error fault => cases h
  | ok a => exact ⟨a, rfl, congrArg Prod.snd (Except.ok.inj h)⟩

theorem readValue_length {item : Option (Reader Json)} {cs rest : List Char} {value : Json}
    (h : readValue item cs = .ok (value, rest)) : rest.length < cs.length := by
  have hspaces := length_skipSpaces_le cs
  unfold readValue at h
  split at h
  · cases h
  rename_i c tail heq
  rw [heq, List.length_cons] at hspaces
  have name {name : List Char} {r : List Char} {v : Json}
      (h : (readName name tail).map (fun rest => (v, rest)) = .ok (value, r)) :
      r.length < cs.length := by
    obtain ⟨a, ha, rfl⟩ := length_of_map_ok h
    have := readName_length ha
    simp only
    omega
  split at h
  · exact name h
  split at h
  · exact name h
  split at h
  · exact name h
  split at h
  · obtain ⟨⟨n, r⟩, ha, rfl⟩ := length_of_map_ok h
    have := readNumber_length ha
    simp only
    omega
  split at h
  · obtain ⟨⟨n, r⟩, ha, rfl⟩ := length_of_map_ok h
    have := readNumber_length ha
    simp only [List.length_cons] at *
    omega
  split at h
  · obtain ⟨⟨s, r⟩, ha, rfl⟩ := length_of_map_ok h
    have := readString_length ha
    simp only
    omega
  split at h
  · split at h
    · cases h
    · obtain ⟨⟨items, r⟩, ha, rfl⟩ := length_of_map_ok h
      have := readList_length ha
      simp only
      omega
  split at h
  · split at h
    · cases h
    · obtain ⟨⟨members, r⟩, ha, rfl⟩ := length_of_map_ok h
      have := readObject_length ha
      simp only
      omega
  · cases h

/-- A value of any kind with brackets nested up to a depth. -/
def value : (depth : Nat) → Reader Json
  | 0 => ⟨readValue none, readValue_length⟩
  | depth + 1 => ⟨readValue (some (value depth)), readValue_length⟩

/-- How deep brackets may be nested in a text. -/
def deepest : Nat := 127

/-- A whole text read by a reader: nothing but blanks may follow. -/
def readAll {α : Type} (reader : Reader α) (cs : List Char) : Except Fault α :=
  match reader.read cs with
  | .error fault => .error fault
  | .ok (a, rest) =>
    match skipSpaces rest with
    | [] => .ok a
    | rest => .error ⟨.trailingCharacters, rest, 1⟩

end BuildConductor.Json
