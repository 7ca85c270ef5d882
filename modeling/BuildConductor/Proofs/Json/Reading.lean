import BuildConductor.Proofs.Json.Value

/-! What reading gives.

A property of what a reader gives is kept by everything that is built from the
reader: by the items of a list, and by the state that the members of an object are
read into. `value_yields` follows from that: whatever text a value was read from,
its objects are in order and its brackets no deeper than the reader allows. -/
namespace BuildConductor

theorem except_map_eq_ok {ε α β : Type} {e : Except ε α} {f : α → β} {b : β}
    (h : e.map f = .ok b) : ∃ a, e = .ok a ∧ f a = b := by
  cases e with
  | error fault => cases h
  | ok a => exact ⟨a, rfl, Except.ok.inj h⟩

/-- Whatever holds of a new entry and of all others holds of the entries together. -/
theorem forall_mem_insertEntry {α : Type} {P : String × α → Prop} {key : String} {value : α}
    {entries : List (String × α)} (hnew : P (key, value)) (hall : ∀ entry ∈ entries, P entry) :
    ∀ entry ∈ insertEntry key value entries, P entry := by
  intro entry hentry
  rcases mem_insertEntry hentry with rfl | hold
  · exact hnew
  · exact hall entry hold

namespace Json

/-- Whether everything that a reader gives has a property. -/
def Reader.Yields {α : Type} (reader : Reader α) (P : α → Prop) : Prop :=
  ∀ cs a rest, reader.read cs = .ok (a, rest) → P a

theorem Reader.yields_true {α : Type} (reader : Reader α) : reader.Yields fun _ => True :=
  fun _ _ _ _ => trivial

theorem Reader.Yields.map {α β : Type} {reader : Reader α} {P : α → Prop} {Q : β → Prop}
    (h : reader.Yields P) {f : α → β} (hf : ∀ a, P a → Q (f a)) : (reader.map f).Yields Q := by
  intro cs b rest hread
  simp only [Reader.map] at hread
  split at hread
  · cases hread
  · rename_i a _ heq
    cases hread
    exact hf a (h _ _ _ heq)

theorem readItems_forall {α : Type} {item : Reader α} {P : α → Prop} (hitem : item.Yields P)
    {first : Bool} {cs rest : List Char} {as : List α}
    (h : readItems item first cs = .ok (as, rest)) : ∀ a ∈ as, P a := by
  fun_induction readItems item first cs generalizing as with
  | case1 => cases h
  | case2 =>
    cases h
    exact List.forall_mem_nil _
  | case3 => cases h
  | case4 => cases h
  | case5 =>
    rename_i hread _ _ hmore ih
    cases h
    exact List.forall_mem_cons.2 ⟨hitem _ _ _ hread, ih hmore⟩

theorem readList_forall {α : Type} {item : Reader α} {P : α → Prop} (hitem : item.Yields P)
    {cs rest : List Char} {as : List α} (h : readList item cs = .ok (as, rest)) :
    ∀ a ∈ as, P a := by
  unfold readList at h
  split at h
  · cases h
  · rename_i hitems
    split at h
    · cases h
    · cases h
      exact readItems_forall hitem hitems

section Members
variable {σ : Type} {member : σ → String → Option (Reader σ)} {Inv : σ → Prop}

/-- What every member keeps, all members together keep. -/
theorem readMembers_invariant
    (hstep : ∀ state key reader, Inv state → member state key = some reader → reader.Yields Inv)
    {first : Bool} {state result : σ} {cs rest : List Char} (hstate : Inv state)
    (h : readMembers member first state cs = .ok (result, rest)) : Inv result := by
  fun_induction readMembers member first state cs with
  | case1 => cases h
  | case2 =>
    cases h
    exact hstate
  | case3 => cases h
  | case4 => cases h
  | case5 => cases h
  | case6 => cases h
  | case7 =>
    rename_i hreader _ _ _ _ hvalue ih
    exact ih (hstep _ _ _ hstate hreader _ _ _ hvalue) h

theorem readObject_invariant
    (hstep : ∀ state key reader, Inv state → member state key = some reader → reader.Yields Inv)
    {start result : σ} {cs rest : List Char} (hstart : Inv start)
    (h : readObject member start cs = .ok (result, rest)) : Inv result := by
  unfold readObject at h
  split at h
  · cases h
  · rename_i hmembers
    split at h
    · cases h
    · cases h
      exact readMembers_invariant hstep hstart hmembers

end Members

/-- Whether a value is neither a list nor an object. -/
def isScalar : Json → Bool
  | .array _ | .object _ => false
  | _ => true

theorem orderly_of_isScalar {v : Json} (h : v.isScalar = true) (depth : Nat) : v.Orderly depth := by
  cases v with
  | null => exact .null depth
  | bool b => exact .bool depth b
  | number n => exact .number depth n
  | string s => exact .string depth s
  | array items => cases h
  | object members => cases h

/-- A value is a scalar, or a list or an object that was read by the reader of what
is within. -/
theorem readValue_cases {item : Option (Reader Json)} {cs rest : List Char} {v : Json}
    (h : readValue item cs = .ok (v, rest)) :
    v.isScalar = true ∨ ∃ reader text, item = some reader ∧
      ((∃ items, v = .array items ∧ readList reader text = .ok (items, rest)) ∨
        ∃ members, v = .object members ∧
          readObject (fun members key => some (reader.map fun v => insertEntry key v members)) []
            text = .ok (members, rest)) := by
  have scalar {α : Type} {e : Except Fault α} {f : α → Json × List Char}
      (hf : ∀ a, (f a).1.isScalar = true) (h : e.map f = .ok (v, rest)) : v.isScalar = true := by
    obtain ⟨a, -, heq⟩ := except_map_eq_ok h
    have ha := hf a
    rwa [heq] at ha
  unfold readValue at h
  split at h
  · cases h
  -- Six kinds of scalar, in the order in which the first character is looked at.
  iterate 6
    split at h
    · exact .inl (scalar (fun _ => rfl) h)
  split at h
  · split at h
    · cases h
    · obtain ⟨_, hlist, heq⟩ := except_map_eq_ok h
      cases heq
      exact .inr ⟨_, _, rfl, .inl ⟨_, rfl, hlist⟩⟩
  split at h
  · split at h
    · cases h
    · obtain ⟨_, hobject, heq⟩ := except_map_eq_ok h
      cases heq
      exact .inr ⟨_, _, rfl, .inr ⟨_, rfl, hobject⟩⟩
  · cases h

/-- A value that was read is orderly, and its brackets are no deeper than allowed. -/
theorem value_yields (depth : Nat) : (value depth).Yields (Orderly depth) := by
  induction depth with
  | zero =>
    intro cs v rest h
    have hvalue : readValue none cs = .ok (v, rest) := h
    rcases readValue_cases hvalue with hscalar | ⟨_, _, hnone, _⟩
    · exact orderly_of_isScalar hscalar 0
    · cases hnone
  | succ depth ih =>
    intro cs v rest h
    have hvalue : readValue (some (value depth)) cs = .ok (v, rest) := h
    rcases readValue_cases hvalue with hscalar | ⟨_, _, hsome, hinner⟩
    · exact orderly_of_isScalar hscalar (depth + 1)
    · cases hsome
      rcases hinner with ⟨items, rfl, hlist⟩ | ⟨members, rfl, hobject⟩
      · exact .array (readList_forall ih hlist)
      · have hstep (state : List (String × Json)) (key : String)
            (reader : Reader (List (String × Json)))
            (hstate : KeysAscend state ∧ ∀ m ∈ state, Orderly depth m.2)
            (hreader : some ((value depth).map fun v => insertEntry key v state) = some reader) :
            reader.Yields fun state => KeysAscend state ∧ ∀ m ∈ state, Orderly depth m.2 := by
          cases hreader
          refine ih.map fun v hv => ⟨insertEntry_ascend key v hstate.1, ?_⟩
          exact forall_mem_insertEntry hv hstate.2
        have hmembers := readObject_invariant hstep ⟨.nil, List.forall_mem_nil _⟩ hobject
        exact .object hmembers.1 hmembers.2

end Json

end BuildConductor
