/-! Finite maps with text keys, listed in the order of their keys.

Keys are ordered by code point. The order is part of the type, so two maps with
the same entries are equal, whatever the order in which they were filled, and
listing a map needs no sorting. -/
namespace BuildConductor

/-- A list of entries with a new one put at its place; an entry of the same key
is replaced. -/
def insertEntry {α : Type} (key : String) (value : α) : List (String × α) → List (String × α)
  | [] => [(key, value)]
  | entry :: rest =>
    if key < entry.1 then (key, value) :: entry :: rest
    else if entry.1 < key then entry :: insertEntry key value rest
    else (key, value) :: rest

/-- Keys strictly increase along the list. -/
def KeysAscend {α : Type} (entries : List (String × α)) : Prop :=
  entries.Pairwise fun a b => a.1 < b.1

theorem mem_insertEntry {α : Type} {key : String} {value : α} {entries : List (String × α)}
    {e : String × α} (h : e ∈ insertEntry key value entries) : e = (key, value) ∨ e ∈ entries := by
  induction entries with
  | nil => simpa [insertEntry] using h
  | cons entry rest ih =>
    unfold insertEntry at h
    split at h
    · simpa using h
    · split at h
      · rcases List.mem_cons.1 h with h | h
        · exact Or.inr (by simp [h])
        · rcases ih h with h | h
          · exact Or.inl h
          · exact Or.inr (by simp [h])
      · rcases List.mem_cons.1 h with h | h
        · exact Or.inl h
        · exact Or.inr (by simp [h])

/-- Two texts neither of which comes before the other are equal. -/
theorem eq_of_not_lt {a b : String} (h₁ : ¬a < b) (h₂ : ¬b < a) : a = b :=
  String.le_antisymm (String.not_lt.1 h₂) (String.not_lt.1 h₁)

theorem insertEntry_ascend {α : Type} (key : String) (value : α) {entries : List (String × α)}
    (h : KeysAscend entries) : KeysAscend (insertEntry key value entries) := by
  induction entries with
  | nil => simp [insertEntry, KeysAscend]
  | cons entry rest ih =>
    obtain ⟨hhead, htail⟩ := List.pairwise_cons.1 h
    unfold insertEntry
    split
    · rename_i hlt
      refine List.pairwise_cons.2 ⟨fun e he => ?_, h⟩
      rcases List.mem_cons.1 he with rfl | he
      · exact hlt
      · exact String.lt_trans hlt (hhead e he)
    · split
      · rename_i hgt
        refine List.pairwise_cons.2 ⟨fun e he => ?_, ih htail⟩
        rcases mem_insertEntry he with rfl | he
        · exact hgt
        · exact hhead e he
      · rename_i hlt hgt
        have hkey : key = entry.1 := eq_of_not_lt hlt hgt
        subst hkey
        exact List.pairwise_cons.2 ⟨hhead, htail⟩

/-- An entry of a new key is added to the others. -/
theorem insertEntry_perm {α : Type} {key : String} {value : α} {entries : List (String × α)}
    (h : ∀ entry ∈ entries, entry.1 ≠ key) :
    (insertEntry key value entries).Perm ((key, value) :: entries) := by
  induction entries with
  | nil => exact .refl _
  | cons entry rest ih =>
    obtain ⟨hentry, hrest⟩ := List.forall_mem_cons.1 h
    unfold insertEntry
    split
    · exact .refl _
    · split
      · exact ((ih hrest).cons entry).trans (.swap _ _ _)
      · rename_i hlt hgt
        exact absurd (eq_of_not_lt hgt hlt) hentry

/-- The value of a key in a list of entries. -/
def valueAt? {κ α : Type} [DecidableEq κ] (key : κ) (entries : List (κ × α)) : Option α :=
  (entries.find? fun entry => entry.1 == key).map Prod.snd

theorem valueAt?_cons {κ α : Type} [DecidableEq κ] (key : κ) (entry : κ × α)
    (rest : List (κ × α)) :
    valueAt? key (entry :: rest) =
      if entry.1 = key then some entry.2 else valueAt? key rest := by
  by_cases h : entry.1 = key
  · simp [valueAt?, h]
  · simp [valueAt?, h]

/-- A finite map from texts. -/
structure KeyMap (α : Type) where
  entries : List (String × α)
  ascend : KeysAscend entries
deriving DecidableEq

namespace KeyMap
variable {α : Type}

def empty : KeyMap α := ⟨[], List.Pairwise.nil⟩

instance : Inhabited (KeyMap α) := ⟨empty⟩

/-- The map with the key set to the value. -/
def insert (m : KeyMap α) (key : String) (value : α) : KeyMap α :=
  ⟨insertEntry key value m.entries, insertEntry_ascend key value m.ascend⟩

def ofList (entries : List (String × α)) : KeyMap α :=
  entries.foldl (fun m entry => m.insert entry.1 entry.2) empty

def find? (m : KeyMap α) (key : String) : Option α :=
  valueAt? key m.entries

def contains (m : KeyMap α) (key : String) : Bool :=
  m.entries.any fun entry => entry.1 == key

def keys (m : KeyMap α) : List String :=
  m.entries.map Prod.fst

def values (m : KeyMap α) : List α :=
  m.entries.map Prod.snd

/-- A map that is filled with entries of different keys has just these. -/
theorem entries_ofList_perm {entries : List (String × α)} (h : (entries.map Prod.fst).Nodup) :
    (ofList entries).entries.Perm entries := by
  suffices hfill : ∀ m : KeyMap α, ((m.entries ++ entries).map Prod.fst).Nodup →
      (entries.foldl (fun m entry => m.insert entry.1 entry.2) m).entries.Perm
        (m.entries ++ entries) from hfill empty h
  clear h
  induction entries with
  | nil =>
    intro m _
    rw [List.append_nil]
    exact .refl _
  | cons entry rest ih =>
    intro m h
    have hmoved : (m.entries ++ entry :: rest).Perm (entry :: (m.entries ++ rest)) :=
      List.perm_middle
    have hnew : ∀ other ∈ m.entries, other.1 ≠ entry.1 := by
      intro other hother heq
      have hkeys := (List.nodup_cons.1 ((hmoved.map Prod.fst).nodup_iff.1 h)).1
      exact hkeys (heq ▸ List.mem_map_of_mem (List.mem_append_left rest hother))
    have hput : ((m.insert entry.1 entry.2).entries ++ rest).Perm (m.entries ++ entry :: rest) :=
      ((insertEntry_perm hnew).append_right rest).trans hmoved.symm
    exact (ih _ ((hput.map Prod.fst).nodup_iff.2 h)).trans hput

/-- Its keys are those of the entries, in their order. -/
theorem keys_ofList {entries : List (String × α)} {keys : List String}
    (h : (entries.map Prod.fst).Perm keys) (hkeys : keys.Pairwise (· < ·)) :
    (ofList entries).keys = keys := by
  have hnodup : (entries.map Prod.fst).Nodup :=
    h.nodup_iff.2 (hkeys.imp String.ne_of_lt)
  have hascend : (ofList entries).keys.Pairwise (· < ·) :=
    List.pairwise_map.2 (ofList entries).ascend
  refine List.Perm.eq_of_pairwise (fun a b _ _ hab hba => ?_) hascend hkeys
    (((entries_ofList_perm hnodup).map Prod.fst).trans h)
  exact absurd hba (String.lt_asymm hab)

theorem ext {m n : KeyMap α} (h : m.entries = n.entries) : m = n := by
  cases m
  cases n
  cases h
  rfl

end KeyMap

end BuildConductor
