import BuildConductor.Proofs.Json.Value

/-! How values are spelled.

`Spells` is the grammar of texts: which texts spell a value whose brackets are nested up
to a depth. Blanks may stand around everything, and an object may have a key more than
once; its members are listed as they come. A number has the value that its parts have. -/
namespace BuildConductor.Json

open Decimal (ne_of_isDigit)

/-! ### Values -/

/-- An item of a list or the value of a member, with the blanks around it. -/
structure Item where
  before : List Char
  text : List Char
  after : List Char
  value : Json

def Item.spelled (item : Item) : List Char :=
  item.before ++ (item.text ++ item.after)

structure Item.Spaced (item : Item) : Prop where
  before : AllSpaces item.before
  after : AllSpaces item.after

/-- A member of an object. -/
structure Member where
  before : List Char
  keyText : List Char
  key : List Char
  afterKey : List Char
  item : Item

/-- A member from its key on. -/
def Member.keySpelled (member : Member) : List Char :=
  '"' :: (member.keyText ++ '"' :: (member.afterKey ++ ':' :: member.item.spelled))

def Member.spelled (member : Member) : List Char :=
  member.before ++ member.keySpelled

def Member.entry (member : Member) : String × Json :=
  (String.ofList member.key, member.item.value)

structure Member.Spaced (member : Member) : Prop where
  before : AllSpaces member.before
  key : SpellsChars member.keyText member.key
  afterKey : AllSpaces member.afterKey
  item : member.item.Spaced

/-- Pieces that each come after a comma. -/
def afterCommas (pieces : List (List Char)) : List Char :=
  pieces.flatMap fun piece => ',' :: piece

/-- What stands between brackets: pieces with commas between them, or blanks. -/
def separated (blanks : List Char) : List (List Char) → List Char
  | [] => blanks
  | piece :: pieces => piece ++ afterCommas pieces

/-- The texts that spell a value with brackets nested up to a depth. -/
inductive Spells : Nat → List Char → Json → Prop
  | null {depth : Nat} : Spells depth "null".toList .null
  | true {depth : Nat} : Spells depth "true".toList (.bool true)
  | false {depth : Nat} : Spells depth "false".toList (.bool false)
  | positive {depth : Nat} {text : List Char} {parts : NumberParts} {n : Number}
    (hparts : SpellsParts text parts) (hvalue : ∀ unread, numberOfParts false parts unread = .ok n) :
    Spells depth text (.number n)
  | negative {depth : Nat} {text : List Char} {parts : NumberParts} {n : Number}
    (hparts : SpellsParts text parts) (hvalue : ∀ unread, numberOfParts true parts unread = .ok n) :
    Spells depth ('-' :: text) (.number n)
  | string {depth : Nat} {spelled text : List Char} (h : SpellsChars spelled text) :
    Spells depth ('"' :: (spelled ++ ['"'])) (.string (String.ofList text))
  | array {depth : Nat} {blanks : List Char} {items : List Item} (hblanks : AllSpaces blanks)
    (hspaced : ∀ item ∈ items, item.Spaced)
    (hitems : ∀ item ∈ items, Spells depth item.text item.value) :
    Spells (depth + 1) ('[' :: (separated blanks (items.map Item.spelled) ++ [']']))
      (.array (items.map Item.value))
  | object {depth : Nat} {blanks : List Char} {members : List Member} (hblanks : AllSpaces blanks)
    (hspaced : ∀ member ∈ members, member.Spaced)
    (hitems : ∀ member ∈ members, Spells depth member.item.text member.item.value) :
    Spells (depth + 1) ('\x7b' :: (separated blanks (members.map Member.spelled) ++ ['\x7d']))
      (.object (members.map Member.entry))

/-- The characters that a text of a value can begin with. -/
inductive Opens : Char → Json → Prop
  | null : Opens 'n' .null
  | true : Opens 't' (.bool true)
  | false : Opens 'f' (.bool false)
  | digit {c : Char} (hc : c.isDigit = true) (n : Number) : Opens c (.number n)
  | minus (n : Number) : Opens '-' (.number n)
  | string (text : String) : Opens '"' (.string text)
  | array (items : List Json) : Opens '[' (.array items)
  | object (members : List (String × Json)) : Opens '\x7b' (.object members)

theorem Spells.opens {depth : Nat} {text : List Char} {v : Json} (h : Spells depth text v) :
    ∃ c rest, text = c :: rest ∧ Opens c v := by
  cases h with
  | null => exact ⟨_, _, rfl, .null⟩
  | true => exact ⟨_, _, rfl, .true⟩
  | false => exact ⟨_, _, rfl, .false⟩
  | positive hparts =>
    obtain ⟨c, rest, htext, hc⟩ := hparts.exists_digit
    exact ⟨c, rest, htext, .digit hc _⟩
  | negative => exact ⟨_, _, rfl, .minus _⟩
  | string => exact ⟨_, _, rfl, .string _⟩
  | array => exact ⟨_, _, rfl, .array _⟩
  | object => exact ⟨_, _, rfl, .object _⟩

theorem Opens.not_space {c : Char} {v : Json} (h : Opens c v) : isSpace c = Bool.false := by
  cases h with
  | digit hc => exact isSpace_of_isDigit hc
  | _ => rfl

theorem Opens.ne_bracket {c : Char} {v : Json} (h : Opens c v) : c ≠ ']' := by
  cases h with
  | digit hc => exact ne_of_isDigit hc rfl
  | _ => decide

theorem Spells.starts {depth : Nat} {text : List Char} {v : Json} (h : Spells depth text v) :
    StartsValue text := by
  obtain ⟨c, rest, htext, hopens⟩ := h.opens
  exact ⟨c, rest, htext, hopens.not_space, hopens.ne_bracket⟩

/-- Blanks before a value are skipped, and the value is not. -/
theorem StartsValue.skipSpaces {text blanks : List Char} (h : StartsValue text)
    (hblanks : AllSpaces blanks) (rest : List Char) :
    Json.skipSpaces (blanks ++ (text ++ rest)) = text ++ rest := by
  obtain ⟨c, more, rfl, hspace, -⟩ := h
  exact skipSpaces_blanks_cons hblanks hspace (more ++ rest)

/-- Brackets, and commas between pieces, end a number. -/
theorem endsNumber_afterCommas {blanks : List Char} (hblanks : AllSpaces blanks)
    (pieces : List (List Char)) {rest : List Char} (hrest : EndsNumber rest) :
    EndsNumber (blanks ++ (afterCommas pieces ++ rest)) := by
  refine endsNumber_append hblanks ?_
  cases pieces with
  | nil => exact hrest
  | cons piece pieces => exact endsNumber_cons (by decide) _

end BuildConductor.Json
