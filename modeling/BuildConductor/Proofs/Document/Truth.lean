import BuildConductor.Document.Basic
import BuildConductor.Proofs.Decimal.ReadBack
import BuildConductor.Proofs.Json.Value

/-! Whether an option is true, and whether the build tool takes its text as true.

The two agree on every value that is not null (`OptionValue.isTrueText_render_iff`): a
number is written as a numeral that is zero where the number is, and the brackets
around a list or an object keep its text from being a numeral or a word for false.
Null is held to be false, while its text is no word for false. A text with an equals sign
in it is neither a numeral nor such a word, so only its ending can make it false
(`isTrueText_equals`). -/
namespace BuildConductor

open Text (isBlank trimList upperList upperChar)
open Decimal (numeral? Numeral)

theorem Text.trimList_eq_self {cs : List Char} (hfirst : ∀ c ∈ cs.head?, isBlank c = false)
    (hlast : ∀ c ∈ cs.getLast?, isBlank c = false) : trimList cs = cs := by
  have hdrop {ds : List Char} (h : ∀ c ∈ ds.head?, isBlank c = false) :
      ds.dropWhile isBlank = ds := by
    cases ds with
    | nil => rfl
    | cons d ds => simp [h d rfl]
  rw [trimList, hdrop hfirst, hdrop, List.reverse_reverse]
  rwa [List.head?_reverse]

/-- Whether a character can stand at an end of a text without being cut off or ending
the name of something that was not found. -/
structure StandsAtEnd (c : Char) : Prop where
  notBlank : isBlank c = false
  ending : ∃ d, upperChar c = [d] ∧ d ≠ 'D'

/-- A text that is not cut counts as the numeral that it is, and as true if it is none
and no word for false. -/
theorem isTrueText_of_ends {cs : List Char} {first last : Char} (hfirst : cs.head? = some first)
    (hlast : cs.getLast? = some last) (hstart : isBlank first = false) (hend : StandsAtEnd last) :
    isTrueText (String.ofList cs) =
      (numeral? (upperList cs)).elim (!falseWords.contains (String.ofList (upperList cs)))
        fun n => !n.isZero := by
  obtain ⟨front, rfl⟩ := List.getLast?_eq_some_iff.1 hlast
  obtain ⟨hblank, d, hupper, hd⟩ := hend
  have htrim : trimList (front ++ [last]) = front ++ [last] := by
    refine Text.trimList_eq_self (fun c hc => ?_) (fun c hc => ?_)
    · rw [hfirst] at hc
      cases hc
      exact hstart
    · rw [hlast] at hc
      cases hc
      exact hblank
  have hword : upperList (front ++ [last]) = upperList front ++ [d] := by
    rw [Text.upperList_append, ← hupper]
    exact congrArg (upperList front ++ ·) (List.append_nil _)
  have hending : notFoundEnding.toList.isSuffixOf (upperList front ++ [d]) = false := by
    rw [Bool.eq_false_iff, ne_eq, List.isSuffixOf_iff_suffix]
    rintro ⟨more, hmore⟩
    have hsplit : notFoundEnding.toList = "-NOTFOUN".toList ++ ['D'] := by decide
    rw [hsplit, ← List.append_assoc] at hmore
    exact hd (List.singleton_inj.1 (List.append_inj_right' hmore rfl)).symm
  have hne : (upperList front ++ [d]).isEmpty = false := by
    rw [List.isEmpty_eq_false_iff]
    exact List.concat_ne_nil _ _
  simp only [isTrueText, String.toList_ofList, htrim, hword, hending, hne, Bool.or_false,
    Bool.false_eq_true, if_false]
  cases numeral? (upperList front ++ [d]) <;> rfl

/-! ### Numbers -/

/-- Whether a character can occur in the text of a number. -/
def OccursInNumber (c : Char) : Prop :=
  c.isDigit = true ∨ c ∈ ['.', 'e', '+', '-']

theorem OccursInNumber.standsAtEnd {c : Char} (h : OccursInNumber c) : StandsAtEnd c := by
  have hall : ∀ n ≤ 57, 48 ≤ n → isBlank (Char.ofNat n) = false ∧ Char.ofNat n ≠ 'D' := by decide
  have hmark : ∀ c ∈ ['.', 'e', '+', '-'], isBlank c = false ∧
      ∃ d, upperChar c = [d] ∧ d ≠ 'D' := by
    simp only [List.mem_cons, List.not_mem_nil, or_false]
    rintro c (rfl | rfl | rfl | rfl) <;> exact ⟨by decide, _, rfl, by decide⟩
  rcases h with hdigit | hother
  · obtain ⟨hlow, hhigh⟩ := Char.isDigit_iff_toNat.1 hdigit
    have hc := hall c.toNat hhigh hlow
    rw [Char.ofNat_toNat] at hc
    exact ⟨hc.1, c, Decimal.upperChar_of_isDigit hdigit, hc.2⟩
  · obtain ⟨hblank, d, hupper, hd⟩ := hmark c hother
    exact ⟨hblank, d, hupper, hd⟩

/-- Whether a text has no other characters. -/
def IsNumberText (cs : List Char) : Prop :=
  ∀ c ∈ cs, OccursInNumber c

theorem isNumberText_digits {cs : List Char} (h : Decimal.AllDigits cs) : IsNumberText cs :=
  fun c hc => .inl (h c hc)

theorem IsNumberText.append {cs ds : List Char} (hcs : IsNumberText cs) (hds : IsNumberText ds) :
    IsNumberText (cs ++ ds) :=
  fun c hc => (List.mem_append.1 hc).elim (hcs c) (hds c)

theorem IsNumberText.mark {c : Char} (hc : c ∈ ['.', 'e', '+', '-']) {cs : List Char}
    (h : IsNumberText cs) : IsNumberText (c :: cs) :=
  List.forall_mem_cons.2 ⟨.inr hc, h⟩

/-- A numeral counts as what it says. -/
theorem isTrueText_of_numeral {cs : List Char} {n : Numeral} (hne : cs ≠ [])
    (hmem : IsNumberText cs) (hread : numeral? (upperList cs) = some n) :
    isTrueText (String.ofList cs) = !n.isZero := by
  have hfirst := List.head?_eq_some_head hne
  have hlast := List.getLast?_eq_some_getLast hne
  have hstart := (hmem _ (List.head_mem hne)).standsAtEnd.notBlank
  rw [isTrueText_of_ends hfirst hlast hstart (hmem _ (List.getLast_mem hne)).standsAtEnd, hread,
    Option.elim_some]

/-- A whole number is a numeral that is zero where the number is. -/
theorem isTrueText_integer (value : Int) :
    isTrueText (Json.number (.integer value)).compact = (value != 0) := by
  have hnatural (n : Nat) : Decimal.finite? (upperList (Nat.toDigits 10 n)) =
      some (.finite n 0) := by
    have hdigits := Decimal.allDigits_toDigits n
    have hend : Decimal.exponent? [] = some 0 := rfl
    have hread := Decimal.finite?_whole (Decimal.toDigits_ne_nil n) hdigits hend
    rw [List.append_nil] at hread
    rw [hdigits.upperList, hread, Decimal.ofDigits_toDigits]
  have hzero (n : Nat) : (Numeral.finite n 0).isZero = decide (n = 0) := by
    rw [Bool.eq_iff_iff]
    simp [Numeral.isZero]
  by_cases hsign : 0 ≤ value
  · obtain ⟨n, rfl⟩ := Int.eq_ofNat_of_zero_le hsign
    have htext : (Json.number (.integer n)).compact = String.ofList (Nat.toDigits 10 n) :=
      congrArg String.ofList (Json.writeNumber_natural n)
    rw [htext, isTrueText_of_numeral (Decimal.toDigits_ne_nil n)
      (isNumberText_digits (Decimal.allDigits_toDigits n))
      (Decimal.numeral?_of_finite? (hnatural n)).1, hzero]
    rw [Bool.eq_iff_iff]
    simp
  · obtain ⟨n, rfl⟩ := Int.exists_eq_neg_ofNat (by omega : value ≤ 0)
    have htext : (Json.number (.integer (-n))).compact =
        String.ofList ('-' :: Nat.toDigits 10 n) :=
      congrArg String.ofList (Json.writeNumber_negative (by omega))
    have hmem := (isNumberText_digits (Decimal.allDigits_toDigits n)).mark (c := '-') (by decide)
    rw [htext, isTrueText_of_numeral (List.cons_ne_nil '-' _) hmem
      (Decimal.numeral?_of_finite? (hnatural n)).2, hzero]
    rw [Bool.eq_iff_iff]
    simp

theorem isNumberText_positional {digits : List Char} (h : Decimal.AllDigits digits)
    (leading : Int) : IsNumberText (Decimal.positional digits leading) := by
  have hzeros (n : Nat) := isNumberText_digits (Decimal.allDigits_zeros n)
  have hdigits := isNumberText_digits h
  unfold Decimal.positional
  split
  · exact (hzeros 1).append (((hzeros _).append hdigits).mark (by decide))
  split
  · exact (hdigits.append (hzeros _)).append ((hzeros 1).mark (by decide))
  · exact (isNumberText_digits (h.take _)).append
      ((isNumberText_digits (h.drop _)).mark (by decide))

theorem isNumberText_scientific {digits : List Char} (h : Decimal.AllDigits digits)
    (leading : Int) : IsNumberText (Decimal.scientific digits leading) := by
  have hexponent := isNumberText_digits (Decimal.allDigits_toDigits leading.natAbs)
  have hsign : (if leading < 0 then '-' else '+') ∈ ['.', 'e', '+', '-'] := by
    split <;> decide
  unfold Decimal.scientific
  refine .append (.append (isNumberText_digits (h.take 1)) ?_)
    ((hexponent.mark hsign).mark (by decide))
  split
  · exact List.forall_mem_nil _
  · exact (isNumberText_digits (h.drop 1)).mark (by decide)

theorem isNumberText_text (layout : Decimal.Layout) (x : Decimal.Binary64) :
    IsNumberText (layout.text x) := by
  have hmagnitude (d : Decimal.Scaled) : IsNumberText (layout.magnitude d) := by
    unfold Decimal.Layout.magnitude
    simp only
    split
    · exact isNumberText_positional (Decimal.allDigits_toDigits _) _
    · exact isNumberText_scientific (Decimal.allDigits_toDigits _) _
  have hzero : IsNumberText ['0', '.', '0'] :=
    have hdigit := isNumberText_digits (Decimal.allDigits_zeros 1)
    hdigit.append (hdigit.mark (by decide))
  have hbody : IsNumberText (if x.isZero then ['0', '.', '0'] else layout.magnitude x.shortest) := by
    split
    · exact hzero
    · exact hmagnitude _
  unfold Decimal.Layout.text
  simp only
  split
  · exact hbody.mark (by decide)
  · exact hbody

/-- Any other number is one as well. -/
theorem isTrueText_real (value : Decimal.Binary64) :
    isTrueText (Json.number (.real value)).compact = !value.isZero := by
  obtain ⟨n, hn, hzero⟩ :=
    Option.map_eq_some_iff.1 (Decimal.isZero_numeral?_text Decimal.documentLayout value)
  have hne : Decimal.documentLayout.text value ≠ [] := by
    intro hnil
    rw [hnil] at hn
    cases hn
  rw [← hzero]
  exact isTrueText_of_numeral hne (isNumberText_text Decimal.documentLayout value) hn

/-! ### Lists and objects -/

/-- A text between brackets is neither a numeral nor a word for false. -/
theorem isTrueText_bracketed {start close : Char} (body : List Char)
    (hstart : start ∈ ['[', '\x7b']) (hclose : close ∈ [']', '\x7d']) :
    isTrueText (String.ofList (start :: body ++ [close])) = true := by
  have hends : isBlank start = false ∧ upperChar start = [start] ∧ StandsAtEnd close := by
    simp only [List.mem_cons, List.not_mem_nil, or_false] at hstart hclose
    rcases hstart with rfl | rfl <;> rcases hclose with rfl | rfl <;>
      exact ⟨by decide, by decide, by decide, _, rfl, by decide⟩
  obtain ⟨hblank, hupper, hend⟩ := hends
  have hword : upperList (start :: body ++ [close]) = start :: upperList (body ++ [close]) := by
    rw [List.cons_append, Text.upperList_cons, hupper, List.singleton_append]
  have hnone (cs : List Char) : numeral? (start :: cs) = none := by
    simp only [List.mem_cons, List.not_mem_nil, or_false] at hstart
    rcases hstart with rfl | rfl <;>
      simp [numeral?, Decimal.dropSign, Decimal.finite?, Decimal.spanDigits]
  have hfalse (cs : List Char) : falseWords.contains (String.ofList (start :: cs)) = false := by
    have hall : ∀ word ∈ falseWords, word.toList.head? ≠ some start := by
      simp only [List.mem_cons, List.not_mem_nil, or_false] at hstart
      rcases hstart with rfl | rfl <;> decide
    rw [Bool.eq_false_iff, ne_eq, List.contains_iff_mem]
    intro hmem
    exact hall _ hmem (by rw [String.toList_ofList, List.head?_cons])
  rw [isTrueText_of_ends rfl List.getLast?_concat hblank hend, hword, hnone]
  simp only [hfalse, Bool.not_false, Option.elim_none]

theorem isTrueText_array (items : List Json) : isTrueText (Json.array items).compact = true := by
  cases items with
  | nil => exact isTrueText_bracketed [] (by decide) (by decide)
  | cons item items => exact isTrueText_bracketed _ (by decide) (by decide)

theorem isTrueText_object (members : List (String × Json)) :
    isTrueText (Json.object members).compact = true := by
  cases members with
  | nil => exact isTrueText_bracketed [] (by decide) (by decide)
  | cons member members => exact isTrueText_bracketed _ (by decide) (by decide)

/-- A value is true exactly where its text is taken as true, unless it is null. -/
theorem OptionValue.isTrueText_render_iff (value : Json) :
    isTrueText (OptionValue.ofJson value).render = (OptionValue.ofJson value).isTrue ↔
      value ≠ .null := by
  cases value with
  | null =>
    have hdisagree : isTrueText (OptionValue.ofJson .null).render ≠
        (OptionValue.ofJson .null).isTrue := by decide
    exact ⟨fun h => absurd h hdisagree, fun h => absurd rfl h⟩
  | bool b => exact ⟨fun _ => by simp, fun _ => by cases b <;> decide⟩
  | number n =>
    refine ⟨fun _ => by simp, fun _ => ?_⟩
    cases n with
    | integer value => exact isTrueText_integer value
    | real value => exact isTrueText_real value
  | string text => exact ⟨fun _ => by simp, fun _ => rfl⟩
  | array items => exact ⟨fun _ => by simp, fun _ => isTrueText_array items⟩
  | object members => exact ⟨fun _ => by simp, fun _ => isTrueText_object members⟩

/-! ### Texts with an equals sign -/

namespace Decimal

theorem spanDigits_of_equals {cs : List Char} (h : '=' ∈ cs) :
    '=' ∈ (spanDigits cs).2 := by
  rw [← List.takeWhile_append_dropWhile (p := Char.isDigit) (l := cs)] at h
  refine (List.mem_append.1 h).resolve_left fun hdigit => ?_
  cases List.mem_takeWhile_imp hdigit

theorem dropSign_of_equals {cs : List Char} (h : '=' ∈ cs) :
    '=' ∈ (dropSign cs).2 := by
  unfold dropSign
  split
  · exact (List.mem_cons.1 h).resolve_left (by decide)
  · exact (List.mem_cons.1 h).resolve_left (by decide)
  · exact h

theorem exponent?_of_equals {cs : List Char} (h : '=' ∈ cs) :
    exponent? cs = none := by
  cases cs with
  | nil => cases h
  | cons c rest =>
    unfold exponent?
    simp only
    split
    · rename_i hletter
      have hrest : '=' ∈ rest := by
        refine (List.mem_cons.1 h).resolve_left fun heq => ?_
        rw [← heq] at hletter
        revert hletter
        decide
      have hdigits := spanDigits_of_equals (dropSign_of_equals hrest)
      split
      · rename_i hspan
        rw [hspan] at hdigits
        cases hdigits
      · rfl
    · rfl

theorem finite?_of_equals {cs : List Char} (h : '=' ∈ cs) : finite? cs = none := by
  have hrest := spanDigits_of_equals h
  unfold finite?
  simp only
  split
  · rename_i rest hpoint
    rw [hpoint] at hrest
    have hfraction := (List.mem_cons.1 hrest).resolve_left (by decide)
    rw [exponent?_of_equals (spanDigits_of_equals hfraction)]
    exact ite_self _
  · rw [exponent?_of_equals hrest]
    exact ite_self _

/-- A numeral has no equals sign. -/
theorem numeral?_of_equals {cs : List Char} (h : '=' ∈ cs) : numeral? cs = none := by
  have hbody := dropSign_of_equals h
  have hname : '=' ∈ (dropSign cs).2.map Char.toLower :=
    List.mem_map.2 ⟨'=', hbody, by decide⟩
  have hother (name : String) (hplain : '=' ∉ name.toList) :
      (dropSign cs).2.map Char.toLower ≠ name.toList := fun heq => hplain (heq ▸ hname)
  unfold numeral?
  simp only [finite?_of_equals hbody]
  rw [if_neg (not_or.2 ⟨hother "inf" (by decide), hother "infinity" (by decide)⟩),
    if_neg (hother "nan" (by decide))]

end Decimal

/-- Whether a text ends like the name of something that was not found, in any letter case and
before any blanks. -/
def EndsUnfound (s : String) : Prop :=
  notFoundEnding.toList <:+ upperList (s.toList.reverse.dropWhile isBlank).reverse

instance (s : String) : Decidable (EndsUnfound s) :=
  inferInstanceAs (Decidable (_ <:+ _))

theorem Text.trimList_equals (before after : List Char) :
    trimList (before ++ '=' :: after) =
      before.dropWhile isBlank ++ '=' :: (after.reverse.dropWhile isBlank).reverse := by
  have hstop (cs rest : List Char) :
      (cs ++ '=' :: rest).dropWhile isBlank = cs.dropWhile isBlank ++ '=' :: rest := by
    rw [List.dropWhile_append]
    split
    · rename_i hempty
      rw [List.isEmpty_iff.1 hempty]
      rfl
    · rfl
  rw [trimList, hstop, List.reverse_append, List.reverse_cons, List.append_assoc,
    List.singleton_append, hstop, List.reverse_append, List.reverse_cons, List.reverse_reverse,
    List.append_assoc, List.singleton_append]

/-- With an equals sign in it, a text is false only if what is behind that ends like the name of
something that was not found. -/
theorem isTrueText_equals (before after : String) :
    isTrueText (before ++ "=" ++ after) = true ↔ ¬EndsUnfound after := by
  let start := upperList (before.toList.dropWhile isBlank)
  let rest := upperList (after.toList.reverse.dropWhile isBlank).reverse
  have hword : upperList (trimList (before ++ "=" ++ after).toList) = start ++ '=' :: rest := by
    have hlist : (before ++ "=" ++ after).toList = before.toList ++ '=' :: after.toList := by simp
    have hupper : upperChar '=' = ['='] := by decide
    rw [hlist, Text.trimList_equals, Text.upperList_append, Text.upperList_cons, hupper]
    rfl
  have hmem : '=' ∈ start ++ '=' :: rest := by simp
  have hne : (start ++ '=' :: rest).isEmpty = false := by simp
  have hfalse : falseWords.contains (String.ofList (start ++ '=' :: rest)) = false := by
    have hplain : ∀ word ∈ falseWords, '=' ∉ word.toList := by decide
    rw [Bool.eq_false_iff, ne_eq, List.contains_iff_mem]
    exact fun hcontained => hplain _ hcontained (by rwa [String.toList_ofList])
  have hending :
      notFoundEnding.toList <:+ start ++ '=' :: rest ↔ notFoundEnding.toList <:+ rest := by
    have hplain : '=' ∉ notFoundEnding.toList := by decide
    have hbehind : '=' :: rest <:+ start ++ '=' :: rest := List.suffix_append _ _
    refine ⟨fun h => ?_, fun h => (h.trans (List.suffix_cons '=' rest)).trans hbehind⟩
    rcases List.suffix_or_suffix_of_suffix h hbehind with hends | hholds
    · rcases List.suffix_cons_iff.1 hends with heq | hends
      · exact absurd (heq ▸ List.mem_cons_self) hplain
      · exact hends
    · exact absurd (hholds.subset List.mem_cons_self) hplain
  unfold EndsUnfound
  rw [← hending, isTrueText, hword]
  simp only [hne, Bool.false_or, List.isSuffixOf_iff_suffix, Decimal.numeral?_of_equals hmem,
    hfalse]
  split
  · rename_i hends
    simp [hends]
  · rename_i hends
    simp [hends]

end BuildConductor
