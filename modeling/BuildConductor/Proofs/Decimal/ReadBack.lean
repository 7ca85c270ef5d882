import BuildConductor.Decimal.Layout
import BuildConductor.Proofs.Decimal.Digits
import BuildConductor.Text.Case

/-! The text of a number, read as a numeral.

A decimal `Counts` if it does not round to zero. The shortest decimal of a number
that is not zero counts, since it lies in the interval of those that round to the
number (`shortest_counts`), and every layout of a decimal is a numeral that counts
with it. So the text of a number reads as zero exactly where the number is zero
(`isZero_numeral?_text`), in small or capital letters. -/
namespace BuildConductor.Decimal

/-! ### Decimals that do not round to zero -/

/-- Whether a decimal is nearer to the smallest positive number, or to a larger one,
than to zero. -/
structure Scaled.Counts (d : Scaled) : Prop where
  digits : d.digits ≠ 0
  exceeds : d.exponent < 0 → Nat.pow 10 d.exponent.natAbs < d.digits * (2 * unitsPerOne)

/-- Half of the smallest positive number is between two powers of ten. -/
theorem unitsPerOne_bounds : 10 < 2 * unitsPerOne ∧ digitCount (2 * unitsPerOne) = 324 := by
  decide +kernel

theorem lt_pow_digitCount (n : Nat) : n < Nat.pow 10 (digitCount n) :=
  (Nat.length_toDigits_le_iff (by decide) Nat.length_toDigits_pos).1 (Nat.le_refl _)

theorem mul_le_pow {m n a b places : Nat} (hm : m < Nat.pow 10 a) (hn : n < Nat.pow 10 b)
    (hplaces : a + b ≤ places) : m * n ≤ Nat.pow 10 places :=
  calc m * n
      ≤ Nat.pow 10 a * Nat.pow 10 b := Nat.mul_le_mul (Nat.le_of_lt hm) (Nat.le_of_lt hn)
    _ = Nat.pow 10 (a + b) := (Nat.pow_add 10 a b).symm
    _ ≤ Nat.pow 10 places := Nat.pow_le_pow_right (by decide) hplaces

/-- Where places by far outnumber digits, the power need not be computed. -/
theorem vanishes_iff (digits places : Nat) :
    vanishes digits places = true ↔ digits * (2 * unitsPerOne) ≤ Nat.pow 10 places := by
  simp only [vanishes, Bool.or_eq_true, decide_eq_true_eq, or_iff_right_iff_imp]
  have hcount := unitsPerOne_bounds.2
  generalize 2 * unitsPerOne = unit at hcount ⊢
  rw [← hcount]
  exact mul_le_pow (lt_pow_digitCount digits) (lt_pow_digitCount unit)

/-- A numeral reads as zero unless its decimal counts. -/
theorem isZero_finite (digits : Nat) (exponent : Int) :
    (Numeral.finite digits exponent).isZero = false ↔ Scaled.Counts ⟨digits, exponent⟩ := by
  have hplaces : vanishes digits exponent.natAbs = false ↔
      Nat.pow 10 exponent.natAbs < digits * (2 * unitsPerOne) := by
    rw [Bool.eq_false_iff, ne_eq, vanishes_iff, Nat.not_le]
  simp only [Numeral.isZero, Bool.or_eq_false_iff, beq_eq_false_iff_ne, Bool.and_eq_false_iff,
    decide_eq_false_iff_not, hplaces]
  constructor
  · rintro ⟨hdigits, hcounts⟩
    exact ⟨hdigits, fun hneg => hcounts.resolve_left fun hnot => hnot hneg⟩
  · rintro ⟨hdigits, hexceeds⟩
    refine ⟨hdigits, ?_⟩
    by_cases hneg : exponent < 0
    · exact .inr (hexceeds hneg)
    · exact .inl hneg

namespace Binary64

/-- A quotient that reads back as a number that is not zero is more than half of the
smallest positive number. -/
theorem lt_of_covers {x : Binary64} (hx : x.significand ≠ 0) {num den : Nat} (hden : 0 < den)
    (h : x.covers num den = true) : den < num * (2 * unitsPerOne) := by
  have hquarters : x.quartersBelow = 1 ∨ x.quartersBelow = 2 := by
    unfold quartersBelow
    split
    · exact .inl rfl
    · exact .inr rfl
  have hquarter : den ≤ Nat.pow 2 x.shift * den :=
    Nat.le_mul_of_pos_left den (Nat.pow_pos (by decide))
  simp only [covers] at h
  generalize Nat.pow 2 x.shift * den = quarter at h hquarter
  have hfour : num * (4 * unitsPerOne) = 2 * (num * (2 * unitsPerOne)) := by
    rw [Nat.mul_left_comm 2, ← Nat.mul_assoc 2 2]
  rw [hfour] at h
  generalize num * (2 * unitsPerOne) = point at h ⊢
  split at h
  · -- An even significand is at least two, so the interval stays away from its end.
    have hlow : 6 * quarter ≤ (4 * x.significand - x.quartersBelow) * quarter :=
      Nat.mul_le_mul_right quarter (by omega)
    simp only [Bool.and_eq_true, decide_eq_true_eq] at h
    omega
  · have hlow : 2 * quarter ≤ (4 * x.significand - x.quartersBelow) * quarter :=
      Nat.mul_le_mul_right quarter (by omega)
    simp only [Bool.and_eq_true, decide_eq_true_eq] at h
    omega

theorem counts_of_covers {x : Binary64} (hx : x.significand ≠ 0) {digits : Nat} {exponent : Int}
    (h : x.covers (digits * (powerRatio exponent).1) (powerRatio exponent).2 = true) :
    Scaled.Counts ⟨digits, exponent⟩ := by
  have hden : 0 < (powerRatio exponent).2 := by
    unfold powerRatio
    split
    · exact Nat.one_pos
    · exact Nat.pow_pos (by decide)
  have hlt := lt_of_covers hx hden h
  refine ⟨fun hzero => ?_, fun hneg => ?_⟩
  · simp only at hzero
    rw [hzero, Nat.zero_mul, Nat.zero_mul] at hlt
    exact Nat.not_lt_zero _ hlt
  · have hratio : powerRatio exponent = (1, Nat.pow 10 exponent.natAbs) :=
      if_neg (Int.not_le.2 hneg)
    rwa [hratio, Nat.mul_one] at hlt

/-- What is found on a grid reads back. -/
theorem counts_of_onGrid? {x : Binary64} (hx : x.significand ≠ 0) {exponent : Int} {d : Scaled}
    (h : x.onGrid? exponent = some d) : d.Counts := by
  simp only [onGrid?] at h
  generalize x.units * (powerRatio exponent).2 / (unitsPerOne * (powerRatio exponent).1) = below at h
  split at h
  · rename_i hbelow _
    cases h
    exact counts_of_covers hx hbelow
  · rename_i _ habove
    cases h
    exact counts_of_covers hx habove
  · rename_i hbelow habove
    have hbelow := counts_of_covers hx hbelow
    have habove := counts_of_covers hx habove
    split at h
    · cases h
      exact hbelow
    split at h
    · cases h
      exact habove
    split at h
    · cases h
      exact hbelow
    · cases h
      exact habove
  · cases h

/-- Twice a positive multiple of a power is more than the power. -/
theorem lt_twice_units {ten five unit units : Nat} (hten : 0 < ten) (hpower : ten = five * unit)
    (hunits : 0 < units) : ten < units * five * (2 * unit) :=
  calc ten
      < 2 * ten := by omega
    _ ≤ units * (2 * ten) := Nat.le_mul_of_pos_left _ hunits
    _ = units * five * (2 * unit) := by
      rw [hpower, Nat.mul_left_comm 2, Nat.mul_assoc]

/-- A number that is not zero is at least the smallest positive one. -/
theorem counts_exact {x : Binary64} (hx : x.significand ≠ 0) : x.exact.Counts := by
  have hunits : 0 < x.units :=
    Nat.mul_pos (Nat.pos_of_ne_zero hx) (Nat.pow_pos (by decide))
  have hfive : 0 < Nat.pow 5 1074 := by decide +kernel
  have hten : 0 < Nat.pow 10 1074 := by decide +kernel
  have hpower : Nat.pow 10 1074 = Nat.pow 5 1074 * unitsPerOne := by decide +kernel
  exact ⟨Nat.ne_of_gt (Nat.mul_pos hunits hfive), fun _ => lt_twice_units hten hpower hunits⟩

end Binary64

/-- Zeros at the end of a decimal say nothing. -/
theorem Scaled.Counts.stripZeros {d : Scaled} (h : d.Counts) : d.stripZeros.Counts := by
  fun_induction Scaled.stripZeros d with
  | case1 d hdigits ih =>
    obtain ⟨hzero, hten⟩ := hdigits
    refine ih ⟨?_, fun hneg => ?_⟩
    · show d.digits / 10 ≠ 0
      omega
    · have hneg : d.exponent + 1 < 0 := hneg
      have hexceeds := h.exceeds (by omega)
      show Nat.pow 10 (d.exponent + 1).natAbs < d.digits / 10 * (2 * unitsPerOne)
      have hpower : Nat.pow 10 d.exponent.natAbs = Nat.pow 10 (d.exponent + 1).natAbs * 10 := by
        rw [show d.exponent.natAbs = (d.exponent + 1).natAbs + 1 by omega]
        rfl
      generalize 2 * unitsPerOne = unit at hexceeds ⊢
      have hsplit : d.digits * unit = d.digits / 10 * unit * 10 := by
        rw [Nat.mul_right_comm, Nat.div_mul_cancel (Nat.dvd_of_mod_eq_zero hten)]
      omega
  | case2 d _ => exact h

/-- The shortest decimal of a number that is not zero does not round to zero. -/
theorem Binary64.shortest_counts {x : Binary64} (hx : x.significand ≠ 0) : x.shortest.Counts := by
  unfold Binary64.shortest
  extract_lets top
  clear_value top
  split
  · rename_i hfound
    obtain ⟨n, -, hgrid⟩ := List.exists_of_findSome?_eq_some hfound
    exact (Binary64.counts_of_onGrid? hx hgrid).stripZeros
  · exact (Binary64.counts_exact hx).stripZeros

/-! ### Texts of decimals -/

theorem allDigits_zeros (n : Nat) : AllDigits (zeros n) := by
  intro c hc
  rw [List.eq_of_mem_replicate hc]
  rfl

/-- An exponent begins with its letter. -/
theorem head_of_exponent? {tail : List Char} {e : Int} (h : exponent? tail = some e) :
    ∀ c ∈ tail.head?, c = 'e' ∨ c = 'E' := by
  intro c hc
  cases tail with
  | nil => cases hc
  | cons d rest =>
    cases hc
    by_cases hletter : c = 'e' ∨ c = 'E'
    · exact hletter
    · simp only [exponent?, hletter, if_false] at h
      cases h

/-- An exponent with its sign. -/
theorem exponent?_signed (leading : Int) :
    exponent? ('E' :: (if leading < 0 then '-' else '+') :: Nat.toDigits 10 leading.natAbs) =
      some leading := by
  have hspan : spanDigits (Nat.toDigits 10 leading.natAbs) =
      (Nat.toDigits 10 leading.natAbs, []) := by
    have h : spanDigits (Nat.toDigits 10 leading.natAbs ++ []) = (_, []) :=
      spanDigits_append (allDigits_toDigits leading.natAbs) (by simp)
    rwa [List.append_nil] at h
  have hvalue := ofDigits_toDigits leading.natAbs
  obtain ⟨c, digits, hdigits⟩ := List.exists_cons_of_ne_nil (toDigits_ne_nil leading.natAbs)
  rw [hdigits] at hspan hvalue ⊢
  by_cases hsign : leading < 0
  · simp only [exponent?, hsign, dropSign, hspan, hvalue, or_true, if_true]
    congr 1
    omega
  · simp only [exponent?, hsign, dropSign, hspan, hvalue, or_true, if_true, if_false,
      Bool.false_eq_true]
    congr 1
    omega

section Parts
variable {whole fraction tail : List Char} {e : Int} (hne : whole ≠ [])
  (hwhole : AllDigits whole) (htail : exponent? tail = some e)
include hne hwhole htail

/-- Digits without a point. -/
theorem finite?_whole :
    finite? (whole ++ tail) = some (.finite (ofDigits whole) e) := by
  have hletter := head_of_exponent? htail
  have hstop : ∀ c ∈ tail.head?, c.isDigit = false := fun c hc => by
    rcases hletter c hc with rfl | rfl <;> rfl
  have hspan := spanDigits_append hwhole hstop
  have hempty : whole.isEmpty = false := by
    simpa using hne
  simp only [finite?, hspan]
  split
  · rcases hletter _ rfl with h | h <;> cases h
  · simp only [hempty, htail, Bool.false_and, Bool.false_eq_true, if_false, Option.map_some,
      List.append_nil, List.length_nil, Int.natCast_zero, Int.sub_zero]

/-- Digits with a point before the last of them. -/
theorem finite?_point (hfraction : AllDigits fraction) :
    finite? (whole ++ '.' :: fraction ++ tail) =
      some (.finite (ofDigits (whole ++ fraction)) (e - fraction.length)) := by
  have hletter := head_of_exponent? htail
  have hspan : spanDigits (whole ++ '.' :: (fraction ++ tail)) = (whole, _) :=
    spanDigits_append hwhole fun c hc => by
      cases hc
      rfl
  have hpoint : spanDigits (fraction ++ tail) = (fraction, tail) :=
    spanDigits_append hfraction fun c hc => by
      rcases hletter c hc with rfl | rfl <;> rfl
  have hempty : whole.isEmpty = false := by
    simpa using hne
  rw [List.append_assoc, List.cons_append]
  simp only [finite?, hspan, hpoint, hempty, htail, Bool.false_and, Bool.false_eq_true, if_false,
    Option.map_some]

end Parts

/-! ### Layouts -/

open Text (upperList upperChar upperList_append upperList_cons)

theorem upperChar_of_isDigit {c : Char} (h : c.isDigit = true) : upperChar c = [c] := by
  have hall : ∀ n ≤ 57, 48 ≤ n → upperChar (Char.ofNat n) = [Char.ofNat n] := by decide
  obtain ⟨hlow, hhigh⟩ := Char.isDigit_iff_toNat.1 h
  simpa using hall c.toNat hhigh hlow

theorem AllDigits.upperList {cs : List Char} (h : AllDigits cs) : upperList cs = cs := by
  induction cs with
  | nil => rfl
  | cons c cs ih =>
    rw [upperList_cons, upperChar_of_isDigit (h c (List.mem_cons_self ..)),
      ih fun d hd => h d (List.mem_cons_of_mem _ hd), List.singleton_append]

theorem AllDigits.take {cs : List Char} (h : AllDigits cs) (n : Nat) : AllDigits (cs.take n) :=
  fun c hc => h c (List.mem_of_mem_take hc)

theorem AllDigits.drop {cs : List Char} (h : AllDigits cs) (n : Nat) : AllDigits (cs.drop n) :=
  fun c hc => h c (List.mem_of_mem_drop hc)

theorem upperList_point {whole fraction : List Char} (hwhole : AllDigits whole)
    (hfraction : AllDigits fraction) :
    upperList (whole ++ '.' :: fraction) = whole ++ '.' :: fraction := by
  have hpoint : upperChar '.' = ['.'] := by decide
  rw [upperList_append, upperList_cons, hwhole.upperList, hfraction.upperList, hpoint,
    List.singleton_append]

theorem ofDigits_toDigits_zeros (n k : Nat) :
    ofDigits (Nat.toDigits 10 n ++ zeros k) = Nat.pow 10 k * n := by
  show Nat.ofDigitChars 10 (Nat.toDigits 10 n ++ List.replicate k '0') 0 = _
  rw [Nat.ofDigitChars_append, Nat.ofDigitChars_ten_toDigits, Nat.ofDigitChars_replicate_zero]
  rfl

theorem ofDigits_zeros_append (k : Nat) (cs : List Char) :
    ofDigits (zeros k ++ cs) = ofDigits cs := by
  show Nat.ofDigitChars 10 (List.replicate k '0' ++ cs) 0 = Nat.ofDigitChars 10 cs 0
  rw [Nat.ofDigitChars_append, Nat.ofDigitChars_replicate_zero, Nat.mul_zero]

/-- Zeros at the end of a row of digits make up for places behind the point. -/
theorem counts_tenths {n : Nat} (h : n ≠ 0) (k : Nat) :
    Scaled.Counts ⟨Nat.pow 10 (k + 1) * n, -1⟩ := by
  have hpos : 0 < Nat.pow 10 (k + 1) := Nat.pow_pos (by decide)
  refine ⟨Nat.mul_ne_zero (Nat.ne_of_gt hpos) h, fun _ => ?_⟩
  show 10 < Nat.pow 10 (k + 1) * n * (2 * unitsPerOne)
  calc 10
      < 2 * unitsPerOne := unitsPerOne_bounds.1
    _ ≤ Nat.pow 10 (k + 1) * n * (2 * unitsPerOne) :=
      Nat.le_mul_of_pos_left _ (Nat.mul_pos hpos (Nat.pos_of_ne_zero h))

/-- A numeral that counts as more than zero. -/
def SaysPositive (cs : List Char) : Prop :=
  ∃ n, finite? cs = some n ∧ n.isZero = false

/-- Digits around a point say what the digits and their places say. -/
theorem saysPositive_point {whole fraction : List Char} {digits : Nat} {exponent : Int}
    (hwhole : AllDigits whole) (hfraction : AllDigits fraction) (hne : whole ≠ [])
    (hdigits : ofDigits (whole ++ fraction) = digits) (hexponent : -fraction.length = exponent)
    (hcounts : Scaled.Counts ⟨digits, exponent⟩) :
    SaysPositive (upperList (whole ++ '.' :: fraction)) := by
  have hend : exponent? [] = some 0 := rfl
  have hread := finite?_point hne hwhole hend hfraction
  rw [List.append_nil, hdigits, Int.zero_sub, hexponent] at hread
  rw [upperList_point hwhole hfraction]
  exact ⟨_, hread, (isZero_finite digits exponent).2 hcounts⟩

theorem saysPositive_positional {d : Scaled} (hd : d.Counts) {leading : Int}
    (hleading : leading = d.exponent + (Nat.toDigits 10 d.digits).length - 1) :
    SaysPositive (upperList (positional (Nat.toDigits 10 d.digits) leading)) := by
  have hdigits := allDigits_toDigits d.digits
  have hvalue : ofDigits (Nat.toDigits 10 d.digits) = d.digits := Nat.ofDigitChars_ten_toDigits
  have hpos := Nat.length_toDigits_pos (b := 10) (n := d.digits)
  unfold positional
  split
  · -- All digits stand behind the point, after zeros.
    have hzeros := allDigits_zeros (leading.natAbs - 1)
    show SaysPositive (upperList (['0'] ++ '.' :: (zeros (leading.natAbs - 1) ++ _)))
    refine saysPositive_point (allDigits_zeros 1) (hzeros.append hdigits) (List.cons_ne_nil _ _) ?_ ?_ hd
    · have hall := ofDigits_zeros_append (leading.natAbs - 1 + 1) (Nat.toDigits 10 d.digits)
      rw [hvalue] at hall
      exact hall
    · rw [List.length_append, zeros, List.length_replicate]
      omega
  split
  · -- All digits stand before the point, and zeros after them.
    generalize leading.toNat + 1 - (Nat.toDigits 10 d.digits).length = k
    show SaysPositive (upperList (_ ++ '.' :: ['0']))
    refine saysPositive_point (hdigits.append (allDigits_zeros k)) (allDigits_zeros 1) ?_ ?_ rfl (counts_tenths hd.digits k)
    · exact List.append_ne_nil_of_left_ne_nil (toDigits_ne_nil d.digits) _
    · have hzero : zeros k ++ ['0'] = zeros (k + 1) := List.replicate_succ'.symm
      rw [List.append_assoc, hzero, ofDigits_toDigits_zeros]
  · refine saysPositive_point (hdigits.take _) (hdigits.drop _) ?_ ?_ ?_ hd
    · rw [← List.length_pos_iff, List.length_take]
      omega
    · rw [List.take_append_drop, hvalue]
    · rw [List.length_drop]
      omega

theorem saysPositive_scientific {d : Scaled} (hd : d.Counts) {leading : Int}
    (hleading : leading = d.exponent + (Nat.toDigits 10 d.digits).length - 1) :
    SaysPositive (upperList (scientific (Nat.toDigits 10 d.digits) leading)) := by
  have hdigits := allDigits_toDigits d.digits
  have hvalue : ofDigits (Nat.toDigits 10 d.digits) = d.digits := Nat.ofDigitChars_ten_toDigits
  have hpos := Nat.length_toDigits_pos (b := 10) (n := d.digits)
  have hne : (Nat.toDigits 10 d.digits).take 1 ≠ [] := by
    rw [← List.length_pos_iff, List.length_take]
    omega
  have htail : upperList
      ('e' :: (if leading < 0 then '-' else '+') :: Nat.toDigits 10 leading.natAbs) =
      'E' :: (if leading < 0 then '-' else '+') :: Nat.toDigits 10 leading.natAbs := by
    have hsign : upperChar (if leading < 0 then '-' else '+') =
        [if leading < 0 then '-' else '+'] := by
      split <;> decide
    rw [upperList_cons, upperList_cons, hsign, (allDigits_toDigits _).upperList]
    rfl
  have hsigned := exponent?_signed leading
  unfold scientific
  rw [upperList_append, htail]
  split
  · rename_i hone
    rw [List.append_nil, (hdigits.take 1).upperList, List.take_of_length_le hone] at *
    have hread := finite?_whole (toDigits_ne_nil d.digits) hdigits hsigned
    rw [hvalue] at hread
    have hexponent : leading = d.exponent := by omega
    rw [hexponent] at hread ⊢
    exact ⟨_, hread, (isZero_finite _ _).2 hd⟩
  · have hread := finite?_point hne (hdigits.take 1) hsigned (hdigits.drop 1)
    rw [List.take_append_drop, hvalue, List.length_drop] at hread
    rw [upperList_point (hdigits.take 1) (hdigits.drop 1)]
    have hexponent : leading - ((Nat.toDigits 10 d.digits).length - 1 : Nat) = d.exponent := by
      omega
    rw [hexponent] at hread
    exact ⟨_, hread, (isZero_finite _ _).2 hd⟩

theorem saysPositive_magnitude (layout : Layout) {d : Scaled} (hd : d.Counts) :
    SaysPositive (upperList (layout.magnitude d)) := by
  unfold Layout.magnitude
  simp only
  split
  · exact saysPositive_positional hd rfl
  · exact saysPositive_scientific hd rfl

theorem numeral?_of_finite? {cs : List Char} {n : Numeral} (h : finite? cs = some n) :
    numeral? cs = some n ∧ numeral? ('-' :: cs) = some n := by
  have hsign : (dropSign cs).2 = cs := by
    unfold dropSign
    split
    · cases h
    · cases h
    · rfl
  have hminus : (dropSign ('-' :: cs)).2 = cs := rfl
  refine ⟨?_, ?_⟩
  · simp only [numeral?, hsign, h]
  · simp only [numeral?, hminus, h]

/-- The text of a number reads as zero exactly where the number is zero, in capital
letters as well. -/
theorem isZero_numeral?_text (layout : Layout) (x : Binary64) :
    (numeral? (upperList (layout.text x))).map Numeral.isZero = some x.isZero := by
  have hminus (cs : List Char) : upperList ('-' :: cs) = '-' :: upperList cs := rfl
  by_cases hzero : x.isZero = true
  · have htext : layout.text x = if x.negative then ['-', '0', '.', '0'] else ['0', '.', '0'] := by
      simp only [Layout.text, hzero, if_true]
    rw [htext, hzero]
    cases x.negative <;> decide
  · have hx : x.significand ≠ 0 := by
      simpa [Binary64.isZero] using hzero
    have htext : layout.text x =
        if x.negative then '-' :: layout.magnitude x.shortest else layout.magnitude x.shortest := by
      simp only [Layout.text, hzero, if_false, Bool.false_eq_true]
    obtain ⟨n, hread, hn⟩ := saysPositive_magnitude layout (Binary64.shortest_counts hx)
    obtain ⟨hplain, hsigned⟩ := numeral?_of_finite? hread
    rw [htext, Bool.eq_false_iff.2 hzero]
    split
    · rw [hminus, hsigned, Option.map_some, hn]
    · rw [hplain, Option.map_some, hn]

end BuildConductor.Decimal
