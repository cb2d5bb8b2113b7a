import TradingLatency.Lib.JavaText
import Mathlib.Data.Rat.Cast.Defs
import Mathlib.Tactic.FieldSimp

/-!
# Formatting quantities (`StringMath.java`)

`QtyToString` multiplies a quantity by `10^SCALE`, rounds it, and puts a point into
the digits of the result: between them when there are more than `SCALE`, and
otherwise in front, with zeros to fill up. `doubleToLong` reads the text back
without its point.

The model begins at the rounded value `qty_l`. `none` is an exception.
-/

namespace TradingLatency.StringMath

open CText JavaText

/-! ## Model -/

/-- `QtyToString`, from `qty_l = Math.round(qty * QTY_MULTIPLIER)` on. -/
def qtyToString (qtyL : Int64) (scale : Int32) : Option Text := do
  let qtyNew := longToString qtyL
  let len := Int32.ofNat qtyNew.length
  if scale < len then
    let out ← newCharArray (len + 1)
    let loc := len - scale
    let out ← arraycopy qtyNew 0 out 0 loc
    let out ← store out loc '.'
    arraycopy qtyNew loc out (loc + 1) (len - loc)
  else
    let out ← newCharArray (scale + 2)
    let out ← store out 0 '0'
    let out ← store out 1 '.'
    let loc := scale - len
    let out ← (if 0 < loc then fill out 2 (loc + 2) '0' else some out)
    arraycopy qtyNew 0 out (loc + 2) len

/-- `doubleToLong`. -/
def doubleToLong (table : DigitTable) (input : Text) : Option Int64 :=
  parseLong table (input.filter (· ≠ '.'))

/-! ## The text -/

/-- More digits than decimal places: the point goes between them. -/
theorem qtyToString_between {n : Int64} {scale : Int32} {whole fraction : Text}
    (hdigits : longToString n = whole ++ fraction) (hwhole : whole ≠ [])
    (hscale : scale.toInt = fraction.length) (hlen : (whole ++ fraction).length < 2 ^ 30) :
    qtyToString n scale = some (whole ++ '.' :: fraction) := by
  have hpos : 0 < whole.length := List.length_pos_iff.mpr hwhole
  rw [List.length_append] at hlen
  have hlenInt : (Int32.ofNat (whole ++ fraction).length).toInt =
      whole.length + fraction.length := by
    rw [Int32.toInt_ofNat_of_lt (by simp; omega), List.length_append, Int.natCast_add]
  have hone : (1 : Int32).toInt = 1 := rfl
  have hzero : (0 : Int32).toInt = 0 := rfl
  unfold qtyToString
  simp only [hdigits]
  generalize Int32.ofNat (whole ++ fraction).length = len at hlenInt ⊢
  have hbranch : scale < len := by
    rw [Int32.lt_iff_toInt_lt]
    omega
  have hloc : (len - scale).toInt = whole.length := by
    rw [toInt_sub_of_range] <;> omega
  have hnew : newCharArray (len + 1) =
      some ([] ++ List.replicate whole.length nul ++ nul :: List.replicate fraction.length nul) := by
    rw [newCharArray_length (k := whole.length + 1 + fraction.length)]
    · simp [List.replicate_add]
    · rw [toInt_add_of_range] <;> omega
  rw [if_pos hbranch, hnew]
  -- the digits before the point, the point, and the digits behind it
  have hfront : arraycopy (whole ++ fraction) 0
      ([] ++ List.replicate whole.length nul ++ nul :: List.replicate fraction.length nul) 0
      (len - scale) = some (whole ++ nul :: List.replicate fraction.length nul) :=
    arraycopy_part (p := []) hzero hzero hloc (by simpa using hloc)
  have hback : arraycopy (whole ++ fraction) (len - scale)
      (whole ++ '.' :: List.replicate fraction.length nul) (len - scale + 1)
      (len - (len - scale)) = some (whole ++ '.' :: fraction) := by
    have hrest : (len - (len - scale)).toInt = fraction.length := by
      rw [toInt_sub_of_range] <;> omega
    have hbehind : (len - scale + 1).toInt = (whole ++ ['.']).length := by
      rw [toInt_add_of_range (by omega) (by omega), hloc, hone, List.length_append]
      rfl
    have h := arraycopy_part (q := []) (b := List.replicate fraction.length nul) (d := [])
      hloc hbehind hrest (by simpa using hrest)
    simpa using h
  simp only [Option.bind_eq_bind, Option.bind_some, hfront, store_part '.' hloc, hback]

/-- The zeros between the point and `m` digits, if there are any. -/
theorem fill_zeros {k m : Nat} {loc dest : Int32} (hloc : loc.toInt = k)
    (hdest : dest.toInt = 2 + k) :
    (if 0 < loc then
      fill ('0' :: '.' :: (List.replicate k nul ++ List.replicate m nul)) 2 dest '0'
      else some ('0' :: '.' :: (List.replicate k nul ++ List.replicate m nul))) =
      some ('0' :: '.' :: (List.replicate k '0' ++ List.replicate m nul)) := by
  have htwo : (2 : Int32).toInt = 2 := rfl
  have hzero : (0 : Int32).toInt = 0 := rfl
  split
  · have h := fill_part (a := ['0', '.']) (b := List.replicate k nul)
      (d := List.replicate m nul) '0' htwo (by simpa using hdest)
    rwa [List.length_replicate] at h
  · -- no zero is missing
    rename_i hnot
    have hk : k = 0 := by
      rw [Int32.lt_iff_toInt_lt] at hnot
      omega
    rw [hk]
    rfl

/-- At most as many digits as decimal places: a zero, the point, and zeros before
the digits. -/
theorem qtyToString_front {n : Int64} {scale : Int32} {k : Nat}
    (hscale : scale.toInt = k + (longToString n).length) (hmax : scale.toInt ≤ 2147483645) :
    qtyToString n scale = some ('0' :: '.' :: List.replicate k '0' ++ longToString n) := by
  have hlenInt : (Int32.ofNat (longToString n).length).toInt = (longToString n).length :=
    Int32.toInt_ofNat_of_lt (by omega)
  have htwo : (2 : Int32).toInt = 2 := rfl
  have hzero : (0 : Int32).toInt = 0 := rfl
  unfold qtyToString
  -- the digits and their number are all that matters of `n`
  generalize longToString n = digits at hscale hlenInt ⊢
  simp only []
  generalize Int32.ofNat digits.length = len at hlenInt ⊢
  have hbranch : ¬ scale < len := by
    rw [Int32.lt_iff_toInt_lt]
    omega
  have hloc : (scale - len).toInt = k := by
    rw [toInt_sub_of_range] <;> omega
  have hdest : (scale - len + 2).toInt = 2 + k := by
    rw [toInt_add_of_range] <;> omega
  -- the array is filled from the front: `0.`, the zeros, the digits
  have hnew : newCharArray (scale + 2) =
      some (nul :: nul :: (List.replicate k nul ++ List.replicate digits.length nul)) := by
    rw [newCharArray_length (k := k + digits.length + 2), ← List.replicate_add]
    · rfl
    · rw [toInt_add_of_range] <;> omega
  rw [if_neg hbranch, hnew]
  generalize scale - len + 2 = dest at hdest ⊢
  have hpoint : store (nul :: nul :: (List.replicate k nul ++ List.replicate digits.length nul)) 0
      '0' = some ('0' :: nul :: (List.replicate k nul ++ List.replicate digits.length nul)) ∧
      store ('0' :: nul :: (List.replicate k nul ++ List.replicate digits.length nul)) 1
      '.' = some ('0' :: '.' :: (List.replicate k nul ++ List.replicate digits.length nul)) :=
    ⟨store_part (a := []) '0' rfl, store_part (a := ['0']) '.' rfl⟩
  have hfill := fill_zeros (m := digits.length) hloc hdest
  have hback : arraycopy digits 0
      ('0' :: '.' :: (List.replicate k '0' ++ List.replicate digits.length nul)) dest len =
      some ('0' :: '.' :: List.replicate k '0' ++ digits) := by
    have hdest' : dest.toInt = (['0', '.'] ++ List.replicate k '0').length := by
      simp
      omega
    have h := arraycopy_part (p := []) (q := []) (b := List.replicate digits.length nul) (d := [])
      hzero hdest' hlenInt (by simpa using hlenInt)
    simpa using h
  simp only [Option.bind_eq_bind, Option.bind_some, hpoint.1, hpoint.2, hfill, hback]

/-! ## The number -/

/-- The number that the text `whole.fraction` denotes. -/
def decimalNumber (whole fraction : Text) : ℚ :=
  decimalValue whole + decimalValue fraction / 10 ^ fraction.length

theorem decimalNumber_eq (whole fraction : Text) :
    decimalNumber whole fraction = decimalValue (whole ++ fraction) / 10 ^ fraction.length := by
  have hpow : (10 : ℚ) ^ fraction.length ≠ 0 := pow_ne_zero _ (by norm_num)
  rw [decimalNumber, decimalValue_append]
  push_cast
  field_simp

/-- The parts of a formatted value: `places` digits behind the point, at least one
before it, no zero in front of another digit, and together the digits of the value. -/
structure IsFormat (value places : Int) (whole fraction : Text) : Prop where
  whole_isDecimal : IsDecimal whole
  fraction_isDecimal : IsDecimal fraction
  length_fraction : fraction.length = places
  no_leading_zero : whole.head? = some '0' → whole = ['0']
  value_eq : decimalValue (whole ++ fraction) = value

section Parts

variable {n : Int64} {scale : Int32}

theorem decimalValue_longToString (hn : 0 ≤ n.toInt) :
    (decimalValue (longToString n) : Int) = n.toInt := by
  rw [longToString_nonneg hn, decimalValue_dec]
  omega

theorem isDecimal_longToString (hn : 0 ≤ n.toInt) : IsDecimal (longToString n) := by
  rw [longToString_nonneg hn]
  exact isDecimal_dec _

theorem length_longToString_le (hn : 0 ≤ n.toInt) : (longToString n).length ≤ 19 := by
  have hlt := n.toInt_lt
  rw [longToString_nonneg hn]
  exact length_dec_le (by decide) (by omega)

/-- The last `SCALE` digits stand behind the point, and the first digit before it
is the first digit of the number. -/
theorem isFormat_between {whole fraction : Text} (hn : 0 ≤ n.toInt) (hscale : 1 ≤ scale.toInt)
    (hsplit : longToString n = whole ++ fraction) (hwhole : whole ≠ [])
    (hlen : fraction.length = scale.toInt) : IsFormat n.toInt scale.toInt whole fraction := by
  have hdec := isDecimal_longToString hn
  rw [hsplit] at hdec
  have hfraction : fraction ≠ [] := by
    intro hnil
    rw [hnil, List.length_nil] at hlen
    omega
  refine ⟨⟨hwhole, fun c hc => hdec.2 c (by simp [hc])⟩,
    ⟨hfraction, fun c hc => hdec.2 c (by simp [hc])⟩, hlen, ?_, ?_⟩
  · intro hhead
    -- a zero in front is the only digit, and then nothing is left behind the point
    have hzero : longToString n = ['0'] := by
      rw [longToString_nonneg hn]
      apply dec_of_head_zero
      rw [← longToString_nonneg hn, hsplit, List.head?_append_of_ne_nil _ hwhole, hhead]
    have hlength := congrArg List.length (hsplit.symm.trans hzero)
    have hpos := List.length_pos_iff.mpr hwhole
    simp only [List.length_append, List.length_singleton] at hlength
    omega
  · rw [← hsplit, decimalValue_longToString hn]

/-- Zeros fill the places that the digits of the number leave. -/
theorem isFormat_front {k : Nat} (hn : 0 ≤ n.toInt)
    (hscale : scale.toInt = k + (longToString n).length) :
    IsFormat n.toInt scale.toInt ['0'] (List.replicate k '0' ++ longToString n) := by
  have hdec := isDecimal_longToString hn
  refine ⟨⟨by simp, forall_of_all rfl⟩, ⟨by simp [hdec.1], ?_⟩, ?_, fun _ => rfl, ?_⟩
  · intro c hc
    rcases List.mem_append.mp hc with hc | hc
    · rw [List.eq_of_mem_replicate hc]
      rfl
    · exact hdec.2 c hc
  · rw [List.length_append, List.length_replicate]
    omega
  · have hzeros : ['0'] ++ (List.replicate k '0' ++ longToString n) =
        List.replicate (k + 1) '0' ++ longToString n := rfl
    rw [hzeros, decimalValue_append, decimalValue_replicate_zero, Nat.zero_mul, Nat.zero_add,
      decimalValue_longToString hn]

/-- Up to the largest array, a text is returned, and it has the format. -/
theorem qtyToString_format (hn : 0 ≤ n.toInt) (hscale : 1 ≤ scale.toInt)
    (hmax : scale.toInt ≤ 2147483645) :
    ∃ whole fraction, qtyToString n scale = some (whole ++ '.' :: fraction) ∧
      IsFormat n.toInt scale.toInt whole fraction := by
  have hlen := length_longToString_le hn
  -- more digits than places, or zeros in front
  rcases Int.lt_or_le scale.toInt (longToString n).length with hmore | hfew
  · obtain ⟨whole, fraction, hsplit, hfraction⟩ : ∃ whole fraction,
        longToString n = whole ++ fraction ∧ (fraction.length : Int) = scale.toInt :=
      ⟨_, _, (List.take_append_drop ((longToString n).length - scale.toInt.toNat) _).symm,
        by rw [List.length_drop]; omega⟩
    have hwhole : whole ≠ [] := by
      intro hnil
      rw [hsplit, hnil, List.nil_append] at hmore
      omega
    exact ⟨whole, fraction, qtyToString_between hsplit hwhole hfraction.symm
      (by rw [← hsplit]; omega), isFormat_between hn hscale hsplit hwhole hfraction⟩
  · obtain ⟨k, hk⟩ : ∃ k : Nat, scale.toInt = k + (longToString n).length :=
      ⟨(scale.toInt - (longToString n).length).toNat, by omega⟩
    exact ⟨['0'], _, qtyToString_front hk hmax, isFormat_front hn hk⟩

end Parts

/-- Reading the text back: without its point it is the digits of the value. -/
theorem doubleToLong_format (table : DigitTable) {n : Int64} {places : Int}
    {whole fraction : Text} (h : IsFormat n.toInt places whole fraction) :
    doubleToLong table (whole ++ '.' :: fraction) = some n := by
  -- only the point falls out of the text
  have hkeep : ∀ {s : Text}, IsDecimal s → s.filter (· ≠ '.') = s := by
    intro s hs
    rw [List.filter_eq_self]
    intro c hc
    simpa using fun hdot : c = '.' => not_mem_of_isDecimal hs rfl (hdot ▸ hc)
  have hjoin : (whole ++ '.' :: fraction).filter (· ≠ '.') = whole ++ fraction := by
    rw [List.filter_append, hkeep h.whole_isDecimal, List.filter_cons_of_neg (by simp),
      hkeep h.fraction_isDecimal]
  have hdec : IsDecimal (whole ++ fraction) := by
    refine ⟨by simp [h.whole_isDecimal.1], ?_⟩
    intro c hc
    rcases List.mem_append.mp hc with hc | hc
    · exact h.whole_isDecimal.2 c hc
    · exact h.fraction_isDecimal.2 c hc
  have hvalue := h.value_eq
  have hlt := n.toInt_lt
  rw [doubleToLong, hjoin, parseLong_decimal table hdec (by omega), hvalue, Int64.ofInt_toInt]

/-- For every `SCALE` from one up to the largest for which the array of `SCALE + 2`
characters exists, and every non-negative value: the text has at least one digit
before the point and `SCALE` behind it, no superfluous zero in front, denotes the
value divided by `10^SCALE`, and is read back as the value. -/
theorem qtyToString_decimal (table : DigitTable) (n : Int64) (scale : Int32) (hn : 0 ≤ n.toInt)
    (hscale : 1 ≤ scale.toInt) (hmax : scale.toInt ≤ 2147483645) :
    ∃ whole fraction, qtyToString n scale = some (whole ++ '.' :: fraction) ∧
      IsDecimal whole ∧ IsDecimal fraction ∧ fraction.length = scale.toInt ∧
      (whole.head? = some '0' → whole = ['0']) ∧
      decimalNumber whole fraction = n.toInt / 10 ^ scale.toInt.toNat ∧
      doubleToLong table (whole ++ '.' :: fraction) = some n := by
  rcases qtyToString_format hn hscale hmax with ⟨whole, fraction, htext, hformat⟩
  refine ⟨whole, fraction, htext, hformat.whole_isDecimal, hformat.fraction_isDecimal,
    hformat.length_fraction, hformat.no_leading_zero, ?_, doubleToLong_format table hformat⟩
  have hplaces : scale.toInt.toNat = fraction.length := by
    have hlen := hformat.length_fraction
    omega
  rw [decimalNumber_eq, hplaces, ← hformat.value_eq]
  push_cast
  rfl

/-- The value `12` with four decimal places: zeros are filled in. -/
theorem qtyToString_decimal_leading_zeros :
    ∃ whole fraction, qtyToString 12 4 = some (whole ++ '.' :: fraction) ∧
      IsDecimal whole ∧ IsDecimal fraction ∧ fraction.length = (4 : Int32).toInt ∧
      (whole.head? = some '0' → whole = ['0']) ∧
      decimalNumber whole fraction = (12 : Int64).toInt / 10 ^ (4 : Int32).toInt.toNat ∧
      doubleToLong .ascii (whole ++ '.' :: fraction) = some 12 :=
  qtyToString_decimal .ascii 12 4 (by decide) (by decide) (by decide)

/-- With `SCALE = 2147483646` the length `SCALE + 2` of the array is negative, and
there is no text. -/
theorem qtyToString_scale_overflow :
    1 ≤ (2147483646 : Int32).toInt ∧ 0 ≤ (0 : Int64).toInt ∧
      ¬ ∃ text, qtyToString 0 2147483646 = some text := by
  refine ⟨by decide, by decide, ?_⟩
  rintro ⟨text, h⟩
  exact absurd (h.symm.trans (show qtyToString 0 2147483646 = none by decide)) (by simp)

end TradingLatency.StringMath
