import TradingLatency.Csv.Join

/-!
# What the join program reads from a well-formed line

One lemma per reading function: `parseCsvLine` on a line of plain fields,
`extractSequenceNumber` and `validateRecordMatch` on its decimal fields,
`parseTimestampNs` on a decimal timestamp, and `readLines` on a text of short
lines.
-/

namespace TradingLatency.Csvjoin

open CText

/-! ## Splitting a line -/

/-- A field with no white space at its ends. -/
def Unpadded (f : Text) : Prop :=
  (∀ c ∈ f.head?, isspace c = false) ∧ (∀ c ∈ f.getLast?, isspace c = false)

/-- A field that `parse_csv_line` hands on unchanged: neither separator nor
quote, and no white space at its ends. -/
def PlainField (f : Text) : Prop := ',' ∉ f ∧ '"' ∉ f ∧ Unpadded f

theorem trimWhitespace_unpadded {f : Text} (h : Unpadded f) : trimWhitespace f = f := by
  rcases h with ⟨hhead, hlast⟩
  have hfront : f.dropWhile isspace = f := by
    cases f with
    | nil => rfl
    | cons c f => simp [hhead c (by simp)]
  rw [trimWhitespace, hfront, List.rdropWhile_eq_self_iff]
  intro hne
  have hmem : f.getLast hne ∈ f.getLast? := by simp [List.getLast?_eq_some_getLast hne]
  simp [hlast _ hmem]

theorem unpadded_of_forall {f : Text} (h : ∀ c ∈ f, isspace c = false) : Unpadded f := by
  constructor
  · intro c hc
    exact h c (List.mem_of_mem_head? hc)
  · intro c hc
    exact h c (List.mem_of_mem_getLast? hc)

/-- Characters that are neither separator nor quote only extend the field. -/
theorem parseCsvLoop_scan (maxFields : Nat) (f rest : Text) (done : List Text) (acc : Text)
    (prev : Option Char) (hcomma : ',' ∉ f) (hquote : '"' ∉ f) (hlen : done.length < maxFields) :
    ∃ prev', parseCsvLoop maxFields (f ++ rest) done acc false prev =
      parseCsvLoop maxFields rest done (acc ++ f) false prev' := by
  induction f generalizing acc prev with
  | nil => exact ⟨prev, by simp⟩
  | cons c f ih =>
    -- no character of the field is special outside quotes
    have hc : c ≠ ',' := fun h => hcomma (by simp [h])
    have hq : c ≠ '"' := fun h => hquote (by simp [h])
    rcases ih (acc ++ [c]) (some c) (fun h => hcomma (List.mem_cons_of_mem _ h))
      (fun h => hquote (List.mem_cons_of_mem _ h)) with ⟨prev', hp⟩
    refine ⟨prev', ?_⟩
    simp only [List.cons_append, parseCsvLoop, hlen, hc, hq, if_true, if_false, false_and]
    rw [hp, List.append_assoc]
    rfl

theorem parseCsvLoop_fields (maxFields : Nat) (f : Text) (fs done : List Text)
    (prev : Option Char) (hplain : ∀ g ∈ f :: fs, PlainField g)
    (hlen : done.length + (f :: fs).length ≤ maxFields) :
    parseCsvLoop maxFields ([','].intercalate (f :: fs)) done [] false prev = done ++ f :: fs := by
  induction fs generalizing f done prev with
  | nil =>
    have hf := hplain f (by simp)
    have hroom : done.length < maxFields := by simp at hlen; omega
    rcases parseCsvLoop_scan maxFields f [] done [] prev hf.1 hf.2.1 hroom with ⟨prev', hp⟩
    rw [List.append_nil] at hp
    simp [List.intercalate, hp, parseCsvLoop, hroom, trimWhitespace_unpadded hf.2.2]
  | cons g fs ih =>
    have hf := hplain f (by simp)
    have hroom : done.length < maxFields := by simp at hlen; omega
    rcases parseCsvLoop_scan maxFields f (',' :: [','].intercalate (g :: fs)) done [] prev
      hf.1 hf.2.1 hroom with ⟨prev', hp⟩
    have hsplit : [','].intercalate (f :: g :: fs) = f ++ ',' :: [','].intercalate (g :: fs) := by
      simp [List.intercalate_cons_cons]
    -- the separator closes the field, and the induction goes on behind it
    rw [hsplit, hp, List.nil_append, parseCsvLoop, if_pos hroom, if_neg (by simp), if_pos (by simp),
      trimWhitespace_unpadded hf.2.2,
      ih g (done ++ [f]) (some nul) (fun x hx => hplain x (List.mem_cons_of_mem _ hx))
        (by simp at hlen ⊢; omega)]
    simp

/-- A line of plain fields is split into exactly these fields. -/
theorem parseCsvLine_intercalate {fs : List Text} {maxFields : Nat} (hne : fs ≠ [])
    (hplain : ∀ f ∈ fs, PlainField f) (hlen : fs.length ≤ maxFields) :
    parseCsvLine ([','].intercalate fs) maxFields = fs := by
  cases fs with
  | nil => exact absurd rfl hne
  | cons f fs =>
    have h := parseCsvLoop_fields maxFields f fs [] none hplain (by simpa using hlen)
    simpa [parseCsvLine] using h

theorem plainField_of_isDecimal {f : Text} (h : IsDecimal f) : PlainField f :=
  ⟨not_mem_of_isDecimal h (by decide), not_mem_of_isDecimal h (by decide),
    unpadded_of_forall fun c hc => isspace_of_isDigit (h.2 c hc)⟩

/-! ## Reading the fields -/

theorem validateRecordMatch_decimal {ip port seq : Text} {fs : List Text} {targetIp : Text}
    {targetPort : UInt16} (hport : IsDecimal port) (hle : decimalValue port ≤ 65535) :
    validateRecordMatch (ip :: port :: seq :: fs) targetIp targetPort =
      (decide (ip = targetIp) && decide (decimalValue port = targetPort.toNat)) := by
  have hlt : decimalValue port < 2 ^ 31 := by omega
  -- the port fits, so the conversion to 16 bits loses nothing
  have hiff : UInt16.ofInt (decimalValue port : Int) = targetPort ↔
      decimalValue port = targetPort.toNat := by
    have hto : (UInt16.ofInt (decimalValue port : Int)).toNat = decimalValue port := by
      rw [uint16_ofInt_natCast, UInt16.toNat_ofNat']
      omega
    constructor
    · intro h
      rw [← h, hto]
    · intro h
      exact UInt16.toNat_inj.mp (hto.trans h)
  simp only [validateRecordMatch, atoi_decimal port hport hlt, hiff]

theorem extractSequenceNumber_decimal {ip port seq : Text} {fs : List Text}
    (hseq : IsDecimal seq) (hle : decimalValue seq ≤ 4294967295) :
    extractSequenceNumber (ip :: port :: seq :: fs) = some (UInt32.ofNat (decimalValue seq)) := by
  have hlt : decimalValue seq < 2 ^ 63 := by omega
  simp only [extractSequenceNumber, strtol_decimal_end seq hseq, clampLong_natCast hlt]
  rw [if_neg (by simp; omega), uint32_ofInt_natCast]

theorem fractionDigits_of_length {f : Text} (h : f.length = 9) : fractionDigits f = f := by
  have htake : f.take 15 = f := List.take_of_length_le (by omega)
  simp [fractionDigits, htake, h]

/-- The timestamp `s.f` of two decimal texts: seconds and the nine digits that
the parser takes from the fraction. -/
theorem parseTimestampNs_decimal {s f : Text} (hs : IsDecimal s) (hv : decimalValue s < 2 ^ 63)
    (hf : IsDecimal (fractionDigits f)) (hfv : decimalValue (fractionDigits f) < 2 ^ 63) :
    parseTimestampNs (s ++ '.' :: f) =
      UInt64.ofNat (decimalValue s * 1000000000 + decimalValue (fractionDigits f)) := by
  -- the text has a point, so it is not `NULL`
  have hnull : s ++ '.' :: f ≠ "NULL".toList := by
    intro h
    have hdot : '.' ∈ "NULL".toList := by
      rw [← h]
      simp
    exact absurd hdot (by decide)
  have hsec : atoll (s ++ '.' :: f) = decimalValue s :=
    atoll_decimal s _ hs (by simp) hv
  have hdrop : (s ++ '.' :: f).dropWhile (· ≠ '.') = '.' :: f := by
    apply dropWhile_append_stop
    · intro c hc
      simpa using fun h : c = '.' => not_mem_of_isDecimal hs (by decide) (h ▸ hc)
    · simp
  have hfrac : atoll (fractionDigits f) = decimalValue (fractionDigits f) := by
    have h := atoll_decimal (fractionDigits f) [] hf (by simp) hfv
    rwa [List.append_nil] at h
  simp only [parseTimestampNs, hnull, if_false, hsec, hdrop, hfrac, uint64_ofInt_natCast]
  simp [UInt64.ofNat_add, UInt64.ofNat_mul]

/-! ## The number a timestamp denotes -/

/-- The nanoseconds that the digits `f` behind a decimal point denote, rounded
down: the integral part of `0.f * 10^9`. -/
def fractionNs (f : Text) : Nat := decimalValue f * 10 ^ 9 / 10 ^ f.length

theorem isDecimal_fractionDigits {f : Text} (hf : ∀ c ∈ f, c.isDigit) :
    IsDecimal (fractionDigits f) := by
  have hlen : (fractionDigits f).length = 9 := by
    simp only [fractionDigits, List.length_append, List.length_replicate]
    split <;> simp only [List.length_take] at * <;> omega
  refine ⟨List.ne_nil_of_length_eq_add_one hlen, ?_⟩
  intro c hc
  -- digits of the text in front, zeros behind
  rcases List.mem_append.mp hc with h | h
  · have hmem : c ∈ f.take 15 := by
      split at h
      · exact List.mem_of_mem_take h
      · exact h
    exact hf c (List.mem_of_mem_take hmem)
  · rw [List.eq_of_mem_replicate h]
    rfl

/-- The scratch buffer holds the digits of the rounded fraction. A fraction of
up to nine digits is filled up with zeros, of a longer one the first nine digits
stay: the copy of fifteen characters in between cuts off none of them. -/
theorem decimalValue_fractionDigits {f : Text} (hf : ∀ c ∈ f, c.isDigit) :
    decimalValue (fractionDigits f) = fractionNs f := by
  -- beyond nine digits the fraction is cut, below it is filled up
  rcases Nat.lt_or_ge 9 f.length with hlong | hshort
  · have hcut : fractionDigits f = f.take 9 := by
      have h15 : (f.take 15).length > 9 := by simp only [List.length_take]; omega
      have h9 : (f.take 9).length = 9 := by simp only [List.length_take]; omega
      have htake : (f.take 15).take 9 = f.take 9 := by rw [List.take_take]; rfl
      simp only [fractionDigits, if_pos h15, htake, h9, Nat.sub_self, List.replicate_zero,
        List.append_nil]
    have hval : decimalValue f = decimalValue (f.take 9) * 10 ^ (f.length - 9) +
        decimalValue (f.drop 9) := by
      rw [← List.length_drop, ← decimalValue_append, List.take_append_drop]
    have hrest : decimalValue (f.drop 9) < 10 ^ (f.length - 9) := by
      rw [← List.length_drop]
      exact decimalValue_lt fun c hc => hf c (List.mem_of_mem_drop hc)
    have hpow : 10 ^ f.length = 10 ^ (f.length - 9) * 10 ^ 9 := by
      rw [← Nat.pow_add, Nat.sub_add_cancel (Nat.le_of_lt hlong)]
    rw [hcut, fractionNs, hpow, Nat.mul_div_mul_right _ _ (by decide), hval, Nat.mul_comm,
      Nat.mul_add_div (Nat.pow_pos (by decide)), Nat.div_eq_of_lt hrest, Nat.add_zero]
  · have hfill : fractionDigits f = f ++ List.replicate (9 - f.length) '0' := by
      have h15 : f.take 15 = f := List.take_of_length_le (by omega)
      have h9 : ¬ f.length > 9 := by omega
      simp [fractionDigits, h15, h9]
    have hpow : 10 ^ 9 = 10 ^ (9 - f.length) * 10 ^ f.length := by
      rw [← Nat.pow_add, Nat.sub_add_cancel hshort]
    rw [hfill, decimalValue_append, decimalValue_replicate_zero, List.length_replicate, fractionNs,
      hpow, ← Nat.mul_assoc, Nat.mul_div_cancel _ (Nat.pow_pos (by decide)), Nat.add_zero]

/-- A fraction is less than a second. -/
theorem fractionNs_lt {f : Text} (hf : ∀ c ∈ f, c.isDigit) : fractionNs f < 10 ^ 9 := by
  rw [fractionNs, Nat.div_lt_iff_lt_mul (Nat.pow_pos (by decide)), Nat.mul_comm]
  exact Nat.mul_lt_mul_of_pos_left (decimalValue_lt hf) (by decide)

theorem parseTimestampNs_fraction {s f : Text} (hs : IsDecimal s) (hv : decimalValue s < 2 ^ 63)
    (hf : ∀ c ∈ f, c.isDigit) :
    parseTimestampNs (s ++ '.' :: f) =
      UInt64.ofNat (decimalValue s * 10 ^ 9 + fractionNs f) := by
  have hval := decimalValue_fractionDigits hf
  have hlt := fractionNs_lt hf
  rw [parseTimestampNs_decimal hs hv (isDecimal_fractionDigits hf) (by omega), hval]
  rfl

theorem parseTimestampNs_seconds {s : Text} (hs : IsDecimal s) (hv : decimalValue s < 2 ^ 63) :
    parseTimestampNs s = UInt64.ofNat (decimalValue s * 10 ^ 9) := by
  have hnull : s ≠ "NULL".toList := by
    rintro rfl
    exact not_mem_of_isDecimal hs (c := 'N') rfl (by decide)
  have hsec : atoll s = decimalValue s := by
    have h := atoll_decimal s [] hs (by simp) hv
    rwa [List.append_nil] at h
  have hdrop : s.dropWhile (· ≠ '.') = [] := by
    rw [List.dropWhile_eq_nil_iff]
    intro c hc
    simpa using fun h : c = '.' => not_mem_of_isDecimal hs rfl (h ▸ hc)
  simp only [parseTimestampNs, hnull, if_false, hsec, hdrop, uint64_ofInt_natCast]
  simp [UInt64.ofNat_mul]

/-- A decimal timestamp: seconds, and the digits behind the point where there
is one. -/
structure DecimalTimestamp where
  seconds : Text
  fraction : Option Text
  seconds_isDecimal : IsDecimal seconds
  seconds_lt : decimalValue seconds < 2 ^ 63
  fraction_isDigit : ∀ f ∈ fraction, ∀ c ∈ f, c.isDigit

namespace DecimalTimestamp

/-- The field of the CSV file. -/
def text (t : DecimalTimestamp) : Text :=
  match t.fraction with
  | none => t.seconds
  | some f => t.seconds ++ '.' :: f

/-- The number of nanoseconds that the timestamp denotes. -/
def ns (t : DecimalTimestamp) : Nat :=
  match t.fraction with
  | none => decimalValue t.seconds * 10 ^ 9
  | some f => decimalValue t.seconds * 10 ^ 9 + fractionNs f

theorem parseTimestampNs_text (t : DecimalTimestamp) :
    parseTimestampNs t.text = UInt64.ofNat t.ns := by
  rcases t with ⟨s, fraction, hs, hv, hf⟩
  cases fraction with
  | none => exact parseTimestampNs_seconds hs hv
  | some f => exact parseTimestampNs_fraction hs hv (hf f rfl)

/-- As long as the nanoseconds fit, the order of the parsed numbers is the order
of the timestamps. -/
theorem parseTimestampNs_lt_iff {a b : DecimalTimestamp} (ha : a.ns < 2 ^ 64)
    (hb : b.ns < 2 ^ 64) : parseTimestampNs a.text < parseTimestampNs b.text ↔ a.ns < b.ns := by
  rw [parseTimestampNs_text, parseTimestampNs_text, UInt64.lt_iff_toNat_lt,
    UInt64.toNat_ofNat_of_lt' ha, UInt64.toNat_ofNat_of_lt' hb]

end DecimalTimestamp

/-- The law of `parse_timestamp_ns`: a timestamp is read as its number of
nanoseconds modulo `2^64`, whatever the length of the fraction, and hence in
order as long as this number fits. -/
theorem parseTimestampNs_law :
    (∀ s f : Text, IsDecimal s → decimalValue s < 2 ^ 63 → (∀ c ∈ f, c.isDigit) →
      (parseTimestampNs (s ++ '.' :: f)).toNat =
        (decimalValue s * 10 ^ 9 + decimalValue f * 10 ^ 9 / 10 ^ f.length) % 2 ^ 64) ∧
    (∀ s : Text, IsDecimal s → decimalValue s < 2 ^ 63 →
      (parseTimestampNs s).toNat = decimalValue s * 10 ^ 9 % 2 ^ 64) ∧
    ∀ a b : DecimalTimestamp, a.ns < 2 ^ 64 → b.ns < 2 ^ 64 →
      (parseTimestampNs a.text < parseTimestampNs b.text ↔ a.ns < b.ns) := by
  refine ⟨?_, ?_, ?_⟩
  · intro s f hs hv hf
    rw [parseTimestampNs_fraction hs hv hf, UInt64.toNat_ofNat', fractionNs]
  · intro s hs hv
    rw [parseTimestampNs_seconds hs hv, UInt64.toNat_ofNat']
  · intro a b ha hb
    exact DecimalTimestamp.parseTimestampNs_lt_iff ha hb

/-- A short fraction is scaled up, the tenth digit of a long one is dropped, and
the two timestamps are read in their order. -/
theorem parseTimestampNs_law_short_long :
    (parseTimestampNs (['1', '7'] ++ '.' :: ['2', '5'])).toNat = 17250000000 ∧
      (parseTimestampNs (['1', '7'] ++
        '.' :: ['2', '5', '0', '0', '0', '0', '0', '0', '1', '9'])).toNat = 17250000001 ∧
      (parseTimestampNs ['1', '7']).toNat = 17000000000 ∧
      parseTimestampNs ['1', '7'] < parseTimestampNs (['1', '7'] ++ '.' :: ['2', '5']) := by
  have hs : IsDecimal ['1', '7'] := ⟨by simp, forall_of_all rfl⟩
  rcases parseTimestampNs_law with ⟨hfraction, hseconds, horder⟩
  refine ⟨?_, ?_, ?_, ?_⟩
  · rw [hfraction _ _ hs (by decide) (forall_of_all rfl)]
    rfl
  · rw [hfraction _ _ hs (by decide) (forall_of_all rfl)]
    rfl
  · rw [hseconds _ hs (by decide)]
    rfl
  · have hf : ∀ f ∈ some ['2', '5'], ∀ c ∈ f, c.isDigit := by
      rintro f ⟨⟩
      exact forall_of_all rfl
    refine (horder ⟨['1', '7'], none, hs, by decide, by simp⟩
      ⟨['1', '7'], some ['2', '5'], hs, by decide, hf⟩ ?_ ?_).mpr ?_
    · show decimalValue ['1', '7'] * 10 ^ 9 < 2 ^ 64
      decide
    · show decimalValue ['1', '7'] * 10 ^ 9 + fractionNs ['2', '5'] < 2 ^ 64
      decide
    · show decimalValue ['1', '7'] * 10 ^ 9 <
        decimalValue ['1', '7'] * 10 ^ 9 + fractionNs ['2', '5']
      decide

end TradingLatency.Csvjoin
