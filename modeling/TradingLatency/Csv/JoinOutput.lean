import TradingLatency.Csv.JoinTable

/-!
# The output of the join

The line of a record fits the buffer of `MAX_LINE_LENGTH` bytes and splits back
into its fields, so the rows of the output are the fields of the records, one
row per record (`outputRows_writeOutputCsv`). The header names the timestamps in
the order in which they are printed (`outputColumns_eq`).
-/

namespace TradingLatency.Csvjoin

open CText

/-! ## The header -/

set_option maxRecDepth 20000 in
/-- The columns of the output for a mode and target. -/
theorem outputColumns_eq (mode : OperationMode) (target : TargetType) :
    (getOutputHeaderWithDeltas mode target).splitOn ',' =
      idColumns ++ (outputTimestamps mode target).map fieldName ++
        (getModeDeltaConfig mode target).filterMap fun i =>
          allDeltaDefinitions[i]?.map (·.columnName.toList) := by
  cases mode <;> cases target <;> refine splitOn_literal ?_ <;> rfl

theorem fieldName_inj {t t' : Field} (ht : t.val < 12) (h : fieldName t = fieldName t') :
    t = t' := by
  have hliteral := String.toList_inj.mp h
  clear h
  revert t t'
  decide

theorem populated_lt {ty : FileType} {t : Field} (h : t ∈ (populatedFields ty).2) : t.val < 12 := by
  revert h t
  cases ty <;> decide

theorem exists_fieldName {name : Text} (h : IsTimestampColumn name) : ∃ t, name = fieldName t := by
  rcases h with ⟨ty, hty⟩
  by_cases hu : ty = .unknown
  · subst hu
    simp [typeColumns] at hty
  · rw [typeColumns_eq ty hu] at hty
    rcases List.mem_map.mp hty with ⟨t, -, rfl⟩
    exact ⟨t, rfl⟩

theorem not_isTimestampColumn_id {name : Text} (h : name ∈ idColumns) :
    ¬ IsTimestampColumn name := by
  intro hts
  rcases exists_fieldName hts with ⟨t, rfl⟩
  clear hts
  simp only [idColumns, fieldName, List.mem_cons, List.not_mem_nil, or_false, String.toList_inj] at h
  revert t
  decide

theorem not_isTimestampColumn_delta {d : DeltaDefinition} (h : d ∈ allDeltaDefinitions) :
    ¬ IsTimestampColumn d.columnName.toList := by
  intro hts
  rcases exists_fieldName hts with ⟨t, ht⟩
  have hliteral := String.toList_inj.mp ht
  clear ht hts
  revert d t
  decide

/-- A timestamp column of the output stands for a printed timestamp. -/
theorem outputTimestamps_of_column {config : Config} {p : Nat} {name : Text}
    (hp : (outputColumns config)[p]? = some name) (hts : IsTimestampColumn name) :
    ∃ k t, p = 3 + k ∧ (outputTimestamps config.mode config.target)[k]? = some t ∧
      name = fieldName t := by
  rw [outputColumns, outputColumns_eq, List.getElem?_append] at hp
  split at hp
  · rw [List.getElem?_append] at hp
    split at hp
    · -- one of the three identification columns
      exact absurd hts (not_isTimestampColumn_id (List.mem_of_getElem? hp))
    · -- a timestamp column: its place behind the identification is its place in the output
      rename_i hlt hge
      rw [List.getElem?_map, Option.map_eq_some_iff] at hp
      rcases hp with ⟨t, ht, rfl⟩
      refine ⟨p - idColumns.length, t, ?_, ht, rfl⟩
      simp only [idColumns, List.length_cons, List.length_nil] at hge ⊢
      omega
  · -- a delta column has no name of a timestamp
    have hmem := List.mem_of_getElem? hp
    rcases List.mem_filterMap.mp hmem with ⟨i, -, hi⟩
    rcases Option.map_eq_some_iff.mp hi with ⟨d, hd, rfl⟩
    exact absurd hts (not_isTimestampColumn_delta (List.mem_of_getElem? hd))

/-! ## One delta -/

/-- The decimal text of `b - a` nanoseconds in microseconds, with three fraction
digits, and `NULL` where there is no positive difference. -/
def deltaText (a b : UInt64) : Text :=
  if a = 0 ∨ b = 0 ∨ b ≤ a then "NULL".toList
  else dec ((b.toNat - a.toNat) / 1000) ++ '.' :: decPad 3 ((b.toNat - a.toNat) % 1000)

/-- The whole part is narrowed to 32 bits; the text of such a delta always fits
the buffer. -/
theorem formatDelta_calculateDelta {a b : UInt64} (h : ¬ (a = 0 ∨ b = 0 ∨ b ≤ a)) :
    formatDeltaToBuffer (calculateDeltaFast a b) 16 =
      dec ((b.toNat - a.toNat) / 1000 % 2 ^ 32) ++
        '.' :: decPad 3 ((b.toNat - a.toNat) % 1000) := by
  -- a delta is printed only where the second timestamp is the later one
  have hle : a ≤ b := by
    rw [not_or, not_or] at h
    exact UInt64.le_of_lt (UInt64.not_le.mp h.2.2)
  have hsub : (b - a).toNat = b.toNat - a.toNat := UInt64.toNat_sub_of_le b a hle
  have hwhole : ((b - a) / 1000).toUInt32.toNat = (b.toNat - a.toNat) / 1000 % 2 ^ 32 := by
    rw [UInt64.toNat_toUInt32, UInt64.toNat_div, hsub]
    rfl
  have hfrac : ((b - a) % 1000).toUInt32.toNat = (b.toNat - a.toNat) % 1000 := by
    rw [UInt64.toNat_toUInt32, UInt64.toNat_mod, hsub, Nat.mod_eq_of_lt]
    · rfl
    · exact Nat.lt_trans (Nat.mod_lt _ (by decide)) (by decide)
  have hlen : (dec ((b.toNat - a.toNat) / 1000 % 2 ^ 32)).length ≤ 10 :=
    length_dec_le (by decide) (by omega)
  have hpad : (decPad 3 ((b.toNat - a.toNat) % 1000)).length = 3 :=
    length_decPad (by decide) (by omega)
  unfold formatDeltaToBuffer calculateDeltaFast
  rw [if_neg h, if_pos rfl]
  simp only [hwhole, hfrac]
  apply List.take_of_length_le
  rw [List.length_append, List.length_cons]
  omega

theorem formatDelta_null {a b : UInt64} (h : a = 0 ∨ b = 0 ∨ b ≤ a) :
    formatDeltaToBuffer (calculateDeltaFast a b) 16 = deltaText a b := by
  rw [calculateDeltaFast, deltaText, if_pos h, if_pos h]
  rfl

/-- A difference whose whole microseconds fit 32 bits is printed as it is. -/
theorem formatDelta_exact {a b : UInt64} (h : (b.toNat - a.toNat) / 1000 < 2 ^ 32) :
    formatDeltaToBuffer (calculateDeltaFast a b) 16 = deltaText a b := by
  by_cases hnull : a = 0 ∨ b = 0 ∨ b ≤ a
  · exact formatDelta_null hnull
  · rw [formatDelta_calculateDelta hnull, deltaText, if_neg hnull, Nat.mod_eq_of_lt h]

/-- The printed delta is the difference of the timestamps if and only if its
whole microseconds fit 32 bits. -/
theorem delta_text_exact_iff (a b : UInt64) :
    formatDeltaToBuffer (calculateDeltaFast a b) 16 = deltaText a b ↔
      a = 0 ∨ b = 0 ∨ b ≤ a ∨ (b.toNat - a.toNat) / 1000 < 2 ^ 32 := by
  by_cases h : a = 0 ∨ b = 0 ∨ b ≤ a
  · refine iff_of_true (formatDelta_null h) ?_
    tauto
  · have hcond : (a = 0 ∨ b = 0 ∨ b ≤ a ∨ (b.toNat - a.toNat) / 1000 < 2 ^ 32) ↔
        (b.toNat - a.toNat) / 1000 < 2 ^ 32 := by tauto
    rw [hcond]
    constructor
    · intro htext
      rw [formatDelta_calculateDelta h, deltaText, if_neg h] at htext
      have hvalue := congrArg decimalValue (List.append_cancel_right htext)
      rw [decimalValue_dec, decimalValue_dec] at hvalue
      omega
    · exact formatDelta_exact

/-- Timestamps `2^32` microseconds apart are printed as equal. -/
theorem delta_text_wraps :
    formatDeltaToBuffer (calculateDeltaFast 1 4294967296001) 16 = "0.000".toList ∧
      formatDeltaToBuffer (calculateDeltaFast 1 4294967296001) 16 ≠ deltaText 1 4294967296001 := by
  decide

/-! ## One line -/

/-- A text that fits a timestamp of a record and keeps the line in one piece. -/
def CleanText (v : Text) : Prop := v.length ≤ 31 ∧ ',' ∉ v ∧ '\n' ∉ v

/-- A record whose timestamps are clean. -/
def CleanRecord (record : Record) : Prop := ∀ t, CleanText (record.timestamps t)

/-- The fields of the output line of a record. -/
def recordFields (config : Config) (record : Record) : List Text :=
  config.targetIp :: dec config.targetPort.toNat :: dec record.seqNum.toNat ::
    (outputTimestamps config.mode config.target).map record.timestamps ++
      (calculateModeDeltas record config.mode config.target).map (formatDeltaToBuffer · 16)

theorem cleanText_null : CleanText "NULL".toList := by
  unfold CleanText
  decide

/-- The text of a delta has digits and a point, or is `NULL`. -/
theorem formatDelta_spec (d : DeltaResult) :
    (formatDeltaToBuffer d 16).length ≤ 15 ∧
      ∀ c ∈ formatDeltaToBuffer d 16, c.isDigit = true ∨ c = '.' ∨ c ∈ "NULL".toList := by
  unfold formatDeltaToBuffer
  by_cases hv : d.valid = true
  · -- a value: microseconds, a point and three digits
    rw [if_pos hv]
    refine ⟨List.length_take_le _ _, ?_⟩
    intro c hc
    rcases List.mem_append.mp (List.mem_of_mem_take hc) with h | h
    · exact Or.inl ((isDecimal_dec _).2 c h)
    · rcases List.mem_cons.mp h with h | h
      · exact Or.inr (Or.inl h)
      · exact Or.inl ((isDecimal_decPad _ _).2 c h)
  · -- no value
    rw [if_neg hv]
    exact ⟨by decide, fun c hc => Or.inr (Or.inr hc)⟩

/-- The separators of the output. -/
def IsSeparator (c : Char) : Prop := c = ',' ∨ c = '\n'

theorem IsSeparator.not_isDigit {c : Char} (hc : IsSeparator c) : c.isDigit = false := by
  rcases hc with rfl | rfl <;> decide

theorem not_mem_formatDelta {c : Char} (hc : IsSeparator c) (d : DeltaResult) :
    c ∉ formatDeltaToBuffer d 16 := by
  intro hmem
  rcases (formatDelta_spec d).2 c hmem with h | h | h
  · rw [hc.not_isDigit] at h
    cases h
  · rcases hc with rfl | rfl <;> exact absurd h (by decide)
  · rcases hc with rfl | rfl <;> exact absurd h (by decide)

theorem length_flatten_le {k : Nat} (l : List Text) (h : ∀ v ∈ l, v.length ≤ k) :
    l.flatten.length ≤ k * l.length := by
  induction l with
  | nil => simp
  | cons v l ih =>
    have hv := h v (by simp)
    have hl := ih fun w hw => h w (List.mem_cons_of_mem _ hw)
    rw [List.flatten_cons, List.length_append, List.length_cons, Nat.mul_succ]
    omega

theorem length_outputTimestamps_le (mode : OperationMode) (target : TargetType) :
    (outputTimestamps mode target).length ≤ 12 := by
  cases mode <;> cases target <;> decide

theorem length_calculateModeDeltas_le (record : Record) (mode : OperationMode)
    (target : TargetType) : (calculateModeDeltas record mode target).length ≤ 14 := by
  have hconfig : (getModeDeltaConfig mode target).length ≤ 14 := by
    cases mode <;> cases target <;> decide
  exact Nat.le_trans (List.length_filterMap_le _ _) hconfig

/-- The separated fields, in the stages in which they are printed. -/
theorem intercalate_recordFields (config : Config) (record : Record) :
    [','].intercalate (recordFields config record) =
      (config.targetIp ++ ',' :: dec config.targetPort.toNat ++ ',' :: dec record.seqNum.toNat) ++
        (outputTimestamps config.mode config.target).flatMap (fun t => ',' :: record.timestamps t) ++
        ((calculateModeDeltas record config.mode config.target).map
          fun d => ',' :: formatDeltaToBuffer d 16).flatten := by
  simp only [recordFields, List.cons_append, intercalate_cons_eq, List.flatMap_cons,
    List.flatMap_append, List.flatMap_map, List.append_assoc]
  rw [List.flatMap_def (l := calculateModeDeltas _ _ _)]

/-- The stages are at most 32, 384 and 224 characters long. -/
theorem length_line_lt {config : Config} {record : Record}
    (h : ∀ t, (record.timestamps t).length ≤ 31) :
    ([','].intercalate (recordFields config record)).length < maxLineLength := by
  have hip := config.targetIp_length_le
  -- at most 5 digits of the port, 10 of the sequence number, 31 characters of each timestamp
  have hport : (dec config.targetPort.toNat).length ≤ 5 :=
    length_dec_le (by decide) (by have := config.targetPort.toNat_lt; omega)
  have hseq : (dec record.seqNum.toNat).length ≤ 10 :=
    length_dec_le (by decide) (by have := record.seqNum.toNat_lt; omega)
  have hts : ((outputTimestamps config.mode config.target).flatMap
      fun t => ',' :: record.timestamps t).length ≤ 32 * 12 := by
    rw [List.flatMap_def]
    refine Nat.le_trans (length_flatten_le (k := 32) _ ?_) ?_
    · intro v hv
      rcases List.mem_map.mp hv with ⟨t, -, rfl⟩
      exact Nat.succ_le_succ (h t)
    · have := length_outputTimestamps_le config.mode config.target
      rw [List.length_map]
      omega
  have hdeltas : (((calculateModeDeltas record config.mode config.target).map
      fun d => ',' :: formatDeltaToBuffer d 16).flatten).length ≤ 16 * 14 := by
    refine Nat.le_trans (length_flatten_le (k := 16) _ ?_) ?_
    · intro v hv
      rcases List.mem_map.mp hv with ⟨d, -, rfl⟩
      exact Nat.succ_le_succ (formatDelta_spec d).1
    · have := length_calculateModeDeltas_le record config.mode config.target
      rw [List.length_map]
      omega
  simp only [intercalate_recordFields, List.length_append, List.length_cons, maxLineLength]
  omega

/-- The three stages together print the separated fields. -/
theorem formatOutputRecord_eq {config : Config} {record : Record}
    (h : ∀ t, (record.timestamps t).length ≤ 31) :
    formatOutputRecord record config.targetIp config.targetPort config.mode config.target
        maxLineLength =
      ⟨[','].intercalate (recordFields config record),
        ([','].intercalate (recordFields config record)).length⟩ := by
  have hlt := @length_line_lt config record h
  rw [intercalate_recordFields] at hlt ⊢
  have hfold := @OutBuf.foldl_snprintf_fits maxLineLength (by decide)
    ((config.targetIp ++ ',' :: dec config.targetPort.toNat ++ ',' :: dec record.seqNum.toNat) ::
      (outputTimestamps config.mode config.target).flatMap (fun t => ',' :: record.timestamps t) ::
      (calculateModeDeltas record config.mode config.target).map
        fun d => ',' :: formatDeltaToBuffer d 16)
    OutBuf.empty rfl
    (by
      simp only [OutBuf.empty, List.length_nil, List.flatten_cons, List.length_append,
        List.length_cons] at hlt ⊢
      omega)
  rw [List.foldl_cons, List.foldl_cons, List.foldl_map] at hfold
  simpa [formatOutputRecord, OutBuf.empty] using hfold

theorem not_mem_dec {c : Char} (hc : c.isDigit = false) (n : Nat) : c ∉ dec n :=
  not_mem_of_isDecimal (isDecimal_dec n) hc

/-- No separator stands inside of a field. -/
theorem not_mem_recordFields {config : Config} {record : Record} {c : Char} (hc : IsSeparator c)
    (h : ∀ t, c ∉ record.timestamps t) (hip : c ∉ config.targetIp) {f : Text}
    (hf : f ∈ recordFields config record) : c ∉ f := by
  unfold recordFields at hf
  rcases List.mem_append.mp hf with hf | hf
  · -- the identification and the timestamps
    simp only [List.mem_cons] at hf
    rcases hf with rfl | rfl | rfl | hf
    · exact hip
    · exact not_mem_dec hc.not_isDigit _
    · exact not_mem_dec hc.not_isDigit _
    · rcases List.mem_map.mp hf with ⟨t, -, rfl⟩
      exact h t
  · -- a delta has digits, a point and `NULL` only
    rcases List.mem_map.mp hf with ⟨d, -, rfl⟩
    exact not_mem_formatDelta hc d

theorem newline_not_mem_line {config : Config} {record : Record} (h : CleanRecord record)
    (hip : ',' ∉ config.targetIp ∧ '\n' ∉ config.targetIp) :
    '\n' ∉ [','].intercalate (recordFields config record) := by
  intro hmem
  rcases mem_intercalate hmem with hc | ⟨f, hf, hc⟩
  · exact absurd hc (by decide)
  · exact not_mem_recordFields (Or.inr rfl) (fun t => (h t).2.2) hip.2 hf hc

/-- The line of a record splits back into its fields. -/
theorem splitOn_recordFields {config : Config} {record : Record}
    (h : ∀ t, ',' ∉ record.timestamps t) (hip : ',' ∉ config.targetIp) :
    ([','].intercalate (recordFields config record)).splitOn ',' = recordFields config record :=
  List.splitOn_intercalate ',' (fun _ hf => not_mem_recordFields (Or.inl rfl) h hip hf)
    (by simp [recordFields])

theorem line_ne_nil (config : Config) (record : Record) :
    [','].intercalate (recordFields config record) ≠ [] := by
  rw [recordFields, List.cons_append, List.cons_append, List.intercalate_cons_cons]
  simp

/-! ## The whole output -/

theorem writeOutputCsv_eq {config : Config} {records : List Record}
    (h : ∀ r ∈ records, CleanRecord r) :
    writeOutputCsv records config = getOutputHeaderWithDeltas config.mode config.target ++
      '\n' :: (records.map fun r => [','].intercalate (recordFields config r)).flatMap
        (· ++ ['\n']) := by
  unfold writeOutputCsv
  rw [List.flatMap_map]
  congr 2
  apply List.flatMap_congr
  intro r hr
  have hpos : ([','].intercalate (recordFields config r)).length > 0 :=
    List.length_pos_iff.mpr (line_ne_nil config r)
  simp only [formatOutputRecord_eq fun t => (h r hr t).1, if_pos hpos]

set_option maxRecDepth 20000 in
theorem newline_not_mem_header (mode : OperationMode) (target : TargetType) :
    '\n' ∉ getOutputHeaderWithDeltas mode target := by
  cases mode <;> cases target <;> refine of_literal (P := fun h => '\n' ∉ h) ?_ <;> decide

theorem splitOn_writeOutputCsv {config : Config} {records : List Record}
    (h : ∀ r ∈ records, CleanRecord r) (hip : ',' ∉ config.targetIp ∧ '\n' ∉ config.targetIp) :
    (writeOutputCsv records config).splitOn '\n' =
      getOutputHeaderWithDeltas config.mode config.target ::
        ((records.map fun r => [','].intercalate (recordFields config r)) ++ [[]]) := by
  -- a line of a clean record has no newline of its own
  have hline : ∀ l ∈ records.map fun r => [','].intercalate (recordFields config r), '\n' ∉ l := by
    intro l hl
    rcases List.mem_map.mp hl with ⟨r, hr, rfl⟩
    exact newline_not_mem_line (h r hr) hip
  have hall := splitOn_flatMap_newline '\n'
    (getOutputHeaderWithDeltas config.mode config.target ::
      records.map fun r => [','].intercalate (recordFields config r)) (by
        intro l hl
        rcases List.mem_cons.mp hl with rfl | hl
        · exact newline_not_mem_header _ _
        · exact hline l hl)
  rw [List.flatMap_cons, List.append_assoc, List.singleton_append] at hall
  rw [writeOutputCsv_eq h, hall, List.cons_append]

/-- The rows of the output are the fields of the records. -/
theorem outputRows_writeOutputCsv {config : Config} {records : List Record}
    (h : ∀ r ∈ records, CleanRecord r) (hip : ',' ∉ config.targetIp ∧ '\n' ∉ config.targetIp) :
    outputRows (writeOutputCsv records config) = records.map (recordFields config) := by
  have hfilter : ((records.map fun r => [','].intercalate (recordFields config r)) ++ [[]]).filter
      (· ≠ []) = records.map fun r => [','].intercalate (recordFields config r) := by
    rw [List.filter_append, List.filter_eq_self.mpr]
    · simp
    · intro l hl
      rcases List.mem_map.mp hl with ⟨r, -, rfl⟩
      simpa using line_ne_nil config r
  -- no field has a separator in it, so the line is split into them again
  rw [outputRows, splitOn_writeOutputCsv h hip, List.drop_succ_cons, List.drop_zero, hfilter,
    List.map_map]
  apply List.map_congr_left
  intro r hr
  exact splitOn_recordFields (fun t => (h r hr t).2.1) hip.1

end TradingLatency.Csvjoin
