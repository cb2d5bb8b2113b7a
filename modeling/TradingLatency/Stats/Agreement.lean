import TradingLatency.Csv.RoundTrip
import TradingLatency.Csv.JoinCorrect
import TradingLatency.Csv.JoinHeader
import TradingLatency.Stats.Analysis
import Mathlib.Tactic.IntervalCases

/-!
# Online statistics and offline join agree

A packet is evaluated twice: the statistics engine computes the deltas from the
slots of its entry, and the join program computes them from the CSV rows that
were written for the same slots. The two programs number the timestamps and the
deltas differently, test validity differently, and there is a text in between.

`online_offline_agree` says that both count the same deltas with the same
values. The tables are compared in `slotPairs_eq`, the text round trip is in
`parseTimestampNs_joinedRecord`, and one delta is in `deltasAgree`.
-/

namespace TradingLatency

open CText Csvjoin

/-! ## The files of a mode -/

/-- The formats that a program writes in a mode: the main file and, where there
is one, the TX file. -/
def modeCsvTypes : StatsMode → List CsvType
  | .clientOneway => [.clientMainOneway, .clientTx]
  | .clientRoundtrip => [.clientMainRoundtrip, .clientTx]
  | .serverOneway => [.serverMainOneway]
  | .serverRoundtrip => [.serverMainRoundtrip, .serverTx]

/-- The mode of the join. -/
def joinMode : StatsMode → OperationMode
  | .clientOneway | .serverOneway => .oneWay
  | .clientRoundtrip | .serverRoundtrip => .roundTrip

/-- The target of the join. -/
def joinTarget : StatsMode → TargetType
  | .clientOneway | .clientRoundtrip => .client
  | .serverOneway | .serverRoundtrip => .server

/-- A CSV file with the row of one entry, formatted in a write buffer of `256 * b`
bytes (the size that `csv_buffer_create` computes for batches of `b` entries, as
long as the product is a 32-bit value). The join program looks at its header
for the type. -/
def entryFile (b : Nat) (e : CsvEntry) (ty : CsvType) : InputFile :=
  let contents := getCsvHeader ty ++ '\n' :: csvFormatBatch [e] 1 (256 * b) ty
  ⟨contents, detectFileType contents⟩

/-- The join of the files of a mode for the client of the entry. -/
def entryConfig (mode : StatsMode) (b : Nat) (e : CsvEntry) : Config where
  targetIp := e.srcIp.text
  targetPort := e.srcPort
  mode := joinMode mode
  target := joinTarget mode
  inputFiles := (modeCsvTypes mode).map (entryFile b e)
  targetIp_length_le := e.srcIp.length_le

/-- The columns of an output row whose header name starts with `delta_`. -/
def deltaColumns (config : Config) (row : List Text) : List Text :=
  ((outputColumns config).zip row).filterMap fun c =>
    if "delta_".toList.isPrefixOf c.1 then some c.2 else none

/-- The nanoseconds that a delta column denotes: microseconds, a point and three
more digits. -/
def columnNs (col : Text) : Option Nat :=
  if col = "NULL".toList then none
  else some (decimalValue (col.takeWhile (· ≠ '.')) * 1000 +
    decimalValue ((col.dropWhile (· ≠ '.')).drop 1))

/-! ## Agreement for one delta -/

/-- The entry was counted, as a value or as an outlier. -/
def Counted (before after : DeltaAnalysis) : Prop :=
  before.packetCount < after.packetCount ∨ before.outlierCount < after.outlierCount

/-- Column and statistics engine agree on a delta: the column is not `NULL`
exactly if the entry is counted, and up to one second the engine adds the value
of the column. -/
structure DeltasAgree (entry : StatsEntry) (i : Fin 12) (col : Text) (analysis : DeltaAnalysis)
    (config : StatsConfig) : Prop where
  counted : col ≠ "NULL".toList ↔ Counted analysis (processEntryForDelta entry analysis i config)
  value : col ≠ "NULL".toList → (entry.timestampNs (allDeltas i).2).toNat ≤
      (entry.timestampNs (allDeltas i).1).toNat + 1000000000 →
    analysis.packetCount < analysis.deltaCapacity →
    ∃ ns, columnNs col = some ns ∧
      (processEntryForDelta entry analysis i config).deltaValues =
        analysis.deltaValues ++ [(ns : ℚ) / 1000]

/-- Below `2^63` the signed difference is the difference. -/
theorem deltaNs_of_lt {tsA tsB : UInt64} (hA : tsA.toNat < 2 ^ 63) (hB : tsB.toNat < 2 ^ 63) :
    deltaNs tsA tsB = (tsB.toNat : Int) - tsA.toNat := by
  have hto : ∀ ts : UInt64, ts.toNat < 2 ^ 63 → ts.toInt64.toInt = (ts.toNat : Int) := by
    intro ts hts
    show ts.toBitVec.toInt = _
    rw [BitVec.toInt_eq_toNat_of_lt]
    · rfl
    · show 2 * ts.toNat < 2 ^ 64
      omega
  rw [deltaNs, Int64.toInt_sub, hto _ hA, hto _ hB]
  apply Int.bmod_eq_of_le <;> omega

/-- When the statistics engine counts an entry. -/
theorem counted_iff (entry : StatsEntry) (i : Fin 12) (analysis : DeltaAnalysis)
    (config : StatsConfig) {tsA tsB : UInt64} (hA : entry.timestampNs (allDeltas i).1 = tsA)
    (hB : entry.timestampNs (allDeltas i).2 = tsB) :
    Counted analysis (processEntryForDelta entry analysis i config) ↔
      tsA ≠ 0 ∧ tsB ≠ 0 ∧ 1 ≤ deltaNs tsA tsB := by
  rw [processEntryForDelta_eq entry analysis i config hA hB]
  by_cases hpos : tsA ≠ 0 ∧ tsB ≠ 0 ∧ 1 ≤ deltaNs tsA tsB
  swap
  · rw [if_neg hpos]
    simp [Counted, hpos]
  rw [if_pos hpos]
  refine iff_of_true ?_ hpos
  by_cases hle : deltaNs tsA tsB ≤ 1000000000
  swap
  · rw [if_neg hle]
    exact Or.inr (Nat.lt_succ_self _)
  rw [if_pos hle]
  -- a value that finds no room is an outlier
  unfold Counted DeltaAnalysis.packetCount
  rw [deltaValues_updateHistogram]
  unfold exactPercentilesAddValue
  by_cases hroom : analysis.packetCount < analysis.deltaCapacity
  · rw [if_pos hroom]
    left
    simp
  · rw [if_neg hroom]
    right
    unfold updateHistogram
    simp only
    split
    · exact Nat.lt_succ_self _
    · exact Nat.lt_succ_of_lt (Nat.lt_succ_self _)

theorem calculateDeltaFast_valid {tsA tsB : UInt64} :
    (calculateDeltaFast tsA tsB).valid = true ↔ tsA ≠ 0 ∧ tsB ≠ 0 ∧ tsA < tsB := by
  unfold calculateDeltaFast
  by_cases h : tsA = 0 ∨ tsB = 0 ∨ tsB ≤ tsA
  · rw [if_pos h]
    simp only [Bool.false_eq_true, false_iff]
    rintro ⟨hA, hB, hlt⟩
    rcases h with h | h | h
    · exact hA h
    · exact hB h
    · exact absurd hlt (UInt64.not_lt.mpr h)
  · rw [if_neg h]
    simp only [not_or, UInt64.not_le] at h
    simp [h]

/-- The text of a delta is `NULL` exactly if the delta is not valid. -/
theorem formatDelta_ne_null (d : DeltaResult) :
    formatDeltaToBuffer d 16 ≠ "NULL".toList ↔ d.valid = true := by
  unfold formatDeltaToBuffer
  by_cases hv : d.valid = true
  · rw [if_pos hv]
    refine iff_of_true ?_ hv
    -- the text starts with a digit
    intro h
    rcases hdec : dec d.deltaWholeUs.toNat with _ | ⟨c, cs⟩
    · exact (isDecimal_dec d.deltaWholeUs.toNat).1 hdec
    · have hc : c.isDigit := (isDecimal_dec d.deltaWholeUs.toNat).2 c (by simp [hdec])
      rw [hdec, List.cons_append, List.take_succ_cons] at h
      have : c = 'N' := (List.cons.inj h).1
      subst this
      revert hc
      decide
  · rw [if_neg hv]
    simp [hv]

/-- A delta of less than `2^32` microseconds is printed with its nanoseconds. -/
theorem columnNs_formatDelta {tsA tsB : UInt64} (hA : tsA ≠ 0) (hB : tsB ≠ 0) (hlt : tsA < tsB)
    (hle : tsB.toNat ≤ tsA.toNat + 1000000000) :
    columnNs (formatDeltaToBuffer (calculateDeltaFast tsA tsB) 16) =
      some (tsB.toNat - tsA.toNat) := by
  have hvalid := calculateDeltaFast_valid.mpr ⟨hA, hB, hlt⟩
  have hnull := (formatDelta_ne_null _).mpr hvalid
  have hlt' := UInt64.lt_iff_toNat_lt.mp hlt
  have hsub : (tsB - tsA).toNat = tsB.toNat - tsA.toNat :=
    UInt64.toNat_sub_of_le _ _ (UInt64.le_of_lt hlt)
  have hcalc : calculateDeltaFast tsA tsB =
      ⟨((tsB - tsA) / 1000).toUInt32, ((tsB - tsA) % 1000).toUInt32, true⟩ := by
    unfold calculateDeltaFast
    rw [if_neg]
    rintro (h | h | h)
    · exact hA h
    · exact hB h
    · exact absurd hlt (UInt64.not_lt.mpr h)
  -- a second at most, so the quotient fits 32 bits
  have hwhole : ((tsB - tsA) / 1000).toUInt32.toNat = (tsB.toNat - tsA.toNat) / 1000 := by
    rw [UInt64.toNat_toUInt32, UInt64.toNat_div, hsub]
    exact Nat.mod_eq_of_lt (by show _ / 1000 < _; omega)
  have hfrac : ((tsB - tsA) % 1000).toUInt32.toNat = (tsB.toNat - tsA.toNat) % 1000 := by
    rw [UInt64.toNat_toUInt32, UInt64.toNat_mod, hsub]
    exact Nat.mod_eq_of_lt (by show _ % 1000 < _; omega)
  have hwlen : (dec ((tsB.toNat - tsA.toNat) / 1000)).length ≤ 10 :=
    length_dec_le (by decide) (by omega)
  have hflen : (decPad 3 ((tsB.toNat - tsA.toNat) % 1000)).length = 3 :=
    length_decPad (by decide) (by omega)
  have htext : formatDeltaToBuffer (calculateDeltaFast tsA tsB) 16 =
      dec ((tsB.toNat - tsA.toNat) / 1000) ++
        '.' :: decPad 3 ((tsB.toNat - tsA.toNat) % 1000) := by
    unfold formatDeltaToBuffer
    rw [if_pos hvalid, hcalc, hwhole, hfrac, List.take_of_length_le]
    rw [List.length_append, List.length_cons, hflen]
    omega
  -- the first `.` of the text is the one in front of the remainder
  have hdigits : ∀ c ∈ dec ((tsB.toNat - tsA.toNat) / 1000), c ≠ '.' := by
    intro c hc hdot
    subst hdot
    exact not_mem_dec (by decide) _ hc
  unfold columnNs
  rw [if_neg hnull, htext, List.takeWhile_append_of_pos (by simpa using hdigits),
    List.dropWhile_append_of_pos (by simpa using hdigits)]
  simp only [List.takeWhile_cons, List.dropWhile_cons, ne_eq, not_true_eq_false, decide_false,
    Bool.false_eq_true, if_false, List.append_nil, List.drop_succ_cons, List.drop_zero,
    decimalValue_dec, decimalValue_decPad]
  congr 1
  omega

/-- One delta: the printed column and the engine agree. -/
theorem deltasAgree {entry : StatsEntry} (hts : ∀ j, (entry.timestampNs j).toNat < 2 ^ 63)
    (i : Fin 12) (analysis : DeltaAnalysis) (config : StatsConfig) :
    DeltasAgree entry i (formatDeltaToBuffer (calculateDeltaFast
      (entry.timestampNs (allDeltas i).1) (entry.timestampNs (allDeltas i).2)) 16)
      analysis config := by
  have hA := hts (allDeltas i).1
  have hB := hts (allDeltas i).2
  have hdelta := deltaNs_of_lt hA hB
  have hcounted := counted_iff entry i analysis config rfl rfl
  have hprocess := processEntryForDelta_eq entry analysis i config rfl rfl
  have hvalid := (formatDelta_ne_null _).trans (@calculateDeltaFast_valid
    (entry.timestampNs (allDeltas i).1) (entry.timestampNs (allDeltas i).2))
  -- both sides refuse a difference of zero or less
  have hlt : entry.timestampNs (allDeltas i).1 < entry.timestampNs (allDeltas i).2 ↔
      1 ≤ deltaNs (entry.timestampNs (allDeltas i).1) (entry.timestampNs (allDeltas i).2) := by
    rw [UInt64.lt_iff_toNat_lt, hdelta]
    omega
  constructor
  · rw [hvalid, hcounted, hlt]
  · intro hcol hle hroom
    -- the column has the difference in ns, as the value in the histogram's list
    rcases hvalid.mp hcol with ⟨hA0, hB0, hAB⟩
    refine ⟨_, columnNs_formatDelta hA0 hB0 hAB hle, ?_⟩
    have hns : (((entry.timestampNs (allDeltas i).2).toNat -
        (entry.timestampNs (allDeltas i).1).toNat : Nat) : ℚ) =
        (deltaNs (entry.timestampNs (allDeltas i).1) (entry.timestampNs (allDeltas i).2) : ℚ) := by
      rw [hdelta, Nat.cast_sub (Nat.le_of_lt (UInt64.lt_iff_toNat_lt.mp hAB))]
      push_cast
      rfl
    rw [hprocess, if_pos ⟨hA0, hB0, hlt.mp hAB⟩, if_pos (by omega), deltaValues_updateHistogram,
      exactPercentilesAddValue, if_pos hroom, hns]

/-! ## The tables -/

/-- The slot of a timestamp of the join program. -/
def fieldSlot (t : Field) : Fin 12 :=
  [0, 1, 2, 7, 8, 9, 10, 11, 3, 4, 5, 6].getD t.val 0

/-- The file type of a CSV format. -/
def csvFileType : CsvType → FileType
  | .clientMainOneway => .clientOnewayMain
  | .clientMainRoundtrip => .clientRoundtripMain
  | .clientTx => .clientOnewayTx
  | .serverMainOneway => .serverOnewayMain
  | .serverMainRoundtrip => .serverRoundtripMain
  | .serverTx => .serverRoundtripTx

/-- The join program takes the columns of a file for the slots they were
printed from. -/
theorem fieldSlot_populatedFields (ty : CsvType) :
    (populatedFields (csvFileType ty)).2.map fieldSlot = csvSlots ty := by
  cases ty <;> decide

/-- The timestamp pairs of the deltas of a mode, in the numbering of the join
program. -/
def fieldPairs (mode : StatsMode) : List (Field × Field) :=
  (getModeDeltaConfig (joinMode mode) (joinTarget mode)).filterMap fun i =>
    allDeltaDefinitions[i]?.map fun d => (d.tsAField, d.tsBField)

/-- Both programs compute the same deltas in the same order. -/
theorem slotPairs_eq (mode : StatsMode) :
    (fieldPairs mode).map (fun ab => (fieldSlot ab.1, fieldSlot ab.2)) =
      (modeDeltas mode).map allDeltas := by
  cases mode <;> decide

/-- The deltas are computed from timestamps that are printed. -/
theorem mem_outputTimestamps_of_fieldPairs {mode : StatsMode} {a b : Field}
    (h : (a, b) ∈ fieldPairs mode) :
    a ∈ outputTimestamps (joinMode mode) (joinTarget mode) ∧
      b ∈ outputTimestamps (joinMode mode) (joinTarget mode) := by
  revert a b
  cases mode <;> decide

/-- The deltas of a record that holds the slots. -/
theorem calculateModeDeltas_eq {mode : StatsMode} {record : Record} {ts : Slots}
    (h : ∀ t ∈ outputTimestamps (joinMode mode) (joinTarget mode),
      parseTimestampNs (record.timestamps t) = ts (fieldSlot t)) :
    calculateModeDeltas record (joinMode mode) (joinTarget mode) =
      (modeDeltas mode).map fun i => calculateDeltaFast (ts (allDeltas i).1) (ts (allDeltas i).2) := by
  calc calculateModeDeltas record (joinMode mode) (joinTarget mode)
      = (fieldPairs mode).map fun ab =>
          calculateDeltaFast (parseTimestampNs (record.timestamps ab.1))
            (parseTimestampNs (record.timestamps ab.2)) := by
        rw [calculateModeDeltas, fieldPairs, List.map_filterMap]
        congr 1
        funext i
        rw [Option.map_map]
        rfl
    _ = (fieldPairs mode).map fun ab =>
          calculateDeltaFast (ts (fieldSlot ab.1)) (ts (fieldSlot ab.2)) := by
        apply List.map_congr_left
        rintro ⟨a, b⟩ hab
        rcases mem_outputTimestamps_of_fieldPairs hab with ⟨ha, hb⟩
        rw [h a ha, h b hb]
    _ = ((fieldPairs mode).map fun ab => (fieldSlot ab.1, fieldSlot ab.2)).map fun ij =>
          calculateDeltaFast (ts ij.1) (ts ij.2) := by
        rw [List.map_map]
        rfl
    _ = _ := by
        rw [slotPairs_eq, List.map_map]
        rfl

/-! ## The files -/

set_option maxRecDepth 5000 in
/-- The join program recognises the headers of the writer. -/
theorem detectFileType_getCsvHeader (ty : CsvType) :
    detectFileType (getCsvHeader ty) = csvFileType ty := by
  unfold detectFileType
  cases ty <;> unfold getCsvHeader <;> repeat rw [String.toList_ofList]
  all_goals decide

set_option maxRecDepth 2000 in
theorem plain_getCsvHeader (ty : CsvType) :
    IsPlain (getCsvHeader ty) ∧ (getCsvHeader ty).length < maxLineLength - 1 ∧
      getCsvHeader ty ≠ [] := by
  unfold IsPlain
  cases ty <;> refine of_literal (P := fun h =>
    (nul ∉ h ∧ '\r' ∉ h ∧ '\n' ∉ h) ∧ h.length < maxLineLength - 1 ∧ h ≠ []) ?_ <;> decide

theorem splitOn_csvLine {e : CsvEntry} (hip : e.srcIp.Clean) (ty : CsvType) :
    (csvLine ty e).splitOn ',' = csvFields ty e :=
  List.splitOn_intercalate ',' (fun f hf => (plainField_csvFields ty hip f hf).1)
    (by simp [csvFields])

theorem wellFormedRow_csvFields {e : CsvEntry} (hip : e.srcIp.Clean) (ty : CsvType) :
    WellFormedRow (csvFileType ty) (csvFields ty e) := by
  have hport := e.srcPort.toNat_lt
  have hseq := e.seqNum.toNat_lt
  have hcols : (typeColumns (csvFileType ty)).length = 3 + (csvSlots ty).length := by
    rw [← populatedFields_fst]
    cases ty <;> rfl
  -- the numbers are printed in decimal, and no timestamp exceeds its field
  refine ⟨?_, csvFields_length_le ty e, ?_, _, _, _, _, rfl, isDecimal_dec _, ?_,
    isDecimal_dec _, ?_, ?_⟩
  · rw [hcols]
    simp only [csvFields, List.length_cons, List.length_map]
    omega
  · exact fun f hf => (plainField_csvFields ty hip f hf).2
  · rw [decimalValue_dec]
    omega
  · rw [decimalValue_dec]
    omega
  · intro f hf
    rcases List.mem_map.mp (List.mem_of_mem_take hf) with ⟨i, -, rfl⟩
    have := formatTimestamp_length_le (e.timestampNs i)
    omega

theorem rowSeq_csvFields (ty : CsvType) (e : CsvEntry) : rowSeq (csvFields ty e) = e.seqNum := by
  simp [rowSeq, csvFields, decimalValue_dec]

section Files

variable {b : Nat} (hb : 2 ≤ b) (hsize : 256 * b < 2 ^ 64) {e : CsvEntry}

include hb hsize

/-- The file is its header and the line of the entry. -/
theorem contents_entryFile (ty : CsvType) :
    (entryFile b e ty).contents = [getCsvHeader ty, csvLine ty e].flatMap (· ++ ['\n']) := by
  have hbatch := csvFormatBatch_eq ty b hb hsize [e] (by simp; omega)
  rw [List.length_singleton, Nat.cast_one] at hbatch
  show getCsvHeader ty ++ '\n' :: csvFormatBatch [e] 1 (256 * b) ty = _
  rw [hbatch]
  simp

/-- Its type is found again. -/
theorem detectedType_entryFile (ty : CsvType) :
    (entryFile b e ty).detectedType = csvFileType ty := by
  have hheader := plain_getCsvHeader ty
  show detectFileType (entryFile b e ty).contents = _
  rw [contents_entryFile hb hsize, detectFileType_of_header hheader.2.2 hheader.1 hheader.2.1]
  exact detectFileType_getCsvHeader ty

variable (hip : e.srcIp.Clean)

include hip

/-- Its only row has the fields of the entry. -/
theorem rows_entryFile (ty : CsvType) : rows (entryFile b e ty).contents = [csvFields ty e] := by
  have hheader := plain_getCsvHeader ty
  have hne : csvLine ty e ≠ [] := by
    intro h
    have hfields := splitOn_csvLine hip ty
    rw [h] at hfields
    simp [csvFields] at hfields
  rw [contents_entryFile hb hsize, rows_of_lines hheader.1.2.2 hheader.2.1]
  · simp [splitOn_csvLine hip ty]
  · intro l hl
    rw [List.mem_singleton.mp hl]
    exact ⟨isPlain_csvLine ty hip, hne⟩

theorem wellFormedFile_entryFile (ty : CsvType) : WellFormedFile (entryFile b e ty) := by
  have hheader := plain_getCsvHeader ty
  have hlines : WellFormedFile ⟨[getCsvHeader ty, csvLine ty e].flatMap (· ++ ['\n']),
      csvFileType ty⟩ := by
    apply wellFormedFile_of_lines hheader.1.2.2 hheader.2.1
    intro l hl
    rw [List.mem_singleton.mp hl, splitOn_csvLine hip ty]
    have := csvLine_length_le ty e
    exact ⟨isPlain_csvLine ty hip, by omega, wellFormedRow_csvFields hip ty⟩
  have hfile : entryFile b e ty =
      ⟨[getCsvHeader ty, csvLine ty e].flatMap (· ++ ['\n']), csvFileType ty⟩ := by
    rw [← contents_entryFile hb hsize, ← detectedType_entryFile hb hsize (e := e) ty]
  rw [hfile]
  exact hlines

/-! ## The join of the files -/

theorem documented_entryConfig (mode : StatsMode) : Documented (entryConfig mode b e) where
  detected f hf := by
    rcases List.mem_map.mp hf with ⟨ty, -, rfl⟩
    rfl
  types := by
    show (((modeCsvTypes mode).map (entryFile b e)).map (·.detectedType)).Perm _
    rw [List.map_map, List.map_congr_left (g := csvFileType)]
    · cases mode <;> exact List.Perm.refl _
    · exact fun ty _ => detectedType_entryFile hb hsize ty
  wellFormed f hf := by
    rcases List.mem_map.mp hf with ⟨ty, -, rfl⟩
    exact wellFormedFile_entryFile hb hsize hip ty

/-- The row of the entry matches the target. -/
theorem matchingRows_entryFile (mode : StatsMode) (ty : CsvType) :
    matchingRows (entryConfig mode b e) (entryFile b e ty) = [csvFields ty e] := by
  rw [matchingRows, rows_entryFile hb hsize hip, List.filter_cons, if_pos]
  · rfl
  · simp [rowMatches, csvFields, entryConfig, decimalValue_dec]

/-- The sequence number of the entry is the only common one. -/
theorem common_entryConfig (mode : StatsMode) (s : UInt32) :
    Common (entryConfig mode b e) s ↔ s = e.seqNum := by
  constructor
  · intro h
    obtain ⟨ty, hty⟩ : ∃ ty, ty ∈ modeCsvTypes mode := by
      cases mode <;> exact ⟨_, List.mem_cons_self⟩
    rcases h _ (List.mem_map_of_mem hty) with ⟨r, hr, hs⟩
    rw [matchingRows_entryFile hb hsize hip, List.mem_singleton] at hr
    rw [← hs, hr, rowSeq_csvFields]
  · rintro rfl f hf
    rcases List.mem_map.mp hf with ⟨ty, -, rfl⟩
    refine ⟨csvFields ty e, ?_, rowSeq_csvFields ty e⟩
    rw [matchingRows_entryFile hb hsize hip]
    exact List.mem_singleton_self _

theorem findCommonSequences_entryConfig (mode : StatsMode) :
    findCommonSequences (entryConfig mode b e) = [e.seqNum] := by
  have hdoc := documented_entryConfig hb hsize hip mode
  apply eq_of_ascending (ascending_common hdoc.wellFormedInput) (List.pairwise_singleton _ _)
  intro s
  rw [common_iff hdoc.wellFormedInput, common_entryConfig hb hsize hip, List.mem_singleton]

/-- Every printed timestamp is read as the slot it was written from. -/
theorem parseTimestampNs_joinedRecord (mode : StatsMode) {t : Field}
    (ht : t ∈ outputTimestamps (joinMode mode) (joinTarget mode)) :
    parseTimestampNs ((joinedRecord (entryConfig mode b e) e.seqNum).timestamps t) =
      e.timestampNs (fieldSlot t) := by
  have hdoc := documented_entryConfig hb hsize hip mode
  have hs := (common_entryConfig hb hsize hip mode e.seqNum).mpr rfl
  rcases exists_owner hdoc ht with ⟨f, hf, hpop⟩
  rcases List.getElem?_of_mem hpop with ⟨i, hi⟩
  rcases finalRecord_owned hdoc hs hf hi with ⟨r, v, hr, hv, hrecord⟩
  rcases List.mem_map.mp hf with ⟨ty, -, rfl⟩
  -- the last row is the row of the entry, and its field the printed slot
  have hrow : r = csvFields ty e := by
    rw [lastRow, matchingRows_entryFile hb hsize hip, List.filter_cons, if_pos] at hr
    · exact (Option.some.inj hr).symm
    · simpa using rowSeq_csvFields ty e
  have hslot : (csvSlots ty)[i]? = some (fieldSlot t) := by
    rw [detectedType_entryFile hb hsize] at hi
    rw [← fieldSlot_populatedFields, List.getElem?_map, hi]
    rfl
  have hvalue : v = formatTimestamp (e.timestampNs (fieldSlot t)) := by
    rw [hrow, Nat.add_comm] at hv
    simpa [csvFields, hslot] using hv.symm
  rw [joinedRecord, findCommonSequences_entryConfig hb hsize hip, if_pos (by simp), hrecord,
    hvalue, parseTimestampNs_formatTimestamp]

end Files

/-! ## Agreement -/

theorem filterMap_zip_of_forall {p : Text → Bool} {names values : List Text}
    (hlen : names.length = values.length) (hp : ∀ n ∈ names, p n = true) :
    ((names.zip values).filterMap fun c => if p c.1 then some c.2 else none) = values := by
  have hsnd : ((names.zip values).filterMap fun c => if p c.1 then some c.2 else none) =
      (names.zip values).filterMap fun c => some c.2 := by
    apply List.filterMap_congr
    rintro ⟨n, v⟩ hc
    rw [if_pos (hp n (List.of_mem_zip hc).1)]
  rw [hsnd, List.filterMap_eq_map', List.map_snd_zip (by omega)]

/-- The delta columns of the row of a record. -/
theorem deltaColumns_recordFields (config : Config) (record : Record) :
    deltaColumns config (recordFields config record) =
      (calculateModeDeltas record config.mode config.target).map (formatDeltaToBuffer · 16) := by
  have hother : ∀ n : Text, ¬ "delta_".toList <+: n → "delta_".toList.isPrefixOf n = false := by
    intro n hn
    rw [← Bool.not_eq_true, List.isPrefixOf_iff_prefix]
    exact hn
  rw [deltaColumns, outputColumns, outputColumns_eq, recordFields,
    List.zip_append (by simp [idColumns]), List.filterMap_append]
  have hfront : ∀ values : List Text,
      (((idColumns ++ (outputTimestamps config.mode config.target).map fieldName).zip
        values).filterMap fun c =>
          if "delta_".toList.isPrefixOf c.1 then some c.2 else none) = [] := by
    intro values
    rw [List.filterMap_eq_nil_iff]
    rintro ⟨n, v⟩ hc
    -- the columns in front of the deltas have other names
    rcases List.mem_append.mp (List.of_mem_zip hc).1 with hn | hn
    · rw [hother n (not_delta_start.1 n hn)]
      rfl
    · rcases List.mem_map.mp hn with ⟨t, -, rfl⟩
      rw [hother _ (not_delta_start.2 t)]
      rfl
  rw [hfront, List.nil_append]
  apply filterMap_zip_of_forall
  · simp only [List.length_map, calculateModeDeltas, ← List.map_filterMap]
  · intro n hn
    rcases List.mem_filterMap.mp hn with ⟨i, -, hi⟩
    rcases Option.map_eq_some_iff.mp hi with ⟨d, hd, rfl⟩
    have hname := (delta_names d (List.mem_of_getElem? hd)).1
    exact List.isPrefixOf_iff_prefix.mpr hname.2.2.1

/-- For every mode and every array of timestamps below `2^63`, the join of the
CSV files that were written for an entry, from a write buffer of `256 * b` bytes,
has one row, its delta columns are those of the mode, and each agrees with the
statistics engine. -/
theorem online_offline_agree (mode : StatsMode) (entry : StatsEntry) (e : CsvEntry)
    (hsame : e.timestampNs = entry.timestampNs)
    (hts : ∀ j, (entry.timestampNs j).toNat < 2 ^ 63) (hip : e.srcIp.Clean) (b : UInt32)
    (hb : 2 ≤ b.toNat) :
    ∃ out row, processJoinOperation (entryConfig mode b.toNat e) = some out ∧
      outputRows out = [row] ∧
      (deltaColumns (entryConfig mode b.toNat e) row).length = (modeDeltas mode).length ∧
      ∀ (k : Nat) (i : Fin 12) (col : Text), (modeDeltas mode)[k]? = some i →
        (deltaColumns (entryConfig mode b.toNat e) row)[k]? = some col →
        ∀ analysis config, DeltasAgree entry i col analysis config := by
  have hb32 := b.toNat_lt
  have hsize : 256 * b.toNat < 2 ^ 64 := by omega
  have hdoc := documented_entryConfig hb hsize hip mode
  have hs := (common_entryConfig hb hsize hip mode e.seqNum).mpr rfl
  -- the join of the one entry has the one record
  have hclean : ∀ r ∈ [joinedRecord (entryConfig mode b.toNat e) e.seqNum], CleanRecord r := by
    intro r hr
    rw [List.mem_singleton.mp hr]
    exact cleanRecord_joinedRecord hdoc.wellFormedInput hs
  have hout := processJoinOperation_eq hdoc.wellFormedInput ⟨_, hs⟩
  rw [findCommonSequences_entryConfig hb hsize hip] at hout
  have hdeltas : calculateModeDeltas (joinedRecord (entryConfig mode b.toNat e) e.seqNum)
      (joinMode mode) (joinTarget mode) = (modeDeltas mode).map fun i => calculateDeltaFast
        (e.timestampNs (allDeltas i).1) (e.timestampNs (allDeltas i).2) :=
    calculateModeDeltas_eq fun t ht => parseTimestampNs_joinedRecord hb hsize hip mode ht
  -- its delta columns are those of the entry's timestamps
  have hcols : deltaColumns (entryConfig mode b.toNat e) (recordFields (entryConfig mode b.toNat e)
      (joinedRecord (entryConfig mode b.toNat e) e.seqNum)) =
      (modeDeltas mode).map fun i => formatDeltaToBuffer (calculateDeltaFast
        (entry.timestampNs (allDeltas i).1) (entry.timestampNs (allDeltas i).2)) 16 := by
    rw [deltaColumns_recordFields]
    show (calculateModeDeltas _ (joinMode mode) (joinTarget mode)).map _ = _
    rw [hdeltas, hsame, List.map_map]
    rfl
  refine ⟨_, _, hout, outputRows_writeOutputCsv hclean (targetIp_clean hdoc.wellFormedInput hs), ?_, ?_⟩
  · rw [hcols, List.length_map]
  · intro k i col hi hcol analysis config
    rw [hcols, List.getElem?_map, hi] at hcol
    rw [← Option.some.inj hcol]
    exact deltasAgree hts i analysis config

/-- A round trip of the client with all timestamps one nanosecond apart. -/
theorem online_offline_agree_sample :
    ∃ out row,
      processJoinOperation (entryConfig .clientRoundtrip 10000 (sampleEntry 7)) = some out ∧
      outputRows out = [row] ∧
      (deltaColumns (entryConfig .clientRoundtrip 10000 (sampleEntry 7)) row).length = 6 ∧
      ∀ (k : Nat) (i : Fin 12) (col : Text), (modeDeltas .clientRoundtrip)[k]? = some i →
        (deltaColumns (entryConfig .clientRoundtrip 10000 (sampleEntry 7)) row)[k]? = some col →
        ∀ analysis config,
          DeltasAgree ⟨7, (sampleEntry 7).timestampNs, 40000, 2, 0x7F⟩ i col analysis config := by
  have hts : ∀ j, ((sampleEntry 7).timestampNs j).toNat < 2 ^ 63 := by
    show ∀ j : Fin 12, (UInt64.ofNat (1700000000000000000 + j.val)).toNat < 2 ^ 63
    decide
  exact online_offline_agree .clientRoundtrip ⟨7, (sampleEntry 7).timestampNs, 40000, 2, 0x7F⟩
    (sampleEntry 7) rfl hts (clean_sampleEntry 7) 10000 (by decide)

end TradingLatency
