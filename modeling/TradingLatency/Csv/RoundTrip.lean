import TradingLatency.Csv.Format
import TradingLatency.Csv.Parsing
import Mathlib.Data.Nat.Log

/-!
# The writer's rows, read by the join program

`csvFormatBatch` and the reading functions of the join program agree: every
entry that is printed becomes one complete line, and the line gives the entry
back.

The formatter stops before an entry once fewer than 257 bytes are left, and a
row has at most 165 characters. So all of a batch is printed if and only if 257
bytes are left in front of its last row (`csvFormatBatch_eq_take`). A write
buffer of 256 bytes per entry is large enough from two entries on; but the size
that `csv_buffer_create` computes is a 32-bit product, so this is what it
allocates for fewer than `2^24` entries only (`fitsBuffer_of_lt`).
-/

namespace TradingLatency

open CText Csvjoin

/-- A source address that can stand in a CSV field as it is. -/
def IpText.Clean (ip : IpText) : Prop :=
  ∀ c ∈ ip.text, c ≠ ',' ∧ c ≠ '"' ∧ isspace c = false

/-- The column names of a CSV format. -/
def csvColumns (ty : CsvType) : List Text := (getCsvHeader ty).splitOn ','

/-- The line gives the entry back: split by `parseCsvLine`, it has one field per
column; address, port and sequence number are those of the entry; and the field
under each timestamp column is read as the value of the slot with that name. -/
def ReadsBack (ty : CsvType) (e : CsvEntry) (line : Text) : Prop :=
  let fields := parseCsvLine line maxCsvFields
  fields.length = (csvColumns ty).length ∧
  fields[0]? = some e.srcIp.text ∧
  (∃ port, fields[1]? = some port ∧ UInt16.ofInt (atoi port) = e.srcPort) ∧
  extractSequenceNumber fields = some e.seqNum ∧
  ∀ k name, (csvColumns ty)[3 + k]? = some name →
    ∃ slot ts, slotName slot = name ∧ fields[3 + k]? = some ts ∧
      parseTimestampNs ts = e.timestampNs slot

/-! ## Headers -/

set_option maxRecDepth 2000 in
/-- The header of a format names its identification columns and then the slots
that its branch of the formatter prints. -/
theorem csvColumns_eq (ty : CsvType) :
    csvColumns ty = "clt_src_ip".toList :: "clt_src_port".toList :: "seq_num".toList ::
      (csvSlots ty).map slotName := by
  cases ty <;> refine splitOn_literal ?_ <;> rfl

/-! ## Lines -/

theorem decPad_nine_length (ns : UInt64) : (decPad 9 (ns.toNat % nsPerSec)).length = 9 := by
  apply length_decPad (by decide)
  have h : ns.toNat % nsPerSec < nsPerSec := Nat.mod_lt _ (by decide)
  simpa [nsPerSec] using h

theorem formatTimestamp_length_le (ns : UInt64) : (formatTimestamp ns).length ≤ 21 := by
  have hns := ns.toNat_lt
  have hsec : (dec (ns.toNat / nsPerSec)).length ≤ 11 := by
    apply length_dec_le (by decide)
    unfold nsPerSec
    omega
  simp only [formatTimestamp, List.length_append, List.length_cons, decPad_nine_length]
  omega

theorem isspace_formatTimestamp (ns : UInt64) : ∀ c ∈ formatTimestamp ns,
    c ≠ ',' ∧ c ≠ '"' ∧ isspace c = false ∧ c ≠ nul := by
  intro c hc
  have hdigit : c.isDigit → c ≠ ',' ∧ c ≠ '"' ∧ isspace c = false ∧ c ≠ nul := by
    intro hd
    refine ⟨?_, ?_, isspace_of_isDigit hd, ?_⟩ <;> rintro rfl <;> revert hd <;> decide
  rcases List.mem_append.mp hc with h | h
  · exact hdigit ((isDecimal_dec _).2 c h)
  · rcases List.mem_cons.mp h with rfl | h
    · decide
    · exact hdigit ((isDecimal_decPad _ _).2 c h)

theorem csvLine_length_le (ty : CsvType) (e : CsvEntry) : (csvLine ty e).length ≤ 164 := by
  have hip := e.srcIp.length_le
  have hport : (dec e.srcPort.toNat).length ≤ 5 := by
    apply length_dec_le (by decide)
    have := e.srcPort.toNat_lt
    omega
  have hseq : (dec e.seqNum.toNat).length ≤ 10 := by
    apply length_dec_le (by decide)
    have := e.seqNum.toNat_lt
    omega
  have hts := fun i => formatTimestamp_length_le (e.timestampNs i)
  have h0 := hts 0; have h1 := hts 1; have h2 := hts 2; have h3 := hts 3
  have h4 := hts 4; have h5 := hts 5; have h6 := hts 6; have h7 := hts 7
  have h8 := hts 8; have h9 := hts 9; have h10 := hts 10; have h11 := hts 11
  cases ty <;>
    simp only [csvLine, csvFields, csvSlots, intercalate_cons_eq, List.map_cons, List.map_nil,
      List.flatMap_cons, List.flatMap_nil, List.length_append, List.length_cons,
      List.length_nil] <;>
    omega

/-! ## Lengths of rows -/

/-- The number of digits with which a number is printed. -/
def decDigits (n : Nat) : Nat := Nat.log 10 n + 1

/-- The characters that the timestamps of some slots take: a comma, the
seconds, a point and nine digits each. -/
def timestampsLength (ts : Slots) : List (Fin 12) → Nat
  | [] => 0
  | i :: slots => decDigits ((ts i).toNat / nsPerSec) + 11 + timestampsLength ts slots

/-- The characters that the row of an entry takes, with its newline. -/
def rowLength (ty : CsvType) (e : CsvEntry) : Nat :=
  e.srcIp.text.length + decDigits e.srcPort.toNat + decDigits e.seqNum.toNat + 3 +
    timestampsLength e.timestampNs (csvSlots ty)

/-- The characters that the rows of a list of entries take. -/
def rowsLength (ty : CsvType) : List CsvEntry → Nat
  | [] => 0
  | e :: batch => rowLength ty e + rowsLength ty batch

/-- The row of an entry with its newline. -/
def csvRow (ty : CsvType) (e : CsvEntry) : Text := csvLine ty e ++ ['\n']

theorem length_dec (n : Nat) : (dec n).length = decDigits n := by
  have hpos : 0 < (dec n).length := List.length_pos_iff.mpr (dec_ne_nil n)
  apply le_antisymm
  · exact length_dec_le (Nat.succ_pos _) (Nat.lt_pow_succ_log_self (by decide) n)
  · -- a number of that many digits is not below the power of ten in front of it
    by_contra hlt
    rw [decDigits, not_le, Nat.lt_succ_iff] at hlt
    have hn : n ≠ 0 := by
      rintro rfl
      rw [Nat.log_zero_right] at hlt
      omega
    have hlow := Nat.pow_log_le_self 10 hn
    have hup := (Nat.length_toDigits_le_iff (by decide) (by omega)).mp hlt
    omega

theorem length_formatTimestamp (ns : UInt64) :
    (formatTimestamp ns).length = decDigits (ns.toNat / nsPerSec) + 10 := by
  simp only [formatTimestamp, List.length_append, List.length_cons, decPad_nine_length,
    length_dec]

theorem length_csvRow (ty : CsvType) (e : CsvEntry) : (csvRow ty e).length = rowLength ty e := by
  have hslots : ∀ slots : List (Fin 12),
      ((slots.map fun i => formatTimestamp (e.timestampNs i)).flatMap (',' :: ·)).length =
        timestampsLength e.timestampNs slots := by
    intro slots
    induction slots with
    | nil => rfl
    | cons i slots ih =>
      simp only [List.map_cons, List.flatMap_cons, List.length_append, List.length_cons,
        length_formatTimestamp, ih, timestampsLength]
  simp only [csvRow, csvLine, csvFields, intercalate_cons_eq, List.flatMap_cons,
    List.length_append, List.length_cons, List.length_nil, hslots, length_dec,
    rowLength]
  omega

theorem rowLength_le (ty : CsvType) (e : CsvEntry) : rowLength ty e ≤ 165 := by
  have hline := csvLine_length_le ty e
  rw [← length_csvRow, csvRow, List.length_append, List.length_singleton]
  omega

theorem rowsLength_le (ty : CsvType) (batch : List CsvEntry) :
    rowsLength ty batch ≤ 165 * batch.length := by
  induction batch with
  | nil => exact Nat.zero_le _
  | cons e batch ih =>
    have := rowLength_le ty e
    rw [rowsLength, List.length_cons]
    omega

/-! ## The formatter -/

/-- Room for the rows of a batch: 257 bytes are left in front of the last one. -/
def RowsFit (ty : CsvType) (bufferSize : Nat) (batch : List CsvEntry) : Prop :=
  batch = [] ∨ rowsLength ty batch.dropLast + 256 < bufferSize

section Formatter

variable (ty : CsvType) {bufferSize : Nat} (hmin : 256 ≤ bufferSize) (hmax : bufferSize < 2 ^ 64)

include hmin hmax

/-- The loop appends the rows of the first `j` entries in full, and `j` is the
number of all entries exactly if 257 bytes are left in front of the last row. -/
theorem csvFormatLoop_eq_take (batch : List CsvEntry) (text : Text)
    (htext : text.length < bufferSize) :
    ∃ j ≤ batch.length,
      csvFormatLoop ty bufferSize batch ⟨text, text.length⟩ =
        ⟨text ++ (batch.take j).flatMap (csvRow ty),
          (text ++ (batch.take j).flatMap (csvRow ty)).length⟩ ∧
      (text ++ (batch.take j).flatMap (csvRow ty)).length < bufferSize ∧
      (j = batch.length ↔
        batch = [] ∨ text.length + rowsLength ty batch.dropLast + 256 < bufferSize) := by
  induction batch generalizing text with
  | nil => exact ⟨0, le_rfl, by simp [csvFormatLoop], by simpa using htext, by simp⟩
  | cons e batch ih =>
    have hrow := rowLength_le ty e
    rw [csvFormatLoop, sizeSub_of_le hmin hmax]
    by_cases hguard : text.length < bufferSize - 256
    · -- the row fits: the loop goes on behind it
      have hprint : OutBuf.snprintf bufferSize ⟨text, text.length⟩ (csvRow ty e) =
          ⟨text ++ csvRow ty e, (text ++ csvRow ty e).length⟩ := by
        apply OutBuf.snprintf_fits rfl _ hmax
        simp only [length_csvRow]
        omega
      have hnext : (text ++ csvRow ty e).length < bufferSize := by
        rw [List.length_append, length_csvRow]
        omega
      rcases ih (text ++ csvRow ty e) hnext with ⟨j, hj, hloop, hlt, hall⟩
      refine ⟨j + 1, Nat.succ_le_succ hj, ?_, ?_, ?_⟩
      · rw [if_pos hguard]
        change csvFormatLoop ty bufferSize batch (OutBuf.snprintf _ _ (csvRow ty e)) = _
        rw [hprint, hloop, List.take_succ_cons, List.flatMap_cons, List.append_assoc]
      · rwa [List.take_succ_cons, List.flatMap_cons, ← List.append_assoc]
      · rw [List.length_cons, Nat.add_right_cancel_iff, hall]
        rw [List.length_append, length_csvRow]
        cases batch with
        | nil =>
          -- the last row is in front of nothing: the guard itself
          have hlast : text.length + 256 < bufferSize := by omega
          simpa [rowsLength] using hlast
        | cons e' batch =>
          simp only [List.dropLast_cons_cons, rowsLength, reduceCtorEq, false_or]
          omega
    · -- fewer than 257 bytes are left: the loop ends in front of this row
      refine ⟨0, Nat.zero_le _, by simp [if_neg hguard], by simpa using htext, ?_⟩
      refine iff_of_false (Nat.succ_ne_zero _).symm ?_
      rintro (h | h)
      · exact absurd h (List.cons_ne_nil _ _)
      · omega

/-- What is left in the buffer are the rows of the first entries of the batch,
and of all its entries exactly if they fit. -/
theorem csvFormatBatch_eq_take (batch : List CsvEntry) :
    ∃ j ≤ batch.length,
      csvFormatBatch batch batch.length bufferSize ty = (batch.take j).flatMap (csvRow ty) ∧
      (j = batch.length ↔ RowsFit ty bufferSize batch) := by
  rcases csvFormatLoop_eq_take ty hmin hmax batch [] (by simp; omega) with
    ⟨j, hj, hloop, hlt, hall⟩
  refine ⟨j, hj, ?_, by simpa [RowsFit] using hall⟩
  simp only [List.length_nil, List.nil_append] at hloop hlt
  simp only [csvFormatBatch, Int.toNat_natCast, List.take_length, OutBuf.empty, hloop, if_pos hlt]

end Formatter

/-- A batch for whose rows there is room is formatted completely. -/
theorem csvFormatBatch_of_rowsFit {ty : CsvType} {bufferSize : Nat} (hmin : 256 ≤ bufferSize)
    (hmax : bufferSize < 2 ^ 64) {batch : List CsvEntry} (h : RowsFit ty bufferSize batch) :
    csvFormatBatch batch batch.length bufferSize ty = batch.flatMap (csvRow ty) := by
  rcases csvFormatBatch_eq_take ty hmin hmax batch with ⟨j, -, hbatch, hall⟩
  rw [hbatch, hall.mpr h, List.take_length]

/-- There is room for the rows of a batch in 256 bytes per entry, if the buffer
is made for at least two. -/
theorem rowsFit_of_length_le (ty : CsvType) {b : Nat} (hb : 2 ≤ b) {batch : List CsvEntry}
    (hlen : batch.length ≤ b) : RowsFit ty (256 * b) batch := by
  by_cases hnil : batch = []
  · exact .inl hnil
  · right
    have hle := rowsLength_le ty batch.dropLast
    have hpos := List.length_pos_iff.mpr hnil
    rw [List.length_dropLast] at hle
    omega

/-- A batch that fits the batch size is formatted completely. -/
theorem csvFormatBatch_eq (ty : CsvType) (b : Nat) (hb : 2 ≤ b) (hsize : 256 * b < 2 ^ 64)
    (batch : List CsvEntry) (hlen : batch.length ≤ b) :
    csvFormatBatch batch batch.length (256 * b) ty =
      batch.flatMap fun e => csvLine ty e ++ ['\n'] :=
  csvFormatBatch_of_rowsFit (by omega) hsize (rowsFit_of_length_le ty hb hlen)

/-! ## Reading a line back -/

theorem plainField_formatTimestamp (ns : UInt64) : PlainField (formatTimestamp ns) := by
  refine ⟨?_, ?_, unpadded_of_forall fun c hc => (isspace_formatTimestamp ns c hc).2.2.1⟩
  · intro h
    exact (isspace_formatTimestamp ns _ h).1 rfl
  · intro h
    exact (isspace_formatTimestamp ns _ h).2.1 rfl

theorem plainField_ip {ip : IpText} (h : ip.Clean) : PlainField ip.text := by
  refine ⟨?_, ?_, unpadded_of_forall fun c hc => (h c hc).2.2⟩
  · intro hc
    exact (h _ hc).1 rfl
  · intro hc
    exact (h _ hc).2.1 rfl

theorem plainField_csvFields (ty : CsvType) {e : CsvEntry} (hip : e.srcIp.Clean) :
    ∀ f ∈ csvFields ty e, PlainField f := by
  intro f hf
  simp only [csvFields, List.mem_cons, List.mem_map] at hf
  rcases hf with rfl | rfl | rfl | ⟨i, -, rfl⟩
  · exact plainField_ip hip
  · exact plainField_of_isDecimal (isDecimal_dec _)
  · exact plainField_of_isDecimal (isDecimal_dec _)
  · exact plainField_formatTimestamp _

theorem csvFields_length_le (ty : CsvType) (e : CsvEntry) :
    (csvFields ty e).length ≤ maxCsvFields := by
  cases ty <;> simp [csvFields, csvSlots, maxCsvFields]

/-- The join program splits a row of the writer into the fields it was made of. -/
theorem parseCsvLine_csvLine (ty : CsvType) {e : CsvEntry} (hip : e.srcIp.Clean) :
    parseCsvLine (csvLine ty e) maxCsvFields = csvFields ty e :=
  parseCsvLine_intercalate (by simp [csvFields]) (plainField_csvFields ty hip)
    (csvFields_length_le ty e)

/-- A printed timestamp is read as the value it was printed from, for every
64-bit value. -/
theorem parseTimestampNs_formatTimestamp (ns : UInt64) :
    parseTimestampNs (formatTimestamp ns) = ns := by
  have hns := ns.toNat_lt
  have hfrac : fractionDigits (decPad 9 (ns.toNat % nsPerSec)) = decPad 9 (ns.toNat % nsPerSec) :=
    fractionDigits_of_length (decPad_nine_length ns)
  rw [formatTimestamp, parseTimestampNs_decimal (isDecimal_dec _), hfrac, decimalValue_dec,
    decimalValue_decPad]
  · have hdiv : ns.toNat / nsPerSec * 1000000000 + ns.toNat % nsPerSec = ns.toNat := by
      unfold nsPerSec
      omega
    rw [hdiv, UInt64.ofNat_toNat]
  · rw [decimalValue_dec]
    unfold nsPerSec
    omega
  · rw [hfrac]
    exact isDecimal_decPad _ _
  · rw [hfrac, decimalValue_decPad]
    unfold nsPerSec
    omega

theorem readsBack_csvLine (ty : CsvType) {e : CsvEntry} (hip : e.srcIp.Clean) :
    ReadsBack ty e (csvLine ty e) := by
  have hport := e.srcPort.toNat_lt
  have hseq := e.seqNum.toNat_lt
  simp only [ReadsBack, parseCsvLine_csvLine ty hip, csvColumns_eq]
  refine ⟨by simp [csvFields], by simp [csvFields], ?_, ?_, ?_⟩
  · refine ⟨dec e.srcPort.toNat, by simp [csvFields], ?_⟩
    rw [atoi_decimal _ (isDecimal_dec _) (by rw [decimalValue_dec]; omega), decimalValue_dec,
      uint16_ofInt_natCast, UInt16.ofNat_toNat]
  · rw [csvFields, extractSequenceNumber_decimal (isDecimal_dec _)
      (by rw [decimalValue_dec]; omega), decimalValue_dec, UInt32.ofNat_toNat]
  · intro k name hname
    -- column and field of index `3 + k` both come from the `k`-th slot
    have hk : ((csvSlots ty).map slotName)[k]? = some name := by
      simpa [Nat.add_comm 3 k] using hname
    rw [List.getElem?_map] at hk
    rcases hslot : (csvSlots ty)[k]? with _ | slot
    · simp [hslot] at hk
    · refine ⟨slot, formatTimestamp (e.timestampNs slot), by simpa [hslot] using hk, ?_,
        parseTimestampNs_formatTimestamp _⟩
      simp [csvFields, Nat.add_comm 3 k, hslot]

theorem isPlain_csvLine (ty : CsvType) {e : CsvEntry} (hip : e.srcIp.Clean) :
    IsPlain (csvLine ty e) := by
  have hall : ∀ c ∈ csvLine ty e, c ≠ nul ∧ c ≠ '\r' ∧ c ≠ '\n' := by
    intro c hc
    have hdigit : c.isDigit → c ≠ nul ∧ c ≠ '\r' ∧ c ≠ '\n' := by
      intro hd
      refine ⟨?_, ?_, ?_⟩ <;> rintro rfl <;> revert hd <;> decide
    have hspace : isspace c = false → c ≠ '\r' ∧ c ≠ '\n' := by
      intro hs
      refine ⟨?_, ?_⟩ <;> rintro rfl <;> revert hs <;> decide
    rcases mem_intercalate hc with rfl | ⟨f, hf, hcf⟩
    · decide
    · simp only [csvFields, List.mem_cons, List.mem_map] at hf
      rcases hf with rfl | rfl | rfl | ⟨i, -, rfl⟩
      · exact ⟨fun h => e.srcIp.nul_not_mem (h ▸ hcf), hspace (hip c hcf).2.2⟩
      · exact hdigit ((isDecimal_dec _).2 c hcf)
      · exact hdigit ((isDecimal_dec _).2 c hcf)
      · have h := isspace_formatTimestamp _ c hcf
        exact ⟨h.2.2.2, hspace h.2.2.1⟩
  exact ⟨fun h => (hall _ h).1 rfl, fun h => (hall _ h).2.1 rfl, fun h => (hall _ h).2.2 rfl⟩

/-! ## The round trip -/

/-- Writer and reader agree on a batch: formatted into the write buffer of
`csv_buffer_create`, with its length as `int count`, it is one complete line per
entry in order, and each line gives its entry back. In a write buffer of no bytes
`buffer[0]` is already outside, which counts as failing. -/
def RoundTrips (c : CsvBufferConfig) (batch : List CsvEntry) : Prop :=
  0 < c.writeBufferSize ∧
  ∃ lines : List Text,
    csvFormatBatch batch ((batch.length : Int).bmod (2 ^ 32)) c.writeBufferSize c.csvType =
      lines.flatMap (· ++ ['\n']) ∧
    lines.length = batch.length ∧
    (∀ line ∈ lines, IsPlain line) ∧
    ∀ (i : Nat) e line, batch[i]? = some e → lines[i]? = some line → ReadsBack c.csvType e line

/-- The condition on the sizes: the number of entries is an `int`, the 32-bit
product is not zero, and 257 bytes of it are left in front of the last row. -/
def FitsBuffer (c : CsvBufferConfig) (batch : List CsvEntry) : Prop :=
  batch.length < 2 ^ 31 ∧ 0 < c.writeBufferSize ∧ RowsFit c.csvType c.writeBufferSize batch

theorem CsvBufferConfig.writeBufferSize_eq (c : CsvBufferConfig) :
    c.writeBufferSize = c.batchSize.toNat * 256 % 2 ^ 32 :=
  UInt32.toNat_mul _ _

/-- For fewer than `2^24` entries per batch the product does not wrap, and every
batch has room. -/
theorem fitsBuffer_of_lt {c : CsvBufferConfig} (hb : 2 ≤ c.batchSize.toNat)
    (hlt : c.batchSize.toNat < 2 ^ 24) {batch : List CsvEntry}
    (hlen : batch.length ≤ c.batchSize.toNat) : FitsBuffer c batch := by
  have hsize : c.writeBufferSize = 256 * c.batchSize.toNat := by
    rw [c.writeBufferSize_eq]
    omega
  refine ⟨by omega, by omega, ?_⟩
  rw [hsize]
  exact rowsFit_of_length_le _ hb hlen

/-- Plain lines have one newline each. -/
theorem count_newline_of_isPlain {lines : List Text} (h : ∀ line ∈ lines, IsPlain line) :
    (lines.flatMap (· ++ ['\n'])).count '\n' = lines.length := by
  induction lines with
  | nil => rfl
  | cons line lines ih =>
    have hline : line.count '\n' = 0 := List.count_eq_zero.mpr (h line (by simp)).2.2
    rw [List.flatMap_cons, List.count_append, List.count_append, hline,
      ih fun l hl => h l (List.mem_cons_of_mem _ hl), List.length_cons]
    simp [Nat.add_comm]

theorem flatMap_csvRow (ty : CsvType) (batch : List CsvEntry) :
    batch.flatMap (csvRow ty) = (batch.map (csvLine ty)).flatMap (· ++ ['\n']) := by
  rw [List.flatMap_map]
  rfl

theorem isPlain_of_mem_csvLines (ty : CsvType) {batch : List CsvEntry}
    (hip : ∀ e ∈ batch, e.srcIp.Clean) : ∀ line ∈ batch.map (csvLine ty), IsPlain line := by
  intro line hline
  rcases List.mem_map.mp hline with ⟨e, he, rfl⟩
  exact isPlain_csvLine ty (hip e he)

theorem count_newline_csvRows (ty : CsvType) {batch : List CsvEntry}
    (hip : ∀ e ∈ batch, e.srcIp.Clean) :
    (batch.flatMap (csvRow ty)).count '\n' = batch.length := by
  rw [flatMap_csvRow, count_newline_of_isPlain (isPlain_of_mem_csvLines ty hip), List.length_map]

/-- Writer and reader agree on a batch if and only if it fits the sizes. -/
theorem csv_batch_round_trip_iff (c : CsvBufferConfig) (hb : 2 ≤ c.batchSize.toNat)
    (batch : List CsvEntry) (hlen : batch.length ≤ c.batchSize.toNat)
    (hip : ∀ e ∈ batch, e.srcIp.Clean) : RoundTrips c batch ↔ FitsBuffer c batch := by
  have hb32 := c.batchSize.toNat_lt
  have hsize := c.writeBufferSize_eq
  have hmax : c.writeBufferSize < 2 ^ 64 := by omega
  have hmin : 0 < c.writeBufferSize → 256 ≤ c.writeBufferSize := by omega
  have hcount : batch.length < 2 ^ 31 → (batch.length : Int).bmod (2 ^ 32) = batch.length := by
    intro hint
    apply Int.bmod_eq_of_le <;> omega
  constructor
  · rintro ⟨hpos, lines, hformat, hlines, hplain, -⟩
    have hnewlines := count_newline_of_isPlain hplain
    rw [← hformat] at hnewlines
    by_cases hint : batch.length < 2 ^ 31
    · rcases csvFormatBatch_eq_take c.csvType (hmin hpos) hmax batch with ⟨j, hj, hbatch, hall⟩
      refine ⟨hint, hpos, hall.mp ?_⟩
      -- the newlines count the rows that were printed
      have hrows : ((batch.take j).flatMap (csvRow c.csvType)).count '\n' = j := by
        rw [count_newline_csvRows _ fun e he => hip e (List.mem_of_mem_take he),
          List.length_take, Nat.min_eq_left hj]
      rw [hcount hint, hbatch, hrows] at hnewlines
      omega
    · -- the count is negative as an `int`: nothing is printed
      have hneg : ((batch.length : Int).bmod (2 ^ 32)).toNat = 0 := by
        rw [Int.bmod_def]
        omega
      have hnil : csvFormatBatch batch ((batch.length : Int).bmod (2 ^ 32)) c.writeBufferSize
          c.csvType = [] := by
        simp only [csvFormatBatch, hneg, List.take_zero, csvFormatLoop, OutBuf.empty, List.take_nil]
      rw [hnil, List.count_nil] at hnewlines
      omega
  · rintro ⟨hint, hpos, hfits⟩
    refine ⟨hpos, batch.map (csvLine c.csvType), ?_, by simp, isPlain_of_mem_csvLines _ hip, ?_⟩
    · rw [hcount hint, csvFormatBatch_of_rowsFit (hmin hpos) hmax hfits, flatMap_csvRow]
    · intro i e line he hline
      rw [List.getElem?_map, he] at hline
      cases hline
      exact readsBack_csvLine _ (hip e (List.mem_of_getElem? he))

theorem length_sampleIp : "10.0.0.1".toList.length ≤ 15 := by
  decide

/-- An entry with a timestamp in every slot. -/
def sampleEntry (seq : UInt32) : CsvEntry where
  seqNum := seq
  timestampNs i := UInt64.ofNat (1700000000000000000 + i.val)
  srcIp := ⟨"10.0.0.1".toList, length_sampleIp, by decide⟩
  srcPort := 40000
  csvType := .clientMainRoundtrip

theorem clean_sampleEntry (seq : UInt32) : (sampleEntry seq).srcIp.Clean := by
  have hip : ∀ c ∈ "10.0.0.1".toList, c ≠ ',' ∧ c ≠ '"' ∧ isspace c = false :=
    forall_of_all (by decide)
  exact hip

/-- The round trip of a full batch of two entries. -/
theorem csv_batch_round_trip_pair :
    RoundTrips ⟨1024, 2, .clientMainRoundtrip⟩ [sampleEntry 4294967295, sampleEntry 0] := by
  refine (csv_batch_round_trip_iff _ (by decide) _ (by decide) ?_).mpr
    (fitsBuffer_of_lt (by decide) (by decide) (by decide))
  intro e he
  simp only [List.mem_cons, List.not_mem_nil, or_false] at he
  rcases he with rfl | rfl
  · exact clean_sampleEntry _
  · exact clean_sampleEntry _

/-- For `2^24 + 1` entries per batch the product has wrapped to 256 bytes, and the
loop never begins: the entry of a batch of one is lost. -/
theorem csv_batch_round_trip_wraps :
    ¬ RoundTrips ⟨1024, 16777217, .clientMainRoundtrip⟩ [sampleEntry 0] := by
  rintro ⟨-, lines, hformat, hlines, -⟩
  have hsize : CsvBufferConfig.writeBufferSize ⟨1024, 16777217, .clientMainRoundtrip⟩ = 256 := by
    decide +kernel
  have hempty : csvFormatBatch [sampleEntry 0] 1 256 .clientMainRoundtrip = [] := rfl
  obtain ⟨line, rfl⟩ := List.length_eq_one_iff.mp hlines
  rw [hsize] at hformat
  have h := hempty.symm.trans hformat
  simp at h

end TradingLatency
