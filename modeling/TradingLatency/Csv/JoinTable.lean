import TradingLatency.Csv.JoinRead
import Mathlib.Data.List.Nodup

/-!
# The record table of the join

The second pass finds the record of a row by binary search and overwrites its
timestamps. Below `2^31` records the search finds every record
(`findRecordBySeq_eq`), so the pass is one fold per record (`populateFiles_eq`)
and the last matching row wins (`timestamps_finalRecord`). From `2^31` records
on the upper bound `(int)record_count - 1` is negative, nothing is found and
the table keeps its `NULL`s (`populateFiles_large`).
-/

namespace TradingLatency.Csvjoin

open CText

/-! ## The binary search -/

/-- The records are strictly ascending by sequence number. -/
def Ascending (records : List Record) : Prop := (records.map (·.seqNum)).Pairwise (· < ·)

theorem Ascending.lt {records : List Record} (h : Ascending records) {i j : Nat} {r q : Record}
    (hij : i < j) (hi : records[i]? = some r) (hj : records[j]? = some q) : r.seqNum < q.seqNum := by
  have hpair := List.pairwise_iff_getElem.mp h
  rcases List.getElem?_eq_some_iff.mp hi with ⟨hi', rfl⟩
  rcases List.getElem?_eq_some_iff.mp hj with ⟨hj', rfl⟩
  have := hpair i j (by simpa using hi') (by simpa using hj') hij
  simpa using this

theorem Ascending.eq_of_seqNum {records : List Record} (h : Ascending records) {i j : Nat}
    {r q : Record} (hi : records[i]? = some r) (hj : records[j]? = some q)
    (heq : r.seqNum = q.seqNum) : i = j := by
  rcases Nat.lt_trichotomy i j with hlt | rfl | hlt
  · exact absurd heq (UInt32.ne_of_lt (h.lt hlt hi hj))
  · rfl
  · exact absurd heq.symm (UInt32.ne_of_lt (h.lt hlt hj hi))

/-- A record with the sequence number can only lie between the bounds. -/
def Within (records : List Record) (seq : UInt32) (left right : Int) : Prop :=
  ∀ (i : Nat) (r : Record), records[i]? = some r → r.seqNum = seq → left ≤ i ∧ (i : Int) ≤ right

/-- Once the bounds have crossed, no record has the sequence number. -/
theorem Within.not_mem {records : List Record} {seq : UInt32} {left right : Int}
    (h : Within records seq left right) (hlt : right < left) :
    ∀ r ∈ records, r.seqNum ≠ seq := by
  intro r hr heq
  rcases List.getElem?_of_mem hr with ⟨i, hi⟩
  have := h i r hi heq
  omega

/-- The loop finds what lies between its bounds; `Within` is its invariant. -/
theorem findRecordLoop_spec {records : List Record} (hasc : Ascending records) (seq : UInt32)
    (fuel : Nat) (left right : Int) (hleft : 0 ≤ left) (hright : right < records.length)
    (hfuel : right - left < fuel) (hin : Within records seq left right) :
    (∃ i r, findRecordLoop records seq fuel left right = some i ∧ records[i]? = some r ∧
        r.seqNum = seq) ∨
      findRecordLoop records seq fuel left right = none ∧ ∀ r ∈ records, r.seqNum ≠ seq := by
  induction fuel generalizing left right with
  | zero => exact Or.inr ⟨rfl, hin.not_mem (by omega)⟩
  | succ fuel ih =>
    by_cases hle : left ≤ right
    · have hmid : (left + (right - left) / 2).toNat < records.length := by omega
      rcases hm : records[(left + (right - left) / 2).toNat]? with _ | m
      · rw [List.getElem?_eq_none_iff] at hm
        omega
      have hcast : (((left + (right - left) / 2).toNat : Nat) : Int) =
          left + (right - left) / 2 := by omega
      by_cases heq : m.seqNum = seq
      · left
        exact ⟨_, m, by simp [findRecordLoop, hle, hm, heq], hm, heq⟩
      · by_cases hlt : m.seqNum < seq
        · -- the record lies behind the middle
          have hin' : Within records seq (left + (right - left) / 2 + 1) right := by
            intro i r hi hr
            refine ⟨?_, (hin i r hi hr).2⟩
            by_contra hge
            rcases Nat.lt_or_eq_of_le (show i ≤ (left + (right - left) / 2).toNat by omega) with h | h
            · have := hasc.lt h hi hm
              rw [hr] at this
              exact UInt32.lt_asymm hlt this
            · rw [h, hm] at hi
              exact heq (by rw [Option.some.inj hi, hr])
          have hnext := ih (left + (right - left) / 2 + 1) right (by omega) hright (by omega) hin'
          simpa only [findRecordLoop, hle, if_true, hm, heq, if_false, hlt] using hnext
        · -- the record lies in front of the middle
          have hgt : seq < m.seqNum :=
            UInt32.lt_of_le_of_ne (UInt32.not_lt.mp hlt) (fun h => heq h.symm)
          have hin' : Within records seq left (left + (right - left) / 2 - 1) := by
            intro i r hi hr
            refine ⟨(hin i r hi hr).1, ?_⟩
            by_contra hge
            rcases Nat.lt_or_eq_of_le (show (left + (right - left) / 2).toNat ≤ i by omega) with h | h
            · have := hasc.lt h hm hi
              rw [hr] at this
              exact UInt32.lt_asymm hgt this
            · rw [← h, hm] at hi
              exact heq (by rw [Option.some.inj hi, hr])
          have hnext := ih left (left + (right - left) / 2 - 1) hleft (by omega) (by omega) hin'
          simpa only [findRecordLoop, hle, if_true, hm, heq, if_false, hlt] using hnext
    · right
      refine ⟨by simp [findRecordLoop, hle], hin.not_mem (by omega)⟩

theorem toCInt_of_lt {n : Nat} (h : n < 2 ^ 31) : toCInt n = n := by
  unfold toCInt
  apply Int.bmod_eq_of_le <;> omega

theorem toCInt_of_ge {n : Nat} (hn : 2 ^ 31 ≤ n) (hn' : n ≤ 2 ^ 32) :
    toCInt n = (n : Int) - 4294967296 := by
  unfold toCInt
  rw [← Int.sub_bmod_right]
  apply Int.bmod_eq_of_le <;> omega

/-- Up to `2^31 - 1` records the search is complete. -/
theorem findRecordBySeq_spec {records : List Record} (hasc : Ascending records)
    (hlen : records.length < 2 ^ 31) (seq : UInt32) :
    (∃ i r, findRecordBySeq records records.length seq = some i ∧ records[i]? = some r ∧
        r.seqNum = seq) ∨
      findRecordBySeq records records.length seq = none ∧ ∀ r ∈ records, r.seqNum ≠ seq := by
  rw [findRecordBySeq, toCInt_of_lt hlen]
  refine findRecordLoop_spec hasc seq _ _ _ Int.le_rfl (by omega) (by omega) ?_
  intro i r hi _
  have := (List.getElem?_eq_some_iff.mp hi).1
  omega

/-- From `2^31` records on the search finds nothing. -/
theorem findRecordBySeq_large {n : Nat} (hn : 2 ^ 31 ≤ n) (hn' : n ≤ 2 ^ 32)
    (records : List Record) (seq : UInt32) : findRecordBySeq records n seq = none := by
  have hneg : ¬ (0 : Int) ≤ toCInt n - 1 := by
    rw [toCInt_of_ge hn hn']
    omega
  rw [findRecordBySeq]
  cases n with
  | zero => rfl
  | succ n => rw [findRecordLoop, if_neg hneg]

/-! ## One row -/

/-- The effect of one row on one record. -/
def updateRecord (config : Config) (ty : FileType) (record : Record) (fields : List Text) :
    Record :=
  if rowMatches config fields ∧ record.seqNum = rowSeq fields then populateRecord ty fields record
  else record

/-- The effect of one row on the table, as the program finds the record. -/
def populateRow (config : Config) (ty : FileType) (records : List Record) (fields : List Text) :
    List Record :=
  if rowMatches config fields then
    match findRecordBySeq records records.length (rowSeq fields) with
    | none => records
    | some idx => records.modify idx (populateRecord ty fields)
  else records

theorem seqNum_foldl_setTimestamp (l : List (Field × Text)) (record : Record) :
    (l.foldl (fun r tf => r.setTimestamp tf.1 tf.2) record).seqNum = record.seqNum := by
  induction l generalizing record with
  | nil => rfl
  | cons tf l ih => rw [List.foldl_cons, ih, Record.setTimestamp]

@[simp] theorem seqNum_populateRecord (ty : FileType) (fields : List Text) (record : Record) :
    (populateRecord ty fields record).seqNum = record.seqNum := by
  unfold populateRecord
  by_cases h : (populatedFields ty).1 ≤ fields.length
  · rw [if_pos h, seqNum_foldl_setTimestamp]
  · rw [if_neg h]

@[simp] theorem seqNum_updateRecord (config : Config) (ty : FileType) (record : Record)
    (fields : List Text) : (updateRecord config ty record fields).seqNum = record.seqNum := by
  unfold updateRecord
  by_cases h : rowMatches config fields ∧ record.seqNum = rowSeq fields
  · rw [if_pos h, seqNum_populateRecord]
  · rw [if_neg h]

/-- Where the search is complete, a row acts on every record on its own. -/
theorem populateRow_eq {config : Config} {ty : FileType} {records : List Record}
    (hasc : Ascending records) (hlen : records.length < 2 ^ 31) (fields : List Text) :
    populateRow config ty records fields =
      records.map fun r => updateRecord config ty r fields := by
  unfold populateRow updateRecord
  by_cases hm : rowMatches config fields = true
  · simp only [hm, if_true, true_and]
    rcases findRecordBySeq_spec hasc hlen (rowSeq fields) with ⟨i, r, hf, hi, hr⟩ | ⟨hf, hno⟩
    · -- only the record that was found has the sequence number
      simp only [hf]
      apply List.ext_getElem?
      intro j
      rw [List.getElem?_modify, List.getElem?_map]
      rcases hj : records[j]? with _ | q
      · simp
      · by_cases hij : i = j
        · subst hij
          rw [hi] at hj
          simp [← Option.some.inj hj, hr]
        · have hq : q.seqNum ≠ rowSeq fields :=
            fun h => hij (hasc.eq_of_seqNum hi hj (hr.trans h.symm))
          simp [hij, hq]
    · simp only [hf]
      rw [List.map_congr_left (g := id), List.map_id]
      intro r hr
      simp [hno r hr]
  · simp [hm]

/-- From `2^31` records on a row has no effect. -/
theorem populateRow_large {records : List Record} (hlen : 2 ^ 31 ≤ records.length)
    (hlen' : records.length ≤ 2 ^ 32) (config : Config) (ty : FileType) (fields : List Text) :
    populateRow config ty records fields = records := by
  unfold populateRow
  rw [findRecordBySeq_large hlen hlen']
  exact ite_self _

/-! ## The whole second pass -/

/-- A pass over the rows of a file. -/
theorem populateTimestampsFromFile_eq {config : Config} {file : InputFile}
    (hwf : WellFormedFile file) (records : List Record) :
    populateTimestampsFromFile file config.targetIp config.targetPort records records.length =
      (rows file.contents).foldl (populateRow config file.detectedType) records := by
  -- no row changes the length of the table
  apply foldl_dataReads hwf (fun table => table.length = records.length) _ _ _ rfl
  · intro table read h
    simp [populateLine, h]
  · intro table read hlen hne hrow
    have h3 := three_le_length hrow
    have hread : (chop read).length ≠ 0 := fun h => hne (List.length_eq_zero_iff.mp h)
    simp only [populateLine, if_neg hread, parseCsvLine_wellFormed hrow,
      if_neg (show ¬ ((chop read).splitOn ',').length < 3 by omega),
      validateRecordMatch_wellFormed config hrow, extractSequenceNumber_wellFormed hrow]
    rw [← hlen]
    rfl
  · -- a row changes at most the record that it finds, in its place
    intro table fields hlen _
    unfold populateRow
    split
    · split
      · exact hlen
      · rw [List.length_modify, hlen]
    · exact hlen

/-- The rows of one file applied to one record. -/
def updateFromFile (config : Config) (record : Record) (file : InputFile) : Record :=
  (rows file.contents).foldl (updateRecord config file.detectedType) record

theorem seqNum_foldl_updateRecord (config : Config) (ty : FileType) (rs : List (List Text))
    (record : Record) : (rs.foldl (updateRecord config ty) record).seqNum = record.seqNum := by
  induction rs generalizing record with
  | nil => rfl
  | cons r rs ih => rw [List.foldl_cons, ih, seqNum_updateRecord]

@[simp] theorem seqNum_updateFromFile (config : Config) (record : Record) (file : InputFile) :
    (updateFromFile config record file).seqNum = record.seqNum :=
  seqNum_foldl_updateRecord config file.detectedType (rows file.contents) record

theorem ascending_map {records : List Record} (hasc : Ascending records) (f : Record → Record)
    (hf : ∀ r, (f r).seqNum = r.seqNum) : Ascending (records.map f) := by
  unfold Ascending at hasc ⊢
  rw [List.map_map, show (fun r : Record => r.seqNum) ∘ f = fun r => r.seqNum from funext hf]
  exact hasc

theorem foldl_populateRow {config : Config} {ty : FileType} (rs : List (List Text))
    {records : List Record} (hasc : Ascending records) (hlen : records.length < 2 ^ 31) :
    rs.foldl (populateRow config ty) records =
      records.map fun r => rs.foldl (updateRecord config ty) r := by
  induction rs generalizing records with
  | nil => simp
  | cons r rs ih =>
    rw [List.foldl_cons, populateRow_eq hasc hlen,
      ih (ascending_map hasc _ fun q => seqNum_updateRecord config ty q r) (by simpa using hlen),
      List.map_map]
    rfl

/-- The record of `s` after all files. -/
def finalRecord (config : Config) (s : UInt32) : Record :=
  config.inputFiles.foldl (updateFromFile config) ⟨s, fun _ => "NULL".toList⟩

/-- The loop of `process_join_operation` over the files. -/
def populateFiles (config : Config) (recordCount : Nat) (files : List InputFile)
    (records : List Record) : List Record :=
  files.foldl (fun records file => populateTimestampsFromFile file config.targetIp
    config.targetPort records recordCount) records

theorem populateFiles_eq {config : Config} {files : List InputFile}
    (hwf : ∀ f ∈ files, WellFormedFile f) {records : List Record}
    (hasc : Ascending records) (hlen : records.length < 2 ^ 31) :
    populateFiles config records.length files records =
      records.map fun r => files.foldl (updateFromFile config) r := by
  unfold populateFiles
  induction files generalizing records with
  | nil => simp
  | cons f fs ih =>
    -- each record goes through the files one after the other
    have hstep : populateTimestampsFromFile f config.targetIp config.targetPort records
        records.length = records.map fun r => updateFromFile config r f := by
      rw [populateTimestampsFromFile_eq (hwf f (by simp)), foldl_populateRow _ hasc hlen]
      rfl
    have hrest := ih (fun g hg => hwf g (List.mem_cons_of_mem _ hg))
      (ascending_map hasc _ fun q => seqNum_updateFromFile config q f) (by simpa using hlen)
    rw [List.length_map, List.map_map] at hrest
    rw [List.foldl_cons, hstep, hrest]
    rfl

theorem populateFiles_large {config : Config} {files : List InputFile}
    (hwf : ∀ f ∈ files, WellFormedFile f) {records : List Record}
    (hlen : 2 ^ 31 ≤ records.length) (hlen' : records.length ≤ 2 ^ 32) :
    populateFiles config records.length files records = records := by
  unfold populateFiles
  -- no row finds a record, so no file changes the table
  induction files with
  | nil => rfl
  | cons f fs ih =>
    have hrows : ∀ rs : List (List Text),
        rs.foldl (populateRow config f.detectedType) records = records := by
      intro rs
      induction rs with
      | nil => rfl
      | cons r rs ihr => rw [List.foldl_cons, populateRow_large hlen hlen', ihr]
    rw [List.foldl_cons, populateTimestampsFromFile_eq (hwf f (by simp)), hrows]
    exact ih fun g hg => hwf g (List.mem_cons_of_mem _ hg)

/-! ## Which field ends up in a record -/

/-- The column name of a timestamp field. -/
def fieldName (t : Field) : Text :=
  (["clt_app_tx_tsc_ts", "clt_app_tx_ts", "clt_ker_tx_ts", "svr_hw_rx_ts", "svr_ker_rx_ts",
    "svr_app_rx_ts", "svr_app_tx_ts", "svr_ker_tx_ts", "clt_hw_rx_ts", "clt_ker_rx_ts",
    "clt_app_rx_tsc_ts", "clt_app_rx_ts"][t.val]?.getD "").toList

/-- The columns that identify a packet. -/
def idColumns : List Text :=
  ["clt_src_ip".toList, "clt_src_port".toList, "seq_num".toList]

set_option maxRecDepth 2000 in
/-- The branches of the `switch` follow the headers of the file types. -/
theorem typeColumns_eq (ty : FileType) (h : ty ≠ .unknown) :
    typeColumns ty = idColumns ++ (populatedFields ty).2.map fieldName := by
  cases ty <;> first | exact absurd rfl h | (refine splitOn_literal ?_; rfl)

theorem populatedFields_fst (ty : FileType) :
    (populatedFields ty).1 = (typeColumns ty).length := by
  by_cases h : ty = .unknown
  · subst h
    rfl
  · rw [typeColumns_eq ty h, List.length_append, List.length_map]
    cases ty <;> first | exact absurd rfl h | rfl

theorem nodup_populatedFields (ty : FileType) : (populatedFields ty).2.Nodup := by
  cases ty <;> decide

theorem ne_unknown_of_populated {ty : FileType} {i : Nat} {t : Field}
    (h : (populatedFields ty).2[i]? = some t) : ty ≠ .unknown := by
  rintro rfl
  simp [populatedFields] at h

theorem timestamps_foldl_of_not_mem {ts : List Field} {t : Field} (ht : t ∉ ts) (vs : List Text)
    (record : Record) :
    ((ts.zip vs).foldl (fun r tf => r.setTimestamp tf.1 tf.2) record).timestamps t =
      record.timestamps t := by
  induction ts generalizing vs record with
  | nil => rfl
  | cons t' ts ih =>
    cases vs with
    | nil => rfl
    | cons v vs =>
      have hne : t ≠ t' := fun h => ht (by simp [h])
      rw [List.zip_cons_cons, List.foldl_cons, ih fun h => ht (List.mem_cons_of_mem _ h)]
      simp [Record.setTimestamp, hne]

theorem timestamps_foldl_getElem {ts : List Field} (hnd : ts.Nodup) {vs : List Text} {i : Nat}
    {t : Field} {v : Text} (ht : ts[i]? = some t) (hv : vs[i]? = some v) (record : Record) :
    ((ts.zip vs).foldl (fun r tf => r.setTimestamp tf.1 tf.2) record).timestamps t =
      safeStrncpy v 32 := by
  induction ts generalizing vs i record with
  | nil => simp at ht
  | cons t' ts ih =>
    rcases List.nodup_cons.mp hnd with ⟨hnot, hnd'⟩
    cases vs with
    | nil => simp at hv
    | cons v' vs =>
      rw [List.zip_cons_cons, List.foldl_cons]
      cases i with
      | zero =>
        -- the later fields do not touch this one again
        simp only [List.getElem?_cons_zero, Option.some.injEq] at ht hv
        subst ht hv
        rw [timestamps_foldl_of_not_mem hnot]
        simp [Record.setTimestamp]
      | succ i =>
        rw [List.getElem?_cons_succ] at ht hv
        exact ih hnd' ht hv _

/-- A well-formed row sets every field of its type to the field of the row. -/
theorem timestamps_populateRecord {ty : FileType} {fields : List Text}
    (h : WellFormedRow ty fields) {i : Nat} {t : Field}
    (ht : (populatedFields ty).2[i]? = some t) :
    ∃ v, fields[3 + i]? = some v ∧
      ∀ record, (populateRecord ty fields record).timestamps t = v := by
  have hcols := typeColumns_eq ty (ne_unknown_of_populated ht)
  have hi : i < (populatedFields ty).2.length := (List.getElem?_eq_some_iff.mp ht).1
  have hcount : (typeColumns ty).length = 3 + (populatedFields ty).2.length := by
    rw [hcols]
    simp [idColumns]
    omega
  rcases h with ⟨hlen, -, -, ip, port, seq, ts, rfl, -, -, -, -, hshort⟩
  have hts : i < ts.length := by
    simp only [List.length_cons] at hlen
    omega
  have hget : (ip :: port :: seq :: ts)[3 + i]? = some ts[i] := by
    rw [Nat.add_comm]
    simp [hts]
  refine ⟨ts[i], hget, fun record => ?_⟩
  have hdrop : (ip :: port :: seq :: ts).drop 3 = ts := rfl
  -- the copy takes 31 characters, which is all of a well-formed timestamp
  have hle : ts[i].length ≤ 31 := by
    apply hshort
    rw [List.mem_take_iff_getElem]
    exact ⟨i, by omega, rfl⟩
  unfold populateRecord
  rw [if_pos (by rw [populatedFields_fst]; exact hlen), hdrop,
    timestamps_foldl_getElem (nodup_populatedFields ty) ht (List.getElem?_eq_getElem hts)]
  exact List.take_of_length_le hle

theorem timestamps_updateRecord_of_not_mem {ty : FileType} {t : Field}
    (ht : t ∉ (populatedFields ty).2) (config : Config) (record : Record) (fields : List Text) :
    (updateRecord config ty record fields).timestamps t = record.timestamps t := by
  unfold updateRecord populateRecord
  split
  · split
    · exact timestamps_foldl_of_not_mem ht _ _
    · rfl
  · rfl

theorem timestamps_updateFromFile_of_not_mem {config : Config} {file : InputFile} {t : Field}
    (ht : t ∉ (populatedFields file.detectedType).2) (record : Record) :
    (updateFromFile config record file).timestamps t = record.timestamps t := by
  unfold updateFromFile
  induction rows file.contents generalizing record with
  | nil => rfl
  | cons r rs ih => rw [List.foldl_cons, ih, timestamps_updateRecord_of_not_mem ht]

/-- Of the rows of a file the last one with the sequence number counts. -/
theorem timestamps_foldl_updateRecord {config : Config} {ty : FileType} {i : Nat} {t : Field}
    (ht : (populatedFields ty).2[i]? = some t) (rs : List (List Text))
    (hrs : ∀ r ∈ rs, WellFormedRow ty r) (record : Record) :
    (rs.foldl (updateRecord config ty) record).timestamps t =
      ((((rs.filter (rowMatches config)).filter
        (rowSeq · = record.seqNum)).getLast?.bind (·[3 + i]?)).getD (record.timestamps t)) := by
  -- induction from the last row, since the last row of a record counts
  induction rs using List.reverseRecOn with
  | nil => rfl
  | append_singleton rs r ih =>
    have hkeep := seqNum_foldl_updateRecord config ty rs record
    have ih' := ih fun q hq => hrs q (List.mem_append_left _ hq)
    rw [List.foldl_append, List.foldl_cons, List.foldl_nil, List.filter_append, List.filter_append]
    -- the last row is for this record, or it changes nothing
    by_cases hr : rowMatches config r = true ∧ record.seqNum = rowSeq r
    · rcases timestamps_populateRecord (hrs r (by simp)) ht with ⟨v, hv, hset⟩
      rw [updateRecord, hkeep, if_pos hr, hset]
      simp [hr.1, hr.2, hv]
    · rw [updateRecord, hkeep, if_neg hr, ih']
      by_cases hm : rowMatches config r = true
      · have hs : ¬ rowSeq r = record.seqNum := fun h => hr ⟨hm, h.symm⟩
        simp [hm, hs]
      · simp [hm]

/-- No file but `f` fills the fields that `f` fills. -/
def DisjointTypes (a b : FileType) : Prop :=
  ∀ t, t ∈ (populatedFields a).2 → t ∉ (populatedFields b).2

theorem timestamps_foldl_of_not_owned {config : Config} {files : List InputFile} {t : Field}
    (ht : ∀ f ∈ files, t ∉ (populatedFields f.detectedType).2) (record : Record) :
    (files.foldl (updateFromFile config) record).timestamps t = record.timestamps t := by
  induction files generalizing record with
  | nil => rfl
  | cons f fs ih =>
    rw [List.foldl_cons, ih fun g hg => ht g (List.mem_cons_of_mem _ hg),
      timestamps_updateFromFile_of_not_mem (ht f (by simp))]

/-- A field that a file of the combination owns is taken from its last row. -/
theorem timestamps_foldl_of_owned {config : Config} {files : List InputFile}
    (hwf : ∀ f ∈ files, WellFormedFile f)
    (hdisj : files.Pairwise fun f g => DisjointTypes f.detectedType g.detectedType)
    {f : InputFile} (hf : f ∈ files) {i : Nat} {t : Field}
    (ht : (populatedFields f.detectedType).2[i]? = some t) {record : Record} {r : List Text}
    (hr : lastRow config f record.seqNum = some r) {v : Text} (hv : r[3 + i]? = some v) :
    (files.foldl (updateFromFile config) record).timestamps t = v := by
  induction files generalizing record with
  | nil => simp at hf
  | cons g fs ih =>
    rcases List.pairwise_cons.mp hdisj with ⟨hhead, htail⟩
    rw [List.foldl_cons]
    rcases List.mem_cons.mp hf with rfl | hf'
    · -- the owner comes first, and no later file touches the field
      have hrest : ∀ h ∈ fs, t ∉ (populatedFields h.detectedType).2 :=
        fun h hh => hhead h hh t (List.mem_of_getElem? ht)
      rw [timestamps_foldl_of_not_owned hrest, updateFromFile,
        timestamps_foldl_updateRecord ht _
          fun q hq => wellFormedRow_of_mem_rows (hwf f (by simp)) hq]
      change (((lastRow config f record.seqNum).bind (·[3 + i]?)).getD _) = v
      rw [hr]
      simp [hv]
    · apply ih (fun h hh => hwf h (List.mem_cons_of_mem _ hh)) htail hf'
      rwa [seqNum_updateFromFile]

/-- A matching row with a sequence number has a last one. -/
theorem exists_lastRow {config : Config} {f : InputFile} {s : UInt32}
    (h : ∃ r ∈ matchingRows config f, rowSeq r = s) :
    ∃ r, lastRow config f s = some r ∧ r ∈ matchingRows config f := by
  rcases h with ⟨r, hr, hs⟩
  have hmem : r ∈ (matchingRows config f).filter (rowSeq · = s) := by
    simp [List.mem_filter, hr, hs]
  rcases hl : ((matchingRows config f).filter (rowSeq · = s)).getLast? with _ | q
  · rw [List.getLast?_eq_none_iff] at hl
    simp [hl] at hmem
  · exact ⟨q, hl, (List.mem_filter.mp (List.mem_of_getLast? hl)).1⟩

@[simp] theorem seqNum_foldl_updateFromFile (config : Config) (files : List InputFile)
    (record : Record) : (files.foldl (updateFromFile config) record).seqNum = record.seqNum := by
  induction files generalizing record with
  | nil => rfl
  | cons f fs ih => rw [List.foldl_cons, ih, seqNum_updateFromFile]

/-- A field that some of the files fill is taken from the last row of one of
them. -/
theorem timestamps_foldl_filled {config : Config} {files : List InputFile}
    (hwf : ∀ f ∈ files, WellFormedFile f) {t : Field}
    (hfill : ∃ f ∈ files, t ∈ (populatedFields f.detectedType).2) (record : Record)
    (hseq : ∀ f ∈ files, ∃ r ∈ matchingRows config f, rowSeq r = record.seqNum) :
    ∃ f ∈ files, ∃ i r v, (populatedFields f.detectedType).2[i]? = some t ∧
      lastRow config f record.seqNum = some r ∧ r[3 + i]? = some v ∧
      (files.foldl (updateFromFile config) record).timestamps t = v := by
  induction files using List.reverseRecOn with
  | nil => simp at hfill
  | append_singleton fs g ih =>
    rw [List.foldl_append, List.foldl_cons, List.foldl_nil]
    have hg : g ∈ fs ++ [g] := by simp
    by_cases hgt : t ∈ (populatedFields g.detectedType).2
    · -- the last file overwrites the field
      rcases List.getElem?_of_mem hgt with ⟨i, hi⟩
      rcases exists_lastRow (hseq g hg) with ⟨r, hr, hmatch⟩
      have hrow : r ∈ rows g.contents := (List.mem_filter.mp hmatch).1
      have hwr := wellFormedRow_of_mem_rows (hwf g hg) hrow
      rcases timestamps_populateRecord hwr hi with ⟨v, hv, -⟩
      refine ⟨g, hg, i, r, v, hi, hr, hv, ?_⟩
      rw [updateFromFile, timestamps_foldl_updateRecord hi _
        fun q hq => wellFormedRow_of_mem_rows (hwf g hg) hq, seqNum_foldl_updateFromFile]
      change (((lastRow config g record.seqNum).bind (·[3 + i]?)).getD _) = v
      rw [hr]
      simp [hv]
    · have hfill' : ∃ f ∈ fs, t ∈ (populatedFields f.detectedType).2 := by
        rcases hfill with ⟨f, hf, ht⟩
        rcases List.mem_append.mp hf with hf | hf
        · exact ⟨f, hf, ht⟩
        · rw [List.mem_singleton.mp hf] at ht
          exact absurd ht hgt
      rcases ih (fun f hf => hwf f (List.mem_append_left _ hf)) hfill'
        (fun f hf => hseq f (List.mem_append_left _ hf)) with ⟨f, hf, i, r, v, hi, hr, hv, heq⟩
      refine ⟨f, List.mem_append_left _ hf, i, r, v, hi, hr, hv, ?_⟩
      rw [timestamps_updateFromFile_of_not_mem hgt, heq]

end TradingLatency.Csvjoin
