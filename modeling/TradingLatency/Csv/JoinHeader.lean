import TradingLatency.Csv.JoinOutput

/-!
# Header and rows of the joined output

Six header literals, six print formats, a table of delta indices for each mode
and a table of field pairs are kept by hand in the source. They fit together: the
line of a record has a field for every column of the header, under a timestamp
column stands that timestamp, and under a delta column the delta of the two
timestamps in its name (`rows_line_up`).

What a column name says is read off its characters: `clt_ker_tx_ts` is the
timestamp of the constant `FIELD_CLT_KER_TX_TS`, and `delta_…_clt_ker_tx_to_hw_rx_us`
would be a delta from it to `clt_hw_rx_ts`, on the same side.
-/

namespace TradingLatency.Csvjoin

open CText

/-! ## What a column name says -/

/-- The name is that of the timestamp `t`. -/
def NamesTimestamp (name : Text) (t : Field) : Prop := t.val < 12 ∧ name = fieldName t

/-- The name of a timestamp without `_ts`, as delta columns use it. -/
def stampName (t : Field) : Text := (fieldName t).take ((fieldName t).length - 3)

/-- `clt_` or `svr_`. -/
def sideName (t : Field) : Text := (stampName t).take 4

/-- The name without the side. -/
def pointName (t : Field) : Text := (stampName t).drop 4

/-- The part of a delta column from `a` on. -/
def fromTo (a b : Text) : Text := '_' :: a ++ "_to_".toList ++ b ++ "_us".toList

/-- The name is that of a delta from `a` to `b`; `b` may leave out its side when it
is that of `a`. -/
def NamesDelta (name : Text) (a b : Field) : Prop :=
  a.val < 12 ∧ b.val < 12 ∧ "delta_".toList <+: name ∧
    (fromTo (stampName a) (stampName b) <:+ name ∨
      sideName a = sideName b ∧ fromTo (stampName a) (pointName b) <:+ name)

instance (name : Text) (a b : Field) : Decidable (NamesDelta name a b) := instDecidableAnd

/-- The text of the delta of two timestamps of a record. -/
def recordDelta (record : Record) (a b : Field) : Text :=
  formatDeltaToBuffer (calculateDeltaFast (parseTimestampNs (record.timestamps a))
    (parseTimestampNs (record.timestamps b))) 16

/-- The line of a record under the header of its mode and target. -/
structure RowsLineUp (record : Record) (targetIp : Text) (targetPort : UInt16)
    (mode : OperationMode) (target : TargetType) : Prop where
  fits : (formatOutputRecord record targetIp targetPort mode target maxLineLength).offset <
    maxLineLength
  length_eq : ((formatOutputRecord record targetIp targetPort mode target maxLineLength).text.splitOn
    ',').length = ((getOutputHeaderWithDeltas mode target).splitOn ',').length
  -- the columns behind the identification of the packet are timestamps and deltas
  named : ∀ i name, 3 ≤ i →
    ((getOutputHeaderWithDeltas mode target).splitOn ',')[i]? = some name →
    (∃ t, NamesTimestamp name t) ∨ ∃ a b, NamesDelta name a b
  timestamp : ∀ (i : Nat) (name : Text) (t : Field),
    ((getOutputHeaderWithDeltas mode target).splitOn ',')[i]? = some name →
    NamesTimestamp name t →
    ((formatOutputRecord record targetIp targetPort mode target maxLineLength).text.splitOn ',')[i]? =
      some (record.timestamps t)
  delta : ∀ (i : Nat) (name : Text) (a b : Field),
    ((getOutputHeaderWithDeltas mode target).splitOn ',')[i]? = some name →
    NamesDelta name a b →
    ((formatOutputRecord record targetIp targetPort mode target maxLineLength).text.splitOn ',')[i]? =
      some (recordDelta record a b)
  -- and the text is the difference, if its whole microseconds fit 32 bits
  delta_text : ∀ (a b : Field),
    ((parseTimestampNs (record.timestamps b)).toNat -
      (parseTimestampNs (record.timestamps a)).toNat) / 1000 < 2 ^ 32 →
    recordDelta record a b =
      deltaText (parseTimestampNs (record.timestamps a)) (parseTimestampNs (record.timestamps b))

/-! ## The names of the source -/

/-- The definitions of the deltas of a mode and target. -/
def modeDeltas (mode : OperationMode) (target : TargetType) : List DeltaDefinition :=
  (getModeDeltaConfig mode target).filterMap (allDeltaDefinitions[·]?)

theorem mem_modeDeltas {mode : OperationMode} {target : TargetType} {d : DeltaDefinition}
    (h : d ∈ modeDeltas mode target) : d ∈ allDeltaDefinitions := by
  rcases List.mem_filterMap.mp h with ⟨i, -, hi⟩
  exact List.mem_of_getElem? hi

/-- A delta column names the fields of its definition, and contains no other
timestamp in front of `_to_` or behind it. -/
theorem delta_names : ∀ d ∈ allDeltaDefinitions,
    NamesDelta d.columnName.toList d.tsAField d.tsBField ∧
      ∀ t : Field, t.val < 12 →
        (('_' :: stampName t ++ "_to_".toList) <:+: d.columnName.toList → t = d.tsAField) ∧
        (("_to_".toList ++ stampName t ++ "_us".toList) <:+ d.columnName.toList → t = d.tsBField) ∧
        (sideName d.tsAField = sideName t →
          ("_to_".toList ++ pointName t ++ "_us".toList) <:+ d.columnName.toList →
          t = d.tsBField) := by
  decide +kernel

theorem from_of_fromTo {a b name : Text} (h : fromTo a b <:+ name) :
    ('_' :: a ++ "_to_".toList) <:+: name := by
  refine List.IsInfix.trans ?_ h.isInfix
  refine ⟨[], b ++ "_us".toList, ?_⟩
  simp only [fromTo, List.nil_append, List.append_assoc]

theorem to_of_fromTo {a b name : Text} (h : fromTo a b <:+ name) :
    ("_to_".toList ++ b ++ "_us".toList) <:+ name := by
  refine List.IsSuffix.trans ?_ h
  refine ⟨'_' :: a, ?_⟩
  simp only [fromTo, List.append_assoc]

/-- The name of a delta column has no other reading. -/
theorem namesDelta_unique {d : DeltaDefinition} (hd : d ∈ allDeltaDefinitions) {a b : Field}
    (h : NamesDelta d.columnName.toList a b) : a = d.tsAField ∧ b = d.tsBField := by
  rcases h with ⟨ha, hb, -, hname⟩
  have hfrom := ((delta_names d hd).2 a ha).1
  have hto := ((delta_names d hd).2 b hb).2
  rcases hname with hname | ⟨hside, hname⟩
  · exact ⟨hfrom (from_of_fromTo hname), hto.1 (to_of_fromTo hname)⟩
  · have heq := hfrom (from_of_fromTo hname)
    rw [heq] at hside
    exact ⟨heq, hto.2 hside (to_of_fromTo hname)⟩

theorem not_namesTimestamp_id {name : Text} (h : name ∈ idColumns) (t : Field) :
    ¬ NamesTimestamp name t := by
  rintro ⟨hlt, rfl⟩
  simp only [idColumns, fieldName, List.mem_cons, List.not_mem_nil, or_false, String.toList_inj] at h
  revert t
  decide

theorem not_namesTimestamp_delta {d : DeltaDefinition} (h : d ∈ allDeltaDefinitions) (t : Field) :
    ¬ NamesTimestamp d.columnName.toList t := by
  rintro ⟨hlt, heq⟩
  have hliteral := String.toList_inj.mp heq
  clear heq
  revert d t
  decide

/-- Only delta columns begin like one. -/
theorem not_delta_start : (∀ name ∈ idColumns, ¬ "delta_".toList <+: name) ∧
    ∀ t : Field, ¬ "delta_".toList <+: fieldName t := by
  decide

/-! ## The cells of a row -/

/-- The columns of the output with the fields of a record. -/
def rowCells (config : Config) (record : Record) : List (Text × Text) :=
  idColumns.zip [config.targetIp, dec config.targetPort.toNat, dec record.seqNum.toNat] ++
    (outputTimestamps config.mode config.target).map (fun t => (fieldName t, record.timestamps t)) ++
    (modeDeltas config.mode config.target).map fun d =>
      (d.columnName.toList, recordDelta record d.tsAField d.tsBField)

theorem map_fst_rowCells (config : Config) (record : Record) :
    (rowCells config record).map Prod.fst =
      (getOutputHeaderWithDeltas config.mode config.target).splitOn ',' := by
  rw [outputColumns_eq, rowCells, List.map_append, List.map_append, List.map_map, List.map_map,
    modeDeltas, List.map_filterMap]
  congr 2

theorem map_snd_rowCells (config : Config) (record : Record) :
    (rowCells config record).map Prod.snd = recordFields config record := by
  rw [recordFields, calculateModeDeltas, List.map_filterMap, rowCells, List.map_append,
    List.map_append, List.map_map, List.map_map, modeDeltas, List.map_filterMap]
  simp only [Option.map_map]
  rfl

/-- The cell of a column. -/
theorem mem_rowCells {config : Config} {record : Record} {i : Nat} {name : Text}
    (h : ((getOutputHeaderWithDeltas config.mode config.target).splitOn ',')[i]? = some name) :
    ∃ field, (name, field) ∈ rowCells config record ∧
      (recordFields config record)[i]? = some field := by
  rw [← map_fst_rowCells config record, List.getElem?_map, Option.map_eq_some_iff] at h
  rcases h with ⟨⟨name', field⟩, hcell, rfl⟩
  refine ⟨field, List.mem_of_getElem? hcell, ?_⟩
  rw [← map_snd_rowCells, List.getElem?_map, hcell]
  rfl

/-- A cell is part of the identification, a timestamp or a delta. -/
theorem rowCells_cases {config : Config} {record : Record} {name field : Text}
    (h : (name, field) ∈ rowCells config record) :
    name ∈ idColumns ∨
      (∃ t ∈ outputTimestamps config.mode config.target,
        name = fieldName t ∧ field = record.timestamps t) ∨
      ∃ d ∈ allDeltaDefinitions, name = d.columnName.toList ∧
        field = recordDelta record d.tsAField d.tsBField := by
  rw [rowCells, List.mem_append, List.mem_append] at h
  -- the three columns in front, the timestamps, the deltas
  rcases h with (h | h) | h
  · exact Or.inl (List.of_mem_zip h).1
  · rcases List.mem_map.mp h with ⟨t, ht, heq⟩
    cases heq
    exact Or.inr (Or.inl ⟨t, ht, rfl, rfl⟩)
  · rcases List.mem_map.mp h with ⟨d, hd, heq⟩
    cases heq
    exact Or.inr (Or.inr ⟨d, mem_modeDeltas hd, rfl, rfl⟩)

theorem cell_timestamp {config : Config} {record : Record} {name field : Text} {t : Field}
    (h : (name, field) ∈ rowCells config record) (ht : NamesTimestamp name t) :
    field = record.timestamps t := by
  rcases rowCells_cases h with hid | ⟨t', -, hname, hfield⟩ | ⟨d, hd, rfl, -⟩
  · exact absurd ht (not_namesTimestamp_id hid t)
  · rw [hfield, fieldName_inj ht.1 (ht.2.symm.trans hname)]
  · exact absurd ht (not_namesTimestamp_delta hd t)

theorem cell_delta {config : Config} {record : Record} {name field : Text} {a b : Field}
    (h : (name, field) ∈ rowCells config record) (hab : NamesDelta name a b) :
    field = recordDelta record a b := by
  rcases rowCells_cases h with hid | ⟨t, -, rfl, -⟩ | ⟨d, hd, rfl, hfield⟩
  · exact absurd hab.2.2.1 (not_delta_start.1 name hid)
  · exact absurd hab.2.2.1 (not_delta_start.2 t)
  · rcases namesDelta_unique hd hab with ⟨rfl, rfl⟩
    exact hfield

theorem outputTimestamps_lt {mode : OperationMode} {target : TargetType} {t : Field}
    (h : t ∈ outputTimestamps mode target) : t.val < 12 := by
  revert h t
  cases mode <;> cases target <;> decide

/-- Behind the first three columns every name is read. -/
theorem column_named {mode : OperationMode} {target : TargetType} {i : Nat} {name : Text}
    (hi : 3 ≤ i)
    (h : ((getOutputHeaderWithDeltas mode target).splitOn ',')[i]? = some name) :
    (∃ t, NamesTimestamp name t) ∨ ∃ a b, NamesDelta name a b := by
  have hid : idColumns.length ≤ i := hi
  rw [outputColumns_eq, List.append_assoc, List.getElem?_append_right hid] at h
  rcases List.mem_append.mp (List.mem_of_getElem? h) with hmem | hmem
  · rcases List.mem_map.mp hmem with ⟨t, ht, rfl⟩
    exact Or.inl ⟨t, outputTimestamps_lt ht, rfl⟩
  · rcases List.mem_filterMap.mp hmem with ⟨k, -, hk⟩
    rcases Option.map_eq_some_iff.mp hk with ⟨d, hd, rfl⟩
    exact Or.inr ⟨_, _, (delta_names d (List.mem_of_getElem? hd)).1⟩

/-- For every record, address, port, mode and target the line fits, has as many
fields as the header, and has under each name what the name says. -/
theorem rows_line_up (record : Record) (targetIp : Text) (targetPort : UInt16)
    (mode : OperationMode) (target : TargetType)
    (hlen : ∀ t, (record.timestamps t).length ≤ 31) (hcomma : ∀ t, ',' ∉ record.timestamps t)
    (hip : targetIp.length ≤ 15) (hipComma : ',' ∉ targetIp) :
    RowsLineUp record targetIp targetPort mode target := by
  set config : Config := ⟨targetIp, targetPort, mode, target, [], hip⟩
  have hline : formatOutputRecord record targetIp targetPort mode target maxLineLength =
      ⟨[','].intercalate (recordFields config record),
        ([','].intercalate (recordFields config record)).length⟩ :=
    @formatOutputRecord_eq config record hlen
  -- no field contains a comma, so the line splits into its fields again
  have hfields : ([','].intercalate (recordFields config record)).splitOn ',' =
      recordFields config record := @splitOn_recordFields config record hcomma hipComma
  refine ⟨?_, ?_, fun i name hi h => column_named hi h, ?_, ?_, ?_⟩
  · rw [hline]
    exact length_line_lt hlen
  · rw [hline, hfields, ← map_snd_rowCells, List.length_map,
      ← map_fst_rowCells config record, List.length_map]
  · -- a column named after a timestamp has that timestamp
    intro i name t hi ht
    rw [hline, hfields]
    rcases @mem_rowCells config record i name hi with ⟨field, hcell, hfield⟩
    rw [hfield, cell_timestamp hcell ht]
  · -- and one named after a delta the difference of its two
    intro i name a b hi hab
    rw [hline, hfields]
    rcases @mem_rowCells config record i name hi with ⟨field, hcell, hfield⟩
    rw [hfield, cell_delta hcell hab]
  · intro a b h
    exact formatDelta_exact h

/-- A record with a timestamp in every field. -/
def sampleRecord : Record where
  seqNum := 7
  timestamps := fun t => "1700000000.0000".toList ++ dec t.val

theorem rows_line_up_sample :
    RowsLineUp sampleRecord "10.0.0.1".toList 5000 .roundTrip .clientServer := by
  refine rows_line_up sampleRecord "10.0.0.1".toList 5000 .roundTrip .clientServer ?_ ?_ ?_ ?_
  · decide
  · decide
  · decide
  · decide

end TradingLatency.Csvjoin
