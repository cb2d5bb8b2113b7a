import TradingLatency.Csv.Writer
import TradingLatency.Stats.Agreement

/-!
# The join of log files

The programs log the timestamps of a packet in several files, each of which has
some of the twelve slots, and the join program reads these files back as text.

`log_files_joined` says what comes out in terms of the logged entries: one row for
every sequence number that the client has in all files, and in it, for every slot,
the value of the last entry with this number in the file of the slot. Formatter,
parser and the numbering of the columns have dropped out.
-/

namespace TradingLatency

open CText Csvjoin

/-! ## The abstract join -/

/-- A file that the CSV writer has closed. -/
structure LogFile where
  csvType : CsvType
  entries : List CsvEntry

/-- A client, as the rows name it. -/
structure ClientId where
  ip : IpText
  port : UInt16

/-- The entries of a client. -/
def LogFile.entriesOf (f : LogFile) (c : ClientId) : List CsvEntry :=
  f.entries.filter fun e => e.srcIp = c.ip ∧ e.srcPort = c.port

/-- The last entry of a client with a sequence number. -/
def LogFile.lastEntry (f : LogFile) (c : ClientId) (s : UInt32) : Option CsvEntry :=
  ((f.entriesOf c).filter (·.seqNum = s)).getLast?

/-- The client has an entry with this sequence number in every file. -/
def Logged (files : List LogFile) (c : ClientId) (s : UInt32) : Prop :=
  ∀ f ∈ files, ∃ e ∈ f.entriesOf c, e.seqNum = s

instance (files : List LogFile) (c : ClientId) (s : UInt32) : Decidable (Logged files c s) :=
  inferInstanceAs (Decidable (∀ f ∈ files, ∃ e ∈ f.entriesOf c, e.seqNum = s))

/-- The slots of a packet, put together: each file contributes the slots that it
prints, from its last entry for the packet. -/
def JoinedSlots (files : List LogFile) (c : ClientId) (s : UInt32) (ts : Slots) : Prop :=
  ∀ f ∈ files, ∃ e, f.lastEntry c s = some e ∧ ∀ i ∈ csvSlots f.csvType, ts i = e.timestampNs i

/-- The timestamps that the deltas of a mode are computed from. -/
def deltaFields (mode : OperationMode) (target : TargetType) : List (Field × Field) :=
  (getModeDeltaConfig mode target).filterMap fun i =>
    allDeltaDefinitions[i]?.map fun d => (d.tsAField, d.tsBField)

/-- The row of a packet: client, sequence number, timestamps and deltas. -/
def joinedRow (mode : OperationMode) (target : TargetType) (c : ClientId) (s : UInt32)
    (ts : Slots) : List Text :=
  c.ip.text :: dec c.port.toNat :: dec s.toNat ::
    ((outputTimestamps mode target).map fun t => formatTimestamp (ts (fieldSlot t))) ++
    (deltaFields mode target).map fun ab =>
      formatDeltaToBuffer (calculateDeltaFast (ts (fieldSlot ab.1)) (ts (fieldSlot ab.2))) 16

/-! ## The files -/

/-- The file as the join program gets it. -/
def LogFile.input (f : LogFile) : InputFile :=
  ⟨csvFileText f.csvType f.entries, detectFileType (csvFileText f.csvType f.entries)⟩

/-- The join of log files for a client. -/
def logConfig (mode : OperationMode) (target : TargetType) (c : ClientId) (files : List LogFile) :
    Config where
  targetIp := c.ip.text
  targetPort := c.port
  mode := mode
  target := target
  inputFiles := files.map LogFile.input
  targetIp_length_le := c.ip.length_le

section File

variable {f : LogFile}

theorem csvFileText_lines (ty : CsvType) (entries : List CsvEntry) :
    csvFileText ty entries =
      (getCsvHeader ty :: entries.map (csvLine ty)).flatMap (· ++ ['\n']) := by
  rw [csvFileText, List.flatMap_cons, List.flatMap_map, List.append_assoc]
  rfl

theorem detectedType_input : f.input.detectedType = csvFileType f.csvType := by
  have hheader := plain_getCsvHeader f.csvType
  show detectFileType (csvFileText f.csvType f.entries) = _
  rw [csvFileText_lines, detectFileType_of_header hheader.2.2 hheader.1 hheader.2.1]
  exact detectFileType_getCsvHeader f.csvType

theorem csvLine_ne_nil {e : CsvEntry} (hip : e.srcIp.Clean) (ty : CsvType) : csvLine ty e ≠ [] := by
  intro h
  have hfields := splitOn_csvLine hip ty
  rw [h] at hfields
  simp [csvFields] at hfields

variable (hclean : ∀ e ∈ f.entries, e.srcIp.Clean)

include hclean

/-- The rows of the file are the fields of its entries. -/
theorem rows_input : rows f.input.contents = f.entries.map (csvFields f.csvType) := by
  have hheader := plain_getCsvHeader f.csvType
  show rows (csvFileText f.csvType f.entries) = _
  rw [csvFileText_lines, rows_of_lines hheader.1.2.2 hheader.2.1]
  · rw [List.map_map]
    apply List.map_congr_left
    intro e he
    exact splitOn_csvLine (hclean e he) f.csvType
  · intro l hl
    rcases List.mem_map.mp hl with ⟨e, he, rfl⟩
    exact ⟨isPlain_csvLine f.csvType (hclean e he), csvLine_ne_nil (hclean e he) f.csvType⟩

theorem wellFormedFile_input : WellFormedFile f.input := by
  have hheader := plain_getCsvHeader f.csvType
  have hfile : f.input = ⟨(getCsvHeader f.csvType :: f.entries.map (csvLine f.csvType)).flatMap
      (· ++ ['\n']), csvFileType f.csvType⟩ := by
    rw [← csvFileText_lines, ← detectedType_input]
    rfl
  rw [hfile]
  apply wellFormedFile_of_lines hheader.1.2.2 hheader.2.1
  intro l hl
  rcases List.mem_map.mp hl with ⟨e, he, rfl⟩
  have hlen := csvLine_length_le f.csvType e
  rw [splitOn_csvLine (hclean e he)]
  exact ⟨isPlain_csvLine f.csvType (hclean e he), by omega,
    wellFormedRow_csvFields (hclean e he) f.csvType⟩

/-- The rows of a client are those of its entries. -/
theorem matchingRows_input (mode : OperationMode) (target : TargetType) (c : ClientId)
    (files : List LogFile) :
    matchingRows (logConfig mode target c files) f.input =
      (f.entriesOf c).map (csvFields f.csvType) := by
  rw [matchingRows, rows_input hclean, List.filter_map, LogFile.entriesOf]
  congr 1
  apply List.filter_congr
  intro e _
  have hip : e.srcIp.text = c.ip.text ↔ e.srcIp = c.ip :=
    ⟨IpText.ext_text, congrArg IpText.text⟩
  have hport : e.srcPort.toNat = c.port.toNat ↔ e.srcPort = c.port := UInt16.toNat_inj
  simp [rowMatches, csvFields, logConfig, decimalValue_dec, hip, hport]

/-- The last row of a packet is that of its last entry. -/
theorem lastRow_input (mode : OperationMode) (target : TargetType) (c : ClientId)
    (files : List LogFile) (s : UInt32) :
    lastRow (logConfig mode target c files) f.input s =
      (f.lastEntry c s).map (csvFields f.csvType) := by
  rw [lastRow, matchingRows_input hclean, List.filter_map, List.getLast?_map, LogFile.lastEntry]
  congr 2
  apply List.filter_congr
  intro e _
  simp only [Function.comp_apply, rowSeq_csvFields]

end File

/-! ## The join -/

/-- The field of a slot in the numbering of the join program. -/
def slotField (i : Fin 12) : Field :=
  ⟨if i.val < 3 then i.val else if i.val < 7 then i.val + 5 else i.val - 4, by split_ifs <;> omega⟩

theorem slotField_fieldSlot {t : Field} (ht : t.val < 12) : slotField (fieldSlot t) = t := by
  revert t
  decide

/-- The deltas are computed from timestamps that are printed. -/
theorem deltaFields_printed {mode : OperationMode} {target : TargetType} {a b : Field}
    (h : (a, b) ∈ deltaFields mode target) :
    a ∈ outputTimestamps mode target ∧ b ∈ outputTimestamps mode target := by
  have hall : ∀ ab ∈ deltaFields mode target,
      ab.1 ∈ outputTimestamps mode target ∧ ab.2 ∈ outputTimestamps mode target := by
    cases mode <;> cases target <;> decide +kernel
  exact hall (a, b) h

/-- The printed row of a sequence number. -/
theorem recordFields_logConfig {mode : OperationMode} {target : TargetType} {c : ClientId}
    {files : List LogFile} {s : UInt32} {ts : Slots}
    (hts : ∀ t ∈ outputTimestamps mode target,
      (finalRecord (logConfig mode target c files) s).timestamps t =
        formatTimestamp (ts (fieldSlot t))) :
    recordFields (logConfig mode target c files)
        (finalRecord (logConfig mode target c files) s) = joinedRow mode target c s ts := by
  have hstamps : (outputTimestamps mode target).map
      (finalRecord (logConfig mode target c files) s).timestamps =
        (outputTimestamps mode target).map fun t => formatTimestamp (ts (fieldSlot t)) :=
    List.map_congr_left hts
  have hdeltas : calculateModeDeltas (finalRecord (logConfig mode target c files) s) mode target =
      (deltaFields mode target).map fun ab =>
        calculateDeltaFast (ts (fieldSlot ab.1)) (ts (fieldSlot ab.2)) := by
    -- the deltas are differences of the parsed texts
    calc calculateModeDeltas (finalRecord (logConfig mode target c files) s) mode target
        = (deltaFields mode target).map fun ab => calculateDeltaFast
            (parseTimestampNs ((finalRecord (logConfig mode target c files) s).timestamps ab.1))
            (parseTimestampNs ((finalRecord (logConfig mode target c files) s).timestamps ab.2)) := by
          rw [calculateModeDeltas, deltaFields, List.map_filterMap]
          congr 1
          funext i
          rw [Option.map_map]
          rfl
      -- parsing gives back the value that was printed
      _ = _ := by
          apply List.map_congr_left
          rintro ⟨a, b⟩ hab
          rcases deltaFields_printed hab with ⟨ha, hb⟩
          rw [hts a ha, hts b hb, parseTimestampNs_formatTimestamp,
            parseTimestampNs_formatTimestamp]
  show c.ip.text :: dec c.port.toNat :: dec (finalRecord _ s).seqNum.toNat ::
    (outputTimestamps mode target).map _ ++ (calculateModeDeltas _ mode target).map _ = _
  rw [seqNum_finalRecord, hstamps, hdeltas, List.map_map]
  rfl

section Join

variable {mode : OperationMode} {target : TargetType} {c : ClientId} {files : List LogFile}
  (htypes : (files.map fun f => csvFileType f.csvType).Perm (documentedTypes mode target))
  (hclean : ∀ f ∈ files, ∀ e ∈ f.entries, e.srcIp.Clean)

include htypes hclean

theorem documented_logConfig : Documented (logConfig mode target c files) where
  detected f hf := by
    rcases List.mem_map.mp hf with ⟨g, -, rfl⟩
    rfl
  types := by
    show ((files.map LogFile.input).map (·.detectedType)).Perm _
    rw [List.map_map, List.map_congr_left (g := fun f => csvFileType f.csvType)]
    · exact htypes
    · exact fun f _ => detectedType_input
  wellFormed f hf := by
    rcases List.mem_map.mp hf with ⟨g, hg, rfl⟩
    exact wellFormedFile_input (hclean g hg)

omit htypes in
/-- The common sequence numbers are those that the client has in all files. -/
theorem common_logConfig (s : UInt32) :
    Common (logConfig mode target c files) s ↔ Logged files c s := by
  constructor
  · intro h f hf
    rcases h _ (List.mem_map_of_mem hf) with ⟨r, hr, hs⟩
    rw [matchingRows_input (hclean f hf)] at hr
    rcases List.mem_map.mp hr with ⟨e, he, rfl⟩
    exact ⟨e, he, (rowSeq_csvFields f.csvType e).symm.trans hs⟩
  · intro h f hf
    rcases List.mem_map.mp hf with ⟨g, hg, rfl⟩
    rcases h g hg with ⟨e, he, hs⟩
    refine ⟨csvFields g.csvType e, ?_, (rowSeq_csvFields g.csvType e).trans hs⟩
    rw [matchingRows_input (hclean g hg)]
    exact List.mem_map_of_mem he

/-- There are no more common sequence numbers than entries in a file. -/
theorem length_findCommonSequences_le {f : LogFile} (hf : f ∈ files) :
    (findCommonSequences (logConfig mode target c files)).length ≤ f.entries.length := by
  have hin := (documented_logConfig (c := c) htypes hclean).wellFormedInput
  have hsub : findCommonSequences (logConfig mode target c files) ⊆ f.entries.map (·.seqNum) := by
    intro s hs
    rcases (common_logConfig hclean s).mp ((common_iff hin s).mp hs) f hf with ⟨e, he, rfl⟩
    exact List.mem_map_of_mem (List.mem_filter.mp he).1
  have hle := ((nodup_common hin).subperm hsub).length_le
  rwa [List.length_map] at hle

/-- A field that a file owns is the printed slot of its last entry. -/
theorem timestamps_logConfig {s : UInt32} (hs : Logged files c s) {f : LogFile} (hf : f ∈ files)
    {t : Field} (ht : t ∈ (populatedFields (csvFileType f.csvType)).2) :
    ∃ e, f.lastEntry c s = some e ∧
      (finalRecord (logConfig mode target c files) s).timestamps t =
        formatTimestamp (e.timestampNs (fieldSlot t)) := by
  have hdoc := documented_logConfig (c := c) htypes hclean
  have hcommon : Common (logConfig mode target c files) s := (common_logConfig hclean s).mpr hs
  rcases List.getElem?_of_mem ht with ⟨i, hi⟩
  have hi' : (populatedFields f.input.detectedType).2[i]? = some t := by
    rw [detectedType_input]
    exact hi
  -- the record has the field of the last row of the file that owns it
  rcases finalRecord_owned hdoc hcommon (List.mem_map_of_mem hf) hi' with ⟨r, v, hr, hv, hrecord⟩
  rw [lastRow_input (hclean f hf)] at hr
  rcases Option.map_eq_some_iff.mp hr with ⟨e, he, rfl⟩
  refine ⟨e, he, hrecord.trans ?_⟩
  have hslot : (csvSlots f.csvType)[i]? = some (fieldSlot t) := by
    rw [← fieldSlot_populatedFields, List.getElem?_map, hi]
    rfl
  rw [Nat.add_comm] at hv
  simpa [csvFields, hslot] using hv.symm

/-- The record of a sequence number, in terms of the entries. -/
theorem joinedSlots_record {s : UInt32} (hs : Logged files c s) :
    ∃ ts, JoinedSlots files c s ts ∧ ∀ t ∈ outputTimestamps mode target,
      (finalRecord (logConfig mode target c files) s).timestamps t =
        formatTimestamp (ts (fieldSlot t)) := by
  -- a slot is what its field reads back as
  let ts : Slots := fun i =>
    parseTimestampNs ((finalRecord (logConfig mode target c files) s).timestamps (slotField i))
  have hfield : ∀ f ∈ files, ∀ t ∈ (populatedFields (csvFileType f.csvType)).2,
      ∃ e, f.lastEntry c s = some e ∧ ts (fieldSlot t) = e.timestampNs (fieldSlot t) ∧
        (finalRecord (logConfig mode target c files) s).timestamps t =
          formatTimestamp (ts (fieldSlot t)) := by
    intro f hf t ht
    rcases timestamps_logConfig htypes hclean hs hf ht with ⟨e, he, htext⟩
    have hts : ts (fieldSlot t) = e.timestampNs (fieldSlot t) := by
      show parseTimestampNs (Record.timestamps _ (slotField (fieldSlot t))) = _
      rw [slotField_fieldSlot (populated_lt ht), htext, parseTimestampNs_formatTimestamp]
    exact ⟨e, he, hts, by rw [htext, hts]⟩
  refine ⟨ts, ?_, ?_⟩
  · intro f hf
    rcases hs f hf with ⟨e₀, he₀, hseq⟩
    rcases hlast : f.lastEntry c s with _ | e
    · have hnil := List.getLast?_eq_none_iff.mp hlast
      exact absurd (List.mem_filter.mpr ⟨he₀, by simpa using hseq⟩) (hnil ▸ List.not_mem_nil)
    · refine ⟨e, rfl, ?_⟩
      intro i hi
      rw [← fieldSlot_populatedFields] at hi
      rcases List.mem_map.mp hi with ⟨t, ht, rfl⟩
      rcases hfield f hf t ht with ⟨e', he', hts, -⟩
      cases hlast.symm.trans he'
      exact hts
  · intro t ht
    rcases exists_owner (documented_logConfig (c := c) htypes hclean) ht with ⟨f, hf, hpop⟩
    rcases List.mem_map.mp hf with ⟨g, hg, rfl⟩
    rw [detectedType_input] at hpop
    rcases hfield g hg t hpop with ⟨-, -, -, htext⟩
    exact htext

end Join

/-- The output of the join, in terms of the entries: nothing when no packet is in
all files, and otherwise one row per packet. -/
def JoinsLogs (mode : OperationMode) (target : TargetType) (c : ClientId) (files : List LogFile) :
    Prop :=
  ∃ seqs : List UInt32, seqs.Pairwise (· < ·) ∧ (∀ s, s ∈ seqs ↔ Logged files c s) ∧
    (seqs = [] → processJoinOperation (logConfig mode target c files) = none) ∧
    (seqs ≠ [] → ∃ out, processJoinOperation (logConfig mode target c files) = some out ∧
      List.Forall₂ (fun s row => ∃ ts, JoinedSlots files c s ts ∧
        row = joinedRow mode target c s ts) seqs (outputRows out))

/-- For every documented combination of files that the CSV writer has closed, in any
order, with any entries of any clients, the join of the texts is the join of the
entries, as long as one of the files has fewer than `2^31` entries. -/
theorem log_files_joined {mode : OperationMode} {target : TargetType} {files : List LogFile}
    (htypes : (files.map fun f => csvFileType f.csvType).Perm (documentedTypes mode target))
    (hclean : ∀ f ∈ files, ∀ e ∈ f.entries, e.srcIp.Clean)
    (hsmall : ∃ f ∈ files, f.entries.length < 2 ^ 31) (c : ClientId) :
    JoinsLogs mode target c files := by
  have hdoc := documented_logConfig (c := c) htypes hclean
  have hin := hdoc.wellFormedInput
  have hcommon : ∀ s, s ∈ findCommonSequences (logConfig mode target c files) ↔
      Logged files c s := by
    intro s
    rw [common_iff hin, common_logConfig hclean]
  -- the smallest file bounds the common numbers
  have hlt : (findCommonSequences (logConfig mode target c files)).length < 2 ^ 31 := by
    rcases hsmall with ⟨f, hf, hlen⟩
    exact Nat.lt_of_le_of_lt (length_findCommonSequences_le htypes hclean hf) hlen
  refine ⟨findCommonSequences (logConfig mode target c files), ascending_common hin, hcommon,
    ?_, ?_⟩
  · intro hnil
    apply processJoinOperation_none hin
    rintro ⟨s, hs⟩
    have hmem := (common_iff hin s).mpr hs
    rw [hnil] at hmem
    cases hmem
  · -- the output has a row for each common number, in their order
    intro hne
    rcases List.exists_mem_of_ne_nil _ hne with ⟨s₀, hs₀⟩
    have hs₀' := (common_iff hin s₀).mp hs₀
    have hrecords : ∀ r ∈ (findCommonSequences (logConfig mode target c files)).map
        (joinedRecord (logConfig mode target c files)), CleanRecord r := by
      intro r hr
      rcases List.mem_map.mp hr with ⟨s, hs, rfl⟩
      exact cleanRecord_joinedRecord hin ((common_iff hin s).mp hs)
    refine ⟨_, processJoinOperation_eq hin ⟨s₀, hs₀'⟩, ?_⟩
    rw [outputRows_writeOutputCsv hrecords (targetIp_clean hin hs₀'), List.map_map]
    rw [List.forall₂_map_right_iff, List.forall₂_same]
    intro s hs
    rcases joinedSlots_record htypes hclean ((hcommon s).mp hs) with ⟨ts, hts, hprinted⟩
    refine ⟨ts, hts, ?_⟩
    rw [Function.comp_apply, joinedRecord, if_pos hlt]
    exact recordFields_logConfig hprinted

end TradingLatency
