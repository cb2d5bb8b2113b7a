import TradingLatency.Lib.CText

/-!
# The CSV join program (`timestamp_csvjoin.c`)

`processJoinOperation` joins the CSV files of one client by sequence number:

1. `findCommonSequences` collects the sequence numbers of the matching rows of
   each file and sorts those that occur in all files;
2. `createRecordTable` makes one record per common sequence number, with every
   timestamp set to `NULL`;
3. `populateTimestampsFromFile` reads each file again and copies its timestamp
   fields into the records, which it finds by binary search;
4. `writeOutputCsv` prints the records with the deltas of the mode.

The files are given by their contents, and memory allocation succeeds.
-/

namespace TradingLatency.Csvjoin

open CText

/-! ## Data model -/

/-- `MAX_LINE_LENGTH`. -/
def maxLineLength : Nat := 2048

/-- `MAX_CSV_FIELDS`. -/
def maxCsvFields : Nat := 20

/-- An index into `timestamps[MAX_TIMESTAMP_FIELDS]`. -/
abbrev Field := Fin 20

def fieldCltAppTxTscTs : Field := 0
def fieldCltAppTxTs : Field := 1
def fieldCltKerTxTs : Field := 2
def fieldSvrHwRxTs : Field := 3
def fieldSvrKerRxTs : Field := 4
def fieldSvrAppRxTs : Field := 5
def fieldSvrAppTxTs : Field := 6
def fieldSvrKerTxTs : Field := 7
def fieldCltHwRxTs : Field := 8
def fieldCltKerRxTs : Field := 9
def fieldCltAppRxTscTs : Field := 10
def fieldCltAppRxTs : Field := 11

/-- `operation_mode_t`. -/
inductive OperationMode where
  | oneWay
  | roundTrip
deriving DecidableEq, Repr

/-- `target_type_t`. -/
inductive TargetType where
  | client
  | server
  | clientServer
deriving DecidableEq, Repr

/-- `file_type_t`. -/
inductive FileType where
  | clientOnewayMain
  | clientOnewayTx
  | clientRoundtripMain
  | clientRoundtripTx
  | serverOnewayMain
  | serverRoundtripMain
  | serverRoundtripTx
  | unknown
deriving DecidableEq, Repr

/-- `record_t`. -/
@[ext] structure Record where
  seqNum : UInt32
  timestamps : Field → Text

/-- `input_files[i]` with its `detected_types[i]`. -/
structure InputFile where
  contents : Text
  detectedType : FileType
deriving DecidableEq, Repr

/-- `config_t`. The target address fits `char target_ip[16]`. -/
structure Config where
  targetIp : Text
  targetPort : UInt16
  mode : OperationMode
  target : TargetType
  inputFiles : List InputFile
  targetIp_length_le : targetIp.length ≤ 15

/-! ## Utility functions -/

/-- `trim_whitespace`: skip the white space in front, then the one behind. -/
def trimWhitespace (str : Text) : Text :=
  (str.dropWhile isspace).rdropWhile isspace

/-- `safe_strncpy(dest, src, n)`: the C string in `dest` afterwards. -/
def safeStrncpy (src : Text) (n : Nat) : Text := src.take (n - 1)

/-! ## Delta calculation engine -/

/-- The fields of `delta_definition_t` that are read, and the column name. -/
structure DeltaDefinition where
  tsAField : Field
  tsBField : Field
  columnName : String
deriving DecidableEq, Repr

/-- `ALL_DELTA_DEFINITIONS`. -/
def allDeltaDefinitions : List DeltaDefinition :=
  [ ⟨fieldCltAppTxTs, fieldCltKerTxTs, "delta_d1_clt_app_tx_to_ker_tx_us"⟩,
    ⟨fieldCltHwRxTs, fieldCltKerRxTs, "delta_d6_clt_hw_rx_to_ker_rx_us"⟩,
    ⟨fieldCltKerRxTs, fieldCltAppRxTs, "delta_d7_clt_ker_rx_to_app_rx_us"⟩,
    ⟨fieldCltAppTxTs, fieldCltHwRxTs, "delta_rtt_d1_clt_app_tx_to_hw_rx_us"⟩,
    ⟨fieldCltAppTxTs, fieldCltAppRxTs, "delta_rtt_d2_clt_app_tx_to_app_rx_us"⟩,
    ⟨fieldCltAppTxTscTs, fieldCltAppRxTscTs, "delta_rtt_d3_clt_app_tx_tsc_to_app_rx_tsc_us"⟩,
    ⟨fieldSvrHwRxTs, fieldSvrKerRxTs, "delta_d2_svr_hw_rx_to_ker_rx_us"⟩,
    ⟨fieldSvrKerRxTs, fieldSvrAppRxTs, "delta_d3_svr_ker_rx_to_app_rx_us"⟩,
    ⟨fieldSvrAppRxTs, fieldSvrAppTxTs, "delta_d4_svr_app_rx_to_app_tx_us"⟩,
    ⟨fieldSvrAppTxTs, fieldSvrKerTxTs, "delta_d5_svr_app_tx_to_ker_tx_us"⟩,
    ⟨fieldSvrHwRxTs, fieldSvrAppRxTs, "delta_tt_d1_svr_hw_rx_to_app_rx_us"⟩,
    ⟨fieldSvrHwRxTs, fieldSvrKerTxTs, "delta_tt_d2_svr_hw_rx_to_ker_tx_us"⟩,
    ⟨fieldCltKerTxTs, fieldSvrHwRxTs, "delta_net_clt_ker_tx_to_svr_hw_rx_us"⟩,
    ⟨fieldSvrKerTxTs, fieldCltHwRxTs, "delta_net_svr_ker_tx_to_clt_hw_rx_us"⟩ ]

/-- `get_mode_delta_config`: the `delta_indices` of the mode and target. -/
def getModeDeltaConfig : OperationMode → TargetType → List Nat
  | .oneWay, .client => [0]
  | .roundTrip, .client => [0, 1, 2, 3, 4, 5]
  | .oneWay, .server => [6, 7, 10]
  | .roundTrip, .server => [6, 7, 8, 9, 10, 11]
  | .oneWay, .clientServer => [0, 6, 7, 10, 12]
  | .roundTrip, .clientServer => [0, 1, 2, 3, 4, 5, 6, 7, 8, 9, 10, 11, 12, 13]

/-- The nine digits that `parse_timestamp_ns` reads behind the point: the
fraction cut after nine characters, or filled up with zeros. -/
def fractionDigits (frac : Text) : Text :=
  let frac := frac.take 15
  let frac := if frac.length > 9 then frac.take 9 else frac
  frac ++ List.replicate (9 - frac.length) '0'

/-- `parse_timestamp_ns`. -/
def parseTimestampNs (ts : Text) : UInt64 :=
  if ts = "NULL".toList then 0
  else
    let seconds := UInt64.ofInt (atoll ts)
    match ts.dropWhile (· ≠ '.') with
    | [] => seconds * 1000000000
    | _ :: frac => seconds * 1000000000 + UInt64.ofInt (atoll (fractionDigits frac))

/-- `delta_result_t`. -/
structure DeltaResult where
  deltaWholeUs : UInt32
  deltaFracNs : UInt32
  valid : Bool
deriving DecidableEq, Repr

/-- `calculate_delta_fast`. -/
def calculateDeltaFast (tsA tsB : UInt64) : DeltaResult :=
  if tsA = 0 ∨ tsB = 0 ∨ tsB ≤ tsA then ⟨0, 0, false⟩
  else
    let deltaNs := tsB - tsA
    ⟨(deltaNs / 1000).toUInt32, (deltaNs % 1000).toUInt32, true⟩

/-- `format_delta_to_buffer`: the C string in the buffer of `maxLen` bytes. -/
def formatDeltaToBuffer (delta : DeltaResult) (maxLen : Nat) : Text :=
  if delta.valid then
    (dec delta.deltaWholeUs.toNat ++ '.' :: decPad 3 delta.deltaFracNs.toNat).take (maxLen - 1)
  else "NULL".toList

/-- `calculate_mode_deltas`: one result per delta index of the mode. -/
def calculateModeDeltas (record : Record) (mode : OperationMode) (target : TargetType) :
    List DeltaResult :=
  (getModeDeltaConfig mode target).filterMap fun deltaIdx =>
    allDeltaDefinitions[deltaIdx]?.map fun defn =>
      calculateDeltaFast (parseTimestampNs (record.timestamps defn.tsAField))
        (parseTimestampNs (record.timestamps defn.tsBField))

/-! ## CSV parsing and file detection -/

/-- The loop of `parse_csv_line`. `current` is the text that is still to be
read, `field` the characters since `field_start`, and `prev` the character
`current[-1]`, if there is one. A separator is overwritten with NUL before the
pointer moves on, so `prev` is NUL behind it. -/
def parseCsvLoop (maxFields : Nat) :
    Text → List Text → Text → Bool → Option Char → List Text
  | [], fields, field, _, _ =>
      if fields.length < maxFields then fields ++ [trimWhitespace field] else fields
  | c :: current, fields, field, inQuotes, prev =>
      if fields.length < maxFields then
        if c = '"' ∧ (prev = none ∨ prev = some ',') then
          parseCsvLoop maxFields current fields (field ++ [c]) (!inQuotes) (some c)
        else if c = ',' ∧ inQuotes = false then
          parseCsvLoop maxFields current (fields ++ [trimWhitespace field]) [] inQuotes (some nul)
        else
          parseCsvLoop maxFields current fields (field ++ [c]) inQuotes (some c)
      else fields

/-- `parse_csv_line`: the fields, whose number is the returned count. -/
def parseCsvLine (line : Text) (maxFields : Nat) : List Text :=
  parseCsvLoop maxFields line [] [] false none

/-- `detect_file_type`. -/
def detectFileType (contents : Text) : FileType :=
  match fgets maxLineLength contents with
  | none => .unknown
  | some (header, _) =>
      let line := chop header
      if "clt_src_ip,clt_src_port,seq_num,clt_app_tx_tsc_ts,clt_app_tx_ts,clt_hw_rx_ts,clt_ker_rx_ts,clt_app_rx_tsc_ts,clt_app_rx_ts".toList <:+: line then
        .clientRoundtripMain
      else if "clt_src_ip,clt_src_port,seq_num,svr_hw_rx_ts,svr_ker_rx_ts,svr_app_rx_ts,svr_app_tx_ts".toList <:+: line then
        .serverRoundtripMain
      else if "clt_src_ip,clt_src_port,seq_num,svr_hw_rx_ts,svr_ker_rx_ts,svr_app_rx_ts".toList <:+: line then
        .serverOnewayMain
      else if "clt_src_ip,clt_src_port,seq_num,clt_app_tx_ts".toList <:+: line then
        .clientOnewayMain
      else if "clt_src_ip,clt_src_port,seq_num,clt_ker_tx_ts".toList <:+: line then
        .clientOnewayTx
      else if "clt_src_ip,clt_src_port,seq_num,svr_ker_tx_ts".toList <:+: line then
        .serverRoundtripTx
      else .unknown

/-- `validate_record_match`. -/
def validateRecordMatch (fields : List Text) (targetIp : Text) (targetPort : UInt16) : Bool :=
  match fields with
  | ip :: port :: _ :: _ => ip = targetIp && UInt16.ofInt (atoi port) = targetPort
  | _ => false

/-- `extract_sequence_number`: `none` where the source returns `-1`. -/
def extractSequenceNumber (fields : List Text) : Option UInt32 :=
  match fields with
  | _ :: _ :: seq :: _ =>
      let r := strtol seq
      if r.2 ≠ [] ∨ r.1 < 0 ∨ r.1 > 4294967295 then none else some (UInt32.ofInt r.1)
  | _ => none

/-! ## Core joining logic -/

/-- `sequence_set_add`. -/
def sequenceSetAdd (set : List UInt32) (seq : UInt32) : List UInt32 :=
  if seq ∈ set then set else set ++ [seq]

/-- The data lines of a file: both passes skip the first `fgets`. -/
def dataReads (contents : Text) : List Text :=
  match fgets maxLineLength contents with
  | none => []
  | some (_, rest) => readLines maxLineLength rest

/-- One turn of the loop of `load_sequences_from_file`. -/
def loadLine (targetIp : Text) (targetPort : UInt16) (set : List UInt32) (read : Text) :
    List UInt32 :=
  let line := chop read
  if line.length = 0 then set
  else
    let fields := parseCsvLine line maxCsvFields
    if fields.length < 3 then set
    else if validateRecordMatch fields targetIp targetPort then
      match extractSequenceNumber fields with
      | none => set
      | some seq => sequenceSetAdd set seq
    else set

/-- `load_sequences_from_file`. -/
def loadSequencesFromFile (contents : Text) (targetIp : Text) (targetPort : UInt16) :
    List UInt32 :=
  (dataReads contents).foldl (loadLine targetIp targetPort) []

/-- `find_common_sequences`: the sequence numbers of the first file that occur
in all other files, sorted. -/
def findCommonSequences (config : Config) : List UInt32 :=
  match config.inputFiles.map fun f =>
      loadSequencesFromFile f.contents config.targetIp config.targetPort with
  | [] => []
  | first :: others =>
      if first.length = 0 then []
      else (first.filter fun seq => others.all fun set => seq ∈ set).mergeSort

/-- `create_record_table`. -/
def createRecordTable (commonSeqs : List UInt32) : List Record :=
  commonSeqs.map fun seq => ⟨seq, fun _ => "NULL".toList⟩

/-- The conversion `(int)n` of a `size_t`. -/
def toCInt (n : Nat) : Int := (n : Int).bmod (2 ^ 32)

/-- The loop of `find_record_by_seq` over the `int` variables `left` and
`right`. The interval shrinks in every turn. -/
def findRecordLoop (records : List Record) (seq : UInt32) : Nat → Int → Int → Option Nat
  | 0, _, _ => none
  | fuel + 1, left, right =>
      if left ≤ right then
        let mid := left + (right - left) / 2
        match records[mid.toNat]? with
        | none => none
        | some r =>
            if r.seqNum = seq then some mid.toNat
            else if r.seqNum < seq then findRecordLoop records seq fuel (mid + 1) right
            else findRecordLoop records seq fuel left (mid - 1)
      else none

/-- `find_record_by_seq`: `none` where the source returns `-1`. The upper end
of the search is `(int)record_count - 1`, which is negative from `2^31` records
on. At `2^31` itself the `int` subtraction overflows, which C leaves undefined; it
is taken as negative there as well, so undefined behaviour finds nothing. -/
def findRecordBySeq (records : List Record) (recordCount : Nat) (seq : UInt32) : Option Nat :=
  findRecordLoop records seq recordCount 0 (toCInt recordCount - 1)

/-- The `switch` of `populate_timestamps_from_file`: the number of fields that
the branch asks for, and the record fields that it fills from `fields[3]` on. -/
def populatedFields : FileType → Nat × List Field
  | .clientOnewayMain => (4, [fieldCltAppTxTs])
  | .clientOnewayTx => (4, [fieldCltKerTxTs])
  | .clientRoundtripTx => (4, [fieldCltKerTxTs])
  | .clientRoundtripMain =>
      (9, [fieldCltAppTxTscTs, fieldCltAppTxTs, fieldCltHwRxTs, fieldCltKerRxTs,
        fieldCltAppRxTscTs, fieldCltAppRxTs])
  | .serverOnewayMain => (6, [fieldSvrHwRxTs, fieldSvrKerRxTs, fieldSvrAppRxTs])
  | .serverRoundtripMain =>
      (7, [fieldSvrHwRxTs, fieldSvrKerRxTs, fieldSvrAppRxTs, fieldSvrAppTxTs])
  | .serverRoundtripTx => (4, [fieldSvrKerTxTs])
  | .unknown => (0, [])

/-- `safe_strncpy(record.timestamps[target], field, 32)`. -/
def Record.setTimestamp (record : Record) (target : Field) (field : Text) : Record :=
  { record with
    timestamps := fun t => if t = target then safeStrncpy field 32 else record.timestamps t }

/-- The body of one branch of the `switch`. -/
def populateRecord (fileType : FileType) (fields : List Text) (record : Record) : Record :=
  if (populatedFields fileType).1 ≤ fields.length then
    ((populatedFields fileType).2.zip (fields.drop 3)).foldl
      (fun r tf => r.setTimestamp tf.1 tf.2) record
  else record

/-- One turn of the loop of `populate_timestamps_from_file`. -/
def populateLine (fileType : FileType) (targetIp : Text) (targetPort : UInt16)
    (recordCount : Nat) (records : List Record) (read : Text) : List Record :=
  let line := chop read
  if line.length = 0 then records
  else
    let fields := parseCsvLine line maxCsvFields
    if fields.length < 3 then records
    else if validateRecordMatch fields targetIp targetPort then
      match extractSequenceNumber fields with
      | none => records
      | some seq =>
          match findRecordBySeq records recordCount seq with
          | none => records
          | some idx => records.modify idx (populateRecord fileType fields)
    else records

/-- `populate_timestamps_from_file`. -/
def populateTimestampsFromFile (file : InputFile) (targetIp : Text) (targetPort : UInt16)
    (records : List Record) (recordCount : Nat) : List Record :=
  (dataReads file.contents).foldl
    (populateLine file.detectedType targetIp targetPort recordCount) records

/-! ## Output generation -/

/-- `get_output_header_with_deltas`. -/
def getOutputHeaderWithDeltas : OperationMode → TargetType → Text
  | .oneWay, .client =>
      "clt_src_ip,clt_src_port,seq_num,clt_app_tx_ts,clt_ker_tx_ts,delta_d1_clt_app_tx_to_ker_tx_us".toList
  | .oneWay, .server =>
      "clt_src_ip,clt_src_port,seq_num,svr_hw_rx_ts,svr_ker_rx_ts,svr_app_rx_ts,delta_d2_svr_hw_rx_to_ker_rx_us,delta_d3_svr_ker_rx_to_app_rx_us,delta_tt_d1_svr_hw_rx_to_app_rx_us".toList
  | .oneWay, .clientServer =>
      "clt_src_ip,clt_src_port,seq_num,clt_app_tx_ts,clt_ker_tx_ts,svr_hw_rx_ts,svr_ker_rx_ts,svr_app_rx_ts,delta_d1_clt_app_tx_to_ker_tx_us,delta_d2_svr_hw_rx_to_ker_rx_us,delta_d3_svr_ker_rx_to_app_rx_us,delta_tt_d1_svr_hw_rx_to_app_rx_us,delta_net_clt_ker_tx_to_svr_hw_rx_us".toList
  | .roundTrip, .client =>
      "clt_src_ip,clt_src_port,seq_num,clt_app_tx_tsc_ts,clt_app_tx_ts,clt_ker_tx_ts,clt_hw_rx_ts,clt_ker_rx_ts,clt_app_rx_tsc_ts,clt_app_rx_ts,delta_d1_clt_app_tx_to_ker_tx_us,delta_d6_clt_hw_rx_to_ker_rx_us,delta_d7_clt_ker_rx_to_app_rx_us,delta_rtt_d1_clt_app_tx_to_hw_rx_us,delta_rtt_d2_clt_app_tx_to_app_rx_us,delta_rtt_d3_clt_app_tx_tsc_to_app_rx_tsc_us".toList
  | .roundTrip, .server =>
      "clt_src_ip,clt_src_port,seq_num,svr_hw_rx_ts,svr_ker_rx_ts,svr_app_rx_ts,svr_app_tx_ts,svr_ker_tx_ts,delta_d2_svr_hw_rx_to_ker_rx_us,delta_d3_svr_ker_rx_to_app_rx_us,delta_d4_svr_app_rx_to_app_tx_us,delta_d5_svr_app_tx_to_ker_tx_us,delta_tt_d1_svr_hw_rx_to_app_rx_us,delta_tt_d2_svr_hw_rx_to_ker_tx_us".toList
  | .roundTrip, .clientServer =>
      "clt_src_ip,clt_src_port,seq_num,clt_app_tx_tsc_ts,clt_app_tx_ts,clt_ker_tx_ts,svr_hw_rx_ts,svr_ker_rx_ts,svr_app_rx_ts,svr_app_tx_ts,svr_ker_tx_ts,clt_hw_rx_ts,clt_ker_rx_ts,clt_app_rx_tsc_ts,clt_app_rx_ts,delta_d1_clt_app_tx_to_ker_tx_us,delta_d6_clt_hw_rx_to_ker_rx_us,delta_d7_clt_ker_rx_to_app_rx_us,delta_rtt_d1_clt_app_tx_to_hw_rx_us,delta_rtt_d2_clt_app_tx_to_app_rx_us,delta_rtt_d3_clt_app_tx_tsc_to_app_rx_tsc_us,delta_d2_svr_hw_rx_to_ker_rx_us,delta_d3_svr_ker_rx_to_app_rx_us,delta_d4_svr_app_rx_to_app_tx_us,delta_d5_svr_app_tx_to_ker_tx_us,delta_tt_d1_svr_hw_rx_to_app_rx_us,delta_tt_d2_svr_hw_rx_to_ker_tx_us,delta_net_clt_ker_tx_to_svr_hw_rx_us,delta_net_svr_ker_tx_to_clt_hw_rx_us".toList

/-- The timestamps that `format_output_record` prints for the mode and target,
in the order of its format strings. -/
def outputTimestamps : OperationMode → TargetType → List Field
  | .oneWay, .client => [fieldCltAppTxTs, fieldCltKerTxTs]
  | .oneWay, .server => [fieldSvrHwRxTs, fieldSvrKerRxTs, fieldSvrAppRxTs]
  | .oneWay, .clientServer =>
      [fieldCltAppTxTs, fieldCltKerTxTs, fieldSvrHwRxTs, fieldSvrKerRxTs, fieldSvrAppRxTs]
  | .roundTrip, .client =>
      [fieldCltAppTxTscTs, fieldCltAppTxTs, fieldCltKerTxTs, fieldCltHwRxTs, fieldCltKerRxTs,
        fieldCltAppRxTscTs, fieldCltAppRxTs]
  | .roundTrip, .server =>
      [fieldSvrHwRxTs, fieldSvrKerRxTs, fieldSvrAppRxTs, fieldSvrAppTxTs, fieldSvrKerTxTs]
  | .roundTrip, .clientServer =>
      [fieldCltAppTxTscTs, fieldCltAppTxTs, fieldCltKerTxTs, fieldSvrHwRxTs, fieldSvrKerRxTs,
        fieldSvrAppRxTs, fieldSvrAppTxTs, fieldSvrKerTxTs, fieldCltHwRxTs, fieldCltKerRxTs,
        fieldCltAppRxTscTs, fieldCltAppRxTs]

/-- `format_output_record`: the three `snprintf` stages into a line buffer of
`maxLen` bytes. -/
def formatOutputRecord (record : Record) (targetIp : Text) (targetPort : UInt16)
    (mode : OperationMode) (target : TargetType) (maxLen : Nat) : OutBuf :=
  let b := OutBuf.empty.snprintf maxLen
    (targetIp ++ ',' :: dec targetPort.toNat ++ ',' :: dec record.seqNum.toNat)
  let b := b.snprintf maxLen
    ((outputTimestamps mode target).flatMap fun t => ',' :: record.timestamps t)
  (calculateModeDeltas record mode target).foldl
    (fun b d => b.snprintf maxLen (',' :: formatDeltaToBuffer d 16)) b

/-- `write_output_csv`: the contents of the output file. -/
def writeOutputCsv (records : List Record) (config : Config) : Text :=
  getOutputHeaderWithDeltas config.mode config.target ++ '\n' ::
    records.flatMap fun r =>
      let b := formatOutputRecord r config.targetIp config.targetPort config.mode config.target
        maxLineLength
      if b.offset > 0 then b.text ++ ['\n'] else []

/-- `process_join_operation`: the contents of the output file, `none` when no
file is written. -/
def processJoinOperation (config : Config) : Option Text :=
  let commonSeqs := findCommonSequences config
  if commonSeqs.length = 0 then none
  else
    let records := config.inputFiles.foldl
      (fun records file => populateTimestampsFromFile file config.targetIp config.targetPort
        records commonSeqs.length)
      (createRecordTable commonSeqs)
    some (writeOutputCsv records config)

end TradingLatency.Csvjoin
