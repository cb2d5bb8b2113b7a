import TradingLatency.Csv.Parsing
import Mathlib.Data.Set.Card

/-!
# What a join is

The meaning of a join, stated on the rows of the input files and the rows of
the output, without the two passes, the record table and the binary search of
the program.

* `rows`: the data rows of a file, split at line ends and separators;
* `Common`: the sequence numbers with a matching row in every file;
* `ownedField`: the field of the last matching row in the file that owns a
  timestamp column;
* `JoinCorrect`: the output has one row per common sequence number, ascending,
  with the owned fields, and does not depend on the order of the files.
-/

namespace TradingLatency.Csvjoin

open CText

/-! ## Rows of an input file -/

/-- What follows the header. The header is the first line, of which one read
takes at most `MAX_LINE_LENGTH - 1` characters. -/
def dataText (contents : Text) : Text := (fgetsTake (maxLineLength - 1) contents).2

/-- A line without the carriage return of a `\r\n` line end. -/
def stripCr (line : Text) : Text :=
  if line.getLast? = some '\r' then line.dropLast else line

/-- The data lines between the newline characters, as they stand in the file. -/
def rawLines (contents : Text) : List Text := (dataText contents).splitOn '\n'

/-- The data rows of a file: its non-empty lines, split at the commas. -/
def rows (contents : Text) : List (List Text) :=
  (((rawLines contents).map stripCr).filter (· ≠ [])).map (·.splitOn ',')

/-- The header columns that a file type stands for. -/
def typeColumns : FileType → List Text
  | .clientOnewayMain => "clt_src_ip,clt_src_port,seq_num,clt_app_tx_ts".toList.splitOn ','
  | .clientOnewayTx => "clt_src_ip,clt_src_port,seq_num,clt_ker_tx_ts".toList.splitOn ','
  | .clientRoundtripMain =>
      "clt_src_ip,clt_src_port,seq_num,clt_app_tx_tsc_ts,clt_app_tx_ts,clt_hw_rx_ts,clt_ker_rx_ts,clt_app_rx_tsc_ts,clt_app_rx_ts".toList.splitOn ','
  | .clientRoundtripTx => "clt_src_ip,clt_src_port,seq_num,clt_ker_tx_ts".toList.splitOn ','
  | .serverOnewayMain =>
      "clt_src_ip,clt_src_port,seq_num,svr_hw_rx_ts,svr_ker_rx_ts,svr_app_rx_ts".toList.splitOn ','
  | .serverRoundtripMain =>
      "clt_src_ip,clt_src_port,seq_num,svr_hw_rx_ts,svr_ker_rx_ts,svr_app_rx_ts,svr_app_tx_ts".toList.splitOn ','
  | .serverRoundtripTx => "clt_src_ip,clt_src_port,seq_num,svr_ker_tx_ts".toList.splitOn ','
  | .unknown => []

/-- A well-formed data row of a file type: plain fields, as many as the header
has and at most 20, a decimal port and sequence number in range, and timestamp
fields of at most 31 characters. -/
def WellFormedRow (ty : FileType) (fields : List Text) : Prop :=
  (typeColumns ty).length ≤ fields.length ∧ fields.length ≤ maxCsvFields ∧
  (∀ f ∈ fields, '"' ∉ f ∧ Unpadded f) ∧
  ∃ ip port seq ts, fields = ip :: port :: seq :: ts ∧
    IsDecimal port ∧ decimalValue port ≤ 65535 ∧
    IsDecimal seq ∧ decimalValue seq ≤ 4294967295 ∧
    ∀ f ∈ ts.take ((typeColumns ty).length - 3), f.length ≤ 31

/-- A file whose data lines are short and well formed. Lines end with `\n` or
`\r\n`; empty lines are no data lines. -/
def WellFormedFile (file : InputFile) : Prop :=
  ∀ line ∈ rawLines file.contents, line.length < 2047 ∧
    (stripCr line = [] ∨
      IsPlain (stripCr line) ∧ WellFormedRow file.detectedType ((stripCr line).splitOn ','))

/-! ## Documented combinations -/

/-- The file types of the valid combinations: a main file and, where there is
one, a TX file per side. The client TX files of both modes have one header. -/
def documentedTypes : OperationMode → TargetType → List FileType
  | .oneWay, .client => [.clientOnewayMain, .clientOnewayTx]
  | .roundTrip, .client => [.clientRoundtripMain, .clientOnewayTx]
  | .oneWay, .server => [.serverOnewayMain]
  | .roundTrip, .server => [.serverRoundtripMain, .serverRoundtripTx]
  | .oneWay, .clientServer => [.clientOnewayMain, .clientOnewayTx, .serverOnewayMain]
  | .roundTrip, .clientServer =>
      [.clientRoundtripMain, .clientOnewayTx, .serverRoundtripMain, .serverRoundtripTx]

/-- A configuration that the program documents: detected file types that form,
in any order, the combination of its mode and target, and well-formed files. -/
structure Documented (config : Config) : Prop where
  detected : ∀ f ∈ config.inputFiles, detectFileType f.contents = f.detectedType
  types : (config.inputFiles.map (·.detectedType)).Perm (documentedTypes config.mode config.target)
  wellFormed : ∀ f ∈ config.inputFiles, WellFormedFile f

/-! ## The join -/

/-- The row belongs to the target client. -/
def rowMatches (config : Config) (fields : List Text) : Bool :=
  fields[0]? = some config.targetIp &&
    fields[1]?.map decimalValue = some config.targetPort.toNat

/-- The sequence number of a row. -/
def rowSeq (fields : List Text) : UInt32 :=
  UInt32.ofNat (decimalValue (fields[2]?.getD []))

/-- The rows of the target client in a file. -/
def matchingRows (config : Config) (file : InputFile) : List (List Text) :=
  (rows file.contents).filter (rowMatches config)

/-- A sequence number that occurs in matching rows of every input file. -/
def Common (config : Config) (s : UInt32) : Prop :=
  ∀ f ∈ config.inputFiles, ∃ r ∈ matchingRows config f, rowSeq r = s

/-- The last matching row with sequence number `s` in a file. -/
def lastRow (config : Config) (file : InputFile) (s : UInt32) : Option (List Text) :=
  ((matchingRows config file).filter (rowSeq · = s)).getLast?

/-- The field of the column `name` in the last matching row with sequence number
`s` of the file that owns this column. -/
def ownedField (config : Config) (name : Text) (s : UInt32) : Option Text := do
  let f ← config.inputFiles.find? fun f => name ∈ typeColumns f.detectedType
  let r ← lastRow config f s
  r[(typeColumns f.detectedType).idxOf name]?

/-- The columns of the output. -/
def outputColumns (config : Config) : List Text :=
  (getOutputHeaderWithDeltas config.mode config.target).splitOn ','

/-- A timestamp column is one that some file type has behind the identification
of the packet. -/
def IsTimestampColumn (name : Text) : Prop := ∃ ty, name ∈ (typeColumns ty).drop 3

/-- The rows of an output file, behind its header. -/
def outputRows (out : Text) : List (List Text) :=
  (((out.splitOn '\n').drop 1).filter (· ≠ [])).map (·.splitOn ',')

/-- The output joins the files: a header, and one row per common sequence
number in ascending order, whose timestamp columns hold the owned fields. -/
def OutputCorrect (config : Config) (out : Text) : Prop :=
  (out.splitOn '\n').head? = some (getOutputHeaderWithDeltas config.mode config.target) ∧
  ∃ seqs : List UInt32, seqs.Pairwise (· < ·) ∧ (∀ s, s ∈ seqs ↔ Common config s) ∧
    (outputRows out).length = seqs.length ∧
    ∀ (i : Nat) (s : UInt32) (row : List Text), seqs[i]? = some s → (outputRows out)[i]? = some row →
      row.length = (outputColumns config).length ∧
      row[0]? = some config.targetIp ∧ row[1]? = some (dec config.targetPort.toNat) ∧
      row[2]? = some (dec s.toNat) ∧
      ∀ (p : Nat) (name : Text), (outputColumns config)[p]? = some name → IsTimestampColumn name →
        ∃ value, ownedField config name s = some value ∧ row[p]? = some value

/-- The join of a configuration is correct: nothing is written when no sequence
number is common, the output joins the files otherwise, and the order of the
input files does not matter. -/
structure JoinCorrect (config : Config) : Prop where
  nothing_written : (¬ ∃ s, Common config s) → processJoinOperation config = none
  written : (∃ s, Common config s) →
    ∃ out, processJoinOperation config = some out ∧ OutputCorrect config out
  order_irrelevant : ∀ files, files.Perm config.inputFiles →
    processJoinOperation { config with inputFiles := files } = processJoinOperation config

/-- How many sequence numbers are common to all files. -/
noncomputable def commonCount (config : Config) : Nat := {s | Common config s}.ncard

/-- Every timestamp that the join looks up is the text `NULL` already. -/
def AllNull (config : Config) : Prop :=
  ∀ s, Common config s → ∀ name ∈ outputColumns config, IsTimestampColumn name →
    ownedField config name s = some "NULL".toList

end TradingLatency.Csvjoin
