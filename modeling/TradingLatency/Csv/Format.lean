import TradingLatency.Lib.CText
import Mathlib.Algebra.GroupWithZero.Nat
import Mathlib.Data.Fintype.Pi
import Mathlib.Logic.Function.Basic

/-!
# CSV rows and their formatter (`timestamp_common.h`, `timestamp_common.c`)

The entries that the client and server programs log, the six CSV formats with
their headers, and `csvFormatBatch`, the formatter of the writer thread.

A row is the source address, port and sequence number, followed by the
timestamps of its format. Each timestamp is printed as seconds, a point and
nine digits of nanoseconds.
-/

namespace TradingLatency

open CText

/-! ## Data model -/

/-- An address text as it fits `char src_ip[16]`: at most 15 characters, none
of them NUL. -/
structure IpText where
  text : Text
  length_le : text.length ≤ 15
  nul_not_mem : nul ∉ text
deriving DecidableEq, Repr

/-- `strncpy(dest, src, 15); dest[15] = '\0'`. -/
def IpText.ofText (s : Text) : IpText where
  text := (s.takeWhile (· ≠ nul)).take 15
  length_le := List.length_take_le _ _
  nul_not_mem := by
    intro h
    have h' := List.mem_of_mem_take h
    have := List.mem_takeWhile_imp h'
    simp at this

theorem IpText.ext_text {a b : IpText} (h : a.text = b.text) : a = b := by
  cases a
  cases b
  simp_all

theorem IpText.ofText_text (ip : IpText) : IpText.ofText ip.text = ip := by
  have hall : ip.text.takeWhile (· ≠ nul) = ip.text := by
    apply List.takeWhile_eq_self_iff.mpr
    intro c hc
    simpa using fun h : c = nul => ip.nul_not_mem (h ▸ hc)
  apply IpText.ext_text
  show (ip.text.takeWhile (· ≠ nul)).take 15 = ip.text
  rw [hall, List.take_of_length_le ip.length_le]

/-- The slots are numbered by literals of `Fin 12`. -/
instance instNeZeroSlots : NeZero 12 := ⟨by decide⟩

/-- The twelve timestamp slots of an entry, in nanoseconds. -/
abbrev Slots := Fin 12 → UInt64

/-- The universal timestamp array mapping: the name of each slot. -/
def slotName : Fin 12 → Text
  | 0 => "clt_app_tx_tsc_ts".toList
  | 1 => "clt_app_tx_ts".toList
  | 2 => "clt_ker_tx_ts".toList
  | 3 => "clt_hw_rx_ts".toList
  | 4 => "clt_ker_rx_ts".toList
  | 5 => "clt_app_rx_tsc_ts".toList
  | 6 => "clt_app_rx_ts".toList
  | 7 => "svr_hw_rx_ts".toList
  | 8 => "svr_ker_rx_ts".toList
  | 9 => "svr_app_rx_ts".toList
  | 10 => "svr_app_tx_ts".toList
  | 11 => "svr_ker_tx_ts".toList

/-- `csv_type_t`. -/
inductive CsvType where
  | clientMainOneway
  | clientMainRoundtrip
  | clientTx
  | serverMainOneway
  | serverMainRoundtrip
  | serverTx
deriving DecidableEq, Repr

/-- `csv_entry_t`. -/
structure CsvEntry where
  seqNum : UInt32
  timestampNs : Slots
  srcIp : IpText
  srcPort : UInt16
  csvType : CsvType
deriving DecidableEq

/-! ## Direct CSV creation helpers -/

/-- The part shared by the `create_csv_*` helpers: the identification of the
row, and a timestamp array that is zero outside the slots of `ts`. -/
def createCsv (ty : CsvType) (seq : UInt32) (srcIp : Text) (srcPort : UInt16)
    (ts : Slots → Slots) : CsvEntry where
  seqNum := seq
  timestampNs := ts fun _ => 0
  srcIp := IpText.ofText srcIp
  srcPort := srcPort
  csvType := ty

/-- `create_csv_client_oneway_tx`. -/
def createCsvClientOnewayTx (seq : UInt32) (srcIp : Text) (srcPort : UInt16)
    (kernelTx : UInt64) : CsvEntry :=
  createCsv .clientTx seq srcIp srcPort fun ts => Function.update ts 2 kernelTx

/-- `create_csv_client_oneway_main`. -/
def createCsvClientOnewayMain (seq : UInt32) (srcIp : Text) (srcPort : UInt16)
    (appTx : UInt64) : CsvEntry :=
  createCsv .clientMainOneway seq srcIp srcPort fun ts => Function.update ts 1 appTx

/-- `create_csv_client_roundtrip_rx`. -/
def createCsvClientRoundtripRx (seq : UInt32) (srcIp : Text) (srcPort : UInt16)
    (txTsc appTx hwRx kerRx rxTsc appRx : UInt64) : CsvEntry :=
  createCsv .clientMainRoundtrip seq srcIp srcPort fun ts =>
    Function.update (Function.update (Function.update (Function.update (Function.update
      (Function.update ts 0 txTsc) 1 appTx) 3 hwRx) 4 kerRx) 5 rxTsc) 6 appRx

/-- `create_csv_server_oneway_main`. -/
def createCsvServerOnewayMain (seq : UInt32) (srcIp : Text) (srcPort : UInt16)
    (hwRx kerRx appRx : UInt64) : CsvEntry :=
  createCsv .serverMainOneway seq srcIp srcPort fun ts =>
    Function.update (Function.update (Function.update ts 7 hwRx) 8 kerRx) 9 appRx

/-- `create_csv_server_roundtrip_main`. -/
def createCsvServerRoundtripMain (seq : UInt32) (srcIp : Text) (srcPort : UInt16)
    (hwRx kerRx appRx appTx : UInt64) : CsvEntry :=
  createCsv .serverMainRoundtrip seq srcIp srcPort fun ts =>
    Function.update (Function.update (Function.update (Function.update ts 7 hwRx) 8 kerRx)
      9 appRx) 10 appTx

/-- `create_csv_server_tx`. -/
def createCsvServerTx (seq : UInt32) (srcIp : Text) (srcPort : UInt16)
    (kerTx : UInt64) : CsvEntry :=
  createCsv .serverTx seq srcIp srcPort fun ts => Function.update ts 11 kerTx

/-! ## The sizes of `csv_buffer_create` -/

/-- The arguments of `csv_buffer_create` that the buffer keeps. -/
structure CsvBufferConfig where
  size : UInt32
  batchSize : UInt32
  csvType : CsvType

/-- `write_buffer_size = batch_size * 256`, a product of 32-bit values. -/
def CsvBufferConfig.writeBufferSize (c : CsvBufferConfig) : Nat := (c.batchSize * 256).toNat

/-- The parameter `int max_entries` of `csv_dequeue_batch`. -/
def CsvBufferConfig.maxEntries (c : CsvBufferConfig) : Int :=
  (c.batchSize.toNat : Int).bmod (2 ^ 32)

/-! ## Headers and rows -/

/-- `get_csv_header`, without the newline. -/
def getCsvHeader : CsvType → Text
  | .clientMainOneway => "clt_src_ip,clt_src_port,seq_num,clt_app_tx_ts".toList
  | .clientMainRoundtrip =>
      "clt_src_ip,clt_src_port,seq_num,clt_app_tx_tsc_ts,clt_app_tx_ts,clt_hw_rx_ts,clt_ker_rx_ts,clt_app_rx_tsc_ts,clt_app_rx_ts".toList
  | .clientTx => "clt_src_ip,clt_src_port,seq_num,clt_ker_tx_ts".toList
  | .serverMainOneway =>
      "clt_src_ip,clt_src_port,seq_num,svr_hw_rx_ts,svr_ker_rx_ts,svr_app_rx_ts".toList
  | .serverMainRoundtrip =>
      "clt_src_ip,clt_src_port,seq_num,svr_hw_rx_ts,svr_ker_rx_ts,svr_app_rx_ts,svr_app_tx_ts".toList
  | .serverTx => "clt_src_ip,clt_src_port,seq_num,svr_ker_tx_ts".toList

/-- `1000000000ULL`, the nanoseconds of one second. -/
def nsPerSec : Nat := 1000000000

/-- `%llu.%09llu` applied to the seconds and the nanoseconds of a timestamp. -/
def formatTimestamp (ns : UInt64) : Text :=
  dec (ns.toNat / nsPerSec) ++ '.' :: decPad 9 (ns.toNat % nsPerSec)

/-- The slots that each branch of the formatter prints, in this order. -/
def csvSlots : CsvType → List (Fin 12)
  | .clientMainOneway => [1]
  | .clientMainRoundtrip => [0, 1, 3, 4, 5, 6]
  | .serverMainOneway => [7, 8, 9]
  | .serverMainRoundtrip => [7, 8, 9, 10]
  | .clientTx => [2]
  | .serverTx => [11]

/-- The fields of a row: `%s`, `%u`, `%u` and the timestamps. -/
def csvFields (ty : CsvType) (e : CsvEntry) : List Text :=
  e.srcIp.text :: dec e.srcPort.toNat :: dec e.seqNum.toNat ::
    (csvSlots ty).map fun i => formatTimestamp (e.timestampNs i)

/-- One row without its newline. -/
def csvLine (ty : CsvType) (e : CsvEntry) : Text := [','].intercalate (csvFields ty e)

/-! ## The formatter -/

/-- The loop of `csv_format_batch`: it goes on while entries are left and
`offset < buffer_size - 256`. -/
def csvFormatLoop (ty : CsvType) (bufferSize : Nat) : List CsvEntry → OutBuf → OutBuf
  | [], b => b
  | e :: batch, b =>
      if b.offset < sizeSub bufferSize 256 then
        csvFormatLoop ty bufferSize batch (b.snprintf bufferSize (csvLine ty e ++ ['\n']))
      else b

/-- `csv_format_batch(batch, count, buffer, buffer_size, csv_type)` with its
`int count`: the C string left in the buffer. The final statement cuts the
string at `offset`, or at the end of the buffer. -/
def csvFormatBatch (batch : List CsvEntry) (count : Int) (bufferSize : Nat) (ty : CsvType) : Text :=
  let b := csvFormatLoop ty bufferSize (batch.take count.toNat) OutBuf.empty
  b.text.take (if b.offset < bufferSize then b.offset else bufferSize - 1)

end TradingLatency
