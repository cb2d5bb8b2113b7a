import TradingLatency.Correlation
import TradingLatency.Lib.Recvmsg

/-!
# The shutdown drain of the one-way client (`timestamp_client.c`)

When the client stops, the TX timestamp thread and then `run_client_oneway` call
`process_tx_timestamps_in_main_thread` until it returns zero. One call reads up
to `TX_TIMESTAMP_BATCH_SIZE` messages of the error queue, but counts only those
that it hands to the CSV ring. With CSV output a call returns zero on the empty
queue only; with statistics alone it always does, and each of the two loops ends
after one call (`drain_complete_iff`).

No message arrives while the loops run: `recvmsg` removes the first message, and
fails with `EAGAIN` when there is none.
-/

namespace TradingLatency.Drain

open CText Recvmsg

/-! ## Data model -/

/-- The sinks. `tx_csv_buffer` exists exactly if CSV output is enabled, and
`global_stats_collector` exactly if statistics are. -/
structure Config where
  csvEnabled : Bool
  statsEnabled : Bool
  clientSrcIp : Text
  clientSrcPort : UInt16

/-- A TX timestamp in the error queue: the looped packet, of which at most 64
bytes are read, the kernel timestamp and the identification by the kernel. -/
structure TxTimestamp where
  packetData : List UInt8
  ts : Timespec
  eeData : UInt32
  length_le : packetData.length ≤ 64

/-- The control messages of a TX timestamp, in the order of the kernel. -/
def TxTimestamp.control (m : TxTimestamp) : List Cmsg := [.timestamping m.ts, .recverr m.eeData]

/-- `CMSG_SPACE` of `struct scm_timestamping64`, and of `struct sock_extended_err`
with its address. -/
def cmsgLen : Cmsg → Nat
  | .timestamping _ => 64
  | .recverr _ => 48
  | .other => 16

/-- Sequence number and kernel timestamp, as read from the control messages that
have been delivered. -/
def TxTimestamp.read (m : TxTimestamp) (control : List Cmsg) : UInt32 × Timespec :=
  TxMessage.read ⟨m.packetData, control, m.length_le⟩

/-- The error queue, and the calls that were made for the two sinks. -/
structure State where
  queue : List TxTimestamp
  csvTx : List CsvEntry
  statsTx : List StatsUpdate

/-! ## The drain -/

/-- `TX_TIMESTAMP_BATCH_SIZE`. -/
def txTimestampBatchSize : Nat := 256

/-- The CSV entry of a TX timestamp. -/
def csvEntryOf (cfg : Config) (r : UInt32 × Timespec) : CsvEntry :=
  createCsvClientOnewayTx r.1 cfg.clientSrcIp cfg.clientSrcPort r.2.ns

/-- The update of the statistics for a TX timestamp. -/
def statsUpdateOf (r : UInt32 × Timespec) : StatsUpdate := .tx r.1 r.2.ns .clientOneway

/-- The loop of `process_tx_timestamps_in_main_thread`: the remaining turns,
`msg.msg_controllen` and `processed_timestamps`. -/
def processLoop (cfg : Config) : Nat → Nat → State → Nat → State × Nat
  | 0, _, s, processed => (s, processed)
  | i + 1, controllen, s, processed =>
      match s.queue with
      | [] => (s, processed)
      | m :: queue =>
          let r := receive cmsgLen controllen m.control
          let read := m.read r.1
          let csvTx := if cfg.csvEnabled then s.csvTx ++ [csvEntryOf cfg read] else s.csvTx
          let processed := if cfg.csvEnabled then processed + 1 else processed
          let statsTx := if cfg.statsEnabled then s.statsTx ++ [statsUpdateOf read] else s.statsTx
          processLoop cfg i r.2 ⟨queue, csvTx, statsTx⟩ processed

/-- `process_tx_timestamps_in_main_thread`. -/
def processTxTimestampsInMainThread (cfg : Config) (s : State) : State × Nat :=
  if !cfg.csvEnabled && !cfg.statsEnabled then (s, 0)
  else processLoop cfg txTimestampBatchSize 256 s 0

/-- What one call hands to the sinks. -/
def handOver (cfg : Config) (ms : List TxTimestamp) (s : State) : State where
  queue := s.queue
  csvTx := if cfg.csvEnabled then s.csvTx ++ ms.map fun m => csvEntryOf cfg (m.read m.control)
    else s.csvTx
  statsTx := if cfg.statsEnabled then s.statsTx ++ ms.map fun m => statsUpdateOf (m.read m.control)
    else s.statsTx

/-- All messages have the same control messages, so the capacity that one of them
leaves is enough for the next. -/
theorem receive_control {m : TxTimestamp} {controllen : Nat} (h : 112 ≤ controllen) :
    receive cmsgLen controllen m.control = (m.control, 112) :=
  receive_of_le h

/-- The loop takes the first messages of the queue. -/
theorem processLoop_eq (cfg : Config) (n : Nat) {controllen : Nat} (hlen : 112 ≤ controllen)
    (s : State) (processed : Nat) :
    processLoop cfg n controllen s processed =
      ({ handOver cfg (s.queue.take n) s with queue := s.queue.drop n },
        if cfg.csvEnabled then processed + min n s.queue.length else processed) := by
  -- induction over the messages that this call may take; `processed` counts for the CSV only
  induction n generalizing controllen s processed with
  | zero =>
    simp only [processLoop, handOver, List.take_zero, List.drop_zero, List.map_nil,
      List.append_nil, Nat.zero_min, Nat.add_zero, ite_self]
  | succ n ih =>
    rcases s with ⟨_ | ⟨m, queue⟩, csvTx, statsTx⟩
    · -- the queue is empty before that
      simp only [processLoop, handOver, List.take_nil, List.drop_nil, List.map_nil,
        List.append_nil, List.length_nil, Nat.min_zero, Nat.add_zero, ite_self]
    · -- the buffer for control messages is large enough in every turn
      rw [processLoop]
      simp only [receive_control hlen]
      rw [ih (Nat.le_refl 112)]
      simp only [handOver, List.take_succ_cons, List.drop_succ_cons, List.map_cons,
        List.length_cons, Nat.add_min_add_right]
      cases cfg.csvEnabled <;> cases cfg.statsEnabled <;>
        simp [Nat.add_comm, Nat.add_left_comm]

/-- One call: it removes as many messages as it has turns, hands them to the
enabled sinks, and counts those that went to the CSV ring. -/
theorem process_eq {cfg : Config} (hany : cfg.csvEnabled = true ∨ cfg.statsEnabled = true)
    (s : State) :
    processTxTimestampsInMainThread cfg s =
      ({ handOver cfg (s.queue.take 256) s with queue := s.queue.drop 256 },
        if cfg.csvEnabled then min 256 s.queue.length else 0) := by
  have hsome : (!cfg.csvEnabled && !cfg.statsEnabled) = false := by
    rcases hany with h | h <;> simp [h]
  rw [processTxTimestampsInMainThread, hsome, if_neg Bool.false_ne_true,
    processLoop_eq cfg _ (by omega)]
  simp only [txTimestampBatchSize, Nat.zero_add]

/-- A call that counts something has made the queue shorter. -/
theorem length_process_lt {cfg : Config} {s : State}
    (h : 0 < (processTxTimestampsInMainThread cfg s).2) :
    (processTxTimestampsInMainThread cfg s).1.queue.length < s.queue.length := by
  by_cases hany : cfg.csvEnabled = true ∨ cfg.statsEnabled = true
  · rw [process_eq hany] at h ⊢
    simp only [List.length_drop] at h ⊢
    split at h <;> omega
  · rw [not_or, Bool.not_eq_true, Bool.not_eq_true] at hany
    simp [processTxTimestampsInMainThread, hany.1, hany.2] at h

/-- `do { batch_processed = process_tx_timestamps_in_main_thread(sockfd); }
while (batch_processed > 0);` -/
def drain (cfg : Config) (s : State) : State :=
  let r := processTxTimestampsInMainThread cfg s
  if 0 < r.2 then drain cfg r.1 else r.1
termination_by s.queue.length
decreasing_by exact length_process_lt ‹_›

/-- The final processing of `tx_timestamp_processing_thread`, and behind it that
of `run_client_oneway`. -/
def shutdownDrain (cfg : Config) (s : State) : State := drain cfg (drain cfg s)

/-! ## When the drain is complete -/

/-- The queue is empty, and every message has been handed once to each enabled
sink, in order. -/
structure Drained (cfg : Config) (before after : State) : Prop where
  empty : after.queue = []
  csv : after.csvTx = if cfg.csvEnabled then
    before.csvTx ++ before.queue.map fun m => csvEntryOf cfg (m.read m.control) else before.csvTx
  stats : after.statsTx = if cfg.statsEnabled then
    before.statsTx ++ before.queue.map fun m => statsUpdateOf (m.read m.control)
    else before.statsTx

theorem handOver_append (cfg : Config) (ms ms' : List TxTimestamp) (s : State)
    (queue queue' : List TxTimestamp) :
    { handOver cfg ms' { handOver cfg ms s with queue := queue } with queue := queue' } =
      { handOver cfg (ms ++ ms') s with queue := queue' } := by
  simp only [handOver, List.map_append]
  cases cfg.csvEnabled <;> cases cfg.statsEnabled <;> simp

/-- With CSV output a drain empties the queue. -/
theorem drain_csv {cfg : Config} (hcsv : cfg.csvEnabled = true) (s : State) :
    drain cfg s = { handOver cfg s.queue s with queue := [] } := by
  induction hn : s.queue.length using Nat.strong_induction_on generalizing s with
  | _ n ih =>
    rw [drain, process_eq (Or.inl hcsv), if_pos hcsv]
    simp only
    by_cases hpos : 0 < min 256 s.queue.length
    · have hlt : (s.queue.drop 256).length < n := by
        rw [List.length_drop]
        omega
      rw [if_pos hpos, ih _ hlt _ rfl, handOver_append, List.take_append_drop]
    · have hnil : s.queue = [] := List.length_eq_zero_iff.mp (by omega)
      rw [if_neg hpos, hnil]
      rfl

/-- With statistics alone a drain ends after one call. -/
theorem drain_stats {cfg : Config} (hcsv : cfg.csvEnabled = false) (hstats : cfg.statsEnabled = true)
    (s : State) :
    drain cfg s = { handOver cfg (s.queue.take 256) s with queue := s.queue.drop 256 } := by
  rw [drain, process_eq (Or.inr hstats)]
  simp [hcsv]

/-- The state at the end of both loops, for every configuration with a sink. -/
theorem shutdownDrain_eq {cfg : Config} (hany : cfg.csvEnabled = true ∨ cfg.statsEnabled = true)
    (s : State) :
    shutdownDrain cfg s =
      if cfg.csvEnabled then { handOver cfg s.queue s with queue := [] }
      else { handOver cfg (s.queue.take 512) s with queue := s.queue.drop 512 } := by
  cases hcsv : cfg.csvEnabled with
  | true =>
    rw [shutdownDrain, drain_csv hcsv, drain_csv hcsv, handOver_append, List.append_nil, if_pos rfl]
  | false =>
    have hstats : cfg.statsEnabled = true := by simpa [hcsv] using hany
    rw [shutdownDrain, drain_stats hcsv hstats, drain_stats hcsv hstats, handOver_append,
      if_neg Bool.false_ne_true, List.drop_drop, ← List.take_add]

/-- For every content of the error queue, the two loops empty it and hand every
message once to each enabled sink if and only if CSV output is enabled or the
queue has at most two batches. -/
theorem drain_complete_iff {cfg : Config}
    (hany : cfg.csvEnabled = true ∨ cfg.statsEnabled = true) (s : State) :
    Drained cfg s (shutdownDrain cfg s) ↔ cfg.csvEnabled = true ∨ s.queue.length ≤ 512 := by
  rw [shutdownDrain_eq hany]
  cases hcsv : cfg.csvEnabled with
  | true =>
    -- with CSV the loop ends only when nothing is left
    rw [if_pos rfl]
    refine iff_of_true ⟨rfl, ?_, ?_⟩ (Or.inl rfl) <;> simp [handOver, hcsv]
  | false =>
    -- without it `processed` stays 0 and the loop ends after its first batch
    rw [if_neg Bool.false_ne_true]
    constructor
    · intro h
      right
      exact List.drop_eq_nil_iff.mp h.empty
    · rintro (h | hlen)
      · cases h
      · refine ⟨List.drop_eq_nil_iff.mpr hlen, ?_, ?_⟩ <;>
          simp [handOver, hcsv, List.take_of_length_le hlen]

/-! ## A backlog of three batches -/

/-- Statistics without CSV output. -/
def statsOnly : Config := ⟨false, true, "10.0.0.1".toList, 1⟩

/-- A queue of `n` TX timestamps. -/
def backlog (n : Nat) : State where
  queue := List.replicate n ⟨[0, 0, 0, 7], ⟨1, 0⟩, 7, by decide⟩
  csvTx := []
  statsTx := []

theorem length_backlog (n : Nat) : (backlog n).queue.length = n := List.length_replicate

/-- Two batches are drained. -/
theorem drain_complete_two_batches :
    Drained statsOnly (backlog 512) (shutdownDrain statsOnly (backlog 512)) :=
  (drain_complete_iff (Or.inr rfl) (backlog 512)).mpr (Or.inr (Nat.le_of_eq (length_backlog 512)))

/-- Of `513` TX timestamps one is left in the queue. -/
theorem drain_leaves_one :
    (shutdownDrain statsOnly (backlog 513)).queue.length = 1 ∧
      ¬ Drained statsOnly (backlog 513) (shutdownDrain statsOnly (backlog 513)) := by
  have hlen : (shutdownDrain statsOnly (backlog 513)).queue.length = 1 := by
    rw [shutdownDrain_eq (Or.inr rfl), if_neg nofun, List.length_drop, length_backlog]
  refine ⟨hlen, ?_⟩
  intro h
  rw [h.empty] at hlen
  cases hlen

end TradingLatency.Drain
