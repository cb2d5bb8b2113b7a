import TradingLatency.Lib.Run
import TradingLatency.Correlation

/-!
# The round-trip client (`timestamp_client.c`)

Three activities share the correlation arrays and the statistics collector:

* the send loop of `run_client_roundtrip`: take the timestamps of a batch and
  send it (`sendmmsg`), store the timestamps of the sent packets (`store`), and
  for every sent packet create its statistics entry (`createStats`) and fill in
  the TX timestamps (`updateAppTx`);
* the RX thread `rx_thread_func`: receive a reply (`receive`), look its TX
  timestamps up (`lookup`), fill in the RX timestamps of its statistics entry
  (`updateRx`) and log its row (`logRow`);
* `process_tx_timestamps_in_main_thread`: one message of the error queue.

A step is one call; the steps interleave in any order. CSV output and statistics
are enabled. What the kernel and the clocks answer is part of the label.
-/

namespace TradingLatency.Client

open CText

/-! ## Data model -/

/-- What is fixed when the loops start. `cyclesToNs` is the division by
`cpu_freq_ghz`, rounded to nanoseconds. -/
structure Config where
  clientSrcIp : Text
  clientSrcPort : UInt16
  pps : Nat
  tscReliable : Bool
  cyclesToNs : Int64 → Int64

/-- A reading of the system clock and of the time-stamp counter. -/
structure ClockReading where
  time : Timespec
  tsc : UInt64
deriving DecidableEq

/-- `tsc_to_timespec`, with the reading it refers to. -/
def tscToTimespec (cfg : Config) (ref : ClockReading) (tscCycles : UInt64) : Timespec :=
  if tscCycles = 0 then ⟨0, 0⟩
  else
    let timeDiffNs := cfg.cyclesToNs (tscCycles - ref.tsc).toInt64
    let totalNs := ref.time.tvSec * 1000000000 + ref.time.tvNsec + timeDiffNs
    let totalNs := if totalNs < 0 then 0 else totalNs
    ⟨totalNs / 1000000000, totalNs % 1000000000⟩

/-- The value of the time-stamp counter is used only when it is reliable. -/
def captureTsc (cfg : Config) (reading : ClockReading) : UInt64 :=
  if cfg.tscReliable then reading.tsc else 0

/-- A packet of a batch: its sequence number, and the timestamps that were taken
for it. -/
structure SentPacket where
  seqNum : UInt32
  appTxTs : Timespec
  txTsc : UInt64
deriving DecidableEq

/-- A reply: its data and RX timestamps, and the readings with which the
time-stamp counters of its packet and of itself are converted. -/
structure Reply where
  data : List UInt8
  hwRxTs : Timespec
  kerRxTs : Timespec
  app : ClockReading
  txRef : ClockReading
  rxRef : ClockReading

/-- The sequence number of a reply. -/
def Reply.seqNum (r : Reply) : UInt32 := ntohl r.data

/-- The place of the send loop: at its top, or in one of the loops over the sent
packets, with the loop variable. -/
inductive Sender where
  | top
  | storing (batch : List SentPacket) (i : Nat)
  | creating (batch : List SentPacket) (i : Nat)
  | updating (batch : List SentPacket) (i : Nat)
  | done

/-- The place of the RX thread: behind the reception, the look-up or the update
of the statistics for the reply to the `k`-th packet, with the TX timestamps it
has looked up. -/
inductive Receiver where
  | idle
  | received (k : Nat) (r : Reply)
  | lookedUp (k : Nat) (r : Reply) (txTs : Timespec) (txTsc : UInt64)
  | updated (k : Nat) (r : Reply) (txTs : Timespec) (txTsc : UInt64)
  | done

/-- What `sendmmsg` returns: a number of packets, or an error that is `EAGAIN` or
another one. -/
inductive SendResult where
  | sent (n : Nat)
  | again
  | failed
deriving DecidableEq

/-- The client. Behind `txRows` there is history: the packets that the kernel
has accepted, the readings with which their time-stamp counters were converted
for the statistics, and the last reply that was given to the collector for a
packet. A logged row is kept with its packet and its reply. -/
structure State where
  sender : Sender
  receiver : Receiver
  seqNum : UInt32
  appTxTimestamps : UInt32 → Timespec
  appTxTscValues : UInt32 → UInt64
  stats : StatsCollector
  rows : List (Nat × Reply × CsvEntry)
  txRows : List CsvEntry
  sent : List SentPacket
  txRefs : List (ClockReading × ClockReading)
  answered : Nat → Option Reply

/-- The client behind its set-up. -/
def State.init (stats : StatsCollector) : State where
  sender := .top
  receiver := .idle
  seqNum := 0
  appTxTimestamps := fun _ => ⟨0, 0⟩
  appTxTscValues := fun _ => 0
  stats := stats
  rows := []
  txRows := []
  sent := []
  txRefs := []
  answered := fun _ => none

/-! ## Steps -/

/-- The calls of the three activities. A reply is labelled with the place, in the
order of sending, of the packet it answers. -/
inductive Label where
  | sendmmsg (clock : Nat → ClockReading) (result : SendResult)
  | store
  | createStats
  | updateAppTx (ref₁ ref₂ : ClockReading)
  | shutdown
  | receive (k : Nat) (r : Reply)
  | lookup
  | updateRx
  | logRow
  | rxExit
  | txTimestamp (msg : TxMessage)

/-- `BATCH_SIZE`. -/
def batchSize : Nat := 128

/-- `batch_count`. -/
def batchCount (cfg : Config) : Nat := if batchSize ≤ cfg.pps then batchSize else 1

/-- The packets of a batch with their timestamps. -/
def prepareBatch (cfg : Config) (seqNum : UInt32) (clock : Nat → ClockReading) :
    List SentPacket :=
  (List.range (batchCount cfg)).map fun i =>
    ⟨seqNum + UInt32.ofNat i, (clock i).time, captureTsc cfg (clock i)⟩

/-- Behind `sendmmsg`: the loop that stores the sent packets, if there are any. -/
def afterSend : List SentPacket → Sender
  | [] => .top
  | p :: batch => .storing (p :: batch) 0

/-- The time-stamp counter of a packet in nanoseconds, for the statistics. Seconds
and nanoseconds are converted by two calls. -/
def txTscNs (cfg : Config) (ref₁ ref₂ : ClockReading) (tsc : UInt64) : UInt64 :=
  Timespec.ns ⟨(tscToTimespec cfg ref₁ tsc).tvSec, (tscToTimespec cfg ref₂ tsc).tvNsec⟩

/-- The time-stamp counter of a reply in nanoseconds. -/
def Reply.rxTscNs (cfg : Config) (r : Reply) : UInt64 :=
  (tscToTimespec cfg r.rxRef (captureTsc cfg r.app)).ns

/-- The row of a reply. -/
def rxRow (cfg : Config) (r : Reply) (txTs : Timespec) (txTsc : UInt64) : CsvEntry :=
  createCsvClientRoundtripRx r.seqNum cfg.clientSrcIp cfg.clientSrcPort
    (tscToTimespec cfg r.txRef txTsc).ns txTs.ns r.hwRxTs.ns r.kerRxTs.ns (r.rxTscNs cfg)
    r.app.time.ns

/-- The row for a message of the error queue. -/
def txRow (cfg : Config) (msg : TxMessage) : CsvEntry :=
  createCsvClientOnewayTx msg.read.1 cfg.clientSrcIp cfg.clientSrcPort msg.read.2.ns

/-- The mode in which a message of the error queue updates the statistics. -/
def correlationMode (stats : StatsCollector) : StatsMode :=
  if stats.programMode = .clientOneway then .clientOneway else .clientRoundtrip

/-- One call of one activity. -/
def step (cfg : Config) (s : State) : Label → Option State
  | .sendmmsg clock result =>
      match s.sender with
      | .top =>
          match result with
          | .sent n =>
              if n ≤ batchCount cfg then
                let batch := (prepareBatch cfg s.seqNum clock).take n
                some { s with sent := s.sent ++ batch, sender := afterSend batch }
              else none
          | .again => some s
          | .failed => some { s with sender := .done }
      | _ => none
  | .store =>
      match s.sender with
      | .storing batch i =>
          match batch[i]? with
          | some p =>
              let index := getCircularIndex (s.seqNum + UInt32.ofNat i)
              some { s with
                appTxTimestamps := Function.update s.appTxTimestamps index p.appTxTs
                appTxTscValues := Function.update s.appTxTscValues index p.txTsc
                sender := if i + 1 < batch.length then .storing batch (i + 1)
                  else .creating batch 0 }
          | none => none
      | _ => none
  | .createStats =>
      match s.sender with
      | .creating batch i =>
          some { s with
            stats := createMinimalStatsEntry s.stats (s.seqNum + UInt32.ofNat i)
              cfg.clientSrcPort .clientRoundtrip
            sender := .updating batch i }
      | _ => none
  | .updateAppTx ref₁ ref₂ =>
      match s.sender with
      | .updating batch i =>
          match batch[i]? with
          | some p =>
              let stats := updateStatsBufferWithAppTxTimestamp s.stats
                (s.seqNum + UInt32.ofNat i) p.appTxTs.ns (txTscNs cfg ref₁ ref₂ p.txTsc)
                .clientRoundtrip
              let txRefs := s.txRefs ++ [(ref₁, ref₂)]
              if i + 1 < batch.length then
                some { s with stats := stats, txRefs := txRefs, sender := .creating batch (i + 1) }
              else
                some { s with
                  stats := stats
                  txRefs := txRefs
                  seqNum := s.seqNum + UInt32.ofNat batch.length
                  sender := .top }
          | none => none
      | _ => none
  | .shutdown =>
      match s.sender with
      | .top => some { s with sender := .done }
      | _ => none
  | .receive k r =>
      match s.receiver with
      | .idle => some (if 4 ≤ r.data.length then { s with receiver := .received k r } else s)
      | _ => none
  | .lookup =>
      match s.receiver with
      | .received k r =>
          let index := getCircularIndex r.seqNum
          some { s with
            receiver := .lookedUp k r (s.appTxTimestamps index) (s.appTxTscValues index) }
      | _ => none
  | .updateRx =>
      match s.receiver with
      | .lookedUp k r txTs txTsc =>
          some { s with
            stats := updateStatsBufferWithRxTimestamps s.stats r.seqNum r.hwRxTs.ns r.kerRxTs.ns
              r.app.time.ns (r.rxTscNs cfg) .clientRoundtrip
            answered := Function.update s.answered k (some r)
            receiver := .updated k r txTs txTsc }
      | _ => none
  | .logRow =>
      match s.receiver with
      | .updated k r txTs txTsc =>
          some { s with
            rows := s.rows ++ [(k, r, rxRow cfg r txTs txTsc)]
            receiver := .idle }
      | _ => none
  | .rxExit =>
      match s.receiver with
      | .idle => some { s with receiver := .done }
      | _ => none
  | .txTimestamp msg =>
      some { s with
        txRows := s.txRows ++ [txRow cfg msg]
        stats := updateStatsBufferWithTxTimestamp s.stats msg.read.1 msg.read.2.ns
          (correlationMode s.stats) }

/-! ## What a step does -/

section Inversion

variable {cfg : Config} {s s' : State}

theorem step_sendmmsg {clock : Nat → ClockReading} {result : SendResult}
    (h : step cfg s (.sendmmsg clock result) = some s') :
    s.sender = .top ∧
      ((∃ batch, batch <+: prepareBatch cfg s.seqNum clock ∧
          s' = { s with sent := s.sent ++ batch, sender := afterSend batch }) ∨
        s' = s ∨ s' = { s with sender := .done }) := by
  simp only [step] at h
  split at h
  · -- `sendmmsg` is only called at the top of the loop
    rename_i htop
    refine ⟨htop, ?_⟩
    cases result with
    | sent n =>
      simp only at h
      split at h
      · exact Or.inl ⟨_, List.take_prefix n _, (Option.some.inj h).symm⟩
      · simp at h
    | again => exact Or.inr (Or.inl (Option.some.inj h).symm)
    | failed => exact Or.inr (Or.inr (Option.some.inj h).symm)
  · simp at h

theorem step_store (h : step cfg s .store = some s') :
    ∃ batch i p, s.sender = .storing batch i ∧ batch[i]? = some p ∧ s' = { s with
      appTxTimestamps := Function.update s.appTxTimestamps
        (getCircularIndex (s.seqNum + UInt32.ofNat i)) p.appTxTs
      appTxTscValues := Function.update s.appTxTscValues
        (getCircularIndex (s.seqNum + UInt32.ofNat i)) p.txTsc
      sender := if i + 1 < batch.length then .storing batch (i + 1) else .creating batch 0 } := by
  simp only [step] at h
  split at h
  · split at h
    · exact ⟨_, _, _, by assumption, by assumption, (Option.some.inj h).symm⟩
    · simp at h
  · simp at h

theorem step_createStats (h : step cfg s .createStats = some s') :
    ∃ batch i, s.sender = .creating batch i ∧ s' = { s with
      stats := createMinimalStatsEntry s.stats (s.seqNum + UInt32.ofNat i) cfg.clientSrcPort
        .clientRoundtrip
      sender := .updating batch i } := by
  simp only [step] at h
  split at h
  · exact ⟨_, _, by assumption, (Option.some.inj h).symm⟩
  · simp at h

theorem step_updateAppTx {ref₁ ref₂ : ClockReading}
    (h : step cfg s (.updateAppTx ref₁ ref₂) = some s') :
    ∃ batch i p, s.sender = .updating batch i ∧ batch[i]? = some p ∧ s' = { s with
      stats := applyUpdate s.stats (.appTx (s.seqNum + UInt32.ofNat i) p.appTxTs.ns
        (txTscNs cfg ref₁ ref₂ p.txTsc) .clientRoundtrip)
      txRefs := s.txRefs ++ [(ref₁, ref₂)]
      seqNum := if i + 1 < batch.length then s.seqNum
        else s.seqNum + UInt32.ofNat batch.length
      sender := if i + 1 < batch.length then .creating batch (i + 1) else .top } := by
  simp only [step] at h
  split at h
  · split at h
    · refine ⟨_, _, _, by assumption, by assumption, ?_⟩
      -- behind the last packet of the batch the sender is at the top again
      split at h
      · rw [if_pos (by assumption), if_pos (by assumption)]
        exact (Option.some.inj h).symm
      · rw [if_neg (by assumption), if_neg (by assumption)]
        exact (Option.some.inj h).symm
    · simp at h
  · simp at h

theorem step_shutdown (h : step cfg s .shutdown = some s') :
    s.sender = .top ∧ s' = { s with sender := .done } := by
  simp only [step] at h
  split at h
  · exact ⟨by assumption, (Option.some.inj h).symm⟩
  · simp at h

theorem step_receive {k : Nat} {r : Reply} (h : step cfg s (.receive k r) = some s') :
    s.receiver = .idle ∧
      (4 ≤ r.data.length ∧ s' = { s with receiver := .received k r } ∨ s' = s) := by
  simp only [step] at h
  split at h
  · rename_i hidle
    refine ⟨hidle, ?_⟩
    rw [Option.some.injEq] at h
    split at h
    · exact Or.inl ⟨by assumption, h.symm⟩
    · exact Or.inr h.symm
  · simp at h

theorem step_lookup (h : step cfg s .lookup = some s') :
    ∃ k r, s.receiver = .received k r ∧ s' = { s with
      receiver := .lookedUp k r (s.appTxTimestamps (getCircularIndex r.seqNum))
        (s.appTxTscValues (getCircularIndex r.seqNum)) } := by
  simp only [step] at h
  split at h
  · exact ⟨_, _, by assumption, (Option.some.inj h).symm⟩
  · simp at h

theorem step_updateRx (h : step cfg s .updateRx = some s') :
    ∃ k r txTs txTsc, s.receiver = .lookedUp k r txTs txTsc ∧ s' = { s with
      stats := applyUpdate s.stats (.rx r.seqNum r.hwRxTs.ns r.kerRxTs.ns r.app.time.ns
        (r.rxTscNs cfg) .clientRoundtrip)
      answered := Function.update s.answered k (some r)
      receiver := .updated k r txTs txTsc } := by
  simp only [step] at h
  split at h
  · exact ⟨_, _, _, _, by assumption, (Option.some.inj h).symm⟩
  · simp at h

theorem step_logRow (h : step cfg s .logRow = some s') :
    ∃ k r txTs txTsc, s.receiver = .updated k r txTs txTsc ∧ s' = { s with
      rows := s.rows ++ [(k, r, rxRow cfg r txTs txTsc)]
      receiver := .idle } := by
  simp only [step] at h
  split at h
  · exact ⟨_, _, _, _, by assumption, (Option.some.inj h).symm⟩
  · simp at h

theorem step_rxExit (h : step cfg s .rxExit = some s') :
    s.receiver = .idle ∧ s' = { s with receiver := .done } := by
  simp only [step] at h
  split at h
  · exact ⟨by assumption, (Option.some.inj h).symm⟩
  · simp at h

end Inversion

end TradingLatency.Client
