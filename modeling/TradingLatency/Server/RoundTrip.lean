import TradingLatency.Lib.Run
import TradingLatency.Correlation
import TradingLatency.Server.Queue

/-!
# The round-trip server (`timestamp_server.c`)

Three activities share the correlation arrays, the statistics collector and the
return packet queue:

* the receive loop of `run_server_roundtrip`: receive a packet and enqueue a
  request for its return (`receive`), store its RX timestamps and its client in
  the correlation arrays (`store`), create its statistics entry (`createStats`)
  and fill in the RX timestamps (`updateRx`);
* the TX thread `tx_thread_func`: dequeue a batch of requests, send it, and for
  every sent request update its statistics entry and log its row; or send the
  requests one by one when `sendmmsg` fails;
* `process_tx_timestamps_in_main_thread`: one message of the error queue.

A step is one call; the steps interleave in any order. CSV output and statistics
are enabled. What the kernel answers is part of the label.
-/

namespace TradingLatency.Server

/-! ## Data model -/

/-- A received packet: `num_bytes` bytes of data, its source, and the hardware,
kernel and application RX timestamps. -/
structure Packet where
  data : List UInt8
  srcIp : IpText
  srcPort : UInt16
  hwRxTs : Timespec
  kerRxTs : Timespec
  appRxTs : Timespec
deriving DecidableEq

/-- The sequence number of a packet; it is `-1` when the packet is too short. -/
def Packet.seqNum (p : Packet) : UInt32 :=
  if 4 ≤ p.data.length then ntohl p.data else 0xFFFFFFFF

/-- `client_rx_port`, an `int`. -/
def Packet.clientRxPort (p : Packet) : Int32 :=
  if 8 ≤ p.data.length then (ntohl (p.data.drop 4)).toInt32 else 0

/-- The return packet request of the `k`-th received packet. -/
def Packet.request (p : Packet) (k : Nat) : ReturnPacketRequest where
  seqNum := p.seqNum
  returnAddr := (p.srcIp,
    if 0 < p.clientRxPort then UInt16.ofInt p.clientRxPort.toInt else p.srcPort)
  packetData := p.data.take 8
  packetSize := p.data.length
  originalClientSrcPort := p.srcPort
  packet := k

/-- `construct_return_packet`. -/
def constructReturnPacket (originalPacket : List UInt8) : List UInt8 := originalPacket.take 4

/-- The return packet of a request and the address it is sent to. -/
def returnMessage (r : ReturnPacketRequest) : List UInt8 × IpText × UInt16 :=
  (constructReturnPacket r.packetData, r.returnAddr)

/-- One index of the correlation arrays. -/
structure CorrelationSlot where
  hwRxTs : Timespec
  kerRxTs : Timespec
  appRxTs : Timespec
  clientIp : IpText
  clientPort : UInt16
deriving DecidableEq

/-- The arrays are zeroed. -/
def CorrelationSlot.zero : CorrelationSlot := ⟨⟨0, 0⟩, ⟨0, 0⟩, ⟨0, 0⟩, IpText.ofText [], 0⟩

/-- What `store_server_rx_timestamps` stores for a packet. -/
def Packet.slot (p : Packet) : CorrelationSlot :=
  ⟨p.hwRxTs, p.kerRxTs, p.appRxTs, p.srcIp, p.srcPort⟩

/-- The place of the receive loop: behind the enqueue, the store or the creation
of the statistics entry of a packet. -/
inductive Receiver where
  | idle
  | received (p : Packet)
  | stored (p : Packet)
  | created (p : Packet)

/-- The place of the TX thread. `correlating` and `logging` are the loop over the
sent requests of a batch, with the TX timestamp of each; `fallback` is the loop
that sends one by one. -/
inductive TxThread where
  | top
  | dequeuing (target : Nat) (batch : List ReturnPacketRequest)
  | sending (batch : List ReturnPacketRequest)
  | correlating (rest : List (ReturnPacketRequest × UInt64))
  | logging (r : ReturnPacketRequest) (appTx : UInt64)
      (rest : List (ReturnPacketRequest × UInt64))
  | fallback (rest : List ReturnPacketRequest) (fallbackSent : Nat)
  | done

/-- What `sendmmsg` and `sendto` return: a number of packets, or an error that
is `EAGAIN` or another one. For `sendto` the number is zero or one. -/
inductive SendResult where
  | sent (n : Nat)
  | again
  | failed
deriving DecidableEq

/-- The server. Behind `localPacketsSent` there is history: the received
packets, the requests that were dequeued, accepted by the kernel and rejected by
it with an error other than `EAGAIN`, and the TX timestamps that were given to
the collector, with the packet. A logged row is kept with its packet, too. -/
structure State where
  receiver : Receiver
  tx : TxThread
  running : Bool
  queue : ReturnPacketQueue
  slots : UInt32 → CorrelationSlot
  stats : StatsCollector
  mainRows : List (Nat × CsvEntry)
  txRows : List CsvEntry
  localPacketsSent : UInt64
  received : List Packet
  dequeued : List ReturnPacketRequest
  accepted : List ReturnPacketRequest
  rejected : List ReturnPacketRequest
  appTx : List (Nat × UInt64)

/-- The server behind its set-up. -/
def State.init (stats : StatsCollector) (requests : UInt32 → ReturnPacketRequest) : State where
  receiver := .idle
  tx := .top
  running := true
  queue := createReturnPacketQueue 4096 requests
  slots := fun _ => .zero
  stats := stats
  mainRows := []
  txRows := []
  localPacketsSent := 0
  received := []
  dequeued := []
  accepted := []
  rejected := []
  appTx := []

/-! ## Steps -/

/-- The calls of the three activities. -/
inductive Label where
  | receive (p : Packet)
  | store
  | createStats
  | updateRx
  | readDepth
  | dequeue
  | sendmmsg (clock : Nat → Timespec) (result : SendResult)
  | updateAppTx
  | logRow
  | sendto (result : SendResult)
  | txTimestamp (msg : TxMessage)
  | stop
  | exit

/-- `BATCH_SIZE`. -/
def batchSize : Nat := 128

/-- `target_batch_size`. -/
def targetBatchSize (queueDepth : UInt32) : Nat :=
  max (if 0 < queueDepth then min batchSize queueDepth.toNat else 1) 1

/-- Where the TX thread goes behind `dequeue_return_packet_batch`. -/
def afterDequeue : List ReturnPacketRequest → TxThread
  | [] => .top
  | r :: batch => .sending (r :: batch)

/-- The loop over the sent requests ends. -/
def afterCorrelate : List (ReturnPacketRequest × UInt64) → TxThread
  | [] => .top
  | r :: rest => .correlating (r :: rest)

/-- The sent requests of a batch with their TX timestamps. -/
def sentRequests (batch : List ReturnPacketRequest) (clock : Nat → Timespec) (n : Nat) :
    List (ReturnPacketRequest × UInt64) :=
  (batch.take n).mapIdx fun i r => (r, (clock i).ns)

/-- The row that the TX thread logs for a request. -/
def mainRow (s : State) (r : ReturnPacketRequest) (appTx : UInt64) : CsvEntry :=
  let slot := s.slots (getCircularIndex r.seqNum)
  createCsvServerRoundtripMain r.seqNum slot.clientIp.text r.originalClientSrcPort
    slot.hwRxTs.ns slot.kerRxTs.ns slot.appRxTs.ns appTx

/-- The row for a message of the error queue. -/
def txRow (s : State) (msg : TxMessage) : CsvEntry :=
  let slot := s.slots (getCircularIndex msg.read.1)
  createCsvServerTx msg.read.1 slot.clientIp.text slot.clientPort msg.read.2.ns

/-- The queue behind the reception of a packet. A packet of less than 8 bytes is
not returned, and a full queue drops the request. -/
def enqueuePacket (s : State) (p : Packet) : ReturnPacketQueue :=
  if 8 ≤ p.data.length then
    (enqueueReturnPacketRequest s.queue (p.request s.received.length)).getD s.queue
  else s.queue

/-- The loop that sends one by one goes on, or ends and counts. -/
def afterFallback (s : State) (rest : List ReturnPacketRequest) (fallbackSent : Nat) : State :=
  match rest with
  | [] =>
      { s with
        localPacketsSent := s.localPacketsSent + UInt64.ofNat fallbackSent
        tx := .top }
  | r :: rest => { s with tx := .fallback (r :: rest) fallbackSent }

/-- One call of one activity. -/
def step (s : State) : Label → Option State
  | .receive p =>
      match s.receiver with
      | .idle =>
          some { s with
            queue := enqueuePacket s p
            receiver := .received p
            received := s.received ++ [p] }
      | _ => none
  | .store =>
      match s.receiver with
      | .received p =>
          some { s with
            slots := Function.update s.slots (getCircularIndex p.seqNum) p.slot
            receiver := .stored p }
      | _ => none
  | .createStats =>
      match s.receiver with
      | .stored p =>
          some { s with
            stats := createMinimalStatsEntry s.stats p.seqNum p.srcPort .serverRoundtrip
            receiver := .created p }
      | _ => none
  | .updateRx =>
      match s.receiver with
      | .created p =>
          some { s with
            stats := updateStatsBufferWithRxTimestamps s.stats p.seqNum p.hwRxTs.ns p.kerRxTs.ns
              p.appRxTs.ns 0 .serverRoundtrip
            receiver := .idle }
      | _ => none
  | .readDepth =>
      match s.tx with
      | .top =>
          if s.running then some { s with tx := .dequeuing (targetBatchSize s.queue.depth) [] }
          else none
      | _ => none
  | .dequeue =>
      match s.tx with
      | .dequeuing target batch =>
          match dequeueReturnPacketRequest s.queue with
          | none => some { s with tx := afterDequeue batch }
          | some (r, queue) =>
              some { s with
                queue := queue
                dequeued := s.dequeued ++ [r]
                tx := if batch.length + 1 < target then .dequeuing target (batch ++ [r])
                  else .sending (batch ++ [r]) }
      | _ => none
  | .sendmmsg clock result =>
      match s.tx with
      | .sending batch =>
          match result with
          | .sent n =>
              if n ≤ batch.length then
                some { s with
                  accepted := s.accepted ++ batch.take n
                  localPacketsSent := s.localPacketsSent + UInt64.ofNat n
                  tx := afterCorrelate (sentRequests batch clock n) }
              else none
          | .again => some { s with tx := .top }
          | .failed => some { s with tx := .fallback batch 0 }
      | _ => none
  | .updateAppTx =>
      match s.tx with
      | .correlating ((r, t) :: rest) =>
          some { s with
            stats := updateStatsBufferWithAppTxTimestamp s.stats r.seqNum t 0 .serverRoundtrip
            appTx := s.appTx ++ [(r.packet, t)]
            tx := .logging r t rest }
      | _ => none
  | .logRow =>
      match s.tx with
      | .logging r t rest =>
          some { s with
            mainRows := s.mainRows ++ [(r.packet, mainRow s r t)]
            tx := afterCorrelate rest }
      | _ => none
  | .sendto result =>
      match s.tx with
      | .fallback (r :: rest) fallbackSent =>
          match result with
          | .sent n =>
              if n ≤ 1 then
                some (afterFallback { s with accepted := s.accepted ++ [r].take n } rest
                  (fallbackSent + n))
              else none
          | .again => some (afterFallback s rest fallbackSent)
          | .failed =>
              some (afterFallback { s with rejected := s.rejected ++ [r] } rest fallbackSent)
      | _ => none
  | .txTimestamp msg =>
      some { s with
        txRows := s.txRows ++ [txRow s msg]
        stats := updateStatsBufferWithTxTimestamp s.stats msg.read.1 msg.read.2.ns
          .serverRoundtrip }
  | .stop => some { s with running := false }
  | .exit =>
      match s.tx with
      | .top => if s.running then none else some { s with tx := .done }
      | _ => none

/-! ## What a step does -/

section Inversion

variable {s s' : State}

theorem step_receive {p : Packet} (h : step s (.receive p) = some s') :
    s.receiver = .idle ∧ s' = { s with
      queue := enqueuePacket s p, receiver := .received p, received := s.received ++ [p] } := by
  simp only [step] at h
  split at h
  · exact ⟨by assumption, (Option.some.inj h).symm⟩
  · simp at h

theorem step_store (h : step s .store = some s') :
    ∃ p, s.receiver = .received p ∧ s' = { s with
      slots := Function.update s.slots (getCircularIndex p.seqNum) p.slot
      receiver := .stored p } := by
  simp only [step] at h
  split at h
  · exact ⟨_, by assumption, (Option.some.inj h).symm⟩
  · simp at h

theorem step_createStats (h : step s .createStats = some s') :
    ∃ p, s.receiver = .stored p ∧ s' = { s with
      stats := createMinimalStatsEntry s.stats p.seqNum p.srcPort .serverRoundtrip
      receiver := .created p } := by
  simp only [step] at h
  split at h
  · exact ⟨_, by assumption, (Option.some.inj h).symm⟩
  · simp at h

theorem step_updateRx (h : step s .updateRx = some s') :
    ∃ p, s.receiver = .created p ∧ s' = { s with
      stats := updateStatsBufferWithRxTimestamps s.stats p.seqNum p.hwRxTs.ns p.kerRxTs.ns
        p.appRxTs.ns 0 .serverRoundtrip
      receiver := .idle } := by
  simp only [step] at h
  split at h
  · exact ⟨_, by assumption, (Option.some.inj h).symm⟩
  · simp at h

theorem step_readDepth (h : step s .readDepth = some s') :
    s.tx = .top ∧ s' = { s with tx := .dequeuing (targetBatchSize s.queue.depth) [] } := by
  simp only [step] at h
  split at h
  · split at h
    · exact ⟨by assumption, (Option.some.inj h).symm⟩
    · simp at h
  · simp at h

theorem step_dequeue (h : step s .dequeue = some s') :
    ∃ target batch, s.tx = .dequeuing target batch ∧
      (dequeueReturnPacketRequest s.queue = none ∧ s' = { s with tx := afterDequeue batch } ∨
        ∃ r queue, dequeueReturnPacketRequest s.queue = some (r, queue) ∧ s' = { s with
          queue := queue
          dequeued := s.dequeued ++ [r]
          tx := if batch.length + 1 < target then .dequeuing target (batch ++ [r])
            else .sending (batch ++ [r]) }) := by
  simp only [step] at h
  split at h
  · rename_i target batch htx
    refine ⟨target, batch, htx, ?_⟩
    split at h
    · exact Or.inl ⟨by assumption, (Option.some.inj h).symm⟩
    · exact Or.inr ⟨_, _, by assumption, (Option.some.inj h).symm⟩
  · simp at h

theorem step_sendmmsg {clock : Nat → Timespec} {result : SendResult}
    (h : step s (.sendmmsg clock result) = some s') :
    ∃ batch, s.tx = .sending batch ∧
      ((∃ n, result = .sent n ∧ n ≤ batch.length ∧ s' = { s with
          accepted := s.accepted ++ batch.take n
          localPacketsSent := s.localPacketsSent + UInt64.ofNat n
          tx := afterCorrelate (sentRequests batch clock n) }) ∨
        result = .again ∧ s' = { s with tx := .top } ∨
        result = .failed ∧ s' = { s with tx := .fallback batch 0 }) := by
  simp only [step] at h
  split at h
  · rename_i batch htx
    refine ⟨batch, htx, ?_⟩
    cases result with
    | sent n =>
      simp only at h
      split at h
      · exact Or.inl ⟨n, rfl, by assumption, (Option.some.inj h).symm⟩
      · simp at h
    | again =>
      -- a full buffer drops the batch, any other error starts the fallback
      exact Or.inr (Or.inl ⟨rfl, (Option.some.inj h).symm⟩)
    | failed => exact Or.inr (Or.inr ⟨rfl, (Option.some.inj h).symm⟩)
  · simp at h

theorem step_updateAppTx (h : step s .updateAppTx = some s') :
    ∃ r t rest, s.tx = .correlating ((r, t) :: rest) ∧ s' = { s with
      stats := updateStatsBufferWithAppTxTimestamp s.stats r.seqNum t 0 .serverRoundtrip
      appTx := s.appTx ++ [(r.packet, t)]
      tx := .logging r t rest } := by
  simp only [step] at h
  split at h
  · exact ⟨_, _, _, by assumption, (Option.some.inj h).symm⟩
  · simp at h

theorem step_logRow (h : step s .logRow = some s') :
    ∃ r t rest, s.tx = .logging r t rest ∧ s' = { s with
      mainRows := s.mainRows ++ [(r.packet, mainRow s r t)]
      tx := afterCorrelate rest } := by
  simp only [step] at h
  split at h
  · exact ⟨_, _, _, by assumption, (Option.some.inj h).symm⟩
  · simp at h

theorem step_sendto {result : SendResult} (h : step s (.sendto result) = some s') :
    ∃ r rest n, s.tx = .fallback (r :: rest) n ∧
      ((∃ k, result = .sent k ∧ k ≤ 1 ∧
          s' = afterFallback { s with accepted := s.accepted ++ [r].take k } rest (n + k)) ∨
        result = .again ∧ s' = afterFallback s rest n ∨
        result = .failed ∧
          s' = afterFallback { s with rejected := s.rejected ++ [r] } rest n) := by
  simp only [step] at h
  split at h
  · rename_i r rest n htx
    refine ⟨r, rest, n, htx, ?_⟩
    cases result with
    | sent k =>
      simp only at h
      split at h
      · exact Or.inl ⟨k, rfl, by assumption, (Option.some.inj h).symm⟩
      · simp at h
    | again =>
      -- a full buffer drops the reply as well
      exact Or.inr (Or.inl ⟨rfl, (Option.some.inj h).symm⟩)
    | failed => exact Or.inr (Or.inr ⟨rfl, (Option.some.inj h).symm⟩)
  · simp at h

theorem step_exit (h : step s .exit = some s') : s.tx = .top ∧ s' = { s with tx := .done } := by
  simp only [step] at h
  split at h
  · split at h
    · simp at h
    · exact ⟨by assumption, (Option.some.inj h).symm⟩
  · simp at h

end Inversion

end TradingLatency.Server
