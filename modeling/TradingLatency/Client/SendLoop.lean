import TradingLatency.Client.RoundTrip

/-!
# The send loops (`timestamp_client.c`)

`run_client_oneway` and `run_client_roundtrip` send batches of packets. An
iteration numbers the packets of a batch from `seq_num` on, takes their
timestamps and offers the batch to the kernel, which accepts some of them; what
was accepted is recorded, and `seq_num` goes on behind it. The rest is numbered
and stamped again in the next iteration.

An iteration is one step here, and the calls that record the accepted packets
are kept in order. `sender_disciplined` says that number, wire and records
agree in every run of either loop.
-/

namespace TradingLatency.Client

/-! ## Data model -/

/-- The two loops. -/
inductive SendMode where
  | oneway
  | roundtrip
deriving DecidableEq

/-- The calls that record accepted packets. -/
inductive SendCall where
  | createStats (seqNum : UInt32) (srcPort : UInt16) (entryType : TimestampMode)
  | updateAppTx (seqNum : UInt32) (appTx tscTx : UInt64) (mode : StatsMode)
  | enqueueCsv (entry : CsvEntry)
  | storeTxTimestamp (seqNum : UInt32) (appTxTs : Timespec)
  | storeTxTimestamps (seqNum : UInt32) (appTxTs : Timespec) (tsc : UInt64)

/-- What an iteration gets from outside: the clocks for the packets of the batch,
the answer of `sendmmsg`, and the clocks when the time-stamp counters are
converted. -/
structure Attempt where
  clock : Nat → ClockReading
  result : SendResult
  refs : Nat → ClockReading × ClockReading

/-- A packet that the kernel has accepted: the bytes in its buffer, and the
timestamps of the iteration that sent it. -/
structure Accepted where
  data : List UInt8
  appTxTs : Timespec
  txTsc : UInt64

/-- A loop. The accepted packets and the calls are history. -/
structure LoopState where
  running : Bool
  buffers : Nat → List UInt8
  seqNum : UInt32
  totalPacketsSent : UInt64
  accepted : List Accepted
  calls : List SendCall

/-- The loop behind its set-up: the buffers are zeroed. -/
def LoopState.init (packetSize : Nat) : LoopState where
  running := true
  buffers := fun _ => List.replicate packetSize 0
  seqNum := 0
  totalPacketsSent := 0
  accepted := []
  calls := []

/-! ## Packets -/

/-- `memcpy(buffer + offset, bytes, …)`. -/
def memcpyAt (buffer : List UInt8) (offset : Nat) (bytes : List UInt8) : List UInt8 :=
  buffer.take offset ++ bytes ++ buffer.drop (offset + bytes.length)

/-- What a loop writes into the buffer of a packet. Only the round-trip loop has
a port for the reply. -/
def fillPacket (rxPort : UInt32) (currentSeq : UInt32) (packet : List UInt8) :
    SendMode → List UInt8
  | .oneway => memcpyAt packet 0 (htonl currentSeq)
  | .roundtrip => memcpyAt (memcpyAt packet 0 (htonl currentSeq)) 4 (htonl rxPort)

/-- The buffers, filled for a batch. -/
def fillBuffers (cfg : Config) (rxPort : UInt32) (mode : SendMode) (s : LoopState) :
    Nat → List UInt8 :=
  fun i =>
    if i < batchCount cfg then fillPacket rxPort (s.seqNum + UInt32.ofNat i) (s.buffers i) mode
    else s.buffers i

/-! ## Records -/

/-- The calls of `run_client_oneway` for `sent` packets. -/
def onewayCalls (cfg : Config) (seqNum : UInt32) (a : Attempt) (sent : Nat) : List SendCall :=
  ((List.range sent).flatMap fun i =>
    let currentSeq := seqNum + UInt32.ofNat i
    let appTx := (a.clock i).time.ns
    [.createStats currentSeq cfg.clientSrcPort .clientOneway,
      .updateAppTx currentSeq appTx 0 .clientOneway,
      .enqueueCsv (createCsvClientOnewayMain currentSeq cfg.clientSrcIp cfg.clientSrcPort appTx)]) ++
  (List.range sent).map fun i =>
    .storeTxTimestamp (seqNum + UInt32.ofNat i) (a.clock i).time

/-- The calls of `run_client_roundtrip` for `sent` packets. -/
def roundtripCalls (cfg : Config) (seqNum : UInt32) (a : Attempt) (sent : Nat) : List SendCall :=
  ((List.range sent).map fun i =>
    .storeTxTimestamps (seqNum + UInt32.ofNat i) (a.clock i).time (captureTsc cfg (a.clock i))) ++
  (List.range sent).flatMap fun i =>
    let currentSeq := seqNum + UInt32.ofNat i
    [.createStats currentSeq cfg.clientSrcPort .clientRoundtrip,
      .updateAppTx currentSeq (a.clock i).time.ns
        (txTscNs cfg (a.refs i).1 (a.refs i).2 (captureTsc cfg (a.clock i))) .clientRoundtrip]

/-- The calls of a loop for `sent` packets. -/
def sendCalls (cfg : Config) (seqNum : UInt32) (a : Attempt) (sent : Nat) :
    SendMode → List SendCall
  | .oneway => onewayCalls cfg seqNum a sent
  | .roundtrip => roundtripCalls cfg seqNum a sent

/-- One iteration. With `EAGAIN` the loop goes on as it was, with another error
it ends. -/
def iteration (cfg : Config) (rxPort : UInt32) (mode : SendMode) (s : LoopState) (a : Attempt) :
    Option LoopState :=
  if s.running then
    let buffers := fillBuffers cfg rxPort mode s
    match a.result with
    | .sent n =>
        if n ≤ batchCount cfg then
          some { s with
            buffers := buffers
            seqNum := s.seqNum + UInt32.ofNat n
            totalPacketsSent := s.totalPacketsSent + UInt64.ofNat n
            accepted := s.accepted ++ (List.range n).map fun i =>
              ⟨buffers i, (a.clock i).time, captureTsc cfg (a.clock i)⟩
            calls := s.calls ++ sendCalls cfg s.seqNum a n mode }
        else none
    | .again => some { s with buffers := buffers }
    | .failed => some { s with buffers := buffers, running := false }
  else none

/-! ## Statement -/

/-- A new entry of the statistics. -/
def SendCall.isCreate : SendCall → Bool
  | .createStats _ _ _ => true
  | _ => false

/-- An entry for the main CSV file. -/
def SendCall.isCsv : SendCall → Bool
  | .enqueueCsv _ => true
  | _ => false

/-- A write to the correlation arrays. -/
def SendCall.isStore : SendCall → Bool
  | .storeTxTimestamp _ _ | .storeTxTimestamps _ _ _ => true
  | _ => false

/-- The sequence number and the TX timestamp that an entry of the statistics gets. -/
def SendCall.appTx? : SendCall → Option (UInt32 × UInt64)
  | .updateAppTx seqNum appTx _ _ => some (seqNum, appTx)
  | _ => none

/-- The mode of the statistics entries of a loop. -/
def SendMode.entryType : SendMode → TimestampMode
  | .oneway => .clientOneway
  | .roundtrip => .clientRoundtrip

/-- The write to the correlation arrays for an accepted packet. -/
def SendMode.store (mode : SendMode) (seqNum : UInt32) (p : Accepted) : SendCall :=
  match mode with
  | .oneway => .storeTxTimestamp seqNum p.appTxTs
  | .roundtrip => .storeTxTimestamps seqNum p.appTxTs p.txTsc

/-- The entries for the main CSV file; the round-trip loop makes none. -/
def SendMode.csvEntries (mode : SendMode) (cfg : Config) (ps : List Accepted) : List SendCall :=
  match mode with
  | .oneway => ps.mapIdx fun k p => .enqueueCsv (createCsvClientOnewayMain (UInt32.ofNat k)
      cfg.clientSrcIp cfg.clientSrcPort p.appTxTs.ns)
  | .roundtrip => []

/-- The accepted packets carry the sequence numbers from zero on, they are
counted, and each of them, in order, has one statistics entry, one TX timestamp,
one row and one place in the arrays, with the time of the iteration that sent it. -/
structure Disciplined (cfg : Config) (mode : SendMode) (s : LoopState) : Prop where
  wire : s.accepted.map (fun p => ntohl p.data) =
    (List.range s.accepted.length).map UInt32.ofNat
  total : s.totalPacketsSent = UInt64.ofNat s.accepted.length
  created : s.calls.filter (·.isCreate) =
    s.accepted.mapIdx fun k _ => .createStats (UInt32.ofNat k) cfg.clientSrcPort mode.entryType
  updated : s.calls.filterMap (·.appTx?) =
    s.accepted.mapIdx fun k p => (UInt32.ofNat k, p.appTxTs.ns)
  rows : s.calls.filter (·.isCsv) = mode.csvEntries cfg s.accepted
  stored : s.calls.filter (·.isStore) = s.accepted.mapIdx fun k p => mode.store (UInt32.ofNat k) p

/-! ## Lists of records -/

theorem ntohl_fillPacket (rxPort seq : UInt32) (packet : List UInt8) (mode : SendMode) :
    ntohl (fillPacket rxPort seq packet mode) = seq := by
  cases mode with
  | oneway => exact ntohl_htonl seq _
  | roundtrip => exact ntohl_htonl seq _

theorem mapIdx_map_range {α β : Type} (f : Nat → α → β) (g : Nat → α) (n : Nat) :
    ((List.range n).map g).mapIdx f = (List.range n).map fun i => f i (g i) := by
  apply List.ext_getElem?
  intro i
  by_cases hi : i < n
  · simp [hi]
  · simp [hi]

/-- Records of the packets that are accepted next. -/
theorem mapIdx_append_range {α β : Type} (f : Nat → α → β) (l : List α) (g : Nat → α) (n : Nat) :
    (l ++ (List.range n).map g).mapIdx f =
      l.mapIdx f ++ (List.range n).map fun i => f (l.length + i) (g i) := by
  rw [List.mapIdx_append, mapIdx_map_range]
  simp only [Nat.add_comm]

theorem filter_map_of_all {α β : Type} {p : β → Bool} {f : α → β} (h : ∀ a, p (f a) = true)
    (l : List α) : (l.map f).filter p = l.map f := by
  rw [List.filter_eq_self]
  intro b hb
  obtain ⟨a, -, rfl⟩ := List.mem_map.mp hb
  exact h a

theorem filter_map_of_none {α β : Type} {p : β → Bool} {f : α → β} (h : ∀ a, p (f a) = false)
    (l : List α) : (l.map f).filter p = [] := by
  rw [List.filter_eq_nil_iff]
  intro b hb
  obtain ⟨a, -, rfl⟩ := List.mem_map.mp hb
  rw [h a]
  exact Bool.false_ne_true

section Calls

variable (cfg : Config) (seqNum : UInt32) (a : Attempt) (n : Nat)

theorem filter_isCreate_sendCalls (mode : SendMode) :
    (sendCalls cfg seqNum a n mode).filter (·.isCreate) =
      (List.range n).map fun i =>
        .createStats (seqNum + UInt32.ofNat i) cfg.clientSrcPort mode.entryType := by
  cases mode with
  | oneway =>
    rw [sendCalls, onewayCalls, List.filter_append, List.filter_flatMap,
      filter_map_of_none fun _ => rfl, List.append_nil, List.map_eq_flatMap]
    rfl
  | roundtrip =>
    rw [sendCalls, roundtripCalls, List.filter_append, List.filter_flatMap,
      filter_map_of_none fun _ => rfl, List.nil_append, List.map_eq_flatMap]
    rfl

theorem filterMap_appTx_sendCalls (mode : SendMode) :
    (sendCalls cfg seqNum a n mode).filterMap (·.appTx?) =
      (List.range n).map fun i => (seqNum + UInt32.ofNat i, (a.clock i).time.ns) := by
  cases mode with
  | oneway =>
    rw [sendCalls, onewayCalls, List.filterMap_append, List.filterMap_flatMap, List.filterMap_map,
      List.map_eq_flatMap]
    simp [Function.comp_def, SendCall.appTx?]
  | roundtrip =>
    rw [sendCalls, roundtripCalls, List.filterMap_append, List.filterMap_flatMap,
      List.filterMap_map, List.map_eq_flatMap]
    simp [Function.comp_def, SendCall.appTx?]

theorem filter_isCsv_sendCalls (mode : SendMode) :
    (sendCalls cfg seqNum a n mode).filter (·.isCsv) =
      match mode with
      | .oneway => (List.range n).map fun i => .enqueueCsv (createCsvClientOnewayMain
          (seqNum + UInt32.ofNat i) cfg.clientSrcIp cfg.clientSrcPort (a.clock i).time.ns)
      | .roundtrip => [] := by
  cases mode with
  | oneway =>
    -- one-way: a CSV entry for each packet, all behind the updates of the statistics
    rw [sendCalls, onewayCalls, List.filter_append, List.filter_flatMap,
      filter_map_of_none fun _ => rfl, List.append_nil, List.map_eq_flatMap]
    rfl
  | roundtrip =>
    -- round trip: rows are logged by the receiver
    rw [sendCalls, roundtripCalls, List.filter_append, List.filter_flatMap,
      filter_map_of_none fun _ => rfl, List.nil_append]
    simp [SendCall.isCsv]

theorem filter_isStore_sendCalls (mode : SendMode) (data : Nat → List UInt8) :
    (sendCalls cfg seqNum a n mode).filter (·.isStore) =
      (List.range n).map fun i => mode.store (seqNum + UInt32.ofNat i)
        ⟨data i, (a.clock i).time, captureTsc cfg (a.clock i)⟩ := by
  cases mode with
  | oneway =>
    rw [sendCalls, onewayCalls, List.filter_append, List.filter_flatMap,
      filter_map_of_all fun _ => rfl]
    simp [SendCall.isStore, SendMode.store]
  | roundtrip =>
    rw [sendCalls, roundtripCalls, List.filter_append, List.filter_flatMap,
      filter_map_of_all fun _ => rfl]
    simp [SendCall.isStore, SendMode.store]

end Calls

/-! ## Every run -/

/-- The statement, with the next sequence number. -/
structure LoopInv (cfg : Config) (mode : SendMode) (s : LoopState) : Prop where
  next : s.seqNum = UInt32.ofNat s.accepted.length
  disciplined : Disciplined cfg mode s

theorem loopInv_init (cfg : Config) (mode : SendMode) (packetSize : Nat) :
    LoopInv cfg mode (LoopState.init packetSize) := by
  refine ⟨rfl, rfl, rfl, rfl, rfl, ?_, rfl⟩
  cases mode <;> rfl

/-- Buffers and the end of the loop do not matter for what has been sent. -/
theorem LoopInv.of_frame {cfg : Config} {mode : SendMode} {s : LoopState} (h : LoopInv cfg mode s)
    (running : Bool) (buffers : Nat → List UInt8) :
    LoopInv cfg mode { s with running := running, buffers := buffers } :=
  ⟨h.next, ⟨h.disciplined.wire, h.disciplined.total, h.disciplined.created, h.disciplined.updated,
    h.disciplined.rows, h.disciplined.stored⟩⟩

/-- The first `n` packets of the batch are accepted. -/
theorem sent_loopInv {cfg : Config} {mode : SendMode} {s : LoopState} (h : LoopInv cfg mode s)
    (rxPort : UInt32) (a : Attempt) {n : Nat} (hn : n ≤ batchCount cfg) :
    LoopInv cfg mode { s with
      buffers := fillBuffers cfg rxPort mode s
      seqNum := s.seqNum + UInt32.ofNat n
      totalPacketsSent := s.totalPacketsSent + UInt64.ofNat n
      accepted := s.accepted ++ (List.range n).map fun i =>
        ⟨fillBuffers cfg rxPort mode s i, (a.clock i).time, captureTsc cfg (a.clock i)⟩
      calls := s.calls ++ sendCalls cfg s.seqNum a n mode } := by
  obtain ⟨hnext, hdisc⟩ := h
  -- the sequence numbers of the batch go on where the accepted packets end
  have hseq : ∀ i, s.seqNum + UInt32.ofNat i = UInt32.ofNat (s.accepted.length + i) := by
    intro i
    rw [hnext, UInt32.ofNat_add]
  -- what is on the wire is what `fillPacket` has just written
  have hwire : ∀ i ∈ List.range n, ntohl (fillBuffers cfg rxPort mode s i) =
      UInt32.ofNat (s.accepted.length + i) := by
    intro i hi
    have hlt : i < batchCount cfg := Nat.lt_of_lt_of_le (List.mem_range.mp hi) hn
    rw [fillBuffers, if_pos hlt, ntohl_fillPacket, hseq]
  refine ⟨?_, ?_, ?_, ?_, ?_, ?_, ?_⟩
  · rw [hseq, List.length_append, List.length_map, List.length_range]
  · rw [List.map_append, hdisc.wire, List.map_map, List.length_append, List.length_map,
      List.length_range, List.range_add, List.map_append, List.map_map]
    congr 1
    exact List.map_congr_left hwire
  · rw [hdisc.total, List.length_append, List.length_map, List.length_range, UInt64.ofNat_add]
  · rw [List.filter_append, hdisc.created, filter_isCreate_sendCalls, mapIdx_append_range]
    simp only [hseq]
  · rw [List.filterMap_append, hdisc.updated, filterMap_appTx_sendCalls, mapIdx_append_range]
    simp only [hseq]
  · -- only the one-way mode logs a row here
    rw [List.filter_append, hdisc.rows, filter_isCsv_sendCalls]
    cases mode with
    | oneway =>
      simp only [SendMode.csvEntries, hseq]
      rw [mapIdx_append_range]
    | roundtrip => rfl
  · rw [List.filter_append, hdisc.stored,
      filter_isStore_sendCalls cfg s.seqNum a n mode (fillBuffers cfg rxPort mode s),
      mapIdx_append_range]
    simp only [hseq]

theorem iteration_loopInv {cfg : Config} {rxPort : UInt32} {mode : SendMode} {s s' : LoopState}
    {a : Attempt} (h : LoopInv cfg mode s) (hs : iteration cfg rxPort mode s a = some s') :
    LoopInv cfg mode s' := by
  obtain ⟨hnext, hdisc⟩ := h
  simp only [iteration] at hs
  split at hs
  · split at hs
    · rename_i n hresult
      split at hs
      · -- the first `n` packets of the batch were taken
        rename_i hn
        rw [Option.some.injEq] at hs
        subst hs
        exact sent_loopInv ⟨hnext, hdisc⟩ rxPort a hn
      · simp at hs
    · -- `EAGAIN`: the batch is built again in the next turn
      rw [Option.some.injEq] at hs
      subst hs
      exact LoopInv.of_frame ⟨hnext, hdisc⟩ s.running _
    · -- another error ends the loop
      rw [Option.some.injEq] at hs
      subst hs
      exact LoopInv.of_frame ⟨hnext, hdisc⟩ false _
  · simp at hs

theorem loopInv_run {cfg : Config} {rxPort : UInt32} {mode : SendMode} {packetSize : Nat}
    {attempts : List Attempt} {s : LoopState}
    (hrun : Run.exec (iteration cfg rxPort mode) (LoopState.init packetSize) attempts = some s) :
    LoopInv cfg mode s :=
  Run.invariant (fun _ _ _ h hs => iteration_loopInv h hs) (loopInv_init cfg mode packetSize) hrun

/-- In every run of either loop, number, wire and records of the accepted packets
agree. -/
theorem sender_disciplined {cfg : Config} {rxPort : UInt32} {mode : SendMode} {packetSize : Nat}
    {attempts : List Attempt} {s : LoopState}
    (hrun : Run.exec (iteration cfg rxPort mode) (LoopState.init packetSize) attempts = some s) :
    Disciplined cfg mode s :=
  (loopInv_run hrun).disciplined

/-- A client that sends batches on a processor of 1 GHz. -/
def batchConfig : Config where
  clientSrcIp := "10.0.0.1".toList
  clientSrcPort := 40000
  pps := 1000
  tscReliable := true
  cyclesToNs := id

/-- An iteration at the given second. -/
def attemptAt (sec : Int64) (result : SendResult) : Attempt where
  clock _ := ⟨⟨sec, 0⟩, 0⟩
  result := result
  refs _ := (⟨⟨sec, 0⟩, 0⟩, ⟨⟨sec, 0⟩, 0⟩)

/-- Two packets are accepted, then none, then one more. -/
theorem sender_disciplined_partial :
    ∃ s, Run.exec (iteration batchConfig 0 .oneway) (LoopState.init 64)
        [attemptAt 1 (.sent 2), attemptAt 2 .again, attemptAt 3 (.sent 1)] = some s ∧
      s.accepted.map (·.appTxTs.tvSec) = [1, 1, 3] ∧ Disciplined batchConfig .oneway s := by
  obtain ⟨s, hs⟩ : ∃ s, Run.exec (iteration batchConfig 0 .oneway) (LoopState.init 64)
      [attemptAt 1 (.sent 2), attemptAt 2 .again, attemptAt 3 (.sent 1)] = some s := ⟨_, rfl⟩
  refine ⟨s, hs, ?_, sender_disciplined hs⟩
  rw [← Option.some.inj hs]
  rfl

end TradingLatency.Client
