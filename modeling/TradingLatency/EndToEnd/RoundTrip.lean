import TradingLatency.Client.Replies
import TradingLatency.Client.SendLoop
import TradingLatency.Client.Window
import TradingLatency.Server.Correlated

/-!
# Client, network and server of the round trip

The round-trip client and the round-trip server, with the network between them.
The network loses, duplicates, delays and reorders datagrams, but it delivers
none that was not sent: every packet that arrives at the server is one that the
client's kernel has accepted, and every reply is a return packet that the
server's kernel has accepted.

`replies_answer_packets` says that in every run a main row on either side is about
a packet of the client, and that the reply of a main row has come back from the
server for it. The rows of the TX files come from the error queues of the sockets,
which may hold anything here.
-/

namespace TradingLatency.RoundTripSystem

/-! ## Data model -/

/-- What the command lines fix. `main` of the client refuses a port of zero and
packets of less than 12 bytes. -/
structure Config where
  client : Client.Config
  rxPort : UInt16
  packetSize : Nat
  rxPort_pos : 0 < rxPort
  packetSize_ge : 12 ≤ packetSize

/-- The address of the client, as the server sees it. -/
def Config.clientIp (cfg : Config) : IpText := IpText.ofText cfg.client.clientSrcIp

/-- The bytes of a packet. The buffers are zeroed when the loop starts. -/
def Config.datagram (cfg : Config) (seqNum : UInt32) : List UInt8 :=
  Client.fillPacket cfg.rxPort.toUInt32 seqNum (List.replicate cfg.packetSize 0) .roundtrip

/-- A packet as it arrives at the server. -/
def Config.packet (cfg : Config) (p : Client.SentPacket) (hwRxTs kerRxTs appRxTs : Timespec) :
    Server.Packet where
  data := cfg.datagram p.seqNum
  srcIp := cfg.clientIp
  srcPort := cfg.client.clientSrcPort
  hwRxTs := hwRxTs
  kerRxTs := kerRxTs
  appRxTs := appRxTs

/-- Both programs. `origin` and `returned` are history: which packet of the client
each packet was that the server received, and which return packets were delivered. -/
structure State where
  client : Client.State
  server : Server.State
  origin : List Nat
  returned : List Nat

/-- Both programs behind their set-up. -/
def State.init (clientStats serverStats : StatsCollector)
    (requests : UInt32 → Server.ReturnPacketRequest) : State where
  client := Client.State.init clientStats
  server := Server.State.init serverStats requests
  origin := []
  returned := []

/-- The packet that the `i`-th return packet answers, and its bytes. -/
def State.answer? (s : State) (i : Nat) : Option (Nat × List UInt8) :=
  (s.server.accepted[i]?).bind fun a =>
    (s.origin[a.packet]?).map fun k => (k, (Server.returnMessage a).1)

/-! ## Steps -/

/-- A call of the client or of the server, or a delivery: the `k`-th packet of the
client arrives at the server, or the `i`-th return packet at the client. -/
inductive Label where
  | client (l : Client.Label)
  | server (l : Server.Label)
  | arrive (k : Nat) (hwRxTs kerRxTs appRxTs : Timespec)
  | answer (i : Nat) (r : Client.Reply)

/-- What a client receives comes from the network. -/
def isReceive : Client.Label → Bool
  | .receive _ _ => true
  | _ => false

/-- What a server receives comes from the network. -/
def isArrival : Server.Label → Bool
  | .receive _ => true
  | _ => false

/-- One step of one program or of the network. -/
def step (cfg : Config) (s : State) : Label → Option State
  | .client l =>
      if isReceive l then none
      else (Client.step cfg.client s.client l).map fun client => { s with client := client }
  | .server l =>
      if isArrival l then none
      else (Server.step s.server l).map fun server => { s with server := server }
  | .arrive k hwRxTs kerRxTs appRxTs =>
      match s.client.sent[k]? with
      | some p =>
          (Server.step s.server (.receive (cfg.packet p hwRxTs kerRxTs appRxTs))).map fun server =>
            { s with server := server, origin := s.origin ++ [k] }
      | none => none
  | .answer i r =>
      match s.server.accepted[i]? with
      | some a =>
          if Server.returnMessage a = (r.data, cfg.clientIp, cfg.rxPort) then
            (Client.step cfg.client s.client (.receive (s.origin.getD a.packet 0) r)).map
              fun client => { s with client := client, returned := s.returned ++ [i] }
          else none
      | none => none

/-! ## What a step does -/

section Inversion

variable {cfg : Config} {s s' : State}

theorem step_client {l : Client.Label} (h : step cfg s (.client l) = some s') :
    isReceive l = false ∧ ∃ client, Client.step cfg.client s.client l = some client ∧
      s' = { s with client := client } := by
  simp only [step] at h
  split at h
  · cases h
  · rename_i hl
    rcases Option.map_eq_some_iff.mp h with ⟨client, hstep, rfl⟩
    exact ⟨by simpa using hl, client, hstep, rfl⟩

theorem step_server {l : Server.Label} (h : step cfg s (.server l) = some s') :
    isArrival l = false ∧ ∃ server, Server.step s.server l = some server ∧
      s' = { s with server := server } := by
  simp only [step] at h
  split at h
  · cases h
  · rename_i hl
    rcases Option.map_eq_some_iff.mp h with ⟨server, hstep, rfl⟩
    exact ⟨by simpa using hl, server, hstep, rfl⟩

theorem step_arrive {k : Nat} {hwRxTs kerRxTs appRxTs : Timespec}
    (h : step cfg s (.arrive k hwRxTs kerRxTs appRxTs) = some s') :
    ∃ p server, s.client.sent[k]? = some p ∧
      Server.step s.server (.receive (cfg.packet p hwRxTs kerRxTs appRxTs)) = some server ∧
      s' = { s with server := server, origin := s.origin ++ [k] } := by
  simp only [step] at h
  split at h
  · rename_i p hp
    rcases Option.map_eq_some_iff.mp h with ⟨server, hstep, rfl⟩
    exact ⟨p, server, hp, hstep, rfl⟩
  · cases h

theorem step_answer {i : Nat} {r : Client.Reply} (h : step cfg s (.answer i r) = some s') :
    ∃ a client, s.server.accepted[i]? = some a ∧
      Server.returnMessage a = (r.data, cfg.clientIp, cfg.rxPort) ∧
      Client.step cfg.client s.client (.receive (s.origin.getD a.packet 0) r) = some client ∧
      s' = { s with client := client, returned := s.returned ++ [i] } := by
  simp only [step] at h
  split at h
  · rename_i a ha
    split at h
    · rename_i hmsg
      rcases Option.map_eq_some_iff.mp h with ⟨client, hstep, rfl⟩
      exact ⟨a, client, ha, hmsg, hstep, rfl⟩
    · cases h
  · cases h

end Inversion

/-! ## Packets on the wire -/

/-- The round-trip loop writes the first eight bytes of a buffer. -/
theorem fillPacket_roundtrip (rxPort seqNum : UInt32) (buffer : List UInt8) :
    Client.fillPacket rxPort seqNum buffer .roundtrip =
      htonl seqNum ++ (htonl rxPort ++ buffer.drop 8) := by
  have hdrop : (htonl seqNum ++ buffer.drop 4).drop 8 = buffer.drop 8 := by
    rw [List.drop_append, List.drop_drop]
    rfl
  show (htonl seqNum ++ buffer.drop 4).take 4 ++ htonl rxPort ++
    (htonl seqNum ++ buffer.drop 4).drop 8 = _
  rw [hdrop, List.append_assoc]
  rfl

section Wire

variable (cfg : Config) (seqNum : UInt32)

theorem datagram_eq :
    cfg.datagram seqNum =
      htonl seqNum ++ (htonl cfg.rxPort.toUInt32 ++ List.replicate (cfg.packetSize - 8) 0) := by
  rw [Config.datagram, fillPacket_roundtrip, List.drop_replicate]

theorem length_datagram : (cfg.datagram seqNum).length = cfg.packetSize := by
  have hsize := cfg.packetSize_ge
  rw [datagram_eq, List.length_append, List.length_append, List.length_replicate]
  simp only [htonl, List.length_cons, List.length_nil]
  omega

theorem take_datagram : (cfg.datagram seqNum).take 4 = htonl seqNum := by
  rw [datagram_eq]
  rfl

/-- The port in a packet is the one for the reply. -/
theorem clientRxPort_packet (p : Client.SentPacket) (hw ker app : Timespec) :
    (cfg.packet p hw ker app).clientRxPort = cfg.rxPort.toUInt32.toInt32 := by
  have hlen : 8 ≤ (cfg.datagram p.seqNum).length := by
    have hsize := cfg.packetSize_ge
    rw [length_datagram]
    omega
  show (if 8 ≤ (cfg.datagram p.seqNum).length then
    (ntohl ((cfg.datagram p.seqNum).drop 4)).toInt32 else 0) = _
  rw [if_pos hlen, datagram_eq]
  exact congrArg UInt32.toInt32 (ntohl_htonl _ _)

theorem seqNum_packet (p : Client.SentPacket) (hw ker app : Timespec) :
    (cfg.packet p hw ker app).seqNum = p.seqNum := by
  have hlen : 4 ≤ (cfg.datagram p.seqNum).length := by
    have hsize := cfg.packetSize_ge
    rw [length_datagram]
    omega
  show (if 4 ≤ (cfg.datagram p.seqNum).length then ntohl (cfg.datagram p.seqNum)
    else 0xFFFFFFFF) = _
  rw [if_pos hlen, datagram_eq]
  exact ntohl_htonl _ _

/-- A port survives the way through the `int` of the server. -/
theorem port_roundtrip {port : UInt16} (h : 0 < port) :
    0 < port.toUInt32.toInt32 ∧ UInt16.ofInt port.toUInt32.toInt32.toInt = port := by
  have hlt := port.toNat_lt
  have hpos : 0 < port.toNat := h
  have hint : port.toUInt32.toInt32.toInt = port.toNat := by
    show port.toUInt32.toBitVec.toInt = port.toNat
    rw [BitVec.toInt_eq_toNat_of_lt]
    · rfl
    · show 2 * port.toNat < 2 ^ 32
      omega
  constructor
  · rw [Int32.lt_iff_toInt_lt, hint]
    exact Int.natCast_pos.mpr hpos
  · rw [hint]
    have hmod : ((port.toNat : Int) % 2 ^ 16).toNat = port.toNat := by omega
    rw [UInt16.ofInt, hmod]
    exact UInt16.ofNat_toNat

/-- The return packet of a packet is its sequence number, and goes to the port for
the reply. -/
theorem returnMessage_packet (p : Client.SentPacket) (hw ker app : Timespec) (j : Nat) :
    Server.returnMessage ((cfg.packet p hw ker app).request j) =
      (htonl p.seqNum, cfg.clientIp, cfg.rxPort) := by
  have hport := port_roundtrip cfg.rxPort_pos
  have hbytes : ((cfg.datagram p.seqNum).take 8).take 4 = htonl p.seqNum := by
    rw [List.take_take]
    exact take_datagram cfg p.seqNum
  show (((cfg.datagram p.seqNum).take 8).take 4, cfg.clientIp,
    if 0 < (cfg.packet p hw ker app).clientRxPort then
      UInt16.ofInt (cfg.packet p hw ker app).clientRxPort.toInt else _) = _
  rw [hbytes, clientRxPort_packet, if_pos hport.1, hport.2]

/-- The buffers of the send loop are written again and again, with the same bytes
behind the sequence number. -/
structure BuffersInv (s : Client.LoopState) : Prop where
  length : ∀ i, (s.buffers i).length = cfg.packetSize
  rest : ∀ i, (s.buffers i).drop 8 = List.replicate (cfg.packetSize - 8) 0
  accepted : ∀ p ∈ s.accepted, p.data = cfg.datagram (ntohl p.data)

theorem fillPacket_buffer {s : Client.LoopState} (h : BuffersInv cfg s) (i : Nat) :
    Client.fillPacket cfg.rxPort.toUInt32 seqNum (s.buffers i) .roundtrip =
      cfg.datagram seqNum := by
  rw [fillPacket_roundtrip, h.rest, datagram_eq]

theorem ntohl_datagram : ntohl (cfg.datagram seqNum) = seqNum := by
  rw [datagram_eq]
  exact ntohl_htonl _ _

theorem iteration_buffersInv {s s' : Client.LoopState} {a : Client.Attempt}
    (h : BuffersInv cfg s)
    (hstep : Client.iteration cfg.client cfg.rxPort.toUInt32 .roundtrip s a = some s') :
    BuffersInv cfg s' := by
  have hfill : ∀ i, Client.fillBuffers cfg.client cfg.rxPort.toUInt32 .roundtrip s i =
      s.buffers i ∨ ∃ seq, Client.fillBuffers cfg.client cfg.rxPort.toUInt32 .roundtrip s i =
        cfg.datagram seq := by
    intro i
    rw [Client.fillBuffers]
    -- only the first buffers are filled, the others keep the datagrams of an earlier batch
    split
    · exact Or.inr ⟨_, fillPacket_buffer cfg _ h i⟩
    · exact Or.inl rfl
  have hlength : ∀ i, (Client.fillBuffers cfg.client cfg.rxPort.toUInt32 .roundtrip s i).length =
      cfg.packetSize := by
    intro i
    rcases hfill i with hi | ⟨seq, hi⟩
    · rw [hi, h.length]
    · rw [hi, length_datagram]
  have hrest : ∀ i, (Client.fillBuffers cfg.client cfg.rxPort.toUInt32 .roundtrip s i).drop 8 =
      List.replicate (cfg.packetSize - 8) 0 := by
    intro i
    rcases hfill i with hi | ⟨seq, hi⟩
    · rw [hi, h.rest]
    · rw [hi, datagram_eq]
      rfl
  simp only [Client.iteration] at hstep
  split at hstep
  · split at hstep
    · rename_i n _
      split at hstep
      · rename_i hn
        cases hstep
        -- the packets of this batch carry the number written into their buffer
        refine ⟨hlength, hrest, ?_⟩
        intro p hp
        rcases List.mem_append.mp hp with hp | hp
        · exact h.accepted p hp
        · rcases List.mem_map.mp hp with ⟨i, hi, rfl⟩
          have hlt : i < n := List.mem_range.mp hi
          have hdata : Client.fillBuffers cfg.client cfg.rxPort.toUInt32 .roundtrip s i =
              cfg.datagram (s.seqNum + UInt32.ofNat i) := by
            rw [Client.fillBuffers, if_pos (by omega)]
            exact fillPacket_buffer cfg _ h i
          show Client.fillBuffers cfg.client cfg.rxPort.toUInt32 .roundtrip s i = cfg.datagram
            (ntohl (Client.fillBuffers cfg.client cfg.rxPort.toUInt32 .roundtrip s i))
          rw [hdata, ntohl_datagram]
      · cases hstep
    · -- without an accepted packet only the buffers have changed
      cases hstep
      exact ⟨hlength, hrest, h.accepted⟩
    · cases hstep
      exact ⟨hlength, hrest, h.accepted⟩
  · cases hstep

/-- What the send loop hands to the kernel is the packet of this model: the `k`-th
accepted buffer is the datagram of `k`. -/
theorem accepted_datagram {attempts : List Client.Attempt} {s : Client.LoopState}
    (hrun : Run.exec (Client.iteration cfg.client cfg.rxPort.toUInt32 .roundtrip)
      (Client.LoopState.init cfg.packetSize) attempts = some s) {k : Nat} {p : Client.Accepted}
    (hp : s.accepted[k]? = some p) : p.data = cfg.datagram (UInt32.ofNat k) := by
  have hinit : BuffersInv cfg (Client.LoopState.init cfg.packetSize) := by
    refine ⟨fun _ => List.length_replicate, fun _ => List.drop_replicate .., ?_⟩
    intro p hp
    cases hp
  have hinv : BuffersInv cfg s :=
    Run.invariant (fun _ _ _ h hl => iteration_buffersInv cfg h hl) hinit hrun
  rw [hinv.accepted p (List.mem_of_getElem? hp), (Client.loopInv_run hrun).disciplined.wire_getElem? hp]

end Wire

/-! ## What the programs keep -/

/-- The packets of the client are numbered in the order of sending. -/
structure Numbered (c : Client.State) : Prop where
  sent : ∀ k p, c.sent[k]? = some p → p.seqNum = UInt32.ofNat k
  next : c.seqNum + UInt32.ofNat c.sender.batch.length = UInt32.ofNat c.sent.length

theorem step_numbered {cfg : Client.Config} {c c' : Client.State} {l : Client.Label}
    (h : Numbered c) (hl : Client.step cfg c l = some c') : Numbered c' := by
  by_cases hsender : l.bySender = true
  · cases l <;> simp only [Client.Label.bySender, Bool.false_eq_true] at hsender
    case sendmmsg clock result =>
      obtain ⟨htop, ⟨batch, hbatch, rfl⟩ | rfl | rfl⟩ := Client.step_sendmmsg hl
      · -- at the top of the loop `seq_num` is the number of the packets sent so far
        have hseq : c.seqNum = UInt32.ofNat c.sent.length := by
          have hnext := h.next
          rw [htop] at hnext
          simpa [Client.Sender.batch] using hnext
        constructor
        · intro k p hp
          rcases List.getElem?_append.symm.trans hp with hp
          split at hp
          · exact h.sent k p hp
          · rename_i hk
            have hprep := Client.getElem?_of_prefix hbatch hp
            rw [Client.getElem?_prepareBatch hprep, hseq, ← UInt32.ofNat_add]
            congr 1
            omega
        · show c.seqNum + UInt32.ofNat (Client.afterSend batch).batch.length =
            UInt32.ofNat (c.sent ++ batch).length
          rw [Client.batch_afterSend, hseq, List.length_append, UInt32.ofNat_add]
      · exact h
      · refine ⟨h.sent, ?_⟩
        have hnext := h.next
        rw [htop] at hnext
        exact hnext
    case store =>
      obtain ⟨batch, i, p, hs, -, rfl⟩ := Client.step_store hl
      refine ⟨h.sent, ?_⟩
      have hnext := h.next
      rw [hs] at hnext
      split
      · exact hnext
      · exact hnext
    case createStats =>
      obtain ⟨batch, i, hs, rfl⟩ := Client.step_createStats hl
      refine ⟨h.sent, ?_⟩
      have hnext := h.next
      rw [hs] at hnext
      exact hnext
    case updateAppTx =>
      obtain ⟨batch, i, p, hs, -, rfl⟩ := Client.step_updateAppTx hl
      refine ⟨h.sent, ?_⟩
      have hnext := h.next
      rw [hs] at hnext
      -- `seq_num` is only moved on behind the last packet of the batch
      by_cases hlt : i + 1 < batch.length
      · simp only [if_pos hlt]
        exact hnext
      · simp only [if_neg hlt]
        show c.seqNum + UInt32.ofNat batch.length + 0 = _
        rw [UInt32.add_zero]
        exact hnext
    case shutdown =>
      obtain ⟨htop, rfl⟩ := Client.step_shutdown hl
      refine ⟨h.sent, ?_⟩
      have hnext := h.next
      rw [htop] at hnext
      exact hnext
  · -- the receiver changes neither the packets nor `seq_num`
    have hf := Client.senderFrame_of_step (by simpa using hsender) hl
    refine ⟨?_, ?_⟩
    · rw [hf.sent]
      exact h.sent
    · rw [hf.sent, hf.sender, hf.seqNum]
      exact h.next

/-- The reply that the RX thread is at. -/
def replyOf : Client.Receiver → List (Nat × Client.Reply)
  | .received k r | .lookedUp k r _ _ | .updated k r _ _ => [(k, r)]
  | .idle | .done => []

/-- The replies that the client has taken from its socket, in order. -/
def handled (c : Client.State) : List (Nat × Client.Reply) :=
  c.rows.map (fun row => (row.1, row.2.1)) ++ replyOf c.receiver

/-- Only a reception takes a reply. -/
theorem handled_step {cfg : Client.Config} {c c' : Client.State} {l : Client.Label}
    (hl : Client.step cfg c l = some c') (hreceive : isReceive l = false) :
    handled c' = handled c := by
  by_cases hsender : l.bySender = true
  · have hf := Client.receiverFrame_of_step hsender hl
    rw [handled, handled, hf.rows, hf.receiver]
  cases l <;> simp only [Client.Label.bySender, not_true_eq_false] at hsender
  case receive => cases hreceive
  case lookup =>
    obtain ⟨k, r, hrcv, rfl⟩ := Client.step_lookup hl
    simp only [handled, hrcv, replyOf]
  case updateRx =>
    obtain ⟨k, r, txTs, txTsc, hrcv, rfl⟩ := Client.step_updateRx hl
    simp only [handled, hrcv, replyOf]
  case logRow =>
    -- the reply moves from the RX thread to the rows
    obtain ⟨k, r, txTs, txTsc, hrcv, rfl⟩ := Client.step_logRow hl
    simp only [handled, hrcv, replyOf, List.map_append, List.map_cons, List.map_nil,
      List.append_nil]
  case rxExit =>
    obtain ⟨hidle, rfl⟩ := Client.step_rxExit hl
    simp only [handled, hidle, replyOf]
  case txTimestamp msg =>
    simp only [Client.step, Option.some.injEq] at hl
    subst hl
    rfl

theorem handled_receive {cfg : Client.Config} {c c' : Client.State} {k : Nat} {r : Client.Reply}
    (hl : Client.step cfg c (.receive k r) = some c') (hlen : 4 ≤ r.data.length) :
    handled c' = handled c ++ [(k, r)] := by
  simp only [Client.step, if_pos hlen] at hl
  split at hl
  · rename_i hidle
    cases hl
    simp only [handled, hidle, replyOf, List.append_nil]
  · cases hl

/-- A row is made of its reply and of what was looked up for it. -/
def RowsMade (cfg : Client.Config) (c : Client.State) : Prop :=
  ∀ row ∈ c.rows, ∃ txTs txTsc, row.2.2 = Client.rxRow cfg row.2.1 txTs txTsc

theorem step_rowsMade {cfg : Client.Config} {c c' : Client.State} {l : Client.Label}
    (h : RowsMade cfg c) (hl : Client.step cfg c l = some c') : RowsMade cfg c' := by
  by_cases hsender : l.bySender = true
  · rw [RowsMade, (Client.receiverFrame_of_step hsender hl).rows]
    exact h
  cases l <;> simp only [Client.Label.bySender, not_true_eq_false] at hsender
  case receive k r =>
    obtain ⟨-, ⟨-, rfl⟩ | rfl⟩ := Client.step_receive hl
    · exact h
    · exact h
  case lookup =>
    obtain ⟨_, _, -, rfl⟩ := Client.step_lookup hl
    exact h
  case updateRx =>
    obtain ⟨_, _, _, _, -, rfl⟩ := Client.step_updateRx hl
    exact h
  -- the only step that writes a row
  case logRow =>
    obtain ⟨k, r, txTs, txTsc, -, rfl⟩ := Client.step_logRow hl
    intro row hrow
    rcases List.mem_append.mp hrow with hrow | hrow
    · exact h row hrow
    · rw [List.mem_singleton.mp hrow]
      exact ⟨txTs, txTsc, rfl⟩
  case rxExit =>
    obtain ⟨-, rfl⟩ := Client.step_rxExit hl
    exact h
  case txTimestamp msg =>
    simp only [Client.step, Option.some.injEq] at hl
    subst hl
    exact h

/-- What the server has done stays done, and a row is one of a dequeued request. -/
structure ServerKeeps (s s' : Server.State) : Prop where
  accepted : s.accepted <+: s'.accepted
  dequeued : s.dequeued <+: s'.dequeued
  mainRows : ∀ row ∈ s'.mainRows, row ∈ s.mainRows ∨
    ∃ r ∈ s.tx.pending, r.packet = row.1 ∧ row.2.seqNum = r.seqNum

theorem serverKeeps_of_step {s s' : Server.State} {l : Server.Label}
    (hl : Server.step s l = some s') : ServerKeeps s s' := by
  have hframe : ∀ {t : Server.State}, t.accepted = s.accepted → t.dequeued = s.dequeued →
      t.mainRows = s.mainRows → ServerKeeps s t := by
    intro t hacc hdeq hrows
    refine ⟨hacc ▸ List.prefix_refl _, hdeq ▸ List.prefix_refl _, ?_⟩
    intro row hrow
    exact Or.inl (hrows ▸ hrow)
  cases l with
  | receive p =>
    obtain ⟨-, rfl⟩ := Server.step_receive hl
    exact hframe rfl rfl rfl
  | store =>
    obtain ⟨_, -, rfl⟩ := Server.step_store hl
    exact hframe rfl rfl rfl
  | createStats =>
    obtain ⟨_, -, rfl⟩ := Server.step_createStats hl
    exact hframe rfl rfl rfl
  | updateRx =>
    obtain ⟨_, -, rfl⟩ := Server.step_updateRx hl
    exact hframe rfl rfl rfl
  | readDepth =>
    obtain ⟨-, rfl⟩ := Server.step_readDepth hl
    exact hframe rfl rfl rfl
  | dequeue =>
    -- an empty queue, or the request at its head
    obtain ⟨_, _, -, ⟨-, rfl⟩ | ⟨_, _, -, rfl⟩⟩ := Server.step_dequeue hl
    · exact hframe rfl rfl rfl
    · exact ⟨List.prefix_refl _, List.prefix_append _ _, fun _ hrow => Or.inl hrow⟩
  | sendmmsg clock result =>
    obtain ⟨_, -, ⟨_, -, -, rfl⟩ | ⟨-, rfl⟩ | ⟨-, rfl⟩⟩ := Server.step_sendmmsg hl
    · -- the replies that the kernel takes
      exact ⟨List.prefix_append _ _, List.prefix_refl _, fun _ hrow => Or.inl hrow⟩
    · exact hframe rfl rfl rfl
    · exact hframe rfl rfl rfl
  | updateAppTx =>
    obtain ⟨_, _, _, -, rfl⟩ := Server.step_updateAppTx hl
    exact hframe rfl rfl rfl
  | logRow =>
    obtain ⟨r, t, rest, htx, rfl⟩ := Server.step_logRow hl
    refine ⟨List.prefix_refl _, List.prefix_refl _, ?_⟩
    intro row hrow
    rcases List.mem_append.mp hrow with hrow | hrow
    · exact Or.inl hrow
    · -- the row is for the request at the head of the batch
      rw [List.mem_singleton.mp hrow, htx]
      exact Or.inr ⟨r, List.mem_cons_self, rfl, rfl⟩
  | sendto result =>
    obtain ⟨r, rest, n, -, ⟨k, -, -, rfl⟩ | ⟨-, rfl⟩ | ⟨-, rfl⟩⟩ := Server.step_sendto hl
    · -- the fallback sends one reply, drops it on `EAGAIN`, or gives it up
      obtain ⟨tx, sent, heq⟩ := Server.afterFallback_eq
        { s with accepted := s.accepted ++ [r].take k } rest (n + k)
      rw [heq]
      exact ⟨List.prefix_append _ _, List.prefix_refl _, fun _ hrow => Or.inl hrow⟩
    · obtain ⟨tx, sent, heq⟩ := Server.afterFallback_eq s rest n
      rw [heq]
      exact hframe rfl rfl rfl
    · obtain ⟨tx, sent, heq⟩ := Server.afterFallback_eq
        { s with rejected := s.rejected ++ [r] } rest n
      rw [heq]
      exact hframe rfl rfl rfl
  | txTimestamp msg =>
    simp only [Server.step, Option.some.injEq] at hl
    subst hl
    exact hframe rfl rfl rfl
  | stop =>
    simp only [Server.step, Option.some.injEq] at hl
    subst hl
    exact hframe rfl rfl rfl
  | exit =>
    obtain ⟨-, rfl⟩ := Server.step_exit hl
    exact hframe rfl rfl rfl

/-! ## The invariant -/

/-- The packet of the client that a packet at the server is. -/
def ArrivedFrom (cfg : Config) (s : State) (j k : Nat) : Prop :=
  ∃ p q, s.client.sent[k]? = some p ∧ s.server.received[j]? = some q ∧
    q = cfg.packet p q.hwRxTs q.kerRxTs q.appRxTs

/-- Nothing is made up on the way: packets at the server are packets of the
client, and the replies that the client has taken are the return packets that the
network has delivered, in order. -/
structure Inv (cfg : Config) (s : State) : Prop where
  numbered : Numbered s.client
  clientRows : RowsMade cfg.client s.client
  server : Server.Inv s.server
  origins : s.origin.length = s.server.received.length
  arrived : ∀ j k, s.origin[j]? = some k → ArrivedFrom cfg s j k
  replies : (handled s.client).map (fun h => some (h.1, h.2.data)) = s.returned.map s.answer?
  mainRows : ∀ row ∈ s.server.mainRows, ∃ r ∈ s.server.dequeued, r.packet = row.1 ∧
    row.2.seqNum = r.seqNum

section Inv

variable {cfg : Config} {s s' : State}

/-- A request belongs to a packet of the client. -/
theorem Inv.request_origin (h : Inv cfg s) {r : Server.ReturnPacketRequest}
    (hr : r ∈ s.server.dequeued ++ s.server.queue.items) :
    ∃ k p q, s.origin[r.packet]? = some k ∧ s.client.sent[k]? = some p ∧
      s.server.received[r.packet]? = some q ∧ q = cfg.packet p q.hwRxTs q.kerRxTs q.appRxTs ∧
      r = q.request r.packet := by
  rcases h.server.origin r hr with ⟨q, hq, hreq⟩
  have hlt : r.packet < s.origin.length := by
    rw [h.origins]
    exact (List.getElem?_eq_some_iff.mp hq).1
  have hk := List.getElem?_eq_getElem hlt
  rcases h.arrived _ _ hk with ⟨p, q', hp, hq', hpacket⟩
  cases hq.symm.trans hq'
  exact ⟨_, p, q, hk, hp, hq, hpacket, hreq⟩

/-- A row of the client has the number of its reply. -/
theorem Inv.row_seqNum (h : Inv cfg s) {row : Nat × Client.Reply × CsvEntry}
    (hrow : row ∈ s.client.rows) : row.2.2.seqNum = row.2.1.seqNum := by
  rcases h.clientRows row hrow with ⟨txTs, txTsc, heq⟩
  rw [heq]
  rfl

/-- Its sequence number is the place of the packet. -/
theorem Inv.request_seqNum (h : Inv cfg s) {r : Server.ReturnPacketRequest}
    (hr : r ∈ s.server.dequeued ++ s.server.queue.items) {k : Nat}
    (hk : s.origin[r.packet]? = some k) : r.seqNum = UInt32.ofNat k := by
  rcases h.request_origin hr with ⟨k', p, q, hk', hp, -, hpacket, hreq⟩
  cases hk.symm.trans hk'
  rw [hreq]
  show q.seqNum = _
  rw [hpacket, seqNum_packet, h.numbered.sent k p hp]

/-- A return packet is the sequence number of a packet of the client, and goes to
the client. -/
theorem Inv.accepted_origin (h : Inv cfg s) {a : Server.ReturnPacketRequest}
    (ha : a ∈ s.server.accepted) :
    ∃ k p, s.origin[a.packet]? = some k ∧ s.client.sent[k]? = some p ∧
      Server.returnMessage a = (htonl p.seqNum, cfg.clientIp, cfg.rxPort) := by
  have hdeq : a ∈ s.server.dequeued := h.server.offered.subset (List.mem_append_left _ ha)
  rcases h.request_origin (List.mem_append_left _ hdeq) with ⟨k, p, q, hk, hp, -, hpacket, hreq⟩
  refine ⟨k, p, hk, hp, ?_⟩
  rw [hreq, hpacket]
  exact returnMessage_packet cfg p _ _ _ _

/-- An answer stays what it is while both histories grow. -/
theorem answer?_mono (hacc : s.server.accepted <+: s'.server.accepted)
    (horigin : s.origin <+: s'.origin) {i : Nat} {x : Nat × List UInt8}
    (hx : s.answer? i = some x) : s'.answer? i = some x := by
  rcases Option.bind_eq_some_iff.mp hx with ⟨a, ha, hmap⟩
  rcases Option.map_eq_some_iff.mp hmap with ⟨k, hk, rfl⟩
  rw [State.answer?, Client.getElem?_of_prefix hacc ha, Option.bind_some,
    Client.getElem?_of_prefix horigin hk]
  rfl

/-- The delivered return packets, in a later state. -/
theorem Inv.map_answer? (h : Inv cfg s) (t : State)
    (hacc : s.server.accepted <+: t.server.accepted) (horigin : s.origin <+: t.origin) :
    s.returned.map t.answer? = s.returned.map s.answer? := by
  apply List.map_congr_left
  intro i hi
  have hmem : s.answer? i ∈ (handled s.client).map (fun h => some (h.1, h.2.data)) := by
    rw [h.replies]
    exact List.mem_map_of_mem hi
  rcases List.mem_map.mp hmem with ⟨x, -, hx⟩
  rw [← hx]
  exact answer?_mono hacc horigin hx.symm

/-- The rows of the server stay rows of requests. -/
theorem Inv.mainRows_step (h : Inv cfg s) {server : Server.State}
    (hkeeps : ServerKeeps s.server server) :
    ∀ row ∈ server.mainRows, ∃ r ∈ server.dequeued, r.packet = row.1 ∧
      row.2.seqNum = r.seqNum := by
  intro row hrow
  rcases hkeeps.mainRows row hrow with hrow | ⟨r, hr, hrest⟩
  · rcases h.mainRows row hrow with ⟨r, hr, hrest⟩
    exact ⟨r, hkeeps.dequeued.subset hr, hrest⟩
  · exact ⟨r, hkeeps.dequeued.subset (h.server.pending.subset hr), hrest⟩

theorem client_inv {l : Client.Label} (h : Inv cfg s) (hl : step cfg s (.client l) = some s') :
    Inv cfg s' := by
  rcases step_client hl with ⟨hreceive, client, hstep, rfl⟩
  refine ⟨step_numbered h.numbered hstep, step_rowsMade h.clientRows hstep, h.server, h.origins, ?_, ?_,
    h.mainRows⟩
  · intro j k hk
    rcases h.arrived j k hk with ⟨p, q, hp, hrest⟩
    exact ⟨p, q, Client.getElem?_of_prefix (Client.sent_prefix hstep) hp, hrest⟩
  · show (handled client).map _ = _
    rw [handled_step hstep hreceive]
    exact h.replies

theorem server_inv {l : Server.Label} (h : Inv cfg s) (hl : step cfg s (.server l) = some s') :
    Inv cfg s' := by
  rcases step_server hl with ⟨harrival, server, hstep, rfl⟩
  have hkeeps := serverKeeps_of_step hstep
  have hreceived : server.received = s.server.received := by
    rcases Server.received_step hstep with hsame | ⟨p, rfl, -⟩
    · exact hsame
    · cases harrival
  refine ⟨h.numbered, h.clientRows, Server.step_inv h.server hstep, ?_, ?_, ?_,
    h.mainRows_step hkeeps⟩
  · rw [hreceived]
    exact h.origins
  · intro j k hk
    rcases h.arrived j k hk with ⟨p, q, hp, hq, hpacket⟩
    exact ⟨p, q, hp, hreceived.symm ▸ hq, hpacket⟩
  · have hmap := h.map_answer? { s with server := server } hkeeps.accepted (List.prefix_refl _)
    exact h.replies.trans hmap.symm

theorem arrive_inv {k : Nat} {hwRxTs kerRxTs appRxTs : Timespec} (h : Inv cfg s)
    (hl : step cfg s (.arrive k hwRxTs kerRxTs appRxTs) = some s') : Inv cfg s' := by
  rcases step_arrive hl with ⟨p, server, hp, hstep, rfl⟩
  have hkeeps := serverKeeps_of_step hstep
  have hreceived : server.received =
      s.server.received ++ [cfg.packet p hwRxTs kerRxTs appRxTs] := by
    rw [(Server.step_receive hstep).2]
  refine ⟨h.numbered, h.clientRows, Server.step_inv h.server hstep, ?_, ?_, ?_,
    h.mainRows_step hkeeps⟩
  · rw [hreceived, List.length_append, List.length_append, h.origins]
    rfl
  · -- a packet received earlier keeps its origin, and the new one has `k`
    intro j k' hk
    show ∃ p' q, s.client.sent[k']? = some p' ∧ server.received[j]? = some q ∧ _
    rw [hreceived]
    rcases Nat.lt_or_ge j s.origin.length with hlt | hge
    · rw [List.getElem?_append_left hlt] at hk
      rcases h.arrived j k' hk with ⟨p', q, hp', hq, hpacket⟩
      exact ⟨p', q, hp', Server.getElem?_received hq _, hpacket⟩
    · rw [List.getElem?_append_right hge] at hk
      rcases List.getElem?_eq_some_iff.mp hk with ⟨hlen, hval⟩
      have hj : j = s.server.received.length := by
        rw [List.length_singleton] at hlen
        rw [← h.origins]
        omega
      have hk' : k' = k := by
        rw [← hval, List.getElem_singleton]
      subst hk'
      refine ⟨p, cfg.packet p hwRxTs kerRxTs appRxTs, hp, ?_, rfl⟩
      rw [hj, List.getElem?_append_right (Nat.le_refl _), Nat.sub_self]
      rfl
  · -- the replies so far answer what they answered before
    have hmap := h.map_answer? { s with server := server, origin := s.origin ++ [k] }
      hkeeps.accepted (List.prefix_append _ _)
    exact h.replies.trans hmap.symm

theorem answer_inv {i : Nat} {r : Client.Reply} (h : Inv cfg s)
    (hl : step cfg s (.answer i r) = some s') : Inv cfg s' := by
  rcases step_answer hl with ⟨a, client, ha, hmsg, hstep, rfl⟩
  rcases h.accepted_origin (List.mem_of_getElem? ha) with ⟨k, p, hk, hp, hreturn⟩
  have hdata : r.data = htonl p.seqNum := by
    rw [hreturn] at hmsg
    exact (congrArg Prod.fst hmsg).symm
  have hplace : s.origin.getD a.packet 0 = k := by
    rw [List.getD_eq_getElem?_getD, hk]
    rfl
  have hanswer : s.answer? i = some (k, r.data) := by
    rw [State.answer?, ha, Option.bind_some, hk, hmsg]
    rfl
  rw [hplace] at hstep
  refine ⟨step_numbered h.numbered hstep, step_rowsMade h.clientRows hstep, h.server, h.origins, ?_, ?_,
    h.mainRows⟩
  · -- every packet that was sent keeps its place
    intro j k' hk'
    rcases h.arrived j k' hk' with ⟨p', q, hp', hrest⟩
    exact ⟨p', q, Client.getElem?_of_prefix (Client.sent_prefix hstep) hp', hrest⟩
  · -- the reply is the next one that the client handles
    show (handled client).map _ = (s.returned ++ [i]).map s.answer?
    rw [handled_receive hstep (by rw [hdata]; exact Nat.le_refl 4), List.map_append,
      List.map_append, h.replies]
    show _ = _ ++ [s.answer? i]
    rw [hanswer]
    rfl

theorem step_inv {l : Label} (h : Inv cfg s) (hl : step cfg s l = some s') : Inv cfg s' := by
  cases l with
  | client l => exact client_inv h hl
  | server l => exact server_inv h hl
  | arrive k hwRxTs kerRxTs appRxTs => exact arrive_inv h hl
  | answer i r => exact answer_inv h hl

theorem inv_init (clientStats serverStats : StatsCollector)
    (requests : UInt32 → Server.ReturnPacketRequest) :
    Inv cfg (State.init clientStats serverStats requests) := by
  refine ⟨⟨?_, rfl⟩, ?_, Server.inv_init serverStats requests, rfl, ?_, rfl, ?_⟩
  · intro k p hp
    cases hp
  · intro row hrow
    cases hrow
  · intro j k hk
    cases hk
  · intro row hrow
    cases hrow

end Inv

/-! ## Nothing is made up -/

section Runs

variable {cfg : Config} {clientStats serverStats : StatsCollector}
  {requests : UInt32 → Server.ReturnPacketRequest} {ls : List Label} {s : State}

/-- The reply of a row is the return packet of a packet that the client sent. -/
theorem Inv.row_answer (h : Inv cfg s) {row : Nat × Client.Reply × CsvEntry}
    (hrow : row ∈ s.client.rows) :
    ∃ a ∈ s.server.accepted, s.origin[a.packet]? = some row.1 ∧
      (Server.returnMessage a).1 = row.2.1.data := by
  have hmem : some (row.1, row.2.1.data) ∈ s.returned.map s.answer? := by
    rw [← h.replies]
    refine List.mem_map.mpr ⟨(row.1, row.2.1), ?_, rfl⟩
    exact List.mem_append_left _ (List.mem_map.mpr ⟨row, hrow, rfl⟩)
  rcases List.mem_map.mp hmem with ⟨i, -, hi⟩
  rcases Option.bind_eq_some_iff.mp hi with ⟨a, ha, hmap⟩
  rcases Option.map_eq_some_iff.mp hmap with ⟨k, hk, heq⟩
  rcases Prod.mk.injEq .. ▸ heq with ⟨rfl, hdata⟩
  exact ⟨a, List.mem_of_getElem? ha, hk, hdata⟩

/-- In every run, whatever the network loses, repeats or reorders:

* the reply of a main row of the client was sent by the server to the port for
  replies, for a packet that the client sent, and the row has its sequence number;
* a main row of the server is about a packet that the client sent. -/
theorem replies_answer_packets
    (hrun : Run.exec (step cfg) (State.init clientStats serverStats requests) ls = some s) :
    (∀ row ∈ s.client.rows, ∃ p q, ∃ a ∈ s.server.accepted,
      s.client.sent[row.1]? = some p ∧ row.2.2.seqNum = p.seqNum ∧
      s.server.received[a.packet]? = some q ∧
      q = cfg.packet p q.hwRxTs q.kerRxTs q.appRxTs ∧
      Server.returnMessage a = (row.2.1.data, cfg.clientIp, cfg.rxPort)) ∧
    ∀ row ∈ s.server.mainRows, ∃ (k : Nat) (p : Client.SentPacket) (q : Server.Packet),
      s.client.sent[k]? = some p ∧ s.server.received[row.1]? = some q ∧
      q = cfg.packet p q.hwRxTs q.kerRxTs q.appRxTs ∧ row.2.seqNum = p.seqNum := by
  have h : Inv cfg s := Run.invariant (fun _ _ _ hinv hl => step_inv hinv hl)
    (inv_init clientStats serverStats requests) hrun
  constructor
  · -- through the answer, back to the packet that was sent
    intro row hrow
    rcases h.row_answer hrow with ⟨a, ha, hk, hdata⟩
    rcases h.accepted_origin ha with ⟨k, p, hk', hp, hreturn⟩
    cases hk.symm.trans hk'
    rcases h.arrived _ _ hk with ⟨p', q, hp', hq, hpacket⟩
    cases hp.symm.trans hp'
    rw [hreturn] at hdata
    refine ⟨p, q, a, ha, hp, ?_, hq, hpacket, ?_⟩
    · rw [h.row_seqNum hrow, Client.Reply.seqNum, ← hdata]
      exact ntohl_htonl p.seqNum []
    · rw [hreturn, ← hdata]
  · -- through the request of the row
    intro row hrow
    rcases h.mainRows row hrow with ⟨r, hr, hplace, hseq⟩
    rcases h.request_origin (List.mem_append_left _ hr) with ⟨k, p, q, hk, hp, hq, hpacket, -⟩
    refine ⟨k, p, q, hp, hplace ▸ hq, hpacket, ?_⟩
    rw [hseq, h.request_seqNum (List.mem_append_left _ hr) hk, h.numbered.sent k p hp]

end Runs

/-! ## One packet there and back -/

/-- A client that sends one packet of 64 bytes at a time. -/
def sampleConfig : Config where
  client := Client.sampleConfig
  rxPort := 5555
  packetSize := 64
  rxPort_pos := by decide
  packetSize_ge := by decide

/-- Two collectors of four slots. -/
def sampleState : State :=
  State.init Client.sampleState.stats Server.sampleState.stats
    fun _ => ⟨0, (IpText.ofText [], 0), [], 0, 0, 0⟩

/-- The packet is sent and recorded, arrives, is returned, and its reply arrives. -/
def sampleLabels : List Label :=
  (Client.sendLabel :: Client.bookkeepingLabels).map .client ++
    .arrive 0 ⟨1, 100⟩ ⟨1, 200⟩ ⟨1, 300⟩ ::
    (Server.Label.store :: .createStats :: .updateRx :: Server.returnOne).map .server ++
    .answer 0 Client.sampleReply :: [.client .lookup, .client .updateRx, .client .logRow]

theorem replies_answer_packets_one :
    ∃ s, Run.exec (step sampleConfig) sampleState sampleLabels = some s ∧
      s.client.rows.length = 1 ∧ s.server.mainRows.length = 1 ∧
      ∀ row ∈ s.client.rows, ∃ p, s.client.sent[row.1]? = some p ∧
        row.2.2.seqNum = p.seqNum := by
  have hrun : ∃ s, Run.exec (step sampleConfig) sampleState sampleLabels = some s ∧
      s.client.rows.length = 1 ∧ s.server.mainRows.length = 1 := ⟨_, rfl, rfl, rfl⟩
  rcases hrun with ⟨s, hexec, hclient, hserver⟩
  refine ⟨s, hexec, hclient, hserver, ?_⟩
  intro row hrow
  rcases (replies_answer_packets hexec).1 row hrow with ⟨p, _, _, _, hp, hseq, -⟩
  exact ⟨p, hp, hseq⟩

end TradingLatency.RoundTripSystem
