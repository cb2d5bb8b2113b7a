import TradingLatency.AfXdp.Benchmark
import TradingLatency.AfXdp.Replicator

/-!
# The benchmark and the replicator

The way of a trade message there and back: the benchmark client sends it to the
replicator, the XDP program of that host redirects the frame to the socket of a
queue, the thread of the queue copies the payload into a TX frame for each
destination, the kernel transmits what is in the frame by then, and the client
receives what was sent to the address it has subscribed with.

A frame is written in one step and read in one step: the kernel reads it between two
sends of the thread of its queue, as in copy mode, where it copies the frames out
while that thread is in a system call. In zero-copy mode the card may read a frame
that is being built again; `createUdpPacket` clears the frame first and copies the
payload last, and what is transmitted then is not modelled.

The network loses, repeats and reorders, and the replicator reuses its TX frames
while the kernel still owns them, so that a descriptor may carry a later message than
the one it was submitted for. Still no reply is counted that is not the reply to a
message of the client (`feed_loop_accounts`): all trade messages have one length, so
that an overwritten frame holds another whole message.
-/

namespace TradingLatency.FeedLoop

open CText Bytes Inet AfXdp TradeMessage

/-! ## Messages and packets -/

/-- The datagram of a trade message. -/
def messageBytes (tradeId : UInt64) : Bytes :=
  (generateTradeMessage tradeId).map fun c => c.toNat.toUInt8

/-- A datagram in the buffer of the receiver, which `recv` fills up to one byte. -/
def received (datagram : Bytes) : Text :=
  (datagram.map fun byte => Char.ofNat byte.toNat).take 2047

/-- The address of a packet, in the order of the destinations, and its payload. -/
def datagramOf (packet : Bytes) : Option (Pair × Bytes) :=
  match extractUdpPayload packet, ipDaddr packet, udpDest packet 34 with
  | some (some extracted), some addr, some port =>
      some ((addr, htons port), extracted.bytes packet)
  | _, _, _ => none

/-- The payload that `extractUdpPayload` finds. -/
def payloadOf (packet : Bytes) : Option Bytes :=
  match extractUdpPayload packet with
  | some (some extracted) => some (extracted.bytes packet)
  | _ => none

/-! ## The system -/

/-- The number of messages of the benchmark, the maps of the XDP program, and the address
that the client listens at. -/
structure Config where
  totalMessages : UInt64
  maps : XdpMaps
  address : Pair

/-- Both programs, and what has left the host of the replicator, which is history. -/
structure State (numQueues : Nat) where
  client : Benchmark.State
  replicator : Replicator numQueues
  wire : List (Pair × Bytes)

variable {numQueues : Nat}

def State.init (umem : Fin numQueues → Nat → Frame) : State numQueues :=
  ⟨.init, .init umem, []⟩

/-- A step of the client other than a reception; a message that `sendto` accepted
arrives as a frame at a queue; a step of the replicator other than a new frame, where a
send builds its whole packet; the kernel transmits a descriptor, between two such
steps; something that left the replicator arrives. -/
inductive Label (numQueues : Nat) where
  | client (l : Benchmark.Label)
  | arrive (k : Nat) (q : Fin numQueues) (packet : Bytes)
  | replicator (l : Replicator.Label numQueues)
  | transmit (q : Fin numQueues) (i : Nat)
  | deliver (j recvTime : Nat)

/-- What the regular socket sends in a step of the replicator. -/
def fallbackDatagrams (r : Replicator numQueues) : Replicator.Label numQueues → List (Pair × Bytes)
  | .send q _ sent =>
      match r.threads q with
      | .replicating job =>
          match job.remaining with
          | dest :: _ =>
              if r.closed q ∧ 0 ≤ sent then [((dest.sinAddr, dest.port), job.payload)] else []
          | [] => []
      | .idle => []
  | _ => []

/-- One step; `none` when it is not enabled. -/
def step (cfg : Config) (s : State numQueues) : Label numQueues → Option (State numQueues)
  | .client (.receive _ _) => none
  | .client l => (Benchmark.step cfg.totalMessages s.client l).map fun client =>
      { s with client := client }
  | .arrive k q packet =>
      match s.client.sentOk[k]? with
      | none => none
      | some tradeId =>
          -- the XDP program lets the frame through to the socket of its queue
          if unicastFilter cfg.maps (UInt32.ofNat q) packet = some (.redirect (UInt32.ofNat q)) ∧
              payloadOf packet = some (messageBytes tradeId) then
            (s.replicator.step (.frame q packet)).map fun replicator =>
              { s with replicator := replicator }
          else none
  | .replicator (.frame _ _) => none
  | .replicator l => (s.replicator.step l).map fun replicator =>
      { s with replicator := replicator, wire := s.wire ++ fallbackDatagrams s.replicator l }
  | .transmit q i =>
      match (s.replicator.sockets q).inKernel[i]? with
      | none => none
      | some d =>
          -- the frame as it is now, not as it was when the descriptor was submitted
          let frame := (s.replicator.sockets q).umem (d.desc.addr.toNat / frameSize)
          some { s with
            wire := s.wire ++ (datagramOf (frame.bytes.take d.desc.len.toNat)).toList }
  | .deliver j recvTime =>
      match s.wire[j]? with
      | none => none
      | some (address, datagram) =>
          if address = cfg.address then
            (Benchmark.step cfg.totalMessages s.client
              (.receive (received datagram) recvTime)).map fun client => { s with client := client }
          else none

/-! ## Messages are read back -/

theorem length_messageBytes (tradeId : UInt64) : (messageBytes tradeId).length = 152 := by
  rw [messageBytes, List.length_map, generateTradeMessage_eq, List.length_append,
    List.length_append, length_lowDigits, List.length_take, List.length_drop,
    length_messageTemplate]
  rfl

set_option maxRecDepth 2000 in
theorem ascii_messageTemplate : ∀ c ∈ messageTemplate, c.toNat < 128 :=
  of_literal (P := fun t => ∀ c ∈ t, c.toNat < 128) (forall_of_all (by decide +kernel))

theorem ascii_generateTradeMessage (tradeId : UInt64) :
    ∀ c ∈ generateTradeMessage tradeId, c.toNat < 128 := by
  intro c hc
  rw [generateTradeMessage_eq, List.mem_append, List.mem_append] at hc
  rcases hc with (hc | hc) | hc
  · exact ascii_messageTemplate c (List.mem_of_mem_take hc)
  · have hid := isIdChar_of_mem hc
    unfold IsIdChar at hid
    have hle : c ≤ '9' := not_lt.mp fun h => hid (.inr h)
    have hnat : c.toNat ≤ '9'.toNat := hle
    exact Nat.lt_of_le_of_lt hnat (by decide)
  · exact ascii_messageTemplate c (List.mem_of_mem_drop hc)

theorem received_messageBytes (tradeId : UInt64) :
    received (messageBytes tradeId) = generateTradeMessage tradeId := by
  have hlen : (generateTradeMessage tradeId).length = 152 := by
    rw [← length_messageBytes tradeId, messageBytes, List.length_map]
  have hmap : (messageBytes tradeId).map (fun byte => Char.ofNat byte.toNat) =
      generateTradeMessage tradeId := by
    rw [messageBytes, List.map_map]
    refine (List.map_congr_left ?_).trans (List.map_id _)
    intro c hc
    -- a template of ASCII characters survives the way through bytes
    have hlt := ascii_generateTradeMessage tradeId c hc
    have hbyte : c.toNat.toUInt8.toNat = c.toNat :=
      UInt8.toNat_ofNat_of_lt (by show c.toNat < 256; omega)
    show Char.ofNat c.toNat.toUInt8.toNat = c
    rw [hbyte, Char.ofNat_toNat]
  rw [received, hmap, List.take_of_length_le (by rw [hlen]; decide)]

/-! ## The invariant -/

/-- An address that a control message up to now has added to the destinations. -/
def Subscribed (messages : List Bytes) (address : Pair) : Prop :=
  ∃ seen, seen <+: messages ∧ address ∈ seen.foldl applyMessage ∅

/-- A message of the client on its way to a subscriber. -/
def Relayed (s : State numQueues) (x : Pair × Bytes) : Prop :=
  Subscribed s.replicator.messages x.1 ∧ ∃ tradeId ∈ s.client.sentOk, x.2 = messageBytes tradeId

/-- A whole message is in the frame, whichever it is. -/
def FrameOk (s : State numQueues) (frame : Frame) : Prop :=
  ∃ x, Relayed s x ∧ datagramOf (frame.bytes.take 194) = some x

structure Inv (cfg : Config) (s : State numQueues) : Prop where
  replicator : Replicator.Inv s.replicator
  sender : Benchmark.SenderOk s.client
  receiver : Benchmark.ReceiverOk s.client
  few : s.client.attempted.length ≤ cfg.totalMessages.toNat
  small : ∀ tradeId ∈ s.client.sentOk, tradeId.toNat ≤ cfg.totalMessages.toNat
  jobs : ∀ q job, s.replicator.threads q = .replicating job →
    ∃ tradeId ∈ s.client.sentOk, job.payload = messageBytes tradeId
  frames : ∀ q, ∀ d ∈ (s.replicator.sockets q).outstanding, d.desc.len = 194 ∧
    FrameOk s ((s.replicator.sockets q).umem (d.desc.addr.toNat / frameSize))
  wire : ∀ x ∈ s.wire, Relayed s x
  handled : ∀ tradeId ∈ s.client.handled, tradeId ∈ s.client.sentOk ∧
    Subscribed s.replicator.messages cfg.address

/-- The client has sent no less, and the replicator has handled no fewer control
messages. -/
structure Grows (s s' : State numQueues) : Prop where
  sent : s.client.sentOk ⊆ s'.client.sentOk
  messages : s.replicator.messages <+: s'.replicator.messages

theorem Subscribed.mono {messages messages' : List Bytes} {address : Pair}
    (h : Subscribed messages address) (hle : messages <+: messages') :
    Subscribed messages' address := by
  rcases h with ⟨seen, hseen, hmem⟩
  exact ⟨seen, hseen.trans hle, hmem⟩

theorem Relayed.mono {s s' : State numQueues} {x : Pair × Bytes} (h : Relayed s x)
    (hgrows : Grows s s') : Relayed s' x := by
  rcases h with ⟨hsubscribed, tradeId, hsent, hdata⟩
  exact ⟨hsubscribed.mono hgrows.messages, tradeId, hgrows.sent hsent, hdata⟩

theorem FrameOk.mono {s s' : State numQueues} {frame : Frame} (h : FrameOk s frame)
    (hgrows : Grows s s') : FrameOk s' frame := by
  rcases h with ⟨x, hx, hdatagram⟩
  exact ⟨x, hx.mono hgrows, hdatagram⟩

/-! ## Packets -/

/-- A packet that `createUdpPacket` has built. -/
theorem datagramOf_createUdpPacket (frame : Frame) (host : Host) (dest : Destination) {data : Bytes}
    (hlen : data.length = 152) :
    datagramOf ((frame.createUdpPacket host dest data).bytes.take 194) =
      some ((dest.sinAddr, dest.port), data) := by
  have hfits : 42 + data.length ≤ frameSize := by
    rw [hlen]
    decide
  rcases Replicator.carries_createUdpPacket frame host dest hfits 0 0
    with ⟨packet, hpacket, ⟨extracted, hextracted, hbytes⟩, haddr, hport⟩
  have htake : packet = (frame.createUdpPacket host dest data).bytes.take 194 := by
    rw [hpacket, hlen]
    rfl
  rw [← htake, datagramOf, hextracted, haddr, hport]
  simp only [hbytes, htons_htons]

/-- What a send does to the frames: one of them is written, and the descriptor that
may be submitted is the one of this frame. -/
theorem sendSinglePacketDirect_frames {socket : TxSocket} (h : Replicator.CounterOk socket)
    (host : Host) (dest : Destination) {data : Bytes} (hlen : data.length = 152) :
    ∃ n, (socket.sendSinglePacketDirect host dest data).2.umem =
        Function.update socket.umem n ((socket.umem n).createUdpPacket host dest data) ∧
      ∀ d ∈ (socket.sendSinglePacketDirect host dest data).2.outstanding,
        d ∈ socket.outstanding ∨ (d.desc.len = 194 ∧ d.desc.addr.toNat / frameSize = n) := by
  rcases pollTxCompletions_frame socket with ⟨cached, out, posted, peeked, hpoll⟩
  have hcounter : Replicator.CounterOk socket.pollTxCompletions := by
    rw [hpoll]
    exact h
  have hfits : 42 + data.length ≤ frameSize := by
    rw [hlen]
    decide
  simp only [TxSocket.sendSinglePacketDirect, buildPacket_fits hcounter host dest hfits]
  -- the frame is the number of the call modulo the 2048 frames for sending
  refine ⟨socket.pollTxCompletions.calls % txFrames, ?_, ?_⟩
  · rw [hpoll]
    split <;> rfl
  · intro d hd
    split at hd
    · -- without room in the ring the frame is written, but no descriptor is added
      left
      rw [hpoll] at hd
      exact hd
    · -- the new descriptor joins the submitted ones
      simp only [TxSocket.outstanding, TxSocket.submit, List.append_assoc, List.mem_append,
        List.mem_singleton] at hd
      rw [hpoll] at hd ⊢
      rcases hd with hd | rfl | hd
      · exact .inl (List.mem_append_left _ hd)
      · right
        refine ⟨?_, txAddr_div _⟩
        rw [hlen]
        rfl
      · exact .inl (List.mem_append_right _ hd)

/-! ## The client -/

section Client

variable {total : UInt64} {c c' : Benchmark.State} {l : Benchmark.Label}

/-- No more messages are attempted than the benchmark has. -/
theorem attempted_le (hsender : Benchmark.SenderOk c) (htotal : total.toNat < 10 ^ 10)
    (hfew : c.attempted.length ≤ total.toNat) (hl : Benchmark.step total c l = some c') :
    c'.attempted.length ≤ total.toNat := by
  cases l with
  | record sendTime =>
    simp only [Benchmark.step] at hl
    split at hl
    · -- the loop still runs, so the id is at most `total_messages`, and it counts the entries
      rename_i hguard
      cases hl
      have hnext := hsender.next
      rw [hguard.1] at hnext
      have hid : c.tradeId.toNat = c.attempted.length + 1 := by
        rw [hnext]
        exact UInt64.toNat_ofNat_of_lt' (by show _ < 2 ^ 64; omega)
      have hle : c.tradeId.toNat ≤ total.toNat := UInt64.le_iff_toNat_le.mp hguard.2.1
      simp only [List.length_append, List.length_singleton]
      omega
    · cases hl
  | sendto ok =>
    rcases Benchmark.step_sendto hl with ⟨-, rfl⟩
    cases ok <;> exact hfew
  | count =>
    rcases Benchmark.step_count hl with ⟨-, rfl⟩
    exact hfew
  | leave =>
    rcases Benchmark.step_leave hl with ⟨-, rfl⟩
    exact hfew
  | receive datagram recvTime =>
    rcases Benchmark.step_receive hl with rfl | ⟨tradeId, info, -, -, rfl⟩
    · exact hfew
    · exact hfew
  | exit =>
    rcases Benchmark.step_exit hl with rfl
    exact hfew
  | signal =>
    cases hl
    exact hfew

/-- A step of the sender sends at most its current message, and handles nothing. -/
theorem sentOk_step (hl : Benchmark.step total c l = some c')
    (hsender : ∀ datagram recvTime, l ≠ .receive datagram recvTime) :
    c'.handled = c.handled ∧
      (c'.sentOk = c.sentOk ∨ (c.pc = .sendto ∧ c'.sentOk = c.sentOk ++ [c.tradeId])) := by
  cases l with
  | record sendTime =>
    rcases Benchmark.step_record hl with ⟨-, rfl⟩
    exact ⟨rfl, .inl rfl⟩
  | sendto ok =>
    rcases Benchmark.step_sendto hl with ⟨hpc, rfl⟩
    -- the only step that sends anything
    cases ok with
    | true => exact ⟨rfl, .inr ⟨hpc, rfl⟩⟩
    | false => exact ⟨rfl, .inl rfl⟩
  | count =>
    rcases Benchmark.step_count hl with ⟨-, rfl⟩
    exact ⟨rfl, .inl rfl⟩
  | leave =>
    rcases Benchmark.step_leave hl with ⟨-, rfl⟩
    exact ⟨rfl, .inl rfl⟩
  | receive datagram recvTime => exact absurd rfl (hsender datagram recvTime)
  | exit =>
    rcases Benchmark.step_exit hl with rfl
    exact ⟨rfl, .inl rfl⟩
  | signal =>
    cases hl
    exact ⟨rfl, .inl rfl⟩

/-- A datagram is ignored, or its trade id is handled. -/
theorem receive_handled {datagram : Text} {recvTime : Nat}
    (hl : Benchmark.step total c (.receive datagram recvTime) = some c') :
    c'.sentOk = c.sentOk ∧
      (c'.handled = c.handled ∨ c'.handled = c.handled ++ [extractTradeId datagram]) := by
  simp only [Benchmark.step] at hl
  split at hl
  · -- a receiver that has left its loop takes nothing
    cases hl
  · split at hl
    · unfold Benchmark.State.processReceivedMessage at hl
      split at hl
      · -- no entry
        cases hl
        exact ⟨rfl, .inl rfl⟩
      · split at hl
        · -- marked already
          cases hl
          exact ⟨rfl, .inl rfl⟩
        · split at hl
          · cases hl
          · -- the first reply to its message is handled
            cases hl
            exact ⟨rfl, .inr rfl⟩
    · cases hl
      exact ⟨rfl, .inl rfl⟩

end Client

/-! ## Steps of the system -/

section Steps

variable {cfg : Config} {s s' : State numQueues}

/-- The replicator has not moved, and the client may have sent one message more. -/
theorem Inv.of_client (h : Inv cfg s) (htotal : cfg.totalMessages.toNat < 10 ^ 10)
    {l : Benchmark.Label} {client : Benchmark.State}
    (hl : Benchmark.step cfg.totalMessages s.client l = some client)
    (hgrows : s.client.sentOk ⊆ client.sentOk)
    (hsmall : ∀ tradeId ∈ client.sentOk, tradeId.toNat ≤ cfg.totalMessages.toNat)
    (hhandled : ∀ tradeId ∈ client.handled, tradeId ∈ client.sentOk ∧
      Subscribed s.replicator.messages cfg.address) : Inv cfg { s with client := client } := by
  have hgrows' : Grows s { s with client := client } := ⟨hgrows, List.prefix_rfl⟩
  have hfew := attempted_le h.sender htotal h.few hl
  refine ⟨h.replicator, Benchmark.step_senderOk h.sender hl, ?_, hfew, hsmall, ?_, ?_, ?_,
    hhandled⟩
  · -- so few messages that no id comes round again
    refine Benchmark.step_receiverOk h.receiver ?_ hl
    exact Benchmark.newId_of_few h.sender h.receiver hl (by omega)
  · intro q job hjob
    rcases h.jobs q job hjob with ⟨tradeId, hsent, hpayload⟩
    exact ⟨tradeId, hgrows hsent, hpayload⟩
  · intro q d hd
    exact ⟨(h.frames q d hd).1, (h.frames q d hd).2.mono hgrows'⟩
  · intro x hx
    exact (h.wire x hx).mono hgrows'

theorem client_inv (h : Inv cfg s) (htotal : cfg.totalMessages.toNat < 10 ^ 10)
    {l : Benchmark.Label} (hreceive : ∀ datagram recvTime, l ≠ .receive datagram recvTime)
    {client : Benchmark.State} (hl : Benchmark.step cfg.totalMessages s.client l = some client) :
    Inv cfg { s with client := client } := by
  rcases sentOk_step hl hreceive with ⟨hhandled, hsent | ⟨hpc, hsent⟩⟩
  · -- a step that sends nothing
    refine h.of_client htotal hl ?_ ?_ ?_
    · rw [hsent]
      exact List.Subset.refl _
    · rw [hsent]
      exact h.small
    · rw [hhandled, hsent]
      exact h.handled
  · -- a send: its id is at most the number of the messages
    have hnext := h.sender.next
    rw [hpc] at hnext
    have hid : s.client.tradeId.toNat ≤ cfg.totalMessages.toNat := by
      have hfew := h.few
      rw [hnext]
      exact (UInt64.toNat_ofNat_of_lt' (by show _ < 2 ^ 64; omega)).trans_le hfew
    refine h.of_client htotal hl ?_ ?_ ?_
    · rw [hsent]
      exact List.subset_append_left _ _
    · intro tradeId hmem
      rw [hsent] at hmem
      rcases List.mem_append.mp hmem with hmem | hmem
      · exact h.small tradeId hmem
      · rw [List.mem_singleton.mp hmem]
        exact hid
    · intro tradeId hmem
      rw [hhandled] at hmem
      rw [hsent]
      exact ⟨List.mem_append_left _ (h.handled tradeId hmem).1, (h.handled tradeId hmem).2⟩

/-- What the client handles is one of its own messages. -/
theorem deliver_inv (h : Inv cfg s) (htotal : cfg.totalMessages.toNat < 10 ^ 10)
    {datagram : Bytes} (hmem : (cfg.address, datagram) ∈ s.wire) {recvTime : Nat}
    {client : Benchmark.State} (hl : Benchmark.step cfg.totalMessages s.client
      (.receive (received datagram) recvTime) = some client) :
    Inv cfg { s with client := client } := by
  -- everything on the wire for this address is a message of the client
  rcases h.wire _ hmem with ⟨hsubscribed, tradeId, hsent, hdata⟩
  have hdata' : datagram = messageBytes tradeId := hdata
  have hid : extractTradeId (received datagram) = tradeId := by
    have hsmall := h.small tradeId hsent
    rw [hdata', received_messageBytes]
    exact extractTradeId_generateTradeMessage (by omega)
  rcases receive_handled hl with ⟨hsentOk, hhandled⟩
  refine h.of_client htotal hl ?_ ?_ ?_
  · rw [hsentOk]
    exact List.Subset.refl _
  · rw [hsentOk]
    exact h.small
  · intro id hid'
    rw [hsentOk]
    rcases hhandled with hhandled | hhandled
    · -- a datagram that is ignored adds no reply
      rw [hhandled] at hid'
      exact h.handled id hid'
    · -- the reply is to the id that the datagram carries
      rw [hhandled] at hid'
      rcases List.mem_append.mp hid' with hid' | hid'
      · exact h.handled id hid'
      · rw [List.mem_singleton.mp hid', hid]
        exact ⟨hsent, hsubscribed⟩

/-- The client has not moved. -/
theorem Inv.of_replicator (h : Inv cfg s) {r : Replicator numQueues} {wire : List (Pair × Bytes)}
    (hinv : Replicator.Inv r) (hmessages : s.replicator.messages <+: r.messages)
    (hjobs : ∀ q job, r.threads q = .replicating job →
      ∃ tradeId ∈ s.client.sentOk, job.payload = messageBytes tradeId)
    (hframes : ∀ q, ∀ d ∈ (r.sockets q).outstanding, d.desc.len = 194 ∧
      FrameOk s ((r.sockets q).umem (d.desc.addr.toNat / frameSize)))
    (hwire : ∀ x ∈ wire, Relayed s x) : Inv cfg ⟨s.client, r, s.wire ++ wire⟩ := by
  have hgrows : Grows s ⟨s.client, r, s.wire ++ wire⟩ := ⟨List.Subset.refl _, hmessages⟩
  refine ⟨hinv, h.sender, h.receiver, h.few, h.small, hjobs, ?_, ?_, ?_⟩
  · intro q d hd
    exact ⟨(hframes q d hd).1, (hframes q d hd).2.mono hgrows⟩
  · intro x hx
    rcases List.mem_append.mp hx with hx | hx
    · exact (h.wire x hx).mono hgrows
    · exact (hwire x hx).mono hgrows
  · intro tradeId hmem
    exact ⟨(h.handled tradeId hmem).1, (h.handled tradeId hmem).2.mono hmessages⟩

/-- Nothing leaves the host. -/
theorem Inv.of_silent (h : Inv cfg s) {r : Replicator numQueues}
    (hinv : Replicator.Inv r) (hmessages : s.replicator.messages <+: r.messages)
    (hjobs : ∀ q job, r.threads q = .replicating job →
      ∃ tradeId ∈ s.client.sentOk, job.payload = messageBytes tradeId)
    (hframes : ∀ q, ∀ d ∈ (r.sockets q).outstanding, d.desc.len = 194 ∧
      FrameOk s ((r.sockets q).umem (d.desc.addr.toNat / frameSize))) :
    Inv cfg ⟨s.client, r, s.wire ++ []⟩ := by
  refine h.of_replicator hinv hmessages hjobs hframes ?_
  intro x hx
  cases hx

/-- A frame that is replicated goes to addresses that have subscribed. -/
theorem subscribed_of_mem {messages : List Bytes} {job : Job} (h : Replicator.JobOk messages job)
    {dest : Destination} (hmem : dest ∈ job.remaining) :
    Subscribed messages (dest.sinAddr, dest.port) := by
  rcases h.snapshot with ⟨ps, hdestinations, -, hps⟩
  rcases h.progress with ⟨sentTo, hsplit, -⟩
  have hdest : dest ∈ ps.map Destination.ofPair := by
    rw [← hdestinations, hsplit]
    exact List.mem_append_right _ hmem
  rcases List.mem_map.mp hdest with ⟨p, hp, rfl⟩
  exact ⟨job.seen, h.seen, (hps p).mp hp⟩

theorem arrive_inv (h : Inv cfg s) {q : Fin numQueues} {packet : Bytes} {tradeId : UInt64}
    (hsent : tradeId ∈ s.client.sentOk) (hpayload : payloadOf packet = some (messageBytes tradeId))
    {r : Replicator numQueues} (hstep : s.replicator.step (.frame q packet) = some r) :
    Inv cfg { s with replicator := r } := by
  have hinv := Replicator.step_inv h.replicator hstep
  simp only [Replicator.step] at hstep
  split at hstep
  · rename_i hidle
    split at hstep
    · cases hstep
    · rename_i hnone
      rw [payloadOf, hnone] at hpayload
      cases hpayload
    · rename_i extracted hextracted
      rw [payloadOf, hextracted] at hpayload
      cases hstep
      rw [← List.append_nil s.wire]
      refine h.of_silent hinv List.prefix_rfl ?_ h.frames
      intro q' job hjob
      rcases eq_or_ne q' q with rfl | hne
      · -- the queue that took the packet has a message of the client as its payload
        simp only [Function.update_self, QueueThread.replicating.injEq] at hjob
        refine ⟨tradeId, hsent, ?_⟩
        rw [← hjob]
        exact Option.some.inj hpayload
      · -- the other queues go on with their own
        simp only [Function.update_of_ne hne] at hjob
        exact h.jobs q' job hjob
  · cases hstep

/-- A send writes one frame, and a whole message into it. -/
theorem frames_send (h : Inv cfg s) {q : Fin numQueues} {job : Job} {dest : Destination}
    (hjob : s.replicator.threads q = .replicating job) (hmem : dest ∈ job.remaining)
    (host : Host) {n : Nat} {socket : TxSocket}
    (humem : socket.umem = Function.update (s.replicator.sockets q).umem n
      (((s.replicator.sockets q).umem n).createUdpPacket host dest job.payload))
    (houtstanding : ∀ d ∈ socket.outstanding, d ∈ (s.replicator.sockets q).outstanding ∨
      (d.desc.len = 194 ∧ d.desc.addr.toNat / frameSize = n)) :
    ∀ d ∈ socket.outstanding, d.desc.len = 194 ∧
      FrameOk s (socket.umem (d.desc.addr.toNat / frameSize)) := by
  rcases h.jobs q job hjob with ⟨tradeId, hsent, hpayload⟩
  have hframe : FrameOk s (((s.replicator.sockets q).umem n).createUdpPacket host dest
      job.payload) := by
    refine ⟨((dest.sinAddr, dest.port), job.payload), ⟨?_, tradeId, hsent, hpayload⟩, ?_⟩
    · exact subscribed_of_mem (h.replicator.jobs q job hjob) hmem
    · apply datagramOf_createUdpPacket
      rw [hpayload, length_messageBytes]
  intro d hd
  rw [humem]
  by_cases hn : d.desc.addr.toNat / frameSize = n
  · -- the descriptor has the frame that is written now, its own or not
    rw [hn, Function.update_self]
    rcases houtstanding d hd with hold | ⟨hlen, -⟩
    · exact ⟨(h.frames q d hold).1, hframe⟩
    · exact ⟨hlen, hframe⟩
  · rw [Function.update_of_ne hn]
    rcases houtstanding d hd with hold | ⟨-, hnew⟩
    · exact h.frames q d hold
    · exact absurd hnew hn

/-- What the loop body of `replicatePacket` changes. -/
theorem sendNext_parts (r : Replicator numQueues) (q : Fin numQueues) (job : Job)
    (dest : Destination) (rest : List Destination) (host : Host) (sent : Int) :
    (r.sendNext q job dest rest host sent).messages = r.messages ∧
      (r.sendNext q job dest rest host sent).sockets = Function.update r.sockets q
        (Replicator.sendToDestinationWithQueue (r.sockets q) (r.closed q) host dest job.payload
          sent).2.2 ∧
      ∃ job', (r.sendNext q job dest rest host sent).threads =
        Function.update r.threads q (.replicating job') ∧ job'.payload = job.payload := by
  unfold Replicator.sendNext
  dsimp only
  split
  · exact ⟨rfl, rfl, _, rfl, rfl⟩
  · exact ⟨rfl, rfl, _, rfl, rfl⟩

theorem send_inv (h : Inv cfg s) {q : Fin numQueues} {host : Host} {sent : Int}
    {r : Replicator numQueues} (hstep : s.replicator.step (.send q host sent) = some r) :
    Inv cfg { s with
      replicator := r
      wire := s.wire ++ fallbackDatagrams s.replicator (.send q host sent) } := by
  have hinv := Replicator.step_inv h.replicator hstep
  simp only [Replicator.step] at hstep
  split at hstep
  · cases hstep
  · rename_i job hjob
    split at hstep
    · cases hstep
    · rename_i dest rest hremaining
      cases hstep
      have hmem : dest ∈ job.remaining := by
        rw [hremaining]
        exact List.mem_cons_self
      rcases sendNext_parts s.replicator q job dest rest host sent
        with ⟨hmessages, hsockets, job', hthreads, hpayload⟩
      refine h.of_replicator hinv ?_ ?_ ?_ ?_
      · rw [hmessages]
      · -- the payload of the job stays what it was
        intro q' job'' hjob''
        rw [hthreads] at hjob''
        rcases eq_or_ne q' q with rfl | hne
        · rw [Function.update_self] at hjob''
          cases hjob''
          rw [hpayload]
          exact h.jobs q' job hjob
        · rw [Function.update_of_ne hne] at hjob''
          exact h.jobs q' job'' hjob''
      · intro q' d hd
        rw [hsockets] at hd ⊢
        rcases eq_or_ne q' q with rfl | hne
        · rw [Function.update_self] at hd ⊢
          unfold Replicator.sendToDestinationWithQueue at hd ⊢
          split at hd
          · -- on a closed socket nothing is written
            rename_i hclosed
            rw [if_pos hclosed]
            exact h.frames q' d hd
          · -- an open one writes one frame, and submits it if there is room
            rename_i hopen
            rw [if_neg hopen]
            rcases h.jobs q' job hjob with ⟨tradeId, -, hdata⟩
            rcases sendSinglePacketDirect_frames (h.replicator.sockets q') host dest
              (hdata ▸ length_messageBytes tradeId) with ⟨n, humem, houtstanding⟩
            exact frames_send h hjob hmem host humem houtstanding d hd
        · rw [Function.update_of_ne hne] at hd ⊢
          exact h.frames q' d hd
      · -- the fallback sends the message itself, to the destination of the job
        intro x hx
        simp only [fallbackDatagrams, hjob, hremaining] at hx
        split at hx
        · rw [List.mem_singleton.mp hx]
          exact ⟨subscribed_of_mem (h.replicator.jobs q job hjob) hmem, h.jobs q job hjob⟩
        · cases hx

/-- The descriptors of a queue may move, and may be completed. -/
theorem Inv.of_socket (h : Inv cfg s) {q : Fin numQueues} {socket : TxSocket}
    (hinv : Replicator.Inv { s.replicator with
      sockets := Function.update s.replicator.sockets q socket })
    (humem : socket.umem = (s.replicator.sockets q).umem)
    (houtstanding : socket.outstanding ⊆ (s.replicator.sockets q).outstanding) :
    Inv cfg { s with
      replicator := { s.replicator with
        sockets := Function.update s.replicator.sockets q socket }
      wire := s.wire ++ [] } := by
  refine h.of_silent hinv List.prefix_rfl h.jobs ?_
  intro q' d hd
  rcases eq_or_ne q' q with rfl | hne
  · simp only [Function.update_self] at hd ⊢
    rw [humem]
    exact h.frames q' d (houtstanding hd)
  · simp only [Function.update_of_ne hne] at hd ⊢
    exact h.frames q' d hd

theorem replicator_inv (h : Inv cfg s) {l : Replicator.Label numQueues}
    (hframe : ∀ q packet, l ≠ .frame q packet) {r : Replicator numQueues}
    (hstep : s.replicator.step l = some r) :
    Inv cfg { s with
      replicator := r
      wire := s.wire ++ fallbackDatagrams s.replicator l } := by
  have hinv := Replicator.step_inv h.replicator hstep
  cases l with
  | control datagram =>
    -- a control message only lengthens the list of the messages
    simp only [Replicator.step] at hstep
    split at hstep
    · cases hstep
    · cases hstep
      exact h.of_silent hinv (List.prefix_append _ _) h.jobs h.frames
  | frame q packet => exact absurd rfl (hframe q packet)
  | send q host sent => exact send_inv h hstep
  | finish q =>
    simp only [Replicator.step] at hstep
    split at hstep
    · cases hstep
    · split at hstep
      · -- behind its last destination the queue is idle
        cases hstep
        refine h.of_silent hinv List.prefix_rfl ?_ h.frames
        intro q' job hjob
        rcases eq_or_ne q' q with rfl | hne
        · simp only [Function.update_self] at hjob
          cases hjob
        · simp only [Function.update_of_ne hne] at hjob
          exact h.jobs q' job hjob
      · cases hstep
  | consume q =>
    rcases Option.map_eq_some_iff.mp hstep with ⟨socket, hsocket, rfl⟩
    rcases consume_frame hsocket with ⟨humem, -, -, houtstanding⟩
    exact h.of_socket hinv humem fun d hd => (houtstanding d).mp hd
  | complete q i =>
    rcases Option.map_eq_some_iff.mp hstep with ⟨socket, hsocket, rfl⟩
    rcases complete_frame hsocket with ⟨humem, -, -, houtstanding⟩
    exact h.of_socket hinv humem fun d hd => houtstanding d hd
  | close q =>
    cases hstep
    exact h.of_silent hinv List.prefix_rfl h.jobs h.frames

/-- The kernel transmits what is in the frame. -/
theorem transmit_inv (h : Inv cfg s) {q : Fin numQueues} {d : Submitted}
    (hd : d ∈ (s.replicator.sockets q).inKernel) :
    Inv cfg { s with
      wire := s.wire ++ (datagramOf (((s.replicator.sockets q).umem
        (d.desc.addr.toNat / frameSize)).bytes.take d.desc.len.toNat)).toList } := by
  rcases h.frames q d (List.mem_append_right _ hd) with ⟨hlen, x, hx, hdatagram⟩
  have hlen' : d.desc.len.toNat = 194 := by
    rw [hlen]
    rfl
  refine h.of_replicator h.replicator List.prefix_rfl h.jobs h.frames ?_
  intro y hy
  rw [hlen', hdatagram, Option.toList_some] at hy
  rw [List.mem_singleton.mp hy]
  exact hx

theorem step_client (s : State numQueues) {l : Benchmark.Label}
    (hreceive : ∀ datagram recvTime, l ≠ .receive datagram recvTime) :
    step cfg s (.client l) = (Benchmark.step cfg.totalMessages s.client l).map fun client =>
      { s with client := client } := by
  cases l with
  | receive datagram recvTime => exact absurd rfl (hreceive datagram recvTime)
  | _ => rfl

theorem step_replicator (s : State numQueues) {l : Replicator.Label numQueues}
    (hframe : ∀ q packet, l ≠ .frame q packet) :
    step cfg s (.replicator l) = (s.replicator.step l).map fun replicator =>
      { s with replicator := replicator, wire := s.wire ++ fallbackDatagrams s.replicator l } := by
  cases l with
  | frame q packet => exact absurd rfl (hframe q packet)
  | _ => rfl

theorem step_inv (htotal : cfg.totalMessages.toNat < 10 ^ 10) {l : Label numQueues}
    (h : Inv cfg s) (hstep : step cfg s l = some s') : Inv cfg s' := by
  cases l with
  | client l =>
    have hreceive : ∀ datagram recvTime, l ≠ .receive datagram recvTime := by
      rintro datagram recvTime rfl
      cases hstep
    rw [step_client s hreceive] at hstep
    rcases Option.map_eq_some_iff.mp hstep with ⟨client, hclient, rfl⟩
    exact client_inv h htotal hreceive hclient
  | arrive k q packet =>
    simp only [step] at hstep
    split at hstep
    · cases hstep
    · rename_i tradeId hk
      split at hstep
      · rename_i hguard
        rcases Option.map_eq_some_iff.mp hstep with ⟨r, hr, rfl⟩
        exact arrive_inv h (List.mem_of_getElem? hk) hguard.2 hr
      · cases hstep
  | replicator l =>
    have hframe : ∀ q packet, l ≠ .frame q packet := by
      rintro q packet rfl
      cases hstep
    rw [step_replicator s hframe] at hstep
    rcases Option.map_eq_some_iff.mp hstep with ⟨r, hr, rfl⟩
    exact replicator_inv h hframe hr
  | transmit q i =>
    simp only [step] at hstep
    split at hstep
    · cases hstep
    · rename_i d hd
      cases hstep
      exact transmit_inv h (List.mem_of_getElem? hd)
  | deliver j recvTime =>
    simp only [step] at hstep
    split at hstep
    · cases hstep
    · rename_i address datagram hj
      split at hstep
      · rename_i haddress
        rcases Option.map_eq_some_iff.mp hstep with ⟨client, hclient, rfl⟩
        refine deliver_inv h htotal ?_ hclient
        rw [← haddress]
        exact List.mem_of_getElem? hj
      · cases hstep

end Steps

theorem inv_init (cfg : Config) (umem : Fin numQueues → Nat → Frame) :
    Inv cfg (State.init umem) where
  replicator := Replicator.inv_init umem
  sender := Benchmark.senderOk_init
  receiver := Benchmark.receiverOk_init
  few := Nat.zero_le _
  small := by
    intro tradeId hmem
    cases hmem
  jobs := by
    intro q job hjob
    cases hjob
  frames := by
    intro q d hd
    cases hd
  wire := by
    intro x hx
    cases hx
  handled := by
    intro tradeId hmem
    cases hmem

/-! ## The result -/

/-- What left the replicator is a message of the client, whole, and for a subscriber;
a reply is counted once, for a message that was sent, and none before the client has
subscribed. -/
structure FeedOk (cfg : Config) (s : State numQueues) : Prop where
  relayed : ∀ x ∈ s.wire, Relayed s x
  replies : s.client.handled ⊆ s.client.sentOk
  once : s.client.handled.Nodup
  received : s.client.totalReceived = s.client.handled.length
  noneInvented : s.client.totalReceived ≤ s.client.totalSent + s.client.pc.accepted
  subscribed : s.client.totalReceived ≠ 0 → Subscribed s.replicator.messages cfg.address

theorem Inv.feedOk {cfg : Config} {s : State numQueues} (h : Inv cfg s) : FeedOk cfg s where
  relayed := h.wire
  replies := fun tradeId hmem => (h.handled tradeId hmem).1
  once := h.receiver.once
  received := h.receiver.received
  noneInvented := by
    have hle : s.client.handled.length ≤ s.client.sentOk.length :=
      (h.receiver.once.subperm fun tradeId hmem => (h.handled tradeId hmem).1).length_le
    rw [h.receiver.received, ← h.sender.counted]
    exact hle
  subscribed := by
    intro hne
    rw [h.receiver.received, Nat.ne_zero_iff_zero_lt, List.length_pos_iff_exists_mem] at hne
    rcases hne with ⟨tradeId, hmem⟩
    exact (h.handled tradeId hmem).2

/-- Whatever the network and the threads do, as long as the kernel reads no frame that is
being built, the replies that the benchmark counts are replies to its own messages. -/
theorem feed_loop_accounts {cfg : Config} (htotal : cfg.totalMessages.toNat < 10 ^ 10)
    {umem : Fin numQueues → Nat → Frame} {ls : List (Label numQueues)} {s : State numQueues}
    (hrun : Run.exec (step cfg) (State.init umem) ls = some s) : FeedOk cfg s :=
  (Run.invariant (fun _ _ _ h hstep => step_inv htotal h hstep) (inv_init cfg umem) hrun).feedOk

/-- One message, sent from 10.0.0.3 to the replicator at 10.0.0.2:9000. -/
def samplePacket : Bytes :=
  ((zeroFrame.createUdpPacket sampleHost sampleDestination (messageBytes 1)).bytes).take 194

/-- The only queue. -/
def sampleQueue : Fin 1 := Fin.last 0

/-- The client has subscribed as 10.0.0.3:9000, and its message comes back, twice. -/
def sampleRun : List (Label 1) :=
  [.replicator (.control [1, 10, 0, 0, 3, 0x23, 0x28]), .client (.record 1000),
    .client (.sendto true), .arrive 0 sampleQueue samplePacket,
    .replicator (.send sampleQueue sampleHost 0), .replicator (.consume sampleQueue),
    .transmit sampleQueue 0, .deliver 0 5000, .deliver 0 9000, .client .count]

def sampleConfig : Config := ⟨1, sampleMaps, (word32 10 0 0 3, 9000)⟩

theorem feed_loop_accounts_one :
    ∃ s, Run.exec (step sampleConfig) (State.init fun _ _ => zeroFrame) sampleRun = some s ∧
      s.client.handled = [1] ∧ FeedOk sampleConfig s := by
  have hrun : (Run.exec (step sampleConfig) (State.init fun _ _ => zeroFrame) sampleRun).map
      (fun s => s.client.handled) = some [1] := by
    decide +kernel
  rcases Option.map_eq_some_iff.mp hrun with ⟨s, hs, hhandled⟩
  exact ⟨s, hs, hhandled, feed_loop_accounts (by decide) hs⟩

end TradingLatency.FeedLoop
