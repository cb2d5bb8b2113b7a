import TradingLatency.AfXdp.Control
import TradingLatency.AfXdp.TxFrames
import Mathlib.Algebra.BigOperators.Fin
import Mathlib.Data.UInt

/-!
# The replicator (`PacketReplicator.cpp`)

One thread for each queue takes frames from its socket and sends the payload to
all destinations; another thread handles the control messages. A thread looks at
the destinations once for each frame and then sends to one after the other, while
control messages arrive, other queues replicate, and the kernel works on the
rings.

The set of destinations is what the control messages make of it, a frame whose
sends all find room has one descriptor for each destination, and the counters are
what the frames and their sends add up to (`fan_out_exact`). A send counts in
`packets_sent_` at once and in the counter of its queue when its frame is done: the
two agree while no frame is half done, but not after every frame
(`sent_counters_differ`).
-/

namespace TradingLatency.AfXdp

open CText Bytes Inet

/-! ## Data model -/

/-- How a send ended. `fallback` is the regular socket, with the result of
`sendto`; it is used when the socket of the queue throws. -/
inductive SendPath where
  | tooLarge
  | ringFull
  | submitted
  | fallback (sent : Int)
deriving DecidableEq

/-- A send of `length` bytes that is counted: the socket of the queue took it, or
`sendto` sent all of it. -/
def SendPath.succeeded (length : Nat) : SendPath → Bool
  | .submitted => true
  | .fallback sent => sent = length
  | .tooLarge => false
  | .ringFull => false

/-- A frame that is being replicated: its bytes and its payload, the destinations
it goes to and those that are left, and `sent_count`. The control messages
handled before, the ends of the sends and the descriptors that appeared on the TX
ring of the queue are history. -/
structure Job where
  packet : Bytes
  extracted : Payload
  destinations : List Destination
  remaining : List Destination
  sentCount : Nat
  seen : List Bytes
  paths : List SendPath
  submitted : List Submitted

def Job.payload (job : Job) : Bytes := job.extracted.bytes job.packet

/-- What the sends of the frame have added to `bytes_sent_`. -/
def Job.bytesSent (job : Job) : UInt64 := UInt64.ofNat (job.sentCount * job.payload.length)

/-- Every send of the frame has reserved its descriptor. -/
def Job.AllReserved (job : Job) : Prop :=
  ∀ path ∈ job.paths, path ≠ .ringFull ∧ ∀ sent, path ≠ .fallback sent

/-- The thread of a queue. -/
inductive QueueThread where
  | idle
  | replicating (job : Job)

/-- `PacketReplicator`. The control messages, the frames received and the frames
that are done are history. -/
structure Replicator (numQueues : Nat) where
  destinations : Destinations
  sockets : Fin numQueues → TxSocket
  closed : Fin numQueues → Bool
  threads : Fin numQueues → QueueThread
  packetsReceived : UInt64
  packetsSent : UInt64
  bytesReceived : UInt64
  bytesSent : UInt64
  packetsReceivedPerQueue : Fin numQueues → UInt64
  packetsSentPerQueue : Fin numQueues → UInt64
  messages : List Bytes
  frames : List (Fin numQueues × Bytes)
  done : List (Fin numQueues × Job)

namespace Replicator

variable {numQueues : Nat}

def init (umem : Fin numQueues → Nat → Frame) : Replicator numQueues where
  destinations := SortedSet.empty
  sockets q := TxSocket.init (umem q)
  closed _ := false
  threads _ := .idle
  packetsReceived := 0
  packetsSent := 0
  bytesReceived := 0
  bytesSent := 0
  packetsReceivedPerQueue _ := 0
  packetsSentPerQueue _ := 0
  messages := []
  frames := []
  done := []

/-! ## Steps -/

/-- `sendToDestinationFallback`, when `sendto` returns `sent`. -/
def sendToDestinationFallback (data : Bytes) (sent : Int) : Bool :=
  if sent < 0 then false else sent = data.length

/-- The end of a `sendSinglePacketDirect` that throws nothing. -/
def directPath (sent : Bool) (data : Bytes) : SendPath :=
  if sent then .submitted else if frameSize < 42 + data.length then .tooLarge else .ringFull

/-- `sendToDestinationWithQueue`: the result, how it came about, and the socket
behind it. A closed socket throws before anything else. -/
def sendToDestinationWithQueue (socket : TxSocket) (closed : Bool) (host : Host) (dest : Destination)
    (data : Bytes) (sent : Int) : Bool × SendPath × TxSocket :=
  if closed then (sendToDestinationFallback data sent, .fallback sent, socket)
  else
    let r := socket.sendSinglePacketDirect host dest data
    (r.1, directPath r.1 data, r.2)

/-- The steps. A control message; a frame arrives at a queue and `replicatePacket`
begins; it sends to the next destination, on a host where the fallback's `sendto`
would return `sent`; the last send is done; the kernel works on the rings of a
queue; a socket is closed. -/
inductive Label (numQueues : Nat) where
  | control (datagram : Bytes)
  | frame (q : Fin numQueues) (packet : Bytes)
  | send (q : Fin numQueues) (host : Host) (sent : Int)
  | finish (q : Fin numQueues)
  | consume (q : Fin numQueues)
  | complete (q : Fin numQueues) (i : Nat)
  | close (q : Fin numQueues)

/-- The statistics of `processPacketsForQueue` for a received frame. -/
def countReceived (s : Replicator numQueues) (q : Fin numQueues) (packet : Bytes) :
    Replicator numQueues :=
  { s with
    packetsReceivedPerQueue :=
      Function.update s.packetsReceivedPerQueue q (s.packetsReceivedPerQueue q + 1)
    packetsReceived := s.packetsReceived + 1
    bytesReceived := s.bytesReceived + UInt64.ofNat packet.length
    frames := s.frames ++ [(q, packet)] }

/-- The loop body of `replicatePacket`. -/
def sendNext (s : Replicator numQueues) (q : Fin numQueues) (job : Job) (dest : Destination)
    (rest : List Destination) (host : Host) (sent : Int) : Replicator numQueues :=
  let (ok, path, socket) :=
    sendToDestinationWithQueue (s.sockets q) (s.closed q) host dest job.payload sent
  -- a failed send is not counted and not repeated
  let job := { job with
    remaining := rest
    sentCount := if ok then job.sentCount + 1 else job.sentCount
    paths := job.paths ++ [path]
    submitted := job.submitted ++ socket.txRing.drop (s.sockets q).txRing.length }
  let s := { s with
    sockets := Function.update s.sockets q socket
    threads := Function.update s.threads q (.replicating job) }
  -- the total counts at once, the counter of the queue when the frame is done
  if ok then
    { s with
      packetsSent := s.packetsSent + 1
      bytesSent := s.bytesSent + UInt64.ofNat job.payload.length }
  else s

/-- One step; `none` when it is not enabled. -/
def step (s : Replicator numQueues) : Label numQueues → Option (Replicator numQueues)
  | .control datagram =>
      match handleControlMessage s.destinations datagram with
      | none => none
      | some (_, destinations) =>
          some { s with destinations := destinations, messages := s.messages ++ [datagram] }
  | .frame q packet =>
      match s.threads q with
      | .idle =>
          -- a frame that is no UDP packet is counted and dropped
          match extractUdpPayload packet with
          | none => none
          | some none => some (s.countReceived q packet)
          | some (some extracted) =>
              -- without destinations the loop below is empty
              some { s.countReceived q packet with
                threads := Function.update s.threads q (.replicating
                  ⟨packet, extracted, s.destinations.elems, s.destinations.elems, 0, s.messages, [],
                    []⟩) }
      | .replicating _ => none
  | .send q host sent =>
      match s.threads q with
      | .idle => none
      | .replicating job =>
          match job.remaining with
          | [] => none
          | dest :: rest => some (s.sendNext q job dest rest host sent)
  | .finish q =>
      match s.threads q with
      | .idle => none
      | .replicating job =>
          if job.remaining = [] then
            some { s with
              threads := Function.update s.threads q .idle
              packetsSentPerQueue := if 0 < job.sentCount then
                  Function.update s.packetsSentPerQueue q
                    (s.packetsSentPerQueue q + UInt64.ofNat job.sentCount)
                else s.packetsSentPerQueue
              done := s.done ++ [(q, job)] }
          else none
  | .consume q => (s.sockets q).consume.map fun socket =>
      { s with sockets := Function.update s.sockets q socket }
  | .complete q i => ((s.sockets q).complete i).map fun socket =>
      { s with sockets := Function.update s.sockets q socket }
  | .close q => some { s with closed := Function.update s.closed q true }

/-! ## What a send does -/

/-- A descriptor that carries a payload to an address. -/
def Carries (payload : Bytes) (p : Pair) (sub : Submitted) : Prop :=
  ∃ packet, packet = sub.frame.bytes.take sub.desc.len.toNat ∧
    (∃ extracted, extractUdpPayload packet = some (some extracted) ∧
      extracted.bytes packet = payload) ∧
    ipDaddr packet = some p.1 ∧ udpDest packet 34 = some (htons p.2)

/-- The counter of the frames is the number of calls. -/
def CounterOk (socket : TxSocket) : Prop := socket.prevUmemTxFrame = UInt32.ofNat socket.calls

theorem carries_createUdpPacket (frame : Frame) (host : Host) (dest : Destination) {data : Bytes}
    (hfits : 42 + data.length ≤ frameSize) (addr : UInt64) (call : Nat) :
    Carries data (dest.sinAddr, dest.port)
      ⟨⟨addr, UInt32.ofNat (42 + data.length)⟩, call, frame.createUdpPacket host dest data⟩ := by
  have hsize : frameSize = 4096 := rfl
  have hlen : (UInt32.ofNat (42 + data.length)).toNat = 42 + data.length :=
    UInt32.toNat_ofNat_of_lt' (by show _ < 2 ^ 32; omega)
  have hheaders := length_packetHeaders host dest data.length
  have hpacket : (packetHeaders host dest data.length ++ data).length = 42 + data.length := by
    rw [List.length_append, hheaders]
  have htake : (frame.createUdpPacket host dest data).bytes.take (42 + data.length) =
      packetHeaders host dest data.length ++ data := by
    show (AfXdp.createUdpPacket host dest data frame.bytes).2.take _ = _
    rw [createUdpPacket_eq host dest (by rw [frame.length_eq]; exact hfits), ← List.append_assoc,
      ← hpacket, List.take_left]
  -- the frame reads back as the payload, for the address and port of the destination
  refine ⟨_, rfl, ?_⟩
  simp only [hlen, htake]
  exact ⟨extractUdpPayload_packet hfits, ipDaddr_packet _ _, udpDest_packet _ _⟩

/-- A send that succeeds puts one descriptor on the ring; any other leaves the
ring as it is. -/
theorem sendSinglePacketDirect_spec {socket : TxSocket} (h : CounterOk socket) (host : Host)
    (dest : Destination) (data : Bytes) :
    CounterOk (socket.sendSinglePacketDirect host dest data).2 ∧
      ((socket.sendSinglePacketDirect host dest data).1 = true ∧
          (∃ sub, (socket.sendSinglePacketDirect host dest data).2.txRing = socket.txRing ++ [sub] ∧
            Carries data (dest.sinAddr, dest.port) sub) ∨
        (socket.sendSinglePacketDirect host dest data).1 = false ∧
          (socket.sendSinglePacketDirect host dest data).2.txRing = socket.txRing) := by
  rcases pollTxCompletions_frame socket with ⟨cached, out, posted, peeked, hpoll⟩
  have hcounter : CounterOk socket.pollTxCompletions := by
    rw [hpoll]
    exact h
  -- too large a packet, a full ring, or one new descriptor
  rcases Nat.lt_or_ge frameSize (42 + data.length) with hlarge | hfits
  · simp only [TxSocket.sendSinglePacketDirect, buildPacket_too_large hcounter host dest hlarge]
    exact ⟨rfl, .inr ⟨trivial, by rw [hpoll]⟩⟩
  · simp only [TxSocket.sendSinglePacketDirect, buildPacket_fits hcounter host dest hfits]
    split
    · exact ⟨rfl, .inr ⟨rfl, by rw [hpoll]⟩⟩
    · refine ⟨rfl, .inl ⟨rfl, _, by rw [hpoll]; rfl, ?_⟩⟩
      -- the descriptor's frame is the one that was just written
      simp only [txAddr_div, Function.update_self]
      exact carries_createUdpPacket _ host dest hfits _ _

theorem sendToDestinationFallback_eq (data : Bytes) (sent : Int) :
    sendToDestinationFallback data sent = (SendPath.fallback sent).succeeded data.length := by
  unfold sendToDestinationFallback
  split
  · -- an error is no length
    symm
    simp only [SendPath.succeeded, decide_eq_false_iff_not]
    omega
  · rfl

theorem succeeded_directPath (sent : Bool) (data : Bytes) :
    (directPath sent data).succeeded data.length = sent := by
  cases sent with
  | true => rfl
  | false =>
    unfold directPath
    split
    · contradiction
    · split <;> rfl

/-- What `sendToDestinationWithQueue` does, whichever way it goes. -/
theorem sendToDestinationWithQueue_spec {socket : TxSocket} (h : CounterOk socket) (closed : Bool)
    (host : Host) (dest : Destination) (data : Bytes) (sent : Int) {ok : Bool} {path : SendPath}
    {socket' : TxSocket}
    (hsend : sendToDestinationWithQueue socket closed host dest data sent = (ok, path, socket')) :
    CounterOk socket' ∧ ok = path.succeeded data.length ∧
      ((∃ sub, socket'.txRing = socket.txRing ++ [sub] ∧
          Carries data (dest.sinAddr, dest.port) sub) ∨
        socket'.txRing = socket.txRing ∧
          (42 + data.length ≤ frameSize → path = .ringFull ∨ ∃ sent, path = .fallback sent)) := by
  unfold sendToDestinationWithQueue at hsend
  split at hsend
  · -- the closed socket throws, and the regular socket sends
    simp only [Prod.mk.injEq] at hsend
    rcases hsend with ⟨rfl, rfl, rfl⟩
    exact ⟨h, sendToDestinationFallback_eq data sent, .inr ⟨rfl, fun _ => .inr ⟨sent, rfl⟩⟩⟩
  · simp only [Prod.mk.injEq] at hsend
    rcases hsend with ⟨rfl, rfl, rfl⟩
    rcases sendSinglePacketDirect_spec h host dest data with ⟨hcounter, ⟨-, hsub⟩ | ⟨hfail, hring⟩⟩
    · exact ⟨hcounter, (succeeded_directPath _ data).symm, .inl hsub⟩
    · refine ⟨hcounter, (succeeded_directPath _ data).symm, .inr ⟨hring, ?_⟩⟩
      intro hfits
      left
      rw [hfail, directPath, if_neg Bool.false_ne_true, if_neg (by omega)]

/-! ## The invariant -/

/-- A frame that is replicated: what it carries, where it goes, how far it is, and
that its successful sends are counted. -/
structure JobOk (messages : List Bytes) (job : Job) : Prop where
  extracted : extractUdpPayload job.packet = some (some job.extracted)
  seen : job.seen <+: messages
  snapshot : ∃ ps : List Pair, job.destinations = ps.map Destination.ofPair ∧ ps.Nodup ∧
    ∀ p, p ∈ ps ↔ p ∈ job.seen.foldl applyMessage ∅
  progress : ∃ sentTo, job.destinations = sentTo ++ job.remaining ∧
    job.paths.length = sentTo.length ∧
    (job.AllReserved → 42 + job.payload.length ≤ frameSize →
      List.Forall₂ (fun dest sub => Carries job.payload (dest.sinAddr, dest.port) sub) sentTo
        job.submitted)
  counted : job.sentCount = job.paths.countP (·.succeeded job.payload.length)

/-- The sends that a thread has not added to the counter of its queue yet. -/
def inProgress : QueueThread → UInt64
  | .idle => 0
  | .replicating job => UInt64.ofNat job.sentCount

/-- The bytes that the frame of a thread has added to the total. -/
def bytesInProgress : QueueThread → UInt64
  | .idle => 0
  | .replicating job => job.bytesSent

/-- The frame of a thread. -/
def frameInProgress : QueueThread → List Bytes
  | .idle => []
  | .replicating job => [job.packet]

/-- The frames of a queue that `extractUdpPayload` accepts, in order. -/
def acceptedFrames (frames : List (Fin numQueues × Bytes)) (q : Fin numQueues) : List Bytes :=
  frames.filterMap fun x =>
    if x.1 = q ∧ extractUdpPayload x.2 ≠ some none then some x.2 else none

/-- The frames of a queue that are done. -/
def doneJobs (done : List (Fin numQueues × Job)) (q : Fin numQueues) : List Job :=
  done.filterMap fun x => if x.1 = q then some x.2 else none

/-- Every counter is what the frames and their sends add up to. -/
structure CountersOk (s : Replicator numQueues) : Prop where
  frames : ∀ q, acceptedFrames s.frames q =
    (doneJobs s.done q).map (·.packet) ++ frameInProgress (s.threads q)
  receivedPerQueue : ∀ q, s.packetsReceivedPerQueue q = UInt64.ofNat (s.frames.countP (·.1 = q))
  receivedTotal : s.packetsReceived = UInt64.ofNat s.frames.length
  received : s.packetsReceived = ∑ q, s.packetsReceivedPerQueue q
  bytesReceived : s.bytesReceived = (s.frames.map fun x => UInt64.ofNat x.2.length).sum
  sentPerQueue : ∀ q, s.packetsSentPerQueue q =
    ((doneJobs s.done q).map fun job => UInt64.ofNat job.sentCount).sum
  sent : s.packetsSent = ∑ q, s.packetsSentPerQueue q + ∑ q, inProgress (s.threads q)
  bytesSent : s.bytesSent =
    (s.done.map fun x => x.2.bytesSent).sum + ∑ q, bytesInProgress (s.threads q)

structure Inv (s : Replicator numQueues) : Prop where
  destinations : Represents s.destinations (s.messages.foldl applyMessage ∅)
  sockets : ∀ q, CounterOk (s.sockets q)
  jobs : ∀ q job, s.threads q = .replicating job → JobOk s.messages job
  done : ∀ x ∈ s.done, JobOk s.messages x.2 ∧ x.2.remaining = []
  counters : CountersOk s

theorem inv_init (umem : Fin numQueues → Nat → Frame) : Inv (init umem) where
  destinations := represents_empty
  sockets _ := rfl
  jobs q job h := by cases h
  done x hx := (List.not_mem_nil hx).elim
  counters := by
    constructor
    · intro q
      rfl
    · intro q
      rfl
    · rfl
    · simp [init]
    · rfl
    · intro q
      rfl
    · simp [init, inProgress]
    · simp [init, bytesInProgress]

theorem JobOk.mono {messages messages' : List Bytes} {job : Job} (h : JobOk messages job)
    (hle : messages <+: messages') : JobOk messages' job :=
  ⟨h.extracted, h.seen.trans hle, h.snapshot, h.progress, h.counted⟩

/-- A sum in which one term has grown. -/
theorem sum_grow {f g : Fin numQueues → UInt64} {q : Fin numQueues} {c : UInt64}
    (hq : g q = f q + c) (hother : ∀ q', q' ≠ q → g q' = f q') : ∑ q', g q' = (∑ q', f q') + c := by
  rw [← Finset.add_sum_erase _ g (Finset.mem_univ q), ← Finset.add_sum_erase _ f (Finset.mem_univ q),
    hq, Finset.sum_congr rfl fun q' hq' => hother q' (Finset.ne_of_mem_erase hq')]
  exact add_right_comm _ _ _

/-- What the threads have in progress, when one of them goes on. -/
theorem sum_thread (measure : QueueThread → UInt64) {threads : Fin numQueues → QueueThread}
    {q : Fin numQueues} {thread : QueueThread} {c : UInt64}
    (hc : measure thread = measure (threads q) + c) :
    ∑ q', measure (Function.update threads q thread q') = (∑ q', measure (threads q')) + c := by
  refine sum_grow (q := q) ?_ ?_
  · rw [Function.update_self, hc]
  · intro q' hne
    rw [Function.update_of_ne hne]

/-- What the threads have in progress, when one of them is done. -/
theorem sum_idle (measure : QueueThread → UInt64) (hidle : measure .idle = 0)
    (threads : Fin numQueues → QueueThread) (q : Fin numQueues) :
    ∑ q', measure (threads q') =
      (∑ q', measure (Function.update threads q .idle q')) + measure (threads q) := by
  refine sum_grow (q := q) ?_ ?_
  · rw [Function.update_self, hidle, zero_add]
  · intro q' hne
    rw [Function.update_of_ne hne]

theorem control_inv {s s' : Replicator numQueues} {datagram : Bytes} (hi : Inv s)
    (h : step s (.control datagram) = some s') : Inv s' := by
  rcases handleControlMessage_represents hi.destinations datagram with
    ⟨response, dests, hhandle, hrep⟩
  simp only [step, hhandle, Option.some.injEq] at h
  subst h
  have hle : s.messages <+: s.messages ++ [datagram] := List.prefix_append _ _
  refine ⟨?_, hi.sockets, ?_, ?_, ?_⟩
  · rw [List.foldl_append]
    exact hrep
  · intro q job hjob
    exact (hi.jobs q job hjob).mono hle
  · intro x hx
    exact ⟨(hi.done x hx).1.mono hle, (hi.done x hx).2⟩
  · -- no counter and no frame is touched
    exact { hi.counters with }

theorem sockets_update {sockets : Fin numQueues → TxSocket} {q : Fin numQueues} {socket : TxSocket}
    (h : ∀ q, CounterOk (sockets q)) (hsocket : CounterOk socket) :
    ∀ q', CounterOk (Function.update sockets q socket q') := by
  intro q'
  by_cases heq : q' = q
  · subst heq
    rwa [Function.update_self]
  · rw [Function.update_of_ne heq]
    exact h q'

/-- One thread goes on with a job that is in order. -/
theorem jobs_update {messages : List Bytes} {threads : Fin numQueues → QueueThread}
    {thread : QueueThread} (h : ∀ q job, threads q = .replicating job → JobOk messages job)
    (hthread : ∀ job, thread = .replicating job → JobOk messages job) (q : Fin numQueues) :
    ∀ q' job, Function.update threads q thread q' = .replicating job → JobOk messages job := by
  intro q' job hjob
  by_cases heq : q' = q
  · subst heq
    rw [Function.update_self] at hjob
    exact hthread job hjob
  · rw [Function.update_of_ne heq] at hjob
    exact h q' job hjob

/-! ### A frame arrives -/

/-- The frames of a queue behind one more frame. -/
theorem acceptedFrames_append (frames : List (Fin numQueues × Bytes)) (q q' : Fin numQueues)
    (packet : Bytes) :
    acceptedFrames (frames ++ [(q, packet)]) q' = acceptedFrames frames q' ++
      if q = q' ∧ extractUdpPayload packet ≠ some none then [packet] else [] := by
  simp only [acceptedFrames, List.filterMap_append, List.filterMap_cons, List.filterMap_nil]
  by_cases hacc : q = q' ∧ extractUdpPayload packet ≠ some none
  · simp only [if_pos hacc]
  · simp only [if_neg hacc]

/-- A received frame counts for its queue and in the totals, whatever the thread makes
of it. -/
theorem countReceived_counters {s : Replicator numQueues} (hc : CountersOk s) {q : Fin numQueues}
    {packet : Bytes} {thread : QueueThread}
    (hframes : ∀ q', acceptedFrames (s.frames ++ [(q, packet)]) q' =
      (doneJobs s.done q').map (·.packet) ++
        frameInProgress (Function.update s.threads q thread q'))
    (hsent : inProgress thread = inProgress (s.threads q))
    (hbytes : bytesInProgress thread = bytesInProgress (s.threads q)) :
    CountersOk { s.countReceived q packet with
      threads := Function.update s.threads q thread } := by
  refine ⟨hframes, ?_, ?_, ?_, ?_, hc.sentPerQueue, ?_, ?_⟩
  · -- the counter of the queue and the two totals grow by the frame
    intro q'
    simp only [countReceived, List.countP_append, List.countP_singleton]
    by_cases heq : q = q'
    · subst heq
      rw [Function.update_self, hc.receivedPerQueue]
      simp [UInt64.ofNat_add]
    · rw [Function.update_of_ne (Ne.symm heq), hc.receivedPerQueue]
      simp [heq]
  · simp only [countReceived, List.length_append, List.length_singleton, hc.receivedTotal,
      UInt64.ofNat_add]
    rfl
  · have hsum := @sum_grow _ s.packetsReceivedPerQueue
      (s.countReceived q packet).packetsReceivedPerQueue q 1 (Function.update_self ..)
      fun q' hne => Function.update_of_ne hne ..
    show s.packetsReceived + 1 = _
    rw [hsum, ← hc.received]
  · simp only [countReceived, List.map_append, List.sum_append, List.map_cons, List.map_nil,
      List.sum_singleton, hc.bytesReceived]
  · -- the thread has sent no more than before, so neither have the sums
    show s.packetsSent = _
    rw [sum_thread inProgress (c := 0) (by rw [hsent, add_zero]), add_zero]
    exact hc.sent
  · show s.bytesSent = _
    rw [sum_thread bytesInProgress (c := 0) (by rw [hbytes, add_zero]), add_zero]
    exact hc.bytesSent

/-- A frame is counted, and the destinations at that moment are its destinations. -/
theorem frame_inv {s s' : Replicator numQueues} {q : Fin numQueues} {packet : Bytes} (hi : Inv s)
    (h : step s (.frame q packet) = some s') : Inv s' := by
  simp only [step] at h
  split at h
  · rename_i hidle
    have hself : Function.update s.threads q .idle = s.threads := by
      rw [← hidle, Function.update_eq_self]
    split at h
    · cases h
    · -- no UDP packet: the thread stays idle
      rename_i hextracted
      cases h
      refine ⟨hi.destinations, hi.sockets, hi.jobs, hi.done, ?_⟩
      have hc : CountersOk { s.countReceived q packet with
          threads := Function.update s.threads q .idle } := by
        refine countReceived_counters hi.counters ?_ (by rw [hidle]) (by rw [hidle])
        intro q'
        rw [acceptedFrames_append, if_neg (by simp [hextracted]), List.append_nil, hself]
        exact hi.counters.frames q'
      rwa [hself] at hc
    · -- the thread begins with the frame
      rename_i extracted hextracted
      cases h
      refine ⟨hi.destinations, hi.sockets, jobs_update hi.jobs ?_ q, hi.done, ?_⟩
      · intro job hjob
        cases hjob
        exact ⟨hextracted, List.prefix_refl _, hi.destinations.exists_list,
          ⟨[], rfl, rfl, fun _ _ => .nil⟩, rfl⟩
      · have hbytes : bytesInProgress (.replicating ⟨packet, extracted, s.destinations.elems,
            s.destinations.elems, 0, s.messages, [], []⟩) = bytesInProgress (s.threads q) := by
          simp [hidle, bytesInProgress, Job.bytesSent]
        refine countReceived_counters hi.counters ?_ (by rw [hidle]; rfl) hbytes
        intro q'
        rw [acceptedFrames_append, hi.counters.frames]
        by_cases heq : q = q'
        · subst heq
          simp [hidle, hextracted, frameInProgress]
        · rw [if_neg fun h => heq h.1, Function.update_of_ne (Ne.symm heq), List.append_nil]
  · cases h

/-! ### A send -/

/-- One more send: its descriptor follows those of the sends before. -/
theorem JobOk.sendNext {messages : List Bytes} {job : Job} {dest : Destination}
    {rest : List Destination} {path : SendPath} {added : List Submitted} {count : Nat}
    (h : JobOk messages job) (hrest : job.remaining = dest :: rest)
    (hcount : count = job.sentCount + (path.succeeded job.payload.length).toNat)
    (hsend : (∃ sub, added = [sub] ∧ Carries job.payload (dest.sinAddr, dest.port) sub) ∨
      (42 + job.payload.length ≤ frameSize → path = .ringFull ∨ ∃ sent, path = .fallback sent)) :
    JobOk messages { job with
      remaining := rest
      sentCount := count
      paths := job.paths ++ [path]
      submitted := job.submitted ++ added } := by
  rcases h.progress with ⟨sentTo, hsplit, hlen, hcarries⟩
  refine ⟨h.extracted, h.seen, h.snapshot, ⟨sentTo ++ [dest], ?_, ?_, ?_⟩, ?_⟩
  · show job.destinations = _
    rw [hsplit, hrest, List.append_assoc]
    rfl
  · rw [List.length_append, List.length_append, hlen]
    rfl
  · intro hreserved hfits
    have hbefore := hcarries (fun p hp => hreserved p (List.mem_append_left _ hp)) hfits
    rcases hreserved path (List.mem_append_right _ (List.mem_singleton_self _)) with ⟨hring, hfall⟩
    rcases hsend with ⟨sub, rfl, hsub⟩ | hfailed
    · exact List.rel_append hbefore (.cons hsub .nil)
    · -- a descriptor is missing only where the reservation failed
      rcases hfailed hfits with heq | ⟨sent, heq⟩
      · exact absurd heq hring
      · exact absurd heq (hfall sent)
  · show count = (job.paths ++ [path]).countP (·.succeeded job.payload.length)
    rw [hcount, h.counted, List.countP_append, List.countP_singleton]
    cases path.succeeded job.payload.length <;> rfl

/-- A thread goes on with its frame, with `c` more sends of its payload. -/
theorem counters_job {s : Replicator numQueues} (hc : CountersOk s) {q : Fin numQueues}
    {job : Job} (hthread : s.threads q = .replicating job) {c : Nat} (job' : Job)
    (hpacket : job'.packet = job.packet) (hcount : job'.sentCount = job.sentCount + c)
    (hpayload : job'.payload = job.payload) (sockets : Fin numQueues → TxSocket) :
    CountersOk { s with
      sockets := sockets
      threads := Function.update s.threads q (.replicating job')
      packetsSent := s.packetsSent + UInt64.ofNat c
      bytesSent := s.bytesSent + UInt64.ofNat (c * job.payload.length) } := by
  refine ⟨?_, hc.receivedPerQueue, hc.receivedTotal, hc.received, hc.bytesReceived,
    hc.sentPerQueue, ?_, ?_⟩
  · -- the job keeps its packet
    intro q'
    show acceptedFrames s.frames q' = (doneJobs s.done q').map (·.packet) ++
      frameInProgress (Function.update s.threads q (.replicating job') q')
    rw [hc.frames q']
    by_cases heq : q' = q
    · subst heq
      rw [Function.update_self, hthread, frameInProgress, frameInProgress, hpacket]
    · rw [Function.update_of_ne heq]
  · -- what the job has sent grows by `c`, and so does the total
    have hmeasure : inProgress (.replicating job') = inProgress (s.threads q) + UInt64.ofNat c := by
      rw [hthread, inProgress, inProgress, hcount, UInt64.ofNat_add]
    show s.packetsSent + UInt64.ofNat c = _
    rw [sum_thread inProgress hmeasure, hc.sent, add_assoc]
  · have hmeasure : bytesInProgress (.replicating job') =
        bytesInProgress (s.threads q) + UInt64.ofNat (c * job.payload.length) := by
      rw [hthread, bytesInProgress, bytesInProgress, Job.bytesSent, Job.bytesSent, hcount, hpayload,
        Nat.add_mul, UInt64.ofNat_add]
    show s.bytesSent + UInt64.ofNat (c * job.payload.length) = _
    rw [sum_thread bytesInProgress hmeasure, hc.bytesSent, add_assoc]

/-- A send counts in the total and in its thread, and one that fails in neither. -/
theorem sendNext_inv {s : Replicator numQueues} {q : Fin numQueues} {job : Job} {dest : Destination}
    {rest : List Destination} (hi : Inv s) (hthread : s.threads q = .replicating job)
    (hrest : job.remaining = dest :: rest) (host : Host) (sent : Int) :
    Inv (s.sendNext q job dest rest host sent) := by
  rcases hsend : sendToDestinationWithQueue (s.sockets q) (s.closed q) host dest job.payload sent with
    ⟨ok, path, socket⟩
  rcases sendToDestinationWithQueue_spec (hi.sockets q) _ _ _ _ _ hsend with
    ⟨hcounter, hok, hring⟩
  have hjob : ∀ count, count = job.sentCount + (path.succeeded job.payload.length).toNat →
      JobOk s.messages { job with
        remaining := rest
        sentCount := count
        paths := job.paths ++ [path]
        submitted := job.submitted ++ socket.txRing.drop (s.sockets q).txRing.length } := by
    intro count hcount
    refine (hi.jobs q job hthread).sendNext hrest hcount ?_
    -- the send is the last descriptor of the ring, or it left none there
    rcases hring with ⟨sub, hsub, hcarries⟩ | ⟨-, hfailed⟩
    · exact .inl ⟨sub, by rw [hsub, List.drop_left], hcarries⟩
    · exact .inr hfailed
  have hjobs := fun count hcount => jobs_update hi.jobs
    (fun j hj => QueueThread.replicating.inj hj ▸ hjob count hcount) q
  rw [← hok] at hjobs
  simp only [Replicator.sendNext, hsend]
  -- only a send that succeeds is counted
  cases ok with
  | true =>
    refine ⟨hi.destinations, sockets_update hi.sockets hcounter, hjobs _ rfl, hi.done, ?_⟩
    have hc := counters_job hi.counters (c := 1) hthread
      { job with
        remaining := rest
        sentCount := job.sentCount + 1
        paths := job.paths ++ [path]
        submitted := job.submitted ++ socket.txRing.drop (s.sockets q).txRing.length }
      rfl rfl rfl (Function.update s.sockets q socket)
    rw [Nat.one_mul] at hc
    exact hc
  | false =>
    refine ⟨hi.destinations, sockets_update hi.sockets hcounter, hjobs _ rfl, hi.done, ?_⟩
    have hc := counters_job hi.counters (c := 0) hthread
      { job with
        remaining := rest
        sentCount := job.sentCount
        paths := job.paths ++ [path]
        submitted := job.submitted ++ socket.txRing.drop (s.sockets q).txRing.length }
      rfl rfl rfl (Function.update s.sockets q socket)
    rw [Nat.zero_mul] at hc
    simpa using hc

/-! ### The last send is done -/

theorem doneJobs_append (done : List (Fin numQueues × Job)) (q q' : Fin numQueues) (job : Job) :
    doneJobs (done ++ [(q, job)]) q' = doneJobs done q' ++ if q = q' then [job] else [] := by
  simp only [doneJobs, List.filterMap_append, List.filterMap_cons, List.filterMap_nil]
  by_cases heq : q = q'
  · simp only [if_pos heq]
  · simp only [if_neg heq]

/-- What was sent for the frame moves to the counter of the queue. -/
theorem finish_inv {s s' : Replicator numQueues} {q : Fin numQueues} (hi : Inv s)
    (h : step s (.finish q) = some s') : Inv s' := by
  simp only [step] at h
  split at h
  · cases h
  · rename_i job hthread
    split at h
    · rename_i hrest
      rw [Option.some.injEq] at h
      subst h
      have hc := hi.counters
      -- a `sent_count` of zero is not added, which makes no difference
      have hqueue : (if 0 < job.sentCount then Function.update s.packetsSentPerQueue q
          (s.packetsSentPerQueue q + UInt64.ofNat job.sentCount) else s.packetsSentPerQueue) =
          Function.update s.packetsSentPerQueue q
            (s.packetsSentPerQueue q + UInt64.ofNat job.sentCount) := by
        split
        · rfl
        · rename_i hzero
          rw [Nat.eq_zero_of_not_pos hzero]
          exact (Function.update_eq_self_iff.mpr (add_zero _)).symm
      rw [hqueue]
      refine ⟨hi.destinations, hi.sockets, ?_, ?_, ⟨?_, hc.receivedPerQueue, hc.receivedTotal,
        hc.received, hc.bytesReceived, ?_, ?_, ?_⟩⟩
      · exact jobs_update hi.jobs (fun _ hidle => by cases hidle) q
      · intro x hx
        rcases List.mem_append.mp hx with hx | hx
        · exact hi.done x hx
        · rw [List.mem_singleton.mp hx]
          exact ⟨hi.jobs q job hthread, hrest⟩
      · intro q'
        show acceptedFrames s.frames q' = (doneJobs (s.done ++ [(q, job)]) q').map _ ++
          frameInProgress (Function.update s.threads q .idle q')
        rw [hc.frames q', doneJobs_append]
        by_cases heq : q = q'
        · subst heq
          simp [hthread, frameInProgress]
        · rw [if_neg heq, Function.update_of_ne (Ne.symm heq), List.append_nil]
      · intro q'
        show Function.update _ q _ q' = ((doneJobs (s.done ++ [(q, job)]) q').map _).sum
        rw [doneJobs_append]
        by_cases heq : q = q'
        · subst heq
          simp only [Function.update_self, if_true, List.map_append, List.sum_append, List.map_cons,
            List.map_nil, List.sum_singleton, hc.sentPerQueue]
        · simp only [Function.update_of_ne (Ne.symm heq), if_neg heq, List.append_nil,
            hc.sentPerQueue]
      · show s.packetsSent = _
        rw [hc.sent, sum_idle inProgress rfl s.threads q, hthread]
        rw [sum_grow (f := s.packetsSentPerQueue) (q := q) (c := UInt64.ofNat job.sentCount)
          (Function.update_self ..) fun q' hne => Function.update_of_ne hne ..]
        show _ + (_ + UInt64.ofNat job.sentCount) = _
        ac_rfl
      · show s.bytesSent = _
        rw [hc.bytesSent, sum_idle bytesInProgress rfl s.threads q, hthread]
        simp only [List.map_append, List.sum_append, List.map_cons, List.map_nil,
          List.sum_singleton, bytesInProgress]
        ac_rfl
    · cases h

/-! ### The other steps -/

/-- The kernel works on the rings of one queue. -/
theorem Inv.of_socket {s : Replicator numQueues} {q : Fin numQueues} {socket : TxSocket} (hi : Inv s)
    (hprev : socket.prevUmemTxFrame = (s.sockets q).prevUmemTxFrame)
    (hcalls : socket.calls = (s.sockets q).calls) :
    Inv { s with sockets := Function.update s.sockets q socket } := by
  refine ⟨hi.destinations, ?_, hi.jobs, hi.done, { hi.counters with }⟩
  exact sockets_update hi.sockets (by rw [CounterOk, hprev, hcalls]; exact hi.sockets q)

theorem step_inv {s s' : Replicator numQueues} {l : Label numQueues} (hi : Inv s)
    (h : step s l = some s') : Inv s' := by
  cases l with
  | control datagram => exact control_inv hi h
  | frame q packet => exact frame_inv hi h
  | send q host sent =>
    simp only [step] at h
    split at h
    · cases h
    · rename_i job hthread
      split at h
      · cases h
      · rename_i dest rest hrest
        cases h
        exact sendNext_inv hi hthread hrest host sent
  | finish q => exact finish_inv hi h
  | consume q =>
    rcases Option.map_eq_some_iff.mp h with ⟨socket, hsocket, rfl⟩
    rcases consume_frame hsocket with ⟨-, hprev, hcalls, -⟩
    exact hi.of_socket hprev hcalls
  | complete q i =>
    rcases Option.map_eq_some_iff.mp h with ⟨socket, hsocket, rfl⟩
    rcases complete_frame hsocket with ⟨-, hprev, hcalls, -⟩
    exact hi.of_socket hprev hcalls
  | close q =>
    -- closing a socket changes no counter
    cases h
    exact { hi with counters := { hi.counters with } }

/-! ## Fan-out and counters -/

/-- What holds of the replicator at any time. The frames of a queue that carry a
payload are those that are done and the one in progress; a frame that is done was
sent to each destination once, and its `sent_count` is the number of sends that
succeeded. -/
structure Accounted (s : Replicator numQueues) : Prop where
  destinations : Represents s.destinations (s.messages.foldl applyMessage ∅)
  acceptsMessage : ∀ datagram, ∃ s', step s (.control datagram) = some s'
  acceptsFrame : ∀ q packet, s.threads q = .idle → ∃ s', step s (.frame q packet) = some s'
  replicated : ∀ q, acceptedFrames s.frames q =
    (doneJobs s.done q).map (·.packet) ++ frameInProgress (s.threads q)
  fanOut : ∀ q job, (q, job) ∈ s.done → job.AllReserved → 42 + job.payload.length ≤ frameSize →
    extractUdpPayload job.packet = some (some job.extracted) ∧ job.seen <+: s.messages ∧
      ∃ ps : List Pair, ps.Nodup ∧ (∀ p, p ∈ ps ↔ p ∈ job.seen.foldl applyMessage ∅) ∧
        List.Forall₂ (Carries job.payload) ps job.submitted
  counted : ∀ q job, (q, job) ∈ s.done ∨ s.threads q = .replicating job →
    job.paths.length + job.remaining.length = job.destinations.length ∧
      job.sentCount = job.paths.countP (·.succeeded job.payload.length)
  sentPerQueue : ∀ q, s.packetsSentPerQueue q =
    ((doneJobs s.done q).map fun job => UInt64.ofNat job.sentCount).sum
  sent : s.packetsSent = ∑ q, (s.packetsSentPerQueue q + inProgress (s.threads q))
  sentIdle : (∀ q, s.threads q = .idle) → s.packetsSent = ∑ q, s.packetsSentPerQueue q
  receivedPerQueue : ∀ q, s.packetsReceivedPerQueue q = UInt64.ofNat (s.frames.countP (·.1 = q))
  receivedTotal : s.packetsReceived = UInt64.ofNat s.frames.length
  received : s.packetsReceived = ∑ q, s.packetsReceivedPerQueue q
  bytesReceived : s.bytesReceived = (s.frames.map fun x => UInt64.ofNat x.2.length).sum
  bytesSent : s.bytesSent =
    (s.done.map fun x => x.2.bytesSent).sum + ∑ q, bytesInProgress (s.threads q)

/-- The descriptors of a frame that is done, one for each destination. -/
theorem JobOk.fanOut {messages : List Bytes} {job : Job} (h : JobOk messages job)
    (hdone : job.remaining = []) (hreserved : job.AllReserved)
    (hfits : 42 + job.payload.length ≤ frameSize) :
    ∃ ps : List Pair, ps.Nodup ∧ (∀ p, p ∈ ps ↔ p ∈ job.seen.foldl applyMessage ∅) ∧
      List.Forall₂ (Carries job.payload) ps job.submitted := by
  rcases h.snapshot with ⟨ps, hps, hnodup, hmem⟩
  rcases h.progress with ⟨sentTo, hsplit, -, hcarries⟩
  refine ⟨ps, hnodup, hmem, ?_⟩
  have hall : sentTo = ps.map Destination.ofPair := by
    rw [← hps, hsplit, hdone, List.append_nil]
  have hforall := hcarries hreserved hfits
  rw [hall, List.forall₂_map_left_iff] at hforall
  exact hforall

/-- Every destination is one that was sent to or one that is left. -/
theorem JobOk.tried {messages : List Bytes} {job : Job} (h : JobOk messages job) :
    job.paths.length + job.remaining.length = job.destinations.length := by
  rcases h.progress with ⟨sentTo, hsplit, hlen, -⟩
  rw [hsplit, List.length_append, hlen]

theorem Inv.accounted {s : Replicator numQueues} (hi : Inv s) : Accounted s where
  destinations := hi.destinations
  acceptsMessage datagram := by
    rcases handleControlMessage_represents hi.destinations datagram with ⟨response, dests, h, -⟩
    simp only [step, h]
    exact ⟨_, rfl⟩
  acceptsFrame q packet hidle := by
    rcases extractUdpPayload_total packet with ⟨_ | extracted, h⟩
    · simp only [step, hidle, h]
      exact ⟨_, rfl⟩
    · simp only [step, hidle, h]
      exact ⟨_, rfl⟩
  fanOut q job hjob hreserved hfits := by
    rcases hi.done _ hjob with ⟨hok, hdone⟩
    exact ⟨hok.extracted, hok.seen, hok.fanOut hdone hreserved hfits⟩
  replicated := hi.counters.frames
  counted q job hjob := by
    rcases hjob with hdone | hthread
    · exact ⟨(hi.done _ hdone).1.tried, (hi.done _ hdone).1.counted⟩
    · exact ⟨(hi.jobs q job hthread).tried, (hi.jobs q job hthread).counted⟩
  sentPerQueue := hi.counters.sentPerQueue
  sent := by
    rw [hi.counters.sent, Finset.sum_add_distrib]
  sentIdle hidle := by
    have hzero : ∑ q, inProgress (s.threads q) = 0 := by
      apply Finset.sum_eq_zero
      intro q _
      rw [hidle q]
      rfl
    rw [hi.counters.sent, hzero, add_zero]
  receivedPerQueue := hi.counters.receivedPerQueue
  receivedTotal := hi.counters.receivedTotal
  received := hi.counters.received
  bytesReceived := hi.counters.bytesReceived
  bytesSent := hi.counters.bytesSent

/-- 10.0.0.3:9000 and 10.0.0.2:9000 are added, and a frame arrives. -/
def sampleRun : List (Label 1) :=
  [.control [1, 10, 0, 0, 3, 0x23, 0x28], .control [1, 10, 0, 0, 2, 0x23, 0x28], .control [2, 7],
    .frame 0 sampleFrame, .send 0 sampleHost 0, .consume 0, .send 0 sampleHost 0, .finish 0]

end Replicator

end TradingLatency.AfXdp
