import TradingLatency.Server.Requests

/-!
# The rows of several clients

The CSV documentation says that source address, source port and sequence number
identify a packet. The rows of the round-trip server are made of two parts: the
request, or the message of the error queue, and the correlation arrays, which
all clients share and which are indexed by the sequence number modulo 50000.

`newest` is the packet whose data an index of the arrays holds. A row describes
one packet as long as this packet belongs to the request
(`rows_describe_packets`); otherwise it mixes two packets (`rows_mixed`).

The reception and the store of a packet are one step here.
-/

namespace TradingLatency.Server

/-! ## Rows and packets -/

/-- What identifies a packet. -/
def Packet.ident (p : Packet) : IpText × UInt16 × UInt32 := (p.srcIp, p.srcPort, p.seqNum)

/-- What identifies the packet of a row. -/
def rowIdent (row : CsvEntry) : IpText × UInt16 × UInt32 := (row.srcIp, row.srcPort, row.seqNum)

/-- A row of the main CSV describes the packet: identification and RX timestamps. -/
def DescribesMain (row : CsvEntry) (p : Packet) : Prop :=
  rowIdent row = p.ident ∧ row.timestampNs 7 = p.hwRxTs.ns ∧ row.timestampNs 8 = p.kerRxTs.ns ∧
    row.timestampNs 9 = p.appRxTs.ns

/-- A row of the TX CSV describes the packet. -/
def DescribesTx (row : CsvEntry) (p : Packet) : Prop := rowIdent row = p.ident

instance (row : CsvEntry) (p : Packet) : Decidable (DescribesMain row p) :=
  inferInstanceAs (Decidable (_ ∧ _ ∧ _ ∧ _))

/-- A row is about one received packet, which its identification finds where
the clients do not repeat their numbers. -/
def AboutOnePacket (ps : List Packet) (describes : CsvEntry → Packet → Prop) (row : CsvEntry) :
    Prop :=
  ∃ k p, ps[k]? = some p ∧ describes row p ∧
    ((ps.map Packet.ident).Nodup →
      ∀ (j : Nat) (q : Packet), ps[j]? = some q → q.ident = rowIdent row → j = k)

/-- Every row of both files is about one packet. -/
structure RowsDescribe (s : State) : Prop where
  main : ∀ row ∈ s.mainRows, AboutOnePacket s.received DescribesMain row.2
  tx : ∀ row ∈ s.txRows, AboutOnePacket s.received DescribesTx row

theorem aboutOnePacket_of_mem {ps : List Packet} {describes : CsvEntry → Packet → Prop}
    {row : CsvEntry} {p : Packet} (hp : p ∈ ps) (hd : describes row p)
    (hident : rowIdent row = p.ident) : AboutOnePacket ps describes row := by
  obtain ⟨k, hk⟩ := List.getElem?_of_mem hp
  refine ⟨k, p, hk, hd, ?_⟩
  intro hnd j q hj hq
  have hjk : (ps.map Packet.ident)[j]? = (ps.map Packet.ident)[k]? := by
    rw [List.getElem?_map, List.getElem?_map, hj, hk, Option.map_some, Option.map_some, hq, hident]
  have hlt : j < (ps.map Packet.ident).length := by
    rw [List.length_map]
    exact (List.getElem?_eq_some_iff.mp hj).1
  exact (List.getElem?_inj hlt hnd).mp hjk

theorem AboutOnePacket.append {ps : List Packet} {describes : CsvEntry → Packet → Prop}
    {row : CsvEntry} (hident : ∀ p, describes row p → rowIdent row = p.ident)
    (h : AboutOnePacket ps describes row) (q : Packet) :
    AboutOnePacket (ps ++ [q]) describes row := by
  obtain ⟨k, p, hk, hd, -⟩ := h
  exact aboutOnePacket_of_mem (List.mem_append_left _ (List.mem_of_getElem? hk)) hd (hident p hd)

/-! ## The correlation arrays -/

/-- The last received packet with a circular index. -/
def newest (ps : List Packet) (i : UInt32) : Option Packet :=
  (ps.filter fun p => getCircularIndex p.seqNum = i).getLast?

theorem newest_append (ps : List Packet) (p : Packet) (i : UInt32) :
    newest (ps ++ [p]) i = if getCircularIndex p.seqNum = i then some p else newest ps i := by
  unfold newest
  rw [List.filter_append]
  by_cases hp : getCircularIndex p.seqNum = i
  · rw [if_pos hp, List.filter_cons_of_pos (by simpa using hp), List.filter_nil,
      List.getLast?_concat]
  · rw [if_neg hp, List.filter_cons_of_neg (by simpa using hp), List.filter_nil, List.append_nil]

theorem mem_of_newest {ps : List Packet} {i : UInt32} {p : Packet} (h : newest ps i = some p) :
    p ∈ ps :=
  (List.mem_filter.mp (List.mem_of_getLast? h)).1

/-- The steps, with the reception and the store of a packet in one. -/
def atomicStep (s : State) : Label → Option State
  | .receive p => (step s (.receive p)).bind (step · .store)
  | .store => none
  | l => step s l

/-- The arrays still belong to the request whose row is next: the newest packet
with its circular index has its sequence number and port. -/
def RequestFits (ps : List Packet) : TxThread → Prop
  | .logging r _ _ => ∃ q ∈ newest ps (getCircularIndex r.seqNum),
      q.seqNum = r.seqNum ∧ q.srcPort = r.originalClientSrcPort
  | _ => True

/-- The condition on a step that makes a row. For a message of the error queue it
is enough that the newest packet comes from a client that sent its number. -/
def SlotFits (s : State) : Label → Prop
  | .logRow => RequestFits s.received s.tx
  | .txTimestamp msg => ∃ q ∈ newest s.received (getCircularIndex msg.read.1),
      ∃ p ∈ s.received, p.ident = (q.srcIp, q.srcPort, msg.read.1)
  | _ => True

/-! ## Rows that fit -/

/-- Between the steps: the arrays hold the newest packets, and all rows so far
are about one packet. -/
structure RowsInv (s : State) : Prop where
  slots : ∀ i q, newest s.received i = some q → s.slots i = q.slot
  rows : RowsDescribe s

theorem rowsInv_init (stats : StatsCollector) (requests : UInt32 → ReturnPacketRequest) :
    RowsInv (State.init stats requests) where
  slots := by
    intro i q hq
    exact absurd (mem_of_newest hq) List.not_mem_nil
  rows := ⟨fun _ h => absurd h List.not_mem_nil, fun _ h => absurd h List.not_mem_nil⟩

/-- A packet is received and stored. -/
theorem receive_rowsInv {s s' : State} {p : Packet} (h : RowsInv s)
    (hl : atomicStep s (.receive p) = some s') : RowsInv s' := by
  obtain ⟨t, ht, hst⟩ := Option.bind_eq_some_iff.mp hl
  obtain ⟨-, rfl⟩ := step_receive ht
  obtain ⟨q, hq, rfl⟩ := step_store hst
  obtain rfl : p = q := Receiver.received.inj hq
  constructor
  · intro i q hnew
    change newest (s.received ++ [p]) i = some q at hnew
    rw [newest_append] at hnew
    show Function.update s.slots (getCircularIndex p.seqNum) p.slot i = q.slot
    -- the packet overwrites the slot of its index, and no other
    by_cases hi : getCircularIndex p.seqNum = i
    · rw [if_pos hi] at hnew
      rw [← hi, Function.update_self, Option.some.inj hnew]
    · rw [if_neg hi] at hnew
      rw [Function.update_of_ne (Ne.symm hi)]
      exact h.slots i q hnew
  · constructor
    · exact fun row hrow => (h.rows.main row hrow).append (fun _ hd => hd.1) p
    · exact fun row hrow => (h.rows.tx row hrow).append (fun _ hd => hd) p

/-- A row of the main CSV that fits. -/
theorem logRow_rowsInv {s s' : State} (h : RowsInv s) (hcond : SlotFits s .logRow)
    (hl : step s .logRow = some s') : RowsInv s' := by
  obtain ⟨r, t, rest, htx, rfl⟩ := step_logRow hl
  simp only [SlotFits, RequestFits, htx] at hcond
  obtain ⟨q, hq, hseq, hport⟩ := hcond
  have hslot := h.slots _ q hq
  -- the row names the newest packet of the slot
  have hident : rowIdent (mainRow s r t) = q.ident := by
    show (IpText.ofText (s.slots (getCircularIndex r.seqNum)).clientIp.text,
      r.originalClientSrcPort, r.seqNum) = _
    rw [hslot, IpText.ofText_text, ← hseq, ← hport]
    rfl
  refine ⟨h.slots, ?_, h.rows.tx⟩
  intro row hrow
  -- rows that were logged before stay about their packets
  rcases List.mem_append.mp hrow with hrow | hrow
  · exact h.rows.main row hrow
  · rw [List.mem_singleton.mp hrow]
    refine aboutOnePacket_of_mem (mem_of_newest hq) ⟨hident, ?_⟩ hident
    show (s.slots (getCircularIndex r.seqNum)).hwRxTs.ns = _ ∧
      (s.slots (getCircularIndex r.seqNum)).kerRxTs.ns = _ ∧
      (s.slots (getCircularIndex r.seqNum)).appRxTs.ns = _
    rw [hslot]
    exact ⟨rfl, rfl, rfl⟩

/-- A row of the TX CSV that fits. -/
theorem txTimestamp_rowsInv {s s' : State} {msg : TxMessage} (h : RowsInv s)
    (hcond : SlotFits s (.txTimestamp msg)) (hl : step s (.txTimestamp msg) = some s') :
    RowsInv s' := by
  simp only [step, Option.some.injEq] at hl
  subst hl
  obtain ⟨q, hq, p, hp, hident⟩ := hcond
  have hslot := h.slots _ q hq
  -- address and port come from the slot, the number from the message
  have hrow : rowIdent (txRow s msg) = p.ident := by
    show (IpText.ofText (s.slots (getCircularIndex msg.read.1)).clientIp.text,
      (s.slots (getCircularIndex msg.read.1)).clientPort, msg.read.1) = _
    rw [hslot, IpText.ofText_text, hident]
    rfl
  refine ⟨h.slots, h.rows.main, ?_⟩
  intro row hmem
  rcases List.mem_append.mp hmem with hmem | hmem
  · exact h.rows.tx row hmem
  · rw [List.mem_singleton.mp hmem]
    exact aboutOnePacket_of_mem hp hrow hrow

/-- Every step that fits keeps the rows about one packet each. -/
theorem step_rowsInv {s s' : State} {l : Label} (h : RowsInv s) (hcond : SlotFits s l)
    (hl : atomicStep s l = some s') : RowsInv s' := by
  cases l with
  | receive p => exact receive_rowsInv h hl
  | store => simp [atomicStep] at hl
  | createStats =>
    obtain ⟨p, -, rfl⟩ := step_createStats hl
    exact ⟨h.slots, h.rows.main, h.rows.tx⟩
  | updateRx =>
    obtain ⟨p, -, rfl⟩ := step_updateRx hl
    exact ⟨h.slots, h.rows.main, h.rows.tx⟩
  | readDepth =>
    obtain ⟨-, rfl⟩ := step_readDepth hl
    exact ⟨h.slots, h.rows.main, h.rows.tx⟩
  | dequeue =>
    obtain ⟨_, _, -, ⟨-, rfl⟩ | ⟨_, _, -, rfl⟩⟩ := step_dequeue hl
    · exact ⟨h.slots, h.rows.main, h.rows.tx⟩
    · exact ⟨h.slots, h.rows.main, h.rows.tx⟩
  | sendmmsg clock result =>
    obtain ⟨_, -, ⟨_, -, -, rfl⟩ | ⟨-, rfl⟩ | ⟨-, rfl⟩⟩ := step_sendmmsg hl
    · exact ⟨h.slots, h.rows.main, h.rows.tx⟩
    · exact ⟨h.slots, h.rows.main, h.rows.tx⟩
    · exact ⟨h.slots, h.rows.main, h.rows.tx⟩
  | updateAppTx =>
    obtain ⟨_, _, _, -, rfl⟩ := step_updateAppTx hl
    exact ⟨h.slots, h.rows.main, h.rows.tx⟩
  | logRow => exact logRow_rowsInv h hcond hl
  | sendto result =>
    -- the loop that sends one by one touches neither arrays nor rows
    have hframe : ∀ (t : State) rest n, RowsInv t → RowsInv (afterFallback t rest n) := by
      intro t rest n ht
      obtain ⟨tx, sent, heq⟩ := afterFallback_eq t rest n
      rw [heq]
      exact ⟨ht.slots, ht.rows.main, ht.rows.tx⟩
    obtain ⟨_, _, _, -, ⟨_, -, -, rfl⟩ | ⟨-, rfl⟩ | ⟨-, rfl⟩⟩ := step_sendto hl
    · exact hframe _ _ _ ⟨h.slots, h.rows.main, h.rows.tx⟩
    · exact hframe _ _ _ h
    · exact hframe _ _ _ ⟨h.slots, h.rows.main, h.rows.tx⟩
  | txTimestamp msg => exact txTimestamp_rowsInv h hcond hl
  | stop =>
    simp only [atomicStep, step, Option.some.injEq] at hl
    subst hl
    exact ⟨h.slots, h.rows.main, h.rows.tx⟩
  | exit =>
    obtain ⟨-, rfl⟩ := step_exit hl
    exact ⟨h.slots, h.rows.main, h.rows.tx⟩

/-- In every run whose rows are made while the arrays still belong to them,
every row of both files is about one received packet. -/
theorem rows_describe_packets {stats : StatsCollector}
    {requests : UInt32 → ReturnPacketRequest} {ls : List Label} {s : State}
    (hmeets : Run.Meets atomicStep SlotFits (State.init stats requests) ls)
    (hrun : Run.exec atomicStep (State.init stats requests) ls = some s) : RowsDescribe s :=
  (Run.invariant_of_meets (fun _ _ _ h hcond hl => step_rowsInv h hcond hl)
    (rowsInv_init stats requests) hmeets hrun).rows

/-! ## Two clients -/

instance decidableExistsMemOption {α : Type} (o : Option α) (P : α → Prop) [DecidablePred P] :
    Decidable (∃ a ∈ o, P a) :=
  match o with
  | none => .isFalse (by simp)
  | some a => decidable_of_iff (P a) (by simp)

instance (ps : List Packet) : (tx : TxThread) → Decidable (RequestFits ps tx)
  | .logging _ _ _ => inferInstanceAs (Decidable (∃ q ∈ newest ps _, _))
  | .top | .dequeuing _ _ | .sending _ | .correlating _ | .fallback _ _ | .done => .isTrue trivial

instance (s : State) : (l : Label) → Decidable (SlotFits s l)
  | .logRow => inferInstanceAs (Decidable (RequestFits s.received s.tx))
  | .txTimestamp _ => inferInstanceAs (Decidable (∃ q ∈ newest s.received _, _))
  | .receive _ | .store | .createStats | .updateRx | .readDepth | .dequeue | .sendmmsg _ _
  | .updateAppTx | .sendto _ | .stop | .exit => .isTrue trivial

/-- A packet is received, with its statistics. -/
def receiveAtomic (p : Packet) : List Label := [.receive p, .createStats, .updateRx]

/-- Two requests are returned in one batch, and the row of the first is logged. -/
def returnTwo : List Label :=
  [.readDepth, .dequeue, .dequeue, .sendmmsg (fun _ => ⟨2, 0⟩) (.sent 2), .updateAppTx, .logRow]

/-- The kernel TX timestamp of a return packet with sequence number zero. -/
def sampleMessage : TxMessage where
  packetData := List.replicate 46 0
  cmsgs := [.recverr 0, .timestamping ⟨2, 500⟩]
  length_le := by decide

/-- One client sends two packets, which have indices of their own. -/
theorem rows_describe_one_client :
    ∃ s, Run.exec atomicStep sampleState
        (receiveAtomic (samplePacket 0 "10.0.0.1" 40000) ++
          receiveAtomic (samplePacket 1 "10.0.0.1" 40000) ++ returnTwo ++
          [.txTimestamp sampleMessage]) = some s ∧
      s.mainRows.length = 1 ∧ s.txRows.length = 1 ∧ RowsDescribe s := by
  have hmeets : Run.Meets atomicStep SlotFits sampleState
      (receiveAtomic (samplePacket 0 "10.0.0.1" 40000) ++
        receiveAtomic (samplePacket 1 "10.0.0.1" 40000) ++ returnTwo ++
        [.txTimestamp sampleMessage]) := by
    decide +kernel
  exact ⟨_, rfl, rfl, rfl, rows_describe_packets hmeets rfl⟩

/-- Two clients send their first packets. The second one takes the index of the
first before the row of the first is made, which then has the address of the one
client and the port of the other. -/
theorem rows_mixed :
    ∃ s, Run.exec atomicStep sampleState
        (receiveAtomic (samplePacket 0 "10.0.0.1" 40000) ++
          receiveAtomic (samplePacket 0 "10.0.0.2" 40001) ++ returnTwo) = some s ∧
      ¬ RowsDescribe s := by
  refine ⟨_, rfl, ?_⟩
  intro h
  obtain ⟨k, p, hk, hd, -⟩ := h.main _ (List.mem_singleton_self _)
  have hnone : ∀ p ∈ [samplePacket 0 "10.0.0.1" 40000, samplePacket 0 "10.0.0.2" 40001],
      rowIdent ⟨0, fun _ => 0, IpText.ofText "10.0.0.2".toList, 40000, .serverMainRoundtrip⟩ ≠
        p.ident := by
    decide
  exact hnone p (List.mem_of_getElem? hk) hd.1

end TradingLatency.Server
