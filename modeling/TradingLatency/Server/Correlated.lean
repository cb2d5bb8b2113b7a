import TradingLatency.Server.Rows

/-!
# Correlation of received and returned packets

The receive loop publishes the request of a packet before it stores what the TX
thread is going to look up for it: the correlation arrays for the row, and the
statistics entry for the application TX timestamp.

`correlation_correct` assumes that the packets in flight have sequence numbers
that differ modulo 50000, and says that rows and statistics are right in every
run in which the TX thread looks a packet up after the receive loop has stored
it. A run in which the TX thread is faster is `correlation_lost`.
-/

namespace TradingLatency.Server

open Ring

/-! ## Statement -/

/-- The packets that the receive loop has stored in the correlation arrays. -/
def State.storedCount (s : State) : Nat :=
  match s.receiver with
  | .received _ => s.received.length - 1
  | _ => s.received.length

/-- The packets whose statistics entry has been created. -/
def State.createdCount (s : State) : Nat :=
  match s.receiver with
  | .received _ | .stored _ => s.received.length - 1
  | _ => s.received.length

/-- The requests in flight: queued, or not yet done with by the TX thread. -/
def State.inFlight (s : State) : List ReturnPacketRequest := s.tx.pending ++ s.queue.items

/-- Rows and statistics belong to the packets: the row that was made for a packet
has its data, and the entry that was created for a packet, while it is in the
ring, has the TX timestamp of its return. -/
structure CorrelationCorrect (s : State) : Prop where
  rows : ∀ row ∈ s.mainRows, ∃ p, s.received[row.1]? = some p ∧ DescribesMain row.2 p
  stats : ∀ kt ∈ s.appTx, ∃ p, s.received[kt.1]? = some p ∧
    ∀ e, entryOf s.stats s.createdCount kt.1 = some e → e.seqNum = p.seqNum ∧ e.timestampNs 10 = kt.2

/-- Sequence numbers in flight differ modulo 50000. -/
def DistinctInFlight (s : State) : Label → Prop
  | .receive p => ∀ r ∈ s.inFlight, getCircularIndex r.seqNum ≠ getCircularIndex p.seqNum
  | _ => True

/-- The entry that the TX thread is about to update has been created. -/
def EntryReady (created : Nat) : TxThread → Prop
  | .correlating ((r, _) :: _) => r.packet < created
  | _ => True

/-- The packet whose row the TX thread is about to make has been stored. -/
def StoreReady (stored : Nat) : TxThread → Prop
  | .logging r _ _ => r.packet < stored
  | _ => True

/-- The TX thread comes late enough for what it looks up. -/
def LookupReady (s : State) : Label → Prop
  | .updateAppTx => EntryReady s.createdCount s.tx
  | .logRow => StoreReady s.storedCount s.tx
  | _ => True

/-! ## Packets in flight -/

section InFlight

variable {s s' : State} {r : ReturnPacketRequest} (hr : r ∈ s'.inFlight)
include hr

theorem inFlight_congr (htx : s'.tx.pending = s.tx.pending)
    (hq : s'.queue.items = s.queue.items) : r ∈ s.inFlight := by
  unfold State.inFlight at hr ⊢
  rwa [htx, hq] at hr

/-- The TX thread gives up requests from the front of what is pending. -/
theorem inFlight_of_sublist (ps : List ReturnPacketRequest) (hps : s'.tx.pending.Sublist ps)
    (hpending : s.tx.pending = ps) (hq : s'.queue = s.queue) : r ∈ s.inFlight := by
  unfold State.inFlight at hr ⊢
  rw [hq] at hr
  rw [hpending]
  exact (hps.append (List.Sublist.refl _)).subset hr

theorem inFlight_receive {p : Packet} (hinv : Inv s) (h : step s (.receive p) = some s') :
    r ∈ s.inFlight ∨ r = p.request s.received.length := by
  obtain ⟨-, rfl⟩ := step_receive h
  obtain ⟨-, hitems⟩ := enqueuePacket_items hinv p
  change r ∈ s.tx.pending ++ (enqueuePacket s p).items at hr
  rcases hitems with hitems | hitems
  · rw [hitems] at hr
    exact Or.inl hr
  · rw [hitems, ← List.append_assoc] at hr
    rcases List.mem_append.mp hr with hr | hr
    · exact Or.inl hr
    · exact Or.inr (List.mem_singleton.mp hr)

theorem inFlight_dequeue (hinv : Inv s) (h : step s .dequeue = some s') : r ∈ s.inFlight := by
  obtain ⟨target, batch, htx, ⟨-, rfl⟩ | ⟨r', queue, hdeq, rfl⟩⟩ := step_dequeue h
  · refine inFlight_congr hr ?_ rfl
    show (afterDequeue batch).pending = _
    rw [pending_afterDequeue, htx]
    rfl
  · obtain ⟨-, hitems⟩ := dequeue_items hinv.queue hdeq
    unfold State.inFlight at hr ⊢
    rw [htx, hitems]
    change r ∈ TxThread.pending _ ++ queue.items at hr
    rwa [pending_growing, List.append_assoc] at hr

theorem inFlight_sendmmsg {clock : Nat → Timespec} {result : SendResult}
    (h : step s (.sendmmsg clock result) = some s') : r ∈ s.inFlight := by
  obtain ⟨batch, htx, ⟨n, -, -, rfl⟩ | ⟨-, rfl⟩ | ⟨-, rfl⟩⟩ := step_sendmmsg h
  · refine inFlight_of_sublist hr batch ?_ (by rw [htx]; rfl) rfl
    show (afterCorrelate _).pending.Sublist batch
    rw [pending_afterCorrelate, map_fst_sentRequests]
    exact List.take_sublist n batch
  · exact inFlight_of_sublist hr batch (List.nil_sublist _) (by rw [htx]; rfl) rfl
  · exact inFlight_congr hr (by rw [htx]; rfl) rfl

theorem inFlight_logRow (h : step s .logRow = some s') : r ∈ s.inFlight := by
  obtain ⟨r', t, rest, htx, rfl⟩ := step_logRow h
  refine inFlight_of_sublist hr (r' :: rest.map Prod.fst) ?_ (by rw [htx]; rfl) rfl
  show (afterCorrelate rest).pending.Sublist _
  rw [pending_afterCorrelate]
  exact List.sublist_cons_self _ _

theorem inFlight_sendto {result : SendResult} (h : step s (.sendto result) = some s') :
    r ∈ s.inFlight := by
  obtain ⟨r', rest, n, htx, hcases⟩ := step_sendto h
  have hafter : ∀ (t : State) k, s' = afterFallback t rest k → t.queue = s.queue →
      r ∈ s.inFlight := by
    intro t k hs' hq
    have hpending := pending_afterFallback t rest k
    obtain ⟨tx, sent, heq⟩ := afterFallback_eq t rest k
    refine inFlight_of_sublist hr (r' :: rest) ?_ (by rw [htx]; rfl) ?_
    · rw [hs', hpending]
      exact List.sublist_cons_self _ _
    · rw [hs', heq]
      exact hq
  rcases hcases with ⟨k, -, -, hs'⟩ | ⟨-, hs'⟩ | ⟨-, hs'⟩
  · exact hafter _ _ hs' rfl
  · exact hafter _ _ hs' rfl
  · exact hafter _ _ hs' rfl

/-- Only a reception puts a request in flight. -/
theorem inFlight_step {l : Label} (hinv : Inv s) (h : step s l = some s') :
    r ∈ s.inFlight ∨ ∃ p, l = .receive p ∧ r = p.request s.received.length := by
  cases l with
  | receive p => exact (inFlight_receive hr hinv h).imp_right fun hreq => ⟨p, rfl, hreq⟩
  | store =>
    obtain ⟨_, -, rfl⟩ := step_store h
    exact Or.inl hr
  | createStats =>
    obtain ⟨_, -, rfl⟩ := step_createStats h
    exact Or.inl hr
  | updateRx =>
    obtain ⟨_, -, rfl⟩ := step_updateRx h
    exact Or.inl hr
  | readDepth =>
    -- at the top of its loop the thread holds no request
    obtain ⟨htx, rfl⟩ := step_readDepth h
    exact Or.inl (inFlight_congr hr (by rw [htx]; rfl) rfl)
  | dequeue => exact Or.inl (inFlight_dequeue hr hinv h)
  | sendmmsg clock result => exact Or.inl (inFlight_sendmmsg hr h)
  | updateAppTx =>
    -- the request stays in flight until its row is logged
    obtain ⟨r', t, rest, htx, rfl⟩ := step_updateAppTx h
    exact Or.inl (inFlight_congr hr (by rw [htx]; rfl) rfl)
  | logRow => exact Or.inl (inFlight_logRow hr h)
  | sendto result => exact Or.inl (inFlight_sendto hr h)
  | txTimestamp msg =>
    simp only [step, Option.some.injEq] at h
    subst h
    exact Or.inl hr
  | stop =>
    simp only [step, Option.some.injEq] at h
    subst h
    exact Or.inl hr
  | exit =>
    obtain ⟨htx, rfl⟩ := step_exit h
    exact Or.inl (inFlight_congr hr (by rw [htx]; rfl) rfl)

end InFlight

/-- The steps that only move requests. -/
def Label.movesRequests : Label → Bool
  | .readDepth | .dequeue | .sendmmsg _ _ | .sendto _ | .stop | .exit => true
  | _ => false

/-- What the steps that only move requests leave alone. -/
structure Frame (s s' : State) : Prop where
  receiver : s'.receiver = s.receiver
  received : s'.received = s.received
  slots : s'.slots = s.slots
  mainRows : s'.mainRows = s.mainRows
  stats : s'.stats = s.stats
  appTx : s'.appTx = s.appTx

theorem frame_of_movesRequests {s s' : State} {l : Label} (hl : l.movesRequests = true)
    (h : step s l = some s') : Frame s s' := by
  cases l <;> simp only [Label.movesRequests, Bool.false_eq_true] at hl
  case readDepth =>
    obtain ⟨-, rfl⟩ := step_readDepth h
    exact ⟨rfl, rfl, rfl, rfl, rfl, rfl⟩
  case dequeue =>
    obtain ⟨_, _, -, ⟨-, rfl⟩ | ⟨_, _, -, rfl⟩⟩ := step_dequeue h
    · exact ⟨rfl, rfl, rfl, rfl, rfl, rfl⟩
    · exact ⟨rfl, rfl, rfl, rfl, rfl, rfl⟩
  case sendmmsg =>
    obtain ⟨_, -, ⟨_, -, -, rfl⟩ | ⟨-, rfl⟩ | ⟨-, rfl⟩⟩ := step_sendmmsg h
    · exact ⟨rfl, rfl, rfl, rfl, rfl, rfl⟩
    · exact ⟨rfl, rfl, rfl, rfl, rfl, rfl⟩
    · exact ⟨rfl, rfl, rfl, rfl, rfl, rfl⟩
  case sendto =>
    -- whatever becomes of the request, only the lists of the TX thread change
    have hafter : ∀ (t : State) rest k, Frame t (afterFallback t rest k) := by
      intro t rest k
      obtain ⟨tx, sent, heq⟩ := afterFallback_eq t rest k
      rw [heq]
      exact ⟨rfl, rfl, rfl, rfl, rfl, rfl⟩
    obtain ⟨_, rest, n, -, ⟨k, -, -, rfl⟩ | ⟨-, rfl⟩ | ⟨-, rfl⟩⟩ := step_sendto h
    · exact { hafter _ rest (n + k) with }
    · exact hafter _ _ _
    · exact { hafter _ rest n with }
  case stop =>
    simp only [step, Option.some.injEq] at h
    subst h
    exact ⟨rfl, rfl, rfl, rfl, rfl, rfl⟩
  case exit =>
    obtain ⟨-, rfl⟩ := step_exit h
    exact ⟨rfl, rfl, rfl, rfl, rfl, rfl⟩

/-- A reception adds one packet, every other step none. -/
theorem received_step {s s' : State} {l : Label} (hl : step s l = some s') :
    s'.received = s.received ∨ ∃ p, l = .receive p ∧ s'.received = s.received ++ [p] := by
  by_cases hmoves : l.movesRequests = true
  · exact Or.inl (frame_of_movesRequests hmoves hl).received
  · cases l <;> simp only [Label.movesRequests, not_true_eq_false] at hmoves
    -- the only step that receives
    case receive p =>
      obtain ⟨-, rfl⟩ := step_receive hl
      exact Or.inr ⟨p, rfl, rfl⟩
    case store =>
      obtain ⟨_, -, rfl⟩ := step_store hl
      exact Or.inl rfl
    case createStats =>
      obtain ⟨_, -, rfl⟩ := step_createStats hl
      exact Or.inl rfl
    case updateRx =>
      obtain ⟨_, -, rfl⟩ := step_updateRx hl
      exact Or.inl rfl
    case updateAppTx =>
      obtain ⟨_, _, _, -, rfl⟩ := step_updateAppTx hl
      exact Or.inl rfl
    case logRow =>
      obtain ⟨_, _, _, -, rfl⟩ := step_logRow hl
      exact Or.inl rfl
    case txTimestamp =>
      simp only [step, Option.some.injEq] at hl
      subst hl
      exact Or.inl rfl

/-- The last received packet has the last position. -/
theorem getElem?_last {ps : List Packet} {p : Packet} (h : ps.getLast? = some p) :
    ps[ps.length - 1]? = some p := by
  rwa [List.getLast?_eq_getElem?] at h

/-- A packet in flight is the newest with its circular index. -/
def NewestInFlight (s : State) : Prop :=
  ∀ r ∈ s.inFlight, ∀ (j : Nat) (q : Packet), r.packet < j → s.received[j]? = some q →
    getCircularIndex q.seqNum ≠ getCircularIndex r.seqNum

theorem step_newest {s s' : State} {l : Label} (hinv : Inv s) (h : NewestInFlight s)
    (hcond : DistinctInFlight s l) (hl : step s l = some s') : NewestInFlight s' := by
  intro r hr j q hj hq
  rcases received_step hl with hsame | ⟨p, rfl, hnew⟩
  · rw [hsame] at hq
    rcases inFlight_step hr hinv hl with hold | ⟨p, rfl, -⟩
    · exact h r hold j q hj hq
    · -- a reception does change the packets
      obtain ⟨-, rfl⟩ := step_receive hl
      have hlen := congrArg List.length hsame
      simp at hlen
  · rw [hnew] at hq
    rcases inFlight_step hr hinv hl with hold | ⟨p', -, rfl⟩
    · by_cases hlt : j < s.received.length
      · rw [List.getElem?_append_left hlt] at hq
        exact h r hold j q hj hq
      · have hlen := (List.getElem?_eq_some_iff.mp hq).1
        rw [List.length_append, List.length_singleton] at hlen
        obtain rfl : j = s.received.length := by omega
        rw [List.getElem?_concat_length] at hq
        rw [← Option.some.inj hq]
        exact (hcond r hold).symm
    · -- the new packet is the last one
      have hlen := (List.getElem?_eq_some_iff.mp hq).1
      rw [List.length_append, List.length_singleton] at hlen
      have : s.received.length < j := hj
      omega

/-! ## The correlation arrays -/

/-- The arrays hold the stored packets in flight, and the rows so far are right. -/
structure SlotsInv (s : State) : Prop where
  slots : ∀ r ∈ s.inFlight, r.packet < s.storedCount → ∀ p, s.received[r.packet]? = some p →
    s.slots (getCircularIndex r.seqNum) = p.slot
  rows : ∀ row ∈ s.mainRows, ∃ p, s.received[row.1]? = some p ∧ DescribesMain row.2 p

/-- Steps that change neither packets, arrays nor rows. -/
theorem SlotsInv.of_frame {s s' : State} (h : SlotsInv s)
    (hflight : ∀ r ∈ s'.inFlight, r ∈ s.inFlight) (hcount : s'.storedCount = s.storedCount)
    (hreceived : s'.received = s.received) (hslots : s'.slots = s.slots)
    (hrows : s'.mainRows = s.mainRows) : SlotsInv s' where
  slots r hr := by
    rw [hcount, hreceived, hslots]
    exact h.slots r (hflight r hr)
  rows := by
    rw [hreceived, hrows]
    exact h.rows

/-- The row of a stored packet in flight describes it. -/
theorem describesMain_mainRow {s : State} {r : ReturnPacketRequest} {p : Packet}
    (hreq : r = p.request r.packet) (hslot : s.slots (getCircularIndex r.seqNum) = p.slot)
    (t : UInt64) : DescribesMain (mainRow s r t) p := by
  refine ⟨?_, ?_⟩
  · show (IpText.ofText (s.slots (getCircularIndex r.seqNum)).clientIp.text,
      r.originalClientSrcPort, r.seqNum) = _
    rw [hslot, IpText.ofText_text, hreq]
    rfl
  · show (s.slots (getCircularIndex r.seqNum)).hwRxTs.ns = _ ∧
      (s.slots (getCircularIndex r.seqNum)).kerRxTs.ns = _ ∧
      (s.slots (getCircularIndex r.seqNum)).appRxTs.ns = _
    rw [hslot]
    exact ⟨rfl, rfl, rfl⟩

/-- Every step but a reception takes packets out of flight at most. -/
theorem inFlight_of_not_receive {s s' : State} {l : Label} (hinv : Inv s) (h : step s l = some s')
    (hne : ∀ p, l ≠ .receive p) : ∀ r ∈ s'.inFlight, r ∈ s.inFlight := by
  intro r hr
  rcases inFlight_step hr hinv h with hold | ⟨p, hp, -⟩
  · exact hold
  · exact absurd hp (hne p)

/-- A new packet is not stored yet, the others are as before. -/
theorem receive_slotsInv {s s' : State} {p : Packet} (hinv : Inv s) (h : SlotsInv s)
    (hl : step s (.receive p) = some s') : SlotsInv s' := by
  have hflight : ∀ r ∈ s'.inFlight,
      r ∈ s.inFlight ∨ ∃ q, Label.receive p = .receive q ∧ r = q.request s.received.length := by
    intro r hr
    exact inFlight_step hr hinv hl
  obtain ⟨hidle, rfl⟩ := step_receive hl
  constructor
  · intro r hr hlt q hq
    change r.packet < (s.received ++ [p]).length - 1 at hlt
    rw [List.length_append, List.length_singleton, Nat.add_sub_cancel] at hlt
    have hq' : s.received[r.packet]? = some q := by
      rw [← hq]
      exact (List.getElem?_append_left hlt).symm
    -- a request of an earlier packet keeps its slot, the new packet is not stored yet
    rcases hflight r hr with hold | ⟨p', -, rfl⟩
    · refine h.slots r hold ?_ q hq'
      unfold State.storedCount
      rw [hidle]
      exact hlt
    · exact absurd hlt (Nat.lt_irrefl _)
  · intro row hrow
    obtain ⟨q, hq, hd⟩ := h.rows row hrow
    exact ⟨q, getElem?_received hq p, hd⟩

/-- Storing a packet overwrites the slot of none of the others in flight. -/
theorem store_slotsInv {s s' : State} (hinv : Inv s) (hnew : NewestInFlight s) (h : SlotsInv s)
    (hl : step s .store = some s') : SlotsInv s' := by
  have hflight := inFlight_of_not_receive hinv hl (by simp)
  obtain ⟨p, hrcv, rfl⟩ := step_store hl
  have hlast := getElem?_last (hinv.last p (by rw [hrcv]; rfl))
  refine ⟨?_, h.rows⟩
  intro r hr hlt q hq
  have hold := hflight r hr
  change r.packet < s.received.length at hlt
  show Function.update s.slots (getCircularIndex p.seqNum) p.slot (getCircularIndex r.seqNum) = _
  by_cases heq : r.packet = s.received.length - 1
  · -- the packet that is stored now
    obtain ⟨p', hp', hreq⟩ := hinv.pending_origin hold
    obtain rfl : p' = q := Option.some.inj (hp'.symm.trans hq)
    obtain rfl : p = p' := by
      rw [heq, hlast] at hq
      exact Option.some.inj hq
    have hseq : r.seqNum = p.seqNum := by
      rw [hreq]
      rfl
    rw [hseq, Function.update_self]
  · -- an older one, whose index differs
    have hne := hnew r hold (s.received.length - 1) p (by omega) hlast
    rw [Function.update_of_ne (Ne.symm hne)]
    refine h.slots r hold ?_ q hq
    unfold State.storedCount
    rw [hrcv]
    show r.packet < s.received.length - 1
    omega

/-- The row that is logged finds the slot of its packet. -/
theorem logRow_slotsInv {s s' : State} (hinv : Inv s) (h : SlotsInv s)
    (hcond : LookupReady s .logRow) (hl : step s .logRow = some s') : SlotsInv s' := by
  have hflight := inFlight_of_not_receive hinv hl (by simp)
  obtain ⟨r, t, rest, htx, rfl⟩ := step_logRow hl
  simp only [LookupReady, StoreReady, htx] at hcond
  have hr : r ∈ s.inFlight := by
    unfold State.inFlight
    rw [htx]
    exact List.mem_append_left _ List.mem_cons_self
  obtain ⟨p, hp, hreq⟩ := hinv.pending_origin hr
  refine ⟨fun r' hr' => h.slots r' (hflight r' hr'), ?_⟩
  intro row hrow
  rcases List.mem_append.mp hrow with hrow | hrow
  · exact h.rows row hrow
  · rw [List.mem_singleton.mp hrow]
    exact ⟨p, hp, describesMain_mainRow hreq (h.slots r hr hcond p hp) t⟩

theorem step_slotsInv {s s' : State} {l : Label} (hinv : Inv s) (hnew : NewestInFlight s)
    (h : SlotsInv s) (hcond : LookupReady s l) (hl : step s l = some s') : SlotsInv s' := by
  -- moving requests leaves the arrays, the packets and the rows
  by_cases hmoves : l.movesRequests = true
  · have hf := frame_of_movesRequests hmoves hl
    refine h.of_frame (inFlight_of_not_receive hinv hl ?_) ?_ hf.received hf.slots hf.mainRows
    · rintro p rfl
      simp [Label.movesRequests] at hmoves
    · unfold State.storedCount
      rw [hf.receiver, hf.received]
  cases l <;> simp only [Label.movesRequests, not_true_eq_false] at hmoves
  -- a packet is received without a slot, and `store` writes it
  case receive p => exact receive_slotsInv hinv h hl
  case store => exact store_slotsInv hinv hnew h hl
  case createStats =>
    have hflight := inFlight_of_not_receive hinv hl (by simp)
    obtain ⟨p, hrcv, rfl⟩ := step_createStats hl
    refine h.of_frame hflight ?_ rfl rfl rfl
    unfold State.storedCount
    rw [hrcv]
  case updateRx =>
    have hflight := inFlight_of_not_receive hinv hl (by simp)
    obtain ⟨p, hrcv, rfl⟩ := step_updateRx hl
    refine h.of_frame hflight ?_ rfl rfl rfl
    unfold State.storedCount
    rw [hrcv]
  case updateAppTx =>
    have hflight := inFlight_of_not_receive hinv hl (by simp)
    obtain ⟨_, _, _, -, rfl⟩ := step_updateAppTx hl
    exact h.of_frame hflight rfl rfl rfl rfl
  -- the row reads the slot, which still belongs to the packet by `LookupReady`
  case logRow => exact logRow_slotsInv hinv h hcond hl
  case txTimestamp =>
    have hflight := inFlight_of_not_receive hinv hl (by simp)
    simp only [step, Option.some.injEq] at hl
    subst hl
    exact h.of_frame hflight rfl rfl rfl rfl

/-! ## The statistics -/

/-- The sequence numbers of the entries that have been created. -/
def State.createdNums (s : State) : List UInt32 :=
  (s.received.map (·.seqNum)).take s.createdCount

theorem length_createdNums (s : State) : s.createdNums.length = s.createdCount := by
  have hle : s.createdCount ≤ s.received.length := by
    unfold State.createdCount
    split <;> omega
  simp [State.createdNums, hle]

theorem getElem?_createdNums {s : State} {k : Nat} {seq : UInt32}
    (h : s.createdNums[k]? = some seq) : ∃ p, s.received[k]? = some p ∧ p.seqNum = seq := by
  rw [State.createdNums, List.getElem?_take] at h
  split at h
  · rw [List.getElem?_map] at h
    exact Option.map_eq_some_iff.mp h
  · simp at h

/-- The receive loop and the packets whose entries have been created. -/
theorem createdNums_congr {s s' : State} (hrcv : s'.receiver = s.receiver)
    (hpackets : s'.received = s.received) : s'.createdNums = s.createdNums := by
  unfold State.createdNums State.createdCount
  rw [hrcv, hpackets]

/-- What a step does to the statistics: it leaves them alone, creates the entry of
the next packet, updates other slots than that of the application TX timestamp, or
gives this timestamp of a request to the collector. -/
theorem stats_step {s s' : State} {l : Label} (hinv : Inv s) (h : step s l = some s') :
    (s'.stats = s.stats ∧ s'.createdNums = s.createdNums ∧ s'.appTx = s.appTx) ∨
      (∃ seq port, s'.stats = createMinimalStatsEntry s.stats seq port .serverRoundtrip ∧
        s'.createdNums = s.createdNums ++ [seq] ∧ s'.appTx = s.appTx) ∨
      (∃ u : StatsUpdate, 10 ∉ u.ownedSlots ∧ s'.stats = applyUpdate s.stats u ∧
        s'.createdNums = s.createdNums ∧ s'.appTx = s.appTx) ∨
      (l = .updateAppTx ∧ s'.createdNums = s.createdNums ∧
        ∃ r t, s'.stats = applyUpdate s.stats (.appTx r t 0 .serverRoundtrip)) := by
  by_cases hmoves : l.movesRequests = true
  · have hf := frame_of_movesRequests hmoves h
    exact Or.inl ⟨hf.stats, createdNums_congr hf.receiver hf.received, hf.appTx⟩
  cases l <;> simp only [Label.movesRequests, not_true_eq_false] at hmoves
  case receive p =>
    obtain ⟨hidle, rfl⟩ := step_receive h
    refine Or.inl ⟨rfl, ?_, rfl⟩
    simp [State.createdNums, State.createdCount, hidle]
  case store =>
    obtain ⟨p, hrcv, rfl⟩ := step_store h
    refine Or.inl ⟨rfl, ?_, rfl⟩
    unfold State.createdNums State.createdCount
    rw [hrcv]
  case createStats =>
    obtain ⟨p, hrcv, rfl⟩ := step_createStats h
    obtain ⟨ps, hps⟩ := List.getLast?_eq_some_iff.mp (hinv.last p (by rw [hrcv]; rfl))
    refine Or.inr (Or.inl ⟨p.seqNum, p.srcPort, rfl, ?_, rfl⟩)
    -- the entries so far are those of the packets before the last one
    have hnums : s.createdNums = ps.map (·.seqNum) := by
      simp [State.createdNums, State.createdCount, hrcv, hps]
    have htake : (ps.map (·.seqNum) ++ [p.seqNum]).take (ps.length + 1) =
        ps.map (·.seqNum) ++ [p.seqNum] := List.take_of_length_le (by simp)
    rw [hnums]
    simp [State.createdNums, State.createdCount, hps, htake]
  case updateRx =>
    obtain ⟨p, hrcv, rfl⟩ := step_updateRx h
    refine Or.inr (Or.inr (Or.inl
      ⟨.rx p.seqNum p.hwRxTs.ns p.kerRxTs.ns p.appRxTs.ns 0 .serverRoundtrip, ?_, rfl, ?_, rfl⟩))
    · simp [StatsUpdate.ownedSlots]
    · unfold State.createdNums State.createdCount
      rw [hrcv]
  case updateAppTx =>
    obtain ⟨r, t, rest, -, rfl⟩ := step_updateAppTx h
    exact Or.inr (Or.inr (Or.inr ⟨rfl, rfl, r.seqNum, t, rfl⟩))
  case logRow =>
    obtain ⟨_, _, _, -, rfl⟩ := step_logRow h
    exact Or.inl ⟨rfl, rfl, rfl⟩
  case txTimestamp msg =>
    simp only [step, Option.some.injEq] at h
    subst h
    refine Or.inr (Or.inr (Or.inl
      ⟨.tx msg.read.1 msg.read.2.ns .serverRoundtrip, ?_, rfl, rfl, rfl⟩))
    simp [StatsUpdate.ownedSlots]

/-- The collector represents a list with one entry per packet, in the order of
reception; a live entry whose update was made has the TX timestamp. -/
structure StatsInv (m : Nat) (s : State) (log : List StatsEntry) : Prop where
  records : Records m s.stats s.createdNums log
  updated : ∀ kt ∈ s.appTx, EntryHas (2 ^ m) log kt.1 fun e => e.timestampNs 10 = kt.2

/-- Steps that change neither packets nor statistics. -/
theorem StatsInv.of_frame {m : Nat} {s s' : State} {log : List StatsEntry} (h : StatsInv m s log)
    (hnums : s'.createdNums = s.createdNums) (hstats : s'.stats = s.stats)
    (happ : s'.appTx = s.appTx) : StatsInv m s' log where
  records := by
    rw [hstats, hnums]
    exact h.records
  updated := happ ▸ h.updated

/-- An update of other slots than the application TX timestamp. -/
theorem StatsInv.of_update {m : Nat} (hm : m < 32) {s s' : State} {log : List StatsEntry}
    (h : StatsInv m s log) {u : StatsUpdate} (hu : 10 ∉ u.ownedSlots)
    (hnums : s'.createdNums = s.createdNums) (hstats : s'.stats = applyUpdate s.stats u)
    (happ : s'.appTx = s.appTx) : StatsInv m s' (logUpdate (2 ^ m) log u) := by
  constructor
  · rw [hstats, hnums]
    exact h.records.update hm u
  · intro kt hkt
    rw [happ] at hkt
    apply (h.updated kt hkt).update
    intro e he
    exact (edit_of_not_owned u e.timestampNs hu).trans he

/-- The entry of a packet is created. -/
theorem StatsInv.of_create {m : Nat} (hm : m < 32) {s s' : State} {log : List StatsEntry}
    (h : StatsInv m s log) {seq : UInt32} {port : UInt16}
    (hnums : s'.createdNums = s.createdNums ++ [seq])
    (hstats : s'.stats = createMinimalStatsEntry s.stats seq port .serverRoundtrip)
    (happ : s'.appTx = s.appTx) :
    StatsInv m s' (log ++ [minimalStatsEntry seq port .serverRoundtrip]) := by
  constructor
  · rw [hstats, hnums]
    exact h.records.create hm seq port .serverRoundtrip
  · intro kt hkt
    rw [happ] at hkt
    exact (h.updated kt hkt).concat _

/-- The TX timestamp reaches the entry of its packet and no other. -/
theorem updateAppTx_statsInv {m : Nat} (hm : m < 32) {s s' : State} {log : List StatsEntry}
    (hinv : Inv s) (hnew : NewestInFlight s) (h : StatsInv m s log)
    (hcond : LookupReady s .updateAppTx) (hl : step s .updateAppTx = some s') :
    ∃ log', StatsInv m s' log' := by
  obtain ⟨r, t, rest, htx, rfl⟩ := step_updateAppTx hl
  simp only [LookupReady, EntryReady, htx] at hcond
  have hr : r ∈ s.inFlight := by
    unfold State.inFlight
    rw [htx]
    exact List.mem_append_left _ List.mem_cons_self
  obtain ⟨p, hp, hreq⟩ := hinv.pending_origin hr
  have hseq : r.seqNum = p.seqNum := by
    rw [hreq]
    rfl
  have hk : s.createdNums[r.packet]? = some r.seqNum := by
    unfold State.createdNums
    rw [List.getElem?_take_of_lt hcond, List.getElem?_map, hp, hseq]
    rfl
  -- no later entry has the sequence number
  have hnewer : ∀ j, r.packet < j → s.createdNums[j]? ≠ some r.seqNum := by
    intro j hj heq
    obtain ⟨q, hq, hqe⟩ := getElem?_createdNums heq
    apply hnew r hr j q hj hq
    rw [hqe]
  -- the packets of earlier updates are others
  have hother : ∀ kt ∈ s.appTx, kt.1 ≠ r.packet := by
    have hupdated := hinv.dequeued_ascending.sublist hinv.updated
    rw [htx] at hupdated
    intro kt hkt
    have := (List.pairwise_append.mp hupdated).2.2 kt.1 (List.mem_map_of_mem hkt) r.packet
      List.mem_cons_self
    omega
  refine ⟨logUpdate (2 ^ m) log (.appTx r.seqNum t 0 .serverRoundtrip), ?_, ?_⟩
  · exact h.records.update hm (.appTx r.seqNum t 0 .serverRoundtrip)
  · intro kt hkt
    rcases List.mem_append.mp hkt with hkt | hkt
    · exact h.records.entryHas_other hk hnewer (h.updated kt hkt) (hother kt hkt)
    · rw [List.mem_singleton.mp hkt]
      apply h.records.entryHas_self hk hnewer
      intro e _
      simp [StatsEntry.edit, StatsUpdate.edit, editAppTx]

theorem step_statsInv {m : Nat} (hm : m < 32) {s s' : State} {l : Label} {log : List StatsEntry}
    (hinv : Inv s) (hnew : NewestInFlight s) (h : StatsInv m s log) (hcond : LookupReady s l)
    (hl : step s l = some s') : ∃ log', StatsInv m s' log' := by
  rcases stats_step hinv hl with ⟨hstats, hnums, happ⟩ | ⟨seq, port, hstats, hnums, happ⟩ |
    ⟨u, hu, hstats, hnums, happ⟩ | ⟨rfl, -, -⟩
  · exact ⟨log, h.of_frame hnums hstats happ⟩
  · exact ⟨_, h.of_create hm hnums hstats happ⟩
  · exact ⟨_, h.of_update hm hu hnums hstats happ⟩
  · exact updateAppTx_statsInv hm hinv hnew h hcond hl

/-! ## Correct correlation -/

/-- All invariants together. -/
structure CorrelatedInv (m : Nat) (s : State) : Prop where
  inv : Inv s
  newest : NewestInFlight s
  slots : SlotsInv s
  stats : ∃ log, StatsInv m s log

theorem correlatedInv_init {m : Nat} {stats : StatsCollector} (h : Represents m stats [])
    (requests : UInt32 → ReturnPacketRequest) : CorrelatedInv m (State.init stats requests) := by
  have hflight : (State.init stats requests).inFlight = [] := (queueInv_create requests).2
  constructor
  · exact inv_init stats requests
  · intro r hr
    rw [hflight] at hr
    exact absurd hr List.not_mem_nil
  · constructor
    · intro r hr
      rw [hflight] at hr
      exact absurd hr List.not_mem_nil
    · exact fun _ hrow => absurd hrow List.not_mem_nil
  · exact ⟨[], ⟨h, rfl⟩, fun _ hkt => absurd hkt List.not_mem_nil⟩

/-- The invariants give the statement. -/
theorem CorrelatedInv.correct {m : Nat} (hm : m < 32) {s : State} (h : CorrelatedInv m s) :
    CorrelationCorrect s := by
  obtain ⟨log, hlog⟩ := h.stats
  refine ⟨h.slots.rows, ?_⟩
  intro kt hkt
  have hupdated := hlog.updated kt hkt
  have hlt := hupdated.1
  rw [hlog.records.length] at hlt
  obtain ⟨p, hp, hseq⟩ := getElem?_createdNums (List.getElem?_eq_getElem hlt)
  refine ⟨p, hp, ?_⟩
  intro e he
  rw [← length_createdNums] at he
  obtain ⟨hnum, ht⟩ := hlog.records.entryOf hm hupdated he
  rw [List.getElem?_eq_getElem hlt, ← hseq] at hnum
  exact ⟨(Option.some.inj hnum).symm, ht⟩

/-- In every run in which the sequence numbers in flight differ modulo 50000 and
the TX thread looks packets up after the receive loop has stored them, rows and
statistics are those of the packets. -/
theorem correlation_correct {n : UInt32} {stats : StatsCollector}
    (hcreate : createStatsCollector n .serverRoundtrip = some stats)
    {requests : UInt32 → ReturnPacketRequest} {ls : List Label} {s : State}
    (hmeets : Run.Meets step (fun s l => DistinctInFlight s l ∧ LookupReady s l)
      (State.init stats requests) ls)
    (hrun : Run.exec step (State.init stats requests) ls = some s) : CorrelationCorrect s := by
  rcases represents_create hcreate with ⟨m, hm, -, -, -, hrep⟩
  refine CorrelatedInv.correct hm (Run.invariant_of_meets ?_ (correlatedInv_init hrep requests)
    hmeets hrun)
  rintro t l t' ⟨hinv, hnew, hslots, log, hlog⟩ ⟨hdistinct, hready⟩ hl
  exact ⟨step_inv hinv hl, step_newest hinv hnew hdistinct hl,
    step_slotsInv hinv hnew hslots hready hl, step_statsInv hm hinv hnew hlog hready hl⟩

/-! ## Two schedules of one packet -/

instance (s : State) : (l : Label) → Decidable (DistinctInFlight s l)
  | .receive p => inferInstanceAs (Decidable (∀ r ∈ s.inFlight, _ ≠ getCircularIndex p.seqNum))
  | .store | .createStats | .updateRx | .readDepth | .dequeue | .sendmmsg _ _ | .updateAppTx
  | .logRow | .sendto _ | .txTimestamp _ | .stop | .exit => .isTrue trivial

instance (created : Nat) : (tx : TxThread) → Decidable (EntryReady created tx)
  | .correlating ((r, _) :: _) => inferInstanceAs (Decidable (r.packet < created))
  | .top | .dequeuing _ _ | .sending _ | .correlating [] | .logging _ _ _ | .fallback _ _
  | .done => .isTrue trivial

instance (stored : Nat) : (tx : TxThread) → Decidable (StoreReady stored tx)
  | .logging r _ _ => inferInstanceAs (Decidable (r.packet < stored))
  | .top | .dequeuing _ _ | .sending _ | .correlating _ | .fallback _ _ | .done => .isTrue trivial

instance (s : State) : (l : Label) → Decidable (LookupReady s l)
  | .updateAppTx => inferInstanceAs (Decidable (EntryReady s.createdCount s.tx))
  | .logRow => inferInstanceAs (Decidable (StoreReady s.storedCount s.tx))
  | .receive _ | .store | .createStats | .updateRx | .readDepth | .dequeue | .sendmmsg _ _
  | .sendto _ | .txTimestamp _ | .stop | .exit => .isTrue trivial

/-- A batch of one request is sent and correlated. -/
def returnOne : List Label :=
  [.readDepth, .dequeue, .sendmmsg (fun _ => ⟨2, 0⟩) (.sent 1), .updateAppTx, .logRow]

/-- The TX thread waits until the packet is received completely. -/
theorem correlation_correct_late :
    ∃ s, Run.exec step sampleState
        (receiveLabels (samplePacket 0 "10.0.0.1" 40000) ++ returnOne) = some s ∧
      s.mainRows.length = 1 ∧ s.appTx.length = 1 ∧ CorrelationCorrect s := by
  have hmeets : Run.Meets step (fun s l => DistinctInFlight s l ∧ LookupReady s l) sampleState
      (receiveLabels (samplePacket 0 "10.0.0.1" 40000) ++ returnOne) := by
    decide +kernel
  exact ⟨_, rfl, rfl, rfl, correlation_correct (n := 4) rfl hmeets rfl⟩

/-- The TX thread returns the packet between the enqueue and the store. The row
has no RX timestamps and no address, and the entry has no TX timestamp. -/
theorem correlation_lost :
    ∃ s, Run.exec step sampleState
        ([.receive (samplePacket 0 "10.0.0.1" 40000)] ++ returnOne ++
          [.store, .createStats, .updateRx]) = some s ∧
      Run.Meets step DistinctInFlight sampleState
        ([.receive (samplePacket 0 "10.0.0.1" 40000)] ++ returnOne ++
          [.store, .createStats, .updateRx]) ∧
      ¬ CorrelationCorrect s := by
  refine ⟨_, rfl, by decide +kernel, ?_⟩
  intro h
  obtain ⟨p, hp, hd⟩ := h.rows _ (List.mem_singleton_self _)
  obtain rfl : samplePacket 0 "10.0.0.1" 40000 = p := Option.some.inj hp
  exact absurd (congrArg Prod.fst hd.1) (by decide)

end TradingLatency.Server
