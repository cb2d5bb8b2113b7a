import TradingLatency.Server.RoundTrip

/-!
# What becomes of the return requests

`Inv` follows the requests through the server: each was made for one received
packet, they go through the queue in the order of reception, and what the TX
thread has sent, holds or has still to process are sublists, in this order, of
what it has dequeued. Every step keeps it (`step_inv`).

The batch is removed from the queue before it is sent. So the TX thread loses no
request exactly as long as `sendmmsg` takes whole batches or fails with an error
other than `EAGAIN`, and `sendto` does not answer `EAGAIN` either
(`return_packets_not_dropped`).
-/

namespace TradingLatency.Server

/-! ## The requests of the TX thread -/

/-- The packet that the receive loop works on. -/
def Receiver.packet : Receiver → Option Packet
  | .idle => none
  | .received p => some p
  | .stored p => some p
  | .created p => some p

/-- The requests that the TX thread is still going to offer to the kernel. -/
def TxThread.held : TxThread → List ReturnPacketRequest
  | .dequeuing _ batch => batch
  | .sending batch => batch
  | .fallback rest _ => rest
  | _ => []

/-- The requests whose statistics update may still come. -/
def TxThread.awaiting : TxThread → List ReturnPacketRequest
  | .dequeuing _ batch => batch
  | .sending batch => batch
  | .correlating rest => rest.map Prod.fst
  | .logging _ _ rest => rest.map Prod.fst
  | _ => []

/-- The requests that the TX thread is not done with. -/
def TxThread.pending : TxThread → List ReturnPacketRequest
  | .dequeuing _ batch => batch
  | .sending batch => batch
  | .correlating rest => rest.map Prod.fst
  | .logging r _ rest => r :: rest.map Prod.fst
  | .fallback rest _ => rest
  | _ => []

@[simp] theorem held_afterDequeue (batch : List ReturnPacketRequest) :
    (afterDequeue batch).held = batch := by
  cases batch <;> rfl

@[simp] theorem awaiting_afterDequeue (batch : List ReturnPacketRequest) :
    (afterDequeue batch).awaiting = batch := by
  cases batch <;> rfl

@[simp] theorem pending_afterDequeue (batch : List ReturnPacketRequest) :
    (afterDequeue batch).pending = batch := by
  cases batch <;> rfl

@[simp] theorem held_afterCorrelate (rest : List (ReturnPacketRequest × UInt64)) :
    (afterCorrelate rest).held = [] := by
  cases rest <;> rfl

@[simp] theorem awaiting_afterCorrelate (rest : List (ReturnPacketRequest × UInt64)) :
    (afterCorrelate rest).awaiting = rest.map Prod.fst := by
  cases rest <;> rfl

@[simp] theorem pending_afterCorrelate (rest : List (ReturnPacketRequest × UInt64)) :
    (afterCorrelate rest).pending = rest.map Prod.fst := by
  cases rest <;> rfl

section GrowingBatch

-- whether the batch goes on growing or is sent, the TX thread holds all of it
variable (c : Prop) [Decidable c] (target : Nat) (batch : List ReturnPacketRequest)

@[simp] theorem held_growing :
    (if c then TxThread.dequeuing target batch else .sending batch).held = batch := by
  split <;> rfl

@[simp] theorem awaiting_growing :
    (if c then TxThread.dequeuing target batch else .sending batch).awaiting = batch := by
  split <;> rfl

@[simp] theorem pending_growing :
    (if c then TxThread.dequeuing target batch else .sending batch).pending = batch := by
  split <;> rfl

end GrowingBatch

section Fallback

variable (s : State) (rest : List ReturnPacketRequest) (k : Nat)

@[simp] theorem held_afterFallback : (afterFallback s rest k).tx.held = rest := by
  cases rest <;> rfl

@[simp] theorem awaiting_afterFallback : (afterFallback s rest k).tx.awaiting = [] := by
  cases rest <;> rfl

@[simp] theorem pending_afterFallback : (afterFallback s rest k).tx.pending = rest := by
  cases rest <;> rfl

/-- The loop that sends one by one writes its own position and one counter. -/
theorem afterFallback_eq : ∃ tx sent,
    afterFallback s rest k = { s with tx := tx, localPacketsSent := sent } := by
  cases rest with
  | nil => exact ⟨_, _, rfl⟩
  | cons r rest => exact ⟨_, s.localPacketsSent, rfl⟩

end Fallback

theorem map_fst_sentRequests (batch : List ReturnPacketRequest) (clock : Nat → Timespec)
    (n : Nat) : (sentRequests batch clock n).map Prod.fst = batch.take n := by
  apply List.ext_getElem?
  intro i
  rw [sentRequests, List.getElem?_map, List.getElem?_mapIdx, Option.map_map]
  exact Option.map_id'

/-! ## The invariant -/

/-- Requests, packets and the TX thread. -/
structure Inv (s : State) : Prop where
  queue : QueueInv s.queue
  ascending : ((s.dequeued ++ s.queue.items).map (·.packet) ++ [s.received.length]).Pairwise (· < ·)
  origin : ∀ r ∈ s.dequeued ++ s.queue.items,
    ∃ p, s.received[r.packet]? = some p ∧ r = p.request r.packet
  last : ∀ p, s.receiver.packet = some p → s.received.getLast? = some p
  offered : (s.accepted ++ s.tx.held).Sublist s.dequeued
  updated : (s.appTx.map Prod.fst ++ s.tx.awaiting.map (·.packet)).Sublist
    (s.dequeued.map (·.packet))
  pending : s.tx.pending.Sublist s.dequeued

theorem inv_init (stats : StatsCollector) (requests : UInt32 → ReturnPacketRequest) :
    Inv (State.init stats requests) := by
  have hqueue := queueInv_create requests
  constructor
  · exact hqueue.1
  · show ((createReturnPacketQueue 4096 requests).items.map ReturnPacketRequest.packet ++
      [0]).Pairwise (· < ·)
    rw [hqueue.2]
    exact List.pairwise_singleton _ _
  · show ∀ r ∈ [] ++ (createReturnPacketQueue 4096 requests).items, _
    rw [hqueue.2]
    simp
  · intro p hp
    simp [State.init, Receiver.packet] at hp
  · exact List.Sublist.refl _
  · exact List.Sublist.refl _
  · exact List.Sublist.refl _

/-- Requests are dequeued in the order of reception. -/
theorem Inv.dequeued_ascending {s : State} (hinv : Inv s) :
    (s.dequeued.map (·.packet)).Pairwise (· < ·) := by
  have hasc := (List.pairwise_append.mp hinv.ascending).1
  rw [List.map_append] at hasc
  exact (List.pairwise_append.mp hasc).1

/-- A request that is still to be handled belongs to a received packet. -/
theorem Inv.pending_origin {s : State} (hinv : Inv s) {r : ReturnPacketRequest}
    (hr : r ∈ s.tx.pending ++ s.queue.items) :
    ∃ p, s.received[r.packet]? = some p ∧ r = p.request r.packet := by
  apply hinv.origin r
  rcases List.mem_append.mp hr with hr | hr
  · exact List.mem_append_left _ (hinv.pending.subset hr)
  · exact List.mem_append_right _ hr

/-- The queue behind a reception: as before, or with the new request. -/
theorem enqueuePacket_items {s : State} (hinv : Inv s) (p : Packet) :
    QueueInv (enqueuePacket s p) ∧
      ((enqueuePacket s p).items = s.queue.items ∨
        (enqueuePacket s p).items = s.queue.items ++ [p.request s.received.length]) := by
  unfold enqueuePacket
  by_cases hlen : 8 ≤ p.data.length
  · rw [if_pos hlen]
    rcases enqueue_items hinv.queue (p.request s.received.length) with hnone | ⟨q, hsome, hq, hitems⟩
    · rw [hnone]
      exact ⟨hinv.queue, Or.inl rfl⟩
    · rw [hsome]
      exact ⟨hq, Or.inr hitems⟩
  · rw [if_neg hlen]
    exact ⟨hinv.queue, Or.inl rfl⟩

/-- A position in the received packets survives the next reception. -/
theorem getElem?_received {ps : List Packet} {k : Nat} {p : Packet} (h : ps[k]? = some p)
    (q : Packet) : (ps ++ [q])[k]? = some p := by
  rw [List.getElem?_append_left (List.getElem?_eq_some_iff.mp h).1, h]

theorem receive_inv {s s' : State} {p : Packet} (hinv : Inv s)
    (h : step s (.receive p) = some s') : Inv s' := by
  obtain ⟨-, rfl⟩ := step_receive h
  obtain ⟨hqueue, hitems⟩ := enqueuePacket_items hinv p
  have hasc := List.pairwise_append.mp hinv.ascending
  have hlt : ∀ k ∈ (s.dequeued ++ s.queue.items).map (·.packet), k < s.received.length :=
    fun k hk => hasc.2.2 k hk _ (List.mem_singleton_self _)
  constructor
  · exact hqueue
  · show ((s.dequeued ++ (enqueuePacket s p).items).map (·.packet) ++
      [(s.received ++ [p]).length]).Pairwise (· < ·)
    rw [List.length_append, List.length_singleton]
    rcases hitems with hitems | hitems
    · rw [hitems]
      refine List.pairwise_append.mpr ⟨hasc.1, List.pairwise_singleton _ _, ?_⟩
      intro k hk j hj
      rw [List.mem_singleton.mp hj]
      exact Nat.lt_succ_of_lt (hlt k hk)
    · -- the new request has the largest number so far
      rw [hitems, ← List.append_assoc, List.map_append]
      refine List.pairwise_append.mpr ⟨hinv.ascending, List.pairwise_singleton _ _, ?_⟩
      intro k hk j hj
      rw [List.mem_singleton.mp hj]
      rcases List.mem_append.mp hk with hk | hk
      · exact Nat.lt_succ_of_lt (hlt k hk)
      · rw [List.mem_singleton.mp hk]
        exact Nat.lt_succ_self _
  · intro r hr
    have hold : r ∈ s.dequeued ++ s.queue.items →
        ∃ q, (s.received ++ [p])[r.packet]? = some q ∧ r = q.request r.packet := by
      intro hr
      rcases hinv.origin r hr with ⟨q, hq, hreq⟩
      exact ⟨q, getElem?_received hq p, hreq⟩
    rcases hitems with hitems | hitems
    · exact hold (hitems ▸ hr)
    · change r ∈ s.dequeued ++ (enqueuePacket s p).items at hr
      rw [hitems, ← List.append_assoc] at hr
      rcases List.mem_append.mp hr with hr | hr
      · exact hold hr
      · rw [List.mem_singleton.mp hr]
        exact ⟨p, List.getElem?_concat_length, rfl⟩
  · intro q hq
    rw [← Option.some.inj hq]
    exact List.getLast?_concat
  · exact hinv.offered
  · exact hinv.updated
  · exact hinv.pending

theorem dequeue_inv {s s' : State} (hinv : Inv s) (h : step s .dequeue = some s') : Inv s' := by
  obtain ⟨target, batch, htx, ⟨-, rfl⟩ | ⟨r, queue, hdeq, rfl⟩⟩ := step_dequeue h
  · have hoffered := hinv.offered
    have hupdated := hinv.updated
    have hpending := hinv.pending
    rw [htx] at hoffered hupdated hpending
    refine ⟨hinv.queue, hinv.ascending, hinv.origin, hinv.last, ?_, ?_, ?_⟩
    · show (s.accepted ++ (afterDequeue batch).held).Sublist s.dequeued
      rw [held_afterDequeue]
      exact hoffered
    · show (_ ++ (afterDequeue batch).awaiting.map _).Sublist _
      rw [awaiting_afterDequeue]
      exact hupdated
    · show (afterDequeue batch).pending.Sublist s.dequeued
      rw [pending_afterDequeue]
      exact hpending
  · obtain ⟨hqueue, hitems⟩ := dequeue_items hinv.queue hdeq
    -- the first request of the queue becomes the last of the batch
    have hsplit : s.dequeued ++ [r] ++ queue.items = s.dequeued ++ s.queue.items := by
      rw [hitems, List.append_assoc]
      rfl
    have hoffered := hinv.offered
    have hupdated := hinv.updated
    have hpending := hinv.pending
    rw [htx] at hoffered hupdated hpending
    constructor
    · exact hqueue
    · show ((s.dequeued ++ [r] ++ queue.items).map _ ++ _).Pairwise _
      rw [hsplit]
      exact hinv.ascending
    · show ∀ r' ∈ s.dequeued ++ [r] ++ queue.items, _
      rw [hsplit]
      exact hinv.origin
    · exact hinv.last
    · show (s.accepted ++ _).Sublist (s.dequeued ++ [r])
      rw [held_growing, ← List.append_assoc]
      exact hoffered.append (List.Sublist.refl _)
    · show (s.appTx.map Prod.fst ++ _).Sublist ((s.dequeued ++ [r]).map (·.packet))
      rw [awaiting_growing, List.map_append, List.map_append, ← List.append_assoc]
      exact hupdated.append (List.Sublist.refl _)
    · show List.Sublist _ (s.dequeued ++ [r])
      rw [pending_growing]
      exact hpending.append (List.Sublist.refl _)

theorem sendmmsg_inv {s s' : State} {clock : Nat → Timespec} {result : SendResult} (hinv : Inv s)
    (h : step s (.sendmmsg clock result) = some s') : Inv s' := by
  obtain ⟨batch, htx, hcases⟩ := step_sendmmsg h
  have hoffered := hinv.offered
  have hupdated := hinv.updated
  have hpending := hinv.pending
  rw [htx] at hoffered hupdated hpending
  have hnothing : s.accepted.Sublist s.dequeued := (List.sublist_append_left _ _).trans hoffered
  have hids : (s.appTx.map Prod.fst).Sublist (s.dequeued.map (·.packet)) :=
    (List.sublist_append_left _ _).trans hupdated
  rcases hcases with ⟨n, -, -, rfl⟩ | ⟨-, rfl⟩ | ⟨-, rfl⟩
  · -- the first `n` requests of the batch are sent
    have htake : (batch.take n).Sublist batch := List.take_sublist n batch
    refine ⟨hinv.queue, hinv.ascending, hinv.origin, hinv.last, ?_, ?_, ?_⟩
    · show (s.accepted ++ batch.take n ++ (afterCorrelate _).held).Sublist s.dequeued
      rw [held_afterCorrelate, List.append_nil]
      exact ((List.Sublist.refl _).append htake).trans hoffered
    · show (_ ++ (afterCorrelate _).awaiting.map _).Sublist _
      rw [awaiting_afterCorrelate, map_fst_sentRequests]
      exact ((List.Sublist.refl _).append (htake.map _)).trans hupdated
    · show (afterCorrelate _).pending.Sublist s.dequeued
      rw [pending_afterCorrelate, map_fst_sentRequests]
      exact htake.trans hpending
  · exact ⟨hinv.queue, hinv.ascending, hinv.origin, hinv.last, by simpa [TxThread.held] using hnothing,
      by simpa [TxThread.awaiting] using hids, List.nil_sublist _⟩
  · exact ⟨hinv.queue, hinv.ascending, hinv.origin, hinv.last, hoffered,
      by simpa [TxThread.awaiting] using hids, hpending⟩

/-- The loop that sends one by one goes on with the rest of the batch. -/
theorem Inv.fallback {s : State} (hinv : Inv s) (accepted rejected rest : List ReturnPacketRequest)
    (k : Nat) (hoffered : (accepted ++ rest).Sublist s.dequeued) :
    Inv (afterFallback { s with accepted := accepted, rejected := rejected } rest k) := by
  have hheld := held_afterFallback { s with accepted := accepted, rejected := rejected } rest k
  have hawaiting := awaiting_afterFallback { s with accepted := accepted, rejected := rejected } rest k
  have hpending := pending_afterFallback { s with accepted := accepted, rejected := rejected } rest k
  obtain ⟨tx, sent, heq⟩ :=
    afterFallback_eq { s with accepted := accepted, rejected := rejected } rest k
  rw [heq] at hheld hawaiting hpending ⊢
  refine ⟨hinv.queue, hinv.ascending, hinv.origin, hinv.last, ?_, ?_, ?_⟩
  · rw [hheld]
    exact hoffered
  · rw [hawaiting, List.map_nil, List.append_nil]
    exact (List.sublist_append_left _ _).trans hinv.updated
  · rw [hpending]
    exact (List.sublist_append_right _ _).trans hoffered

theorem sendto_inv {s s' : State} {result : SendResult} (hinv : Inv s)
    (h : step s (.sendto result) = some s') : Inv s' := by
  obtain ⟨r, rest, n, htx, hcases⟩ := step_sendto h
  have hoffered := hinv.offered
  rw [htx] at hoffered
  have hskip : (s.accepted ++ rest).Sublist s.dequeued :=
    ((List.Sublist.refl _).append (List.sublist_cons_self r rest)).trans hoffered
  rcases hcases with ⟨k, -, hk, rfl⟩ | ⟨-, rfl⟩ | ⟨-, rfl⟩
  · apply hinv.fallback
    have htake : ([r].take k ++ rest).Sublist (r :: rest) :=
      (List.take_sublist k [r]).append (List.Sublist.refl rest)
    rw [List.append_assoc]
    exact ((List.Sublist.refl _).append htake).trans hoffered
  · exact hinv.fallback s.accepted s.rejected rest n hskip
  · exact hinv.fallback s.accepted _ rest n hskip

/-- Every step keeps the invariant. -/
theorem step_inv {s s' : State} {l : Label} (hinv : Inv s) (h : step s l = some s') : Inv s' := by
  cases l with
  | receive p => exact receive_inv hinv h
  | store =>
    obtain ⟨p, hrcv, rfl⟩ := step_store h
    exact { hinv with last := fun q hq => hinv.last q (by rw [hrcv]; exact hq) }
  | createStats =>
    obtain ⟨p, hrcv, rfl⟩ := step_createStats h
    exact { hinv with last := fun q hq => hinv.last q (by rw [hrcv]; exact hq) }
  | updateRx =>
    -- the loop of the receive thread is at its end, and waits for the next packet
    obtain ⟨p, hrcv, rfl⟩ := step_updateRx h
    exact { hinv with last := fun q hq => by simp [Receiver.packet] at hq }
  | readDepth =>
    obtain ⟨htx, rfl⟩ := step_readDepth h
    have hoffered := hinv.offered
    have hupdated := hinv.updated
    rw [htx] at hoffered hupdated
    exact ⟨hinv.queue, hinv.ascending, hinv.origin, hinv.last, hoffered, hupdated,
      List.nil_sublist _⟩
  | dequeue => exact dequeue_inv hinv h
  | sendmmsg clock result => exact sendmmsg_inv hinv h
  | updateAppTx =>
    obtain ⟨r, t, rest, htx, rfl⟩ := step_updateAppTx h
    have hoffered := hinv.offered
    have hupdated := hinv.updated
    have hpending := hinv.pending
    rw [htx] at hoffered hupdated hpending
    refine ⟨hinv.queue, hinv.ascending, hinv.origin, hinv.last, hoffered, ?_, hpending⟩
    simpa [TxThread.awaiting] using hupdated
  | logRow =>
    -- with its row the request leaves the batch
    obtain ⟨r, t, rest, htx, rfl⟩ := step_logRow h
    have hoffered := hinv.offered
    have hupdated := hinv.updated
    have hpending := hinv.pending
    rw [htx] at hoffered hupdated hpending
    refine ⟨hinv.queue, hinv.ascending, hinv.origin, hinv.last, ?_, ?_, ?_⟩
    · show (s.accepted ++ (afterCorrelate rest).held).Sublist s.dequeued
      rw [held_afterCorrelate]
      exact hoffered
    · show (_ ++ (afterCorrelate rest).awaiting.map _).Sublist _
      rw [awaiting_afterCorrelate]
      exact hupdated
    · show (afterCorrelate rest).pending.Sublist s.dequeued
      rw [pending_afterCorrelate]
      exact (List.sublist_cons_self _ _).trans hpending
  | sendto result => exact sendto_inv hinv h
  | txTimestamp msg =>
    simp only [step, Option.some.injEq] at h
    subst h
    exact { hinv with }
  | stop =>
    simp only [step, Option.some.injEq] at h
    subst h
    exact { hinv with }
  | exit =>
    -- a thread that ends holds nothing
    obtain ⟨htx, rfl⟩ := step_exit h
    have hoffered := hinv.offered
    have hupdated := hinv.updated
    rw [htx] at hoffered hupdated
    exact ⟨hinv.queue, hinv.ascending, hinv.origin, hinv.last, hoffered, hupdated,
      List.nil_sublist _⟩

theorem inv_of_exec {stats : StatsCollector} {requests : UInt32 → ReturnPacketRequest}
    {ls : List Label} {s : State} (h : Run.exec step (State.init stats requests) ls = some s) :
    Inv s :=
  Run.invariant (fun _ _ _ hinv hl => step_inv hinv hl) (inv_init stats requests) h

/-- Every return packet starts like a received packet and goes to its source. -/
theorem returnMessage_of_received {s : State} (hinv : Inv s) {r : ReturnPacketRequest}
    (hr : r ∈ s.accepted) :
    ∃ p ∈ s.received, (returnMessage r).1 = p.data.take 4 ∧ (returnMessage r).2.1 = p.srcIp := by
  have hdeq : r ∈ s.dequeued := hinv.offered.subset (List.mem_append_left _ hr)
  obtain ⟨p, hp, hreq⟩ := hinv.origin r (List.mem_append_left _ hdeq)
  refine ⟨p, List.mem_of_getElem? hp, ?_, ?_⟩
  · rw [hreq]
    show (p.data.take 8).take 4 = p.data.take 4
    rw [List.take_take]
    rfl
  · rw [hreq]
    rfl

/-! ## Nothing is dropped -/

/-- Every dequeued request was accepted, was rejected with an error of its own,
or is still held. -/
def Accounted (s : State) : Prop :=
  ∀ r ∈ s.dequeued, r ∈ s.accepted ∨ r ∈ s.rejected ∨ r ∈ s.tx.held

/-- No dequeued request is lost, none is sent twice, and they leave in the order of
the queue. -/
structure NotDropped (s : State) : Prop where
  accounted : Accounted s
  sent_once : (s.accepted.map (·.packet)).Nodup
  fifo : (s.accepted.map (·.packet)).Pairwise (· < ·)

/-- The kernel takes the whole batch or answers with an error other than
`EAGAIN`, and takes or rejects each packet that is sent alone. -/
def WholeSends (s : State) : Label → Prop
  | .sendmmsg _ (.sent n) => n = s.tx.held.length
  | .sendmmsg _ .again => False
  | .sendto (.sent n) => n = 1
  | .sendto .again => False
  | _ => True

instance (s : State) : (l : Label) → Decidable (WholeSends s l)
  | .sendmmsg _ (.sent n) => inferInstanceAs (Decidable (n = s.tx.held.length))
  | .sendto (.sent n) => inferInstanceAs (Decidable (n = 1))
  | .sendmmsg _ .again | .sendto .again => .isFalse id
  | .sendmmsg _ .failed | .sendto .failed => .isTrue trivial
  | .receive _ | .store | .createStats | .updateRx | .readDepth | .dequeue | .updateAppTx | .logRow
  | .txTimestamp _ | .stop | .exit => .isTrue trivial

/-- The loop that sends one by one accounts for its packet. -/
theorem accounted_afterFallback {s t : State} {r : ReturnPacketRequest}
    {rest : List ReturnPacketRequest} (k : Nat) (hdeq : t.dequeued = s.dequeued)
    (hacc : ∀ q ∈ s.accepted, q ∈ t.accepted) (hrej : ∀ q ∈ s.rejected, q ∈ t.rejected)
    (hr : r ∈ t.accepted ∨ r ∈ t.rejected) (hheld : s.tx.held = r :: rest) (h : Accounted s) :
    Accounted (afterFallback t rest k) := by
  have hrest := held_afterFallback t rest k
  obtain ⟨tx, sent, heq⟩ := afterFallback_eq t rest k
  rw [heq] at hrest ⊢
  intro q hq
  rw [hrest]
  change q ∈ t.dequeued at hq
  rw [hdeq] at hq
  -- of the requests taken from the queue only `r` leaves the batch here
  rcases h q hq with hq | hq | hq
  · exact Or.inl (hacc q hq)
  · exact Or.inr (Or.inl (hrej q hq))
  · rw [hheld] at hq
    rcases List.mem_cons.mp hq with rfl | hq
    · exact hr.imp_right Or.inl
    · exact Or.inr (Or.inr hq)

theorem Accounted.congr {s s' : State} (h : Accounted s) (hdeq : s'.dequeued = s.dequeued)
    (hacc : s'.accepted = s.accepted) (hrej : s'.rejected = s.rejected)
    (hheld : s'.tx.held = s.tx.held) : Accounted s' := by
  intro r hr
  rw [hdeq] at hr
  rw [hacc, hrej, hheld]
  exact h r hr

section Accounted

variable {s s' : State} (h : Accounted s)
include h

theorem dequeue_accounted (hl : step s .dequeue = some s') : Accounted s' := by
  obtain ⟨target, batch, htx, ⟨-, rfl⟩ | ⟨r, queue, -, rfl⟩⟩ := step_dequeue hl
  · refine h.congr rfl rfl rfl ?_
    show (afterDequeue batch).held = _
    rw [held_afterDequeue, htx]
    rfl
  · -- the new request is held
    intro q hq
    show q ∈ s.accepted ∨ q ∈ s.rejected ∨ q ∈ TxThread.held _
    rw [held_growing]
    rcases List.mem_append.mp hq with hq | hq
    · have := h q hq
      rw [htx] at this
      exact this.imp_right (Or.imp_right (List.mem_append_left _))
    · exact Or.inr (Or.inr (List.mem_append_right _ hq))

theorem sendmmsg_accounted {clock : Nat → Timespec} {result : SendResult}
    (hcond : WholeSends s (.sendmmsg clock result))
    (hl : step s (.sendmmsg clock result) = some s') : Accounted s' := by
  obtain ⟨batch, htx, ⟨n, rfl, hn, rfl⟩ | ⟨rfl, rfl⟩ | ⟨rfl, rfl⟩⟩ := step_sendmmsg hl
  · -- the whole batch is accepted
    have hwhole : n = s.tx.held.length := hcond
    rw [htx] at hwhole
    intro q hq
    have := h q hq
    rw [htx] at this
    show q ∈ s.accepted ++ batch.take n ∨ _
    rw [hwhole, show (TxThread.sending batch).held = batch from rfl, List.take_length]
    rcases this with hq | hq | hq
    · exact Or.inl (List.mem_append_left _ hq)
    · exact Or.inr (Or.inl hq)
    · exact Or.inl (List.mem_append_right _ hq)
  · exact absurd hcond id
  · exact h.congr rfl rfl rfl (by rw [htx]; rfl)

theorem sendto_accounted {result : SendResult} (hcond : WholeSends s (.sendto result))
    (hl : step s (.sendto result) = some s') : Accounted s' := by
  obtain ⟨r, rest, n, htx, ⟨k, rfl, -, rfl⟩ | ⟨rfl, rfl⟩ | ⟨rfl, rfl⟩⟩ := step_sendto hl
  · obtain rfl : k = 1 := hcond
    refine accounted_afterFallback (s := s) (r := r) _ rfl ?_ (fun _ hq => hq) ?_
      (by rw [htx]; rfl) h
    · exact fun q hq => List.mem_append_left _ hq
    · exact Or.inl (List.mem_append_right _ (List.mem_singleton_self _))
  · exact absurd hcond id
  · refine accounted_afterFallback (s := s) (r := r) _ rfl (fun _ hq => hq) ?_ ?_
      (by rw [htx]; rfl) h
    · exact fun q hq => List.mem_append_left _ hq
    · exact Or.inr (List.mem_append_right _ (List.mem_singleton_self _))

/-- A step with a whole send loses nothing. -/
theorem step_accounted {l : Label} (hcond : WholeSends s l) (hl : step s l = some s') :
    Accounted s' := by
  cases l with
  | receive p =>
    obtain ⟨-, rfl⟩ := step_receive hl
    exact h
  | store =>
    obtain ⟨_, -, rfl⟩ := step_store hl
    exact h
  | createStats =>
    obtain ⟨_, -, rfl⟩ := step_createStats hl
    exact h
  | updateRx =>
    obtain ⟨_, -, rfl⟩ := step_updateRx hl
    exact h
  | readDepth =>
    -- the thread held nothing, and its new batch is empty
    obtain ⟨htx, rfl⟩ := step_readDepth hl
    exact h.congr rfl rfl rfl (by rw [htx]; rfl)
  | dequeue => exact dequeue_accounted h hl
  | sendmmsg clock result => exact sendmmsg_accounted h hcond hl
  | updateAppTx =>
    obtain ⟨r, t, rest, htx, rfl⟩ := step_updateAppTx hl
    exact h.congr rfl rfl rfl (by rw [htx]; rfl)
  | logRow =>
    -- what is correlated has been accepted
    obtain ⟨r, t, rest, htx, rfl⟩ := step_logRow hl
    refine h.congr rfl rfl rfl ?_
    show (afterCorrelate rest).held = _
    rw [held_afterCorrelate, htx]
    rfl
  | sendto result => exact sendto_accounted h hcond hl
  | txTimestamp msg =>
    simp only [step, Option.some.injEq] at hl
    subst hl
    exact h
  | stop =>
    simp only [step, Option.some.injEq] at hl
    subst hl
    exact h
  | exit =>
    obtain ⟨htx, rfl⟩ := step_exit hl
    exact h.congr rfl rfl rfl (by rw [htx]; rfl)

end Accounted

/-- Accepted requests are in the order of the queue, in every state. -/
theorem accepted_ascending {s : State} (hinv : Inv s) :
    (s.accepted.map (·.packet)).Pairwise (· < ·) := by
  have hsub : s.accepted.Sublist s.dequeued :=
    (List.sublist_append_left _ _).trans hinv.offered
  exact hinv.dequeued_ascending.sublist (hsub.map _)

/-- In every run whose sends are whole, no return packet is dropped, sent twice
or overtaken. -/
theorem return_packets_not_dropped {stats : StatsCollector}
    {requests : UInt32 → ReturnPacketRequest} {ls : List Label} {s : State}
    (hmeets : Run.Meets step WholeSends (State.init stats requests) ls)
    (hrun : Run.exec step (State.init stats requests) ls = some s) : NotDropped s := by
  have hfifo := accepted_ascending (inv_of_exec hrun)
  refine ⟨?_, hfifo.imp fun h => Nat.ne_of_lt h, hfifo⟩
  refine Run.invariant_of_meets (fun _ _ _ hacc hcond hl => step_accounted hacc hcond hl) ?_
    hmeets hrun
  intro r hr
  exact absurd hr List.not_mem_nil

/-! ## Runs with one packet -/

/-- A packet with a sequence number below 256 and no client RX port. -/
def samplePacket (seq : UInt8) (ip : String) (port : UInt16) : Packet where
  data := [0, 0, 0, seq, 0, 0, 0, 0]
  srcIp := IpText.ofText ip.toList
  srcPort := port
  hwRxTs := ⟨1, 100⟩
  kerRxTs := ⟨1, 200⟩
  appRxTs := ⟨1, 300⟩

/-- A server with a collector of four slots. -/
def sampleState : State :=
  State.init ((createStatsCollector 4 .serverRoundtrip).get rfl)
    fun _ => (samplePacket 0 "10.0.0.1" 40000).request 0

/-- The packet is received completely. -/
def receiveLabels (p : Packet) : List Label := [.receive p, .store, .createStats, .updateRx]

/-- The packet is returned at once. -/
theorem return_packets_not_dropped_one :
    ∃ s, Run.exec step sampleState (receiveLabels (samplePacket 0 "10.0.0.1" 40000) ++
        [.readDepth, .dequeue, .sendmmsg (fun _ => ⟨2, 0⟩) (.sent 1), .updateAppTx, .logRow]) =
        some s ∧ s.dequeued.length = 1 ∧ NotDropped s := by
  have hmeets : Run.Meets step WholeSends sampleState
      (receiveLabels (samplePacket 0 "10.0.0.1" 40000) ++
        [.readDepth, .dequeue, .sendmmsg (fun _ => ⟨2, 0⟩) (.sent 1), .updateAppTx, .logRow]) := by
    decide +kernel
  exact ⟨_, rfl, rfl, return_packets_not_dropped hmeets rfl⟩

/-- The kernel answers `EAGAIN`: the batch of one packet is gone. -/
theorem return_packet_dropped :
    ∃ s, Run.exec step sampleState (receiveLabels (samplePacket 0 "10.0.0.1" 40000) ++
        [.readDepth, .dequeue, .sendmmsg (fun _ => ⟨2, 0⟩) .again]) = some s ∧
      ¬ NotDropped s := by
  refine ⟨_, rfl, ?_⟩
  intro h
  have hlost := h.accounted ((samplePacket 0 "10.0.0.1" 40000).request 0)
    (List.mem_singleton_self _)
  rcases hlost with h | h | h
  · exact absurd h List.not_mem_nil
  · exact absurd h List.not_mem_nil
  · exact absurd h List.not_mem_nil

end TradingLatency.Server
