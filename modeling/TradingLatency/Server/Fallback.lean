import TradingLatency.Server.Requests

/-!
# The two send paths of the TX thread (`timestamp_server.c`)

A batch is sent with one `sendmmsg`. If that fails with an error other than
`EAGAIN`, the packets are sent one by one with `sendto`. Both paths count what
the kernel accepts, but only the first one updates the statistics and logs a row
for it. `batch_logs_alike_iff` compares the counter with the two records over all
runs of a batch, from the send to the end of its loop, with any steps of the other
activities in between.
-/

namespace TradingLatency.Server

/-! ## Steps of the other activities -/

/-- The calls of the TX thread. -/
def Label.ofTxThread : Label → Bool
  | .readDepth | .dequeue | .sendmmsg _ _ | .updateAppTx | .logRow | .sendto _ | .exit => true
  | .receive _ | .store | .createStats | .updateRx | .txTimestamp _ | .stop => false

/-- What the TX thread counts and records. -/
structure SameTx (s s' : State) : Prop where
  tx : s'.tx = s.tx
  accepted : s'.accepted = s.accepted
  sent : s'.localPacketsSent = s.localPacketsSent
  appTx : s'.appTx = s.appTx
  mainRows : s'.mainRows = s.mainRows

/-- The other activities leave the TX thread alone. -/
theorem step_other {s s' : State} {l : Label} (h : step s l = some s')
    (hl : l.ofTxThread = false) : SameTx s s' := by
  -- the receiver and the error queue do not touch the TX thread
  cases l with
  | receive p =>
    rcases step_receive h with ⟨-, rfl⟩
    exact ⟨rfl, rfl, rfl, rfl, rfl⟩
  | store =>
    rcases step_store h with ⟨p, -, rfl⟩
    exact ⟨rfl, rfl, rfl, rfl, rfl⟩
  | createStats =>
    rcases step_createStats h with ⟨p, -, rfl⟩
    exact ⟨rfl, rfl, rfl, rfl, rfl⟩
  | updateRx =>
    rcases step_updateRx h with ⟨p, -, rfl⟩
    exact ⟨rfl, rfl, rfl, rfl, rfl⟩
  | txTimestamp msg =>
    cases h
    exact ⟨rfl, rfl, rfl, rfl, rfl⟩
  | stop =>
    cases h
    exact ⟨rfl, rfl, rfl, rfl, rfl⟩
  | readDepth | dequeue | sendmmsg _ _ | updateAppTx | logRow | sendto _ | exit =>
    -- steps of the TX thread itself
    cases hl

/-- The calls that the TX thread can make at each place of its loop. -/
def TxThread.Calls : TxThread → Label → Prop
  | .top, l => l = .readDepth ∨ l = .exit
  | .dequeuing _ _, l => l = .dequeue
  | .sending _, l => ∃ clock result, l = .sendmmsg clock result
  | .correlating _, l => l = .updateAppTx
  | .logging _ _ _, l => l = .logRow
  | .fallback _ _, l => ∃ result, l = .sendto result
  | .done, _ => False

theorem step_calls {s s' : State} {l : Label} (h : step s l = some s')
    (hl : l.ofTxThread = true) : s.tx.Calls l := by
  -- the place of the TX thread names the call that it makes next
  cases l with
  | readDepth =>
    rw [(step_readDepth h).1]
    exact Or.inl rfl
  | exit =>
    rw [(step_exit h).1]
    exact Or.inr rfl
  | dequeue =>
    rcases step_dequeue h with ⟨target, batch, htx, -⟩
    rw [htx]
    rfl
  | sendmmsg clock result =>
    rcases step_sendmmsg h with ⟨batch, htx, -⟩
    rw [htx]
    exact ⟨clock, result, rfl⟩
  | updateAppTx =>
    rcases step_updateAppTx h with ⟨r, time, rest, htx, -⟩
    rw [htx]
    rfl
  | logRow =>
    rcases step_logRow h with ⟨r, time, rest, htx, -⟩
    rw [htx]
    rfl
  | sendto result =>
    rcases step_sendto h with ⟨r, rest, n, htx, -⟩
    rw [htx]
    exact ⟨result, rfl⟩
  | receive _ | store | createStats | updateRx | txTimestamp _ | stop => cases hl

/-- A thread that has ended takes no step. -/
theorem tx_done {s s' : State} {l : Label} (h : step s l = some s') (hdone : s.tx = .done) :
    s'.tx = .done := by
  cases hl : l.ofTxThread with
  | false => rw [(step_other h hl).tx, hdone]
  | true =>
    have hcalls := step_calls h hl
    rw [hdone] at hcalls
    exact hcalls.elim

/-- At the top of its loop the TX thread begins another batch or ends. -/
theorem top_idle {s t s' : State} {l : Label} {ls : List Label} (hstep : step s l = some t)
    (hrest : Run.exec step t ls = some s') (hend : s'.tx = .top) (hbatch : .readDepth ∉ l :: ls)
    (htop : s.tx = .top) : l.ofTxThread = false := by
  by_contra hl
  have hcalls := step_calls hstep (Bool.eq_true_of_not_eq_false hl)
  rw [htop] at hcalls
  rcases hcalls with rfl | rfl
  · exact hbatch List.mem_cons_self
  · rcases step_exit hstep with ⟨-, rfl⟩
    have hdone : s'.tx = .done := Run.invariant (fun _ _ _ hdone hl => tx_done hl hdone) rfl hrest
    rw [hend] at hdone
    cases hdone

/-! ## The records of a batch -/

/-- A row with its packet and sequence number. -/
def rowKey (row : Nat × CsvEntry) : Nat × UInt32 := (row.1, row.2.seqNum)

/-- A request with its packet and sequence number. -/
def requestKey (r : ReturnPacketRequest) : Nat × UInt32 := (r.packet, r.seqNum)

/-- Between the two states the TX thread has counted some packets, and has
updated the statistics of exactly these and given one row for each of them to
`csv_enqueue_fast`, in order. -/
def LogsAlike (s s' : State) : Prop :=
  ∃ sent : List ReturnPacketRequest, s'.accepted = s.accepted ++ sent ∧
    s'.localPacketsSent = s.localPacketsSent + UInt64.ofNat sent.length ∧
    s'.appTx.map (·.1) = s.appTx.map (·.1) ++ sent.map (·.packet) ∧
    s'.mainRows.map rowKey = s.mainRows.map rowKey ++ sent.map requestKey

/-- The requests whose statistics are still to be updated. -/
def TxThread.toUpdate : TxThread → List ReturnPacketRequest
  | .correlating rest => rest.map (·.1)
  | .logging _ _ rest => rest.map (·.1)
  | _ => []

/-- The requests whose row is still to be logged. -/
def TxThread.toLog : TxThread → List ReturnPacketRequest
  | .correlating rest => rest.map (·.1)
  | .logging r _ rest => r :: rest.map (·.1)
  | _ => []

/-- The loop over the sent requests, or the end of it. -/
def TxThread.Correlates : TxThread → Prop
  | .top | .correlating _ | .logging _ _ _ => True
  | _ => False

@[simp] theorem toUpdate_afterCorrelate (rest : List (ReturnPacketRequest × UInt64)) :
    (afterCorrelate rest).toUpdate = rest.map (·.1) := by
  cases rest <;> rfl

@[simp] theorem toLog_afterCorrelate (rest : List (ReturnPacketRequest × UInt64)) :
    (afterCorrelate rest).toLog = rest.map (·.1) := by
  cases rest <;> rfl

theorem correlates_afterCorrelate (rest : List (ReturnPacketRequest × UInt64)) :
    (afterCorrelate rest).Correlates := by
  cases rest <;> trivial

/-- A run of the loop over the sent requests to its end. -/
structure Correlated (s s' : State) (ls : List Label) : Prop where
  accepted : s'.accepted = s.accepted
  sent : s'.localPacketsSent = s.localPacketsSent
  appTx : s'.appTx.map (·.1) = s.appTx.map (·.1) ++ s.tx.toUpdate.map (·.packet)
  mainRows : s'.mainRows.map rowKey = s.mainRows.map rowKey ++ s.tx.toLog.map requestKey
  noSendto : ∀ result, .sendto result ∉ ls

section Correlated

variable {s t s' : State} {ls : List Label}

theorem Correlated.other {l : Label} (h : Correlated t s' ls) (hsame : SameTx s t)
    (hl : l.ofTxThread = false) : Correlated s s' (l :: ls) := by
  refine ⟨?_, ?_, ?_, ?_, ?_⟩
  · rw [h.accepted, hsame.accepted]
  · rw [h.sent, hsame.sent]
  · rw [h.appTx, hsame.appTx, hsame.tx]
  · rw [h.mainRows, hsame.mainRows, hsame.tx]
  · intro result hmem
    rcases List.mem_cons.mp hmem with rfl | hmem
    · cases hl
    · exact h.noSendto result hmem

theorem Correlated.updateAppTx (h : Correlated t s' ls) (hstep : step s .updateAppTx = some t) :
    Correlated s s' (.updateAppTx :: ls) := by
  rcases step_updateAppTx hstep with ⟨r, time, rest, htx, rfl⟩
  refine ⟨h.accepted, h.sent, ?_, ?_, by simpa using h.noSendto⟩
  · rw [h.appTx, htx]
    simp [TxThread.toUpdate]
  · rw [h.mainRows, htx]
    simp [TxThread.toLog]

theorem Correlated.logRow (h : Correlated t s' ls) (hstep : step s .logRow = some t) :
    Correlated s s' (.logRow :: ls) := by
  rcases step_logRow hstep with ⟨r, time, rest, htx, rfl⟩
  refine ⟨h.accepted, h.sent, ?_, ?_, by simpa using h.noSendto⟩
  · have happTx := h.appTx
    simp only [toUpdate_afterCorrelate] at happTx
    rw [happTx, htx]
    rfl
  · have hmain := h.mainRows
    simp only [toLog_afterCorrelate, List.map_append, List.map_cons, List.map_nil,
      List.append_assoc, List.singleton_append] at hmain
    rw [hmain, htx]
    rfl

end Correlated

theorem run_correlates {s s' : State} {ls : List Label} (hrun : Run.exec step s ls = some s')
    (hend : s'.tx = .top) (hbatch : .readDepth ∉ ls) (hs : s.tx.Correlates) :
    Correlated s s' ls := by
  -- induction over the steps behind the `sendmmsg`, from the first place of the correlation loop on
  induction ls generalizing s with
  | nil =>
    cases hrun
    refine ⟨rfl, rfl, ?_, ?_, by simp⟩ <;> simp [hend, TxThread.toUpdate, TxThread.toLog]
  | cons l ls ih =>
    rcases Run.exec_cons hrun with ⟨t, hstep, hrest⟩
    have hbatch' : .readDepth ∉ ls := fun h => hbatch (List.mem_cons_of_mem _ h)
    cases hl : l.ofTxThread with
    | false =>
      -- another thread in between
      have hsame := step_other hstep hl
      exact (ih hrest hbatch' (by rw [hsame.tx]; exact hs)).other hsame hl
    | true =>
      have hcalls := step_calls hstep hl
      cases htx : s.tx with
      | top =>
        -- back at the top before the end: the thread would begin the next batch
        rw [top_idle hstep hrest hend hbatch htx] at hl
        cases hl
      | correlating _ =>
        -- the next update of the statistics
        rw [htx] at hcalls
        cases hcalls
        have ht : t.tx.Correlates := by
          rcases step_updateAppTx hstep with ⟨r, time, rest, -, rfl⟩
          trivial
        exact (ih hrest hbatch' ht).updateAppTx hstep
      | logging _ _ _ =>
        -- the next row
        rw [htx] at hcalls
        cases hcalls
        have ht : t.tx.Correlates := by
          rcases step_logRow hstep with ⟨r, time, rest, -, rfl⟩
          exact correlates_afterCorrelate rest
        exact (ih hrest hbatch' ht).logRow hstep
      | dequeuing _ _ | sending _ | fallback _ _ | done =>
        -- not on the way from a `sendmmsg` to the top
        rw [htx] at hs
        exact hs.elim

/-! ## The loop that sends one by one -/

/-- The loop that sends one by one, or the end of it. -/
def TxThread.FallsBack : TxThread → Prop
  | .top | .fallback _ _ => True
  | _ => False

/-- The packets that the loop has sent and not yet counted. -/
def TxThread.uncounted : TxThread → Nat
  | .fallback _ n => n
  | _ => 0

theorem fallsBack_afterFallback (s : State) (rest : List ReturnPacketRequest) (n : Nat) :
    (afterFallback s rest n).tx.FallsBack := by
  cases rest <;> trivial

/-- A run of the loop that sends one by one to its end: it counts what it has
sent, and records nothing. -/
structure FellBack (s s' : State) (ls : List Label) (sent : List ReturnPacketRequest) : Prop where
  accepted : s'.accepted = s.accepted ++ sent
  counted : s'.localPacketsSent =
    s.localPacketsSent + UInt64.ofNat (s.tx.uncounted + sent.length)
  appTx : s'.appTx = s.appTx
  mainRows : s'.mainRows = s.mainRows
  sent_iff : sent = [] ↔ .sendto (.sent 1) ∉ ls

theorem FellBack.other {s t s' : State} {l : Label} {ls : List Label}
    {sent : List ReturnPacketRequest} (h : FellBack t s' ls sent) (hsame : SameTx s t)
    (hl : l.ofTxThread = false) : FellBack s s' (l :: ls) sent := by
  refine ⟨?_, ?_, ?_, ?_, ?_⟩
  · rw [h.accepted, hsame.accepted]
  · rw [h.counted, hsame.sent, hsame.tx]
  · rw [h.appTx, hsame.appTx]
  · rw [h.mainRows, hsame.mainRows]
  · rw [h.sent_iff, List.mem_cons, not_or]
    refine (and_iff_right ?_).symm
    rintro rfl
    cases hl

/-- One packet of the loop. -/
theorem FellBack.sendto {s t s' : State} {ls : List Label} {r : ReturnPacketRequest}
    {rest : List ReturnPacketRequest} {n k : Nat} {result : SendResult}
    {sent : List ReturnPacketRequest} (h : FellBack (afterFallback t rest (n + k)) s' ls sent)
    (htx : s.tx = .fallback (r :: rest) n)
    (hcount : t.localPacketsSent = s.localPacketsSent)
    (haccepted : t.accepted = s.accepted ++ [r].take k) (hk : k ≤ 1)
    (happTx : t.appTx = s.appTx) (hmain : t.mainRows = s.mainRows)
    (hresult : k = 1 ↔ result = .sent 1) :
    FellBack s s' (.sendto result :: ls) ([r].take k ++ sent) := by
  have hlen : ([r].take k).length = k := by
    rw [List.length_take, List.length_singleton]
    omega
  obtain ⟨tx, count, heq⟩ := afterFallback_eq t rest (n + k)
  refine ⟨?_, ?_, ?_, ?_, ?_⟩
  · rw [h.accepted, heq, ← List.append_assoc, ← haccepted]
  · rw [h.counted, htx, List.length_append, hlen]
    -- behind the last packet `packets_sent` is added to the total
    cases rest with
    | nil =>
      show t.localPacketsSent + UInt64.ofNat (n + k) + UInt64.ofNat (0 + sent.length) = _
      rw [hcount, UInt64.add_assoc, ← UInt64.ofNat_add]
      show _ = s.localPacketsSent + UInt64.ofNat (n + (k + sent.length))
      congr 2
      omega
    | cons q rest =>
      show t.localPacketsSent + UInt64.ofNat (n + k + sent.length) = _
      rw [hcount, Nat.add_assoc]
      rfl
  · rw [h.appTx, heq, ← happTx]
  · rw [h.mainRows, heq, ← hmain]
  · rw [List.append_eq_nil_iff, h.sent_iff, List.mem_cons, not_or]
    refine and_congr_left fun _ => ?_
    rw [← List.length_eq_zero_iff, hlen]
    have hlabel : Label.sendto (.sent 1) = .sendto result ↔ result = .sent 1 := by
      rw [Label.sendto.injEq]
      exact eq_comm
    rw [hlabel, ← hresult]
    omega

theorem run_fallsBack {s s' : State} {ls : List Label} (hrun : Run.exec step s ls = some s')
    (hend : s'.tx = .top) (hbatch : .readDepth ∉ ls) (hs : s.tx.FallsBack) :
    ∃ sent, FellBack s s' ls sent := by
  -- induction over the steps of the fallback loop
  induction ls generalizing s with
  | nil =>
    cases hrun
    refine ⟨[], ?_, ?_, rfl, rfl, by simp⟩
    · rw [List.append_nil]
    · rw [hend]
      exact (UInt64.add_zero _).symm
  | cons l ls ih =>
    rcases Run.exec_cons hrun with ⟨t, hstep, hrest⟩
    have hbatch' : .readDepth ∉ ls := fun h => hbatch (List.mem_cons_of_mem _ h)
    cases hl : l.ofTxThread with
    | false =>
      have hsame := step_other hstep hl
      rcases ih hrest hbatch' (by rw [hsame.tx]; exact hs) with ⟨sent, h⟩
      exact ⟨sent, h.other hsame hl⟩
    | true =>
      have hcalls := step_calls hstep hl
      cases htx : s.tx with
      | top =>
        -- back at the top before the end: the thread would begin the next batch
        rw [top_idle hstep hrest hend hbatch htx] at hl
        cases hl
      | fallback _ _ =>
        rw [htx] at hcalls
        rcases hcalls with ⟨result, rfl⟩
        rcases step_sendto hstep with ⟨r, rest, n, htx, ⟨k, rfl, hk, rfl⟩ | ⟨rfl, rfl⟩ | ⟨rfl, rfl⟩⟩
        · -- the packet was taken
          rcases ih hrest hbatch' (fallsBack_afterFallback _ _ _) with ⟨sent, h⟩
          exact ⟨_, h.sendto htx rfl rfl hk rfl rfl (by simp)⟩
        · -- `EAGAIN`: the packet is skipped
          rcases ih hrest hbatch' (fallsBack_afterFallback _ _ _) with ⟨sent, h⟩
          exact ⟨_, h.sendto (k := 0) htx rfl (by simp) (by omega) rfl rfl (by simp)⟩
        · -- an error: the packet is skipped
          rcases ih hrest hbatch' (fallsBack_afterFallback _ _ _) with ⟨sent, h⟩
          exact ⟨_, h.sendto (k := 0) htx rfl (by simp) (by omega) rfl rfl (by simp)⟩
      | dequeuing _ _ | sending _ | correlating _ | logging _ _ _ | done =>
        rw [htx] at hs
        exact hs.elim

/-! ## A whole batch -/

/-- A run that handles one batch: it starts where the batch is sent, ends at the
top of the loop of the TX thread, and does not begin another batch. -/
structure HandlesBatch (s s' : State) (ls : List Label) : Prop where
  start : ∃ batch, s.tx = .sending batch
  run : Run.exec step s ls = some s'
  finish : s'.tx = .top
  single : .readDepth ∉ ls

theorem logsAlike_congr {s t s' : State} (h : SameTx s t) : LogsAlike t s' ↔ LogsAlike s s' := by
  unfold LogsAlike
  rw [h.accepted, h.sent, h.appTx, h.mainRows]

/-- `sendmmsg` has sent the first `n` packets. -/
theorem logsAlike_sent {s s' : State} {ls : List Label} {batch : List ReturnPacketRequest}
    {clock : Nat → Timespec} {n : Nat} (hn : n ≤ batch.length)
    (h : Correlated { s with
      accepted := s.accepted ++ batch.take n
      localPacketsSent := s.localPacketsSent + UInt64.ofNat n
      tx := afterCorrelate (sentRequests batch clock n) } s' ls) : LogsAlike s s' := by
  have happTx := h.appTx
  have hmain := h.mainRows
  simp only [toUpdate_afterCorrelate, toLog_afterCorrelate] at happTx hmain
  have hsent : (sentRequests batch clock n).map (fun p => p.1) = batch.take n :=
    map_fst_sentRequests batch clock n
  rw [hsent] at happTx hmain
  refine ⟨batch.take n, h.accepted, ?_, happTx, hmain⟩
  rw [h.sent, List.length_take, Nat.min_eq_left hn]

/-- The batch was sent one by one. -/
theorem logsAlike_fellBack {s s' : State} {ls : List Label} {sent : List ReturnPacketRequest}
    {batch : List ReturnPacketRequest}
    (h : FellBack { s with tx := .fallback batch 0 } s' ls sent) :
    LogsAlike s s' ↔ .sendto (.sent 1) ∉ ls := by
  rw [← h.sent_iff]
  constructor
  · rintro ⟨sent', haccepted, -, happTx, -⟩
    -- the packets that were sent alone are in no row and in no entry
    have hsame : sent' = sent := List.append_cancel_left (haccepted.symm.trans h.accepted)
    rw [h.appTx, hsame] at happTx
    have hnil := List.append_right_eq_self.mp happTx.symm
    exact List.map_eq_nil_iff.mp hnil
  · -- without an accepted packet there is nothing to log
    rintro rfl
    refine ⟨[], h.accepted, h.counted, ?_, ?_⟩
    · rw [h.appTx, List.map_nil, List.append_nil]
    · rw [h.mainRows, List.map_nil, List.append_nil]

/-- For every batch and every answer of the kernel, the packets that the TX thread
counts are exactly those whose statistics it updates and whose row it logs if and
only if no packet of the batch was sent with `sendto`. -/
theorem batch_logs_alike_iff {s s' : State} {ls : List Label} (h : HandlesBatch s s' ls) :
    LogsAlike s s' ↔ .sendto (.sent 1) ∉ ls := by
  rcases h with ⟨⟨batch, htx⟩, hrun, hend, hsingle⟩
  induction ls generalizing s with
  | nil =>
    cases hrun
    rw [htx] at hend
    cases hend
  | cons l ls ih =>
    rcases Run.exec_cons hrun with ⟨t, hstep, hrest⟩
    have hsingle' : .readDepth ∉ ls := fun h => hsingle (List.mem_cons_of_mem _ h)
    cases hl : l.ofTxThread with
    | false =>
      have hsame := step_other hstep hl
      rw [← logsAlike_congr hsame, ih hrest hsingle' (hsame.tx.trans htx), List.mem_cons, not_or]
      refine (and_iff_right ?_).symm
      rintro rfl
      cases hl
    | true =>
      have hcalls := step_calls hstep hl
      rw [htx] at hcalls
      rcases hcalls with ⟨clock, result, rfl⟩
      have hcons : .sendto (.sent 1) ∉ Label.sendmmsg clock result :: ls ↔
          .sendto (.sent 1) ∉ ls := by simp
      rw [hcons]
      rcases step_sendmmsg hstep with ⟨batch', htx', hcases⟩
      cases htx.symm.trans htx'
      rcases hcases with ⟨n, -, hn, rfl⟩ | ⟨-, rfl⟩ | ⟨-, rfl⟩
      · have h := run_correlates hrest hend hsingle' (correlates_afterCorrelate _)
        exact iff_of_true (logsAlike_sent hn h) (h.noSendto _)
      · -- `EAGAIN`: nothing was sent
        have h := run_correlates hrest hend hsingle' trivial
        refine iff_of_true ⟨[], ?_, ?_, h.appTx, h.mainRows⟩ (h.noSendto _)
        · rw [h.accepted, List.append_nil]
        · rw [h.sent]
          exact (UInt64.add_zero _).symm
      · rcases run_fallsBack hrest hend hsingle' trivial with ⟨sent, h⟩
        exact logsAlike_fellBack h

/-! ## A batch of one packet -/

/-- The packet has been received and its request dequeued. -/
def sendingLabels : List Label :=
  receiveLabels (samplePacket 0 "10.0.0.1" 40000) ++ [.readDepth, .dequeue]

/-- The packet leaves with `sendmmsg`. -/
def sendmmsgLabels : List Label := [.sendmmsg (fun _ => ⟨2, 0⟩) (.sent 1), .updateAppTx, .logRow]

/-- `sendmmsg` fails and the packet leaves with `sendto`. -/
def sendtoLabels : List Label := [.sendmmsg (fun _ => ⟨2, 0⟩) .failed, .sendto (.sent 1)]

/-- The packet leaves with `sendmmsg`, and is counted, updated and logged. -/
theorem batch_logs_alike_one :
    ∃ s s', Run.exec step sampleState sendingLabels = some s ∧
      HandlesBatch s s' sendmmsgLabels ∧ s'.accepted.length = 1 ∧ LogsAlike s s' := by
  rcases hsending : Run.exec step sampleState sendingLabels with _ | s
  · exact absurd hsending nofun
  rcases hexec : Run.exec step sampleState (sendingLabels ++ sendmmsgLabels) with _ | s'
  · exact absurd hexec nofun
  have hsent : Run.exec step s sendmmsgLabels = some s' := (Run.exec_append hsending).symm.trans hexec
  have hstart : ∃ batch, s.tx = .sending batch := by
    cases hsending
    exact ⟨_, rfl⟩
  have hfinish : s'.tx = .top ∧ s'.accepted.length = 1 := by
    cases hexec
    exact ⟨rfl, rfl⟩
  have hbatch : HandlesBatch s s' sendmmsgLabels :=
    ⟨hstart, hsent, hfinish.1, by simp [sendmmsgLabels]⟩
  refine ⟨s, s', rfl, hbatch, hfinish.2, ?_⟩
  exact (batch_logs_alike_iff hbatch).mpr (by simp [sendmmsgLabels])

/-- `sendmmsg` fails and `sendto` sends the packet: it is counted, but neither
updated nor logged. -/
theorem fallback_not_logged :
    ∃ s s', Run.exec step sampleState sendingLabels = some s ∧ HandlesBatch s s' sendtoLabels ∧
      s'.localPacketsSent = 1 ∧ s'.appTx = [] ∧ s'.mainRows = [] ∧ ¬ LogsAlike s s' := by
  rcases hsending : Run.exec step sampleState sendingLabels with _ | s
  · exact absurd hsending nofun
  rcases hexec : Run.exec step sampleState (sendingLabels ++ sendtoLabels) with _ | s'
  · exact absurd hexec nofun
  have hsent : Run.exec step s sendtoLabels = some s' := (Run.exec_append hsending).symm.trans hexec
  have hstart : (∃ batch, s.tx = .sending batch) ∧ s.accepted = [] := by
    cases hsending
    exact ⟨⟨_, rfl⟩, rfl⟩
  have hfinish : s'.tx = .top ∧ s'.accepted.length = 1 := by
    cases hexec
    exact ⟨rfl, rfl⟩
  have hrecords : s'.localPacketsSent = 1 ∧ s'.appTx = [] ∧ s'.mainRows = [] := by
    cases hexec
    exact ⟨rfl, rfl, rfl⟩
  refine ⟨s, s', rfl, ⟨hstart.1, hsent, hfinish.1, by simp [sendtoLabels]⟩, hrecords.1,
    hrecords.2.1, hrecords.2.2, ?_⟩
  rintro ⟨sent, haccepted, -, happTx, -⟩
  rw [hrecords.2.1] at happTx
  -- the packet of the fallback would need an entry, and there is none
  have hsent : sent = [] := List.map_eq_nil_iff.mp (List.append_eq_nil_iff.mp happTx.symm).2
  rw [haccepted, hstart.2, hsent] at hfinish
  cases hfinish.2

end TradingLatency.Server
