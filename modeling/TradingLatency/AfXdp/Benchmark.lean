import TradingLatency.AfXdp.TradeMessage
import TradingLatency.Lib.Counts
import TradingLatency.Lib.Run
import Mathlib.Data.List.AList
import Mathlib.Data.UInt

/-!
# The round-trip benchmark (`MarketDataProviderClient.cpp`)

One thread sends trade messages, another one receives what comes back. The sender
enters each trade id with its time into a map before it calls `sendto`; the
receiver marks the entry of a reply and counts its round trip. At the end the
entries without a mark are the lost messages.

When `sendto` fails, the message is not counted as sent, but its entry stays in the
map. `lossAccounted_iff` says that the accounts of the benchmark add up exactly when
no call of `sendto` fails, as long as the 64-bit trade id has not come round to an id
of the map; `meets_newId` says that it takes `2^64` messages for that.

A step is one critical section, one system call or one access to a shared variable.
Times are nanoseconds. The counters are natural numbers: each is bounded by the
number of messages.
-/

namespace TradingLatency.Benchmark

open CText TradeMessage

/-! ## Data model -/

/-- `TradeTimingInfo`. -/
structure TradeTimingInfo where
  sendTime : Nat
  received : Bool
  rttUs : Nat

/-- Where the sender stands: at the head of its loop, before `sendto`, before
`g_total_sent++`, or behind the loop. -/
inductive SenderPc where
  | head
  | sendto
  | count
  | left
deriving DecidableEq

/-- The two threads and their shared variables. What was attempted, what `sendto`
accepted, how often it failed, and the ids of the replies that were handled are
history. -/
structure State where
  running : Bool
  pc : SenderPc
  tradeId : UInt64
  receiverDone : Bool
  timingMap : AList fun _ : UInt64 => TradeTimingInfo
  totalSent : Nat
  totalReceived : Nat
  latencyHistogram : List Nat
  latencyOver10ms : Nat
  attempted : List UInt64
  sentOk : List UInt64
  failed : Nat
  handled : List UInt64

/-- The start of `runBenchmark`. -/
def State.init : State where
  running := true
  pc := .head
  tradeId := 1
  receiverDone := false
  timingMap := ∅
  totalSent := 0
  totalReceived := 0
  latencyHistogram := List.replicate 10000 0
  latencyOver10ms := 0
  attempted := []
  sentOk := []
  failed := 0
  handled := []

/-! ## The receiver -/

/-- The branch of `processReceivedMessage` for an entry that is not marked yet. -/
def State.reply (s : State) (tradeId : UInt64) (info : TradeTimingInfo) (recvTime : Nat) : State :=
  let rtt := (recvTime - info.sendTime) / 1000
  { s with
    timingMap := s.timingMap.insert tradeId { info with received := true, rttUs := rtt }
    latencyHistogram :=
      if rtt < 10000 then s.latencyHistogram.modify rtt (· + 1) else s.latencyHistogram
    latencyOver10ms := if rtt < 10000 then s.latencyOver10ms else s.latencyOver10ms + 1
    totalReceived := s.totalReceived + 1
    handled := s.handled ++ [tradeId] }

/-- `processReceivedMessage`; `none` for a reply from before its message was sent. -/
def State.processReceivedMessage (s : State) (tradeId : UInt64) (recvTime : Nat) : Option State :=
  match s.timingMap.lookup tradeId with
  | none => some s
  | some info =>
      if info.received then some s
      else if recvTime < info.sendTime then none
      else some (s.reply tradeId info recvTime)

/-! ## Steps -/

/-- The steps of the two threads, and the signal handler. -/
inductive Label where
  | record (sendTime : Nat)
  | sendto (ok : Bool)
  | count
  | leave
  | receive (datagram : Text) (recvTime : Nat)
  | exit
  | signal
deriving DecidableEq

/-- One step, for a benchmark of `total_messages` messages. -/
def step (totalMessages : UInt64) (s : State) : Label → Option State
  | .record sendTime =>
      if s.pc = .head ∧ s.tradeId ≤ totalMessages ∧ s.running = true then
        some { s with
          pc := .sendto
          timingMap := s.timingMap.insert s.tradeId ⟨sendTime, false, 0⟩
          attempted := s.attempted ++ [s.tradeId] }
      else none
  | .sendto ok =>
      if s.pc = .sendto then
        if ok then some { s with pc := .count, sentOk := s.sentOk ++ [s.tradeId] }
        else some { s with pc := .head, tradeId := s.tradeId + 1, failed := s.failed + 1 }
      else none
  | .count =>
      if s.pc = .count then
        some { s with pc := .head, tradeId := s.tradeId + 1, totalSent := s.totalSent + 1 }
      else none
  | .leave =>
      -- behind the loop the sender waits and stops the receiver
      if s.pc = .head ∧ ¬ (s.tradeId ≤ totalMessages ∧ s.running = true) then
        some { s with pc := .left, running := false }
      else none
  | .receive datagram recvTime =>
      if s.receiverDone then none
      else
        let tradeId := extractTradeId datagram
        if 0 < tradeId then s.processReceivedMessage tradeId recvTime else some s
  | .exit => if s.running then none else some { s with receiverDone := true }
  | .signal => some { s with running := false }

/-! ## Statement -/

/-- `calculateStatistics` runs: the sender has left its loop and joined the receiver. -/
def State.Finished (s : State) : Prop := s.pc = .left ∧ s.receiverDone = true

/-- `lost` of `calculateStatistics`. -/
def State.lost (s : State) : Nat := s.timingMap.entries.countP fun entry => !entry.2.received

/-- The accounts: every message that was sent is received or lost, the lost ones are
the sent ones without a reply, and the histogram has every reply. -/
structure LossAccounted (s : State) : Prop where
  total : s.totalReceived + s.lost = s.totalSent
  lost : s.lost = s.sentOk.countP fun tradeId => decide (tradeId ∉ s.handled)
  histogram : s.latencyHistogram.sum + s.latencyOver10ms = s.totalReceived

/-! ## What a step does -/

section Inversion

variable {totalMessages : UInt64} {s s' : State}

theorem step_record {sendTime : Nat} (h : step totalMessages s (.record sendTime) = some s') :
    s.pc = .head ∧ s' = { s with
      pc := .sendto
      timingMap := s.timingMap.insert s.tradeId ⟨sendTime, false, 0⟩
      attempted := s.attempted ++ [s.tradeId] } := by
  simp only [step] at h
  split at h
  · rename_i hguard
    exact ⟨hguard.1, (Option.some.inj h).symm⟩
  · cases h

theorem step_sendto {ok : Bool} (h : step totalMessages s (.sendto ok) = some s') :
    s.pc = .sendto ∧ s' =
      if ok then { s with pc := .count, sentOk := s.sentOk ++ [s.tradeId] }
      else { s with pc := .head, tradeId := s.tradeId + 1, failed := s.failed + 1 } := by
  simp only [step] at h
  split at h
  · rename_i hpc
    refine ⟨hpc, ?_⟩
    cases ok <;> exact (Option.some.inj h).symm
  · cases h

theorem step_count (h : step totalMessages s .count = some s') :
    s.pc = .count ∧
      s' = { s with pc := .head, tradeId := s.tradeId + 1, totalSent := s.totalSent + 1 } := by
  simp only [step] at h
  split at h
  · rename_i hpc
    exact ⟨hpc, (Option.some.inj h).symm⟩
  · cases h

theorem step_leave (h : step totalMessages s .leave = some s') :
    s.pc = .head ∧ s' = { s with pc := .left, running := false } := by
  simp only [step] at h
  split at h
  · rename_i hguard
    exact ⟨hguard.1, (Option.some.inj h).symm⟩
  · cases h

/-- A datagram is ignored, or it is the first reply to an entry of the map. -/
theorem step_receive {datagram : Text} {recvTime : Nat}
    (h : step totalMessages s (.receive datagram recvTime) = some s') :
    s' = s ∨ ∃ tradeId info, s.timingMap.lookup tradeId = some info ∧ info.received = false ∧
      s' = s.reply tradeId info recvTime := by
  simp only [step] at h
  split at h
  · -- a receiver that has left its loop reads nothing
    cases h
  · split at h
    · unfold State.processReceivedMessage at h
      -- an id without an entry in the map is ignored
      split at h
      · exact Or.inl (Option.some.inj h).symm
      · rename_i info hinfo
        -- so is one whose entry is marked already
        split at h
        · exact Or.inl (Option.some.inj h).symm
        · rename_i hreceived
          -- `rtt` is only formed for a reply that is not older than its message
          split at h
          · cases h
          · exact Or.inr ⟨_, info, hinfo, by simpa using hreceived, (Option.some.inj h).symm⟩
    · exact Or.inl (Option.some.inj h).symm

theorem step_exit (h : step totalMessages s .exit = some s') :
    s' = { s with receiverDone := true } := by
  simp only [step] at h
  split at h
  · cases h
  · exact (Option.some.inj h).symm

end Inversion

/-! ## The sender -/

/-- The message that is entered, before its `sendto`. -/
def SenderPc.recorded : SenderPc → Nat
  | .sendto => 1
  | _ => 0

/-- The message that `sendto` has accepted, before it is counted. -/
def SenderPc.accepted : SenderPc → Nat
  | .count => 1
  | _ => 0

/-- The accounts of the sender: it attempts the trade ids from one on, and each attempt
is accepted, has failed, or stands before its `sendto`. -/
structure SenderOk (s : State) : Prop where
  ids : s.attempted = (List.range s.attempted.length).map fun k => UInt64.ofNat (k + 1)
  next : s.tradeId = UInt64.ofNat (s.attempted.length + 1 - (s.pc.recorded + s.pc.accepted))
  attempts : s.attempted.length = s.sentOk.length + s.failed + s.pc.recorded
  counted : s.sentOk.length = s.totalSent + s.pc.accepted
  sent : s.failed = 0 → s.attempted = s.sentOk ++ List.replicate s.pc.recorded s.tradeId

theorem senderOk_init : SenderOk .init := ⟨rfl, rfl, rfl, rfl, fun _ => rfl⟩

section Sender

variable {totalMessages : UInt64} {s s' : State} {l : Label}

theorem step_senderOk (hs : SenderOk s) (hl : step totalMessages s l = some s') : SenderOk s' := by
  rcases hs with ⟨hids, hnext, hattempts, hcounted, hsent⟩
  cases l with
  | record sendTime =>
    rcases step_record hl with ⟨hpc, rfl⟩
    rw [hpc] at hnext hattempts hcounted hsent
    refine ⟨?_, ?_, ?_, hcounted, ?_⟩
    · simp only [List.length_append, List.length_singleton, List.range_succ, List.map_append,
        List.map_singleton, ← hids]
      rw [hnext]
      rfl
    · simp only [List.length_append, List.length_singleton]
      exact hnext
    · simp only [List.length_append, List.length_singleton, hattempts, SenderPc.recorded]
    · intro hfailed
      simp only [hsent hfailed, SenderPc.recorded, List.replicate_zero, List.append_nil]
      rfl
  | sendto ok =>
    rcases step_sendto hl with ⟨hpc, rfl⟩
    rw [hpc] at hnext hattempts hcounted hsent
    cases ok with
    | true =>
      -- the id stays where it is until the counter is raised
      refine ⟨hids, hnext, ?_, ?_, ?_⟩
      · simp only [if_true, List.length_append, List.length_singleton, SenderPc.recorded]
          at hattempts ⊢
        omega
      · simp only [if_true, List.length_append, List.length_singleton, hcounted,
          SenderPc.accepted]
      · intro hfailed
        exact (hsent hfailed).trans (List.append_nil _).symm
    | false =>
      refine ⟨hids, ?_, ?_, hcounted, ?_⟩
      · -- `continue` goes to the next id, but the entry of the failed one stays in the map
        exact (congrArg (· + 1) hnext).trans (UInt64.ofNat_add _ 1).symm
      · show s.attempted.length = s.sentOk.length + (s.failed + 1) + 0
        rw [hattempts]
        rfl
      · intro hfailed
        -- the list of the sent ids is only promised while nothing has failed
        exact absurd hfailed (Nat.succ_ne_zero _)
  | count =>
    rcases step_count hl with ⟨hpc, rfl⟩
    rw [hpc] at hnext hattempts hcounted hsent
    exact ⟨hids, (congrArg (· + 1) hnext).trans (UInt64.ofNat_add _ 1).symm, hattempts, hcounted,
      hsent⟩
  | leave =>
    rcases step_leave hl with ⟨hpc, rfl⟩
    rw [hpc] at hnext hattempts hcounted hsent
    exact ⟨hids, hnext, hattempts, hcounted, hsent⟩
  | receive datagram recvTime =>
    rcases step_receive hl with rfl | ⟨tradeId, info, -, -, rfl⟩
    · exact ⟨hids, hnext, hattempts, hcounted, hsent⟩
    · exact ⟨hids, hnext, hattempts, hcounted, hsent⟩
  | exit =>
    rcases step_exit hl with rfl
    exact ⟨hids, hnext, hattempts, hcounted, hsent⟩
  | signal =>
    cases hl
    exact ⟨hids, hnext, hattempts, hcounted, hsent⟩

/-- Fewer than `2^64` trade ids do not repeat. -/
theorem SenderOk.nodup (hs : SenderOk s) (hfew : s.attempted.length < 2 ^ 64) :
    s.attempted.Nodup := by
  rw [hs.ids]
  refine List.Nodup.map_on ?_ List.nodup_range
  intro j hj k hk heq
  rw [List.mem_range] at hj hk
  have hval := congrArg UInt64.toNat heq
  rw [UInt64.toNat_ofNat_of_lt' (show j + 1 < 2 ^ 64 by omega),
    UInt64.toNat_ofNat_of_lt' (show k + 1 < 2 ^ 64 by omega)] at hval
  omega

/-- Attempts are never taken back. -/
theorem step_attempted (hl : step totalMessages s l = some s') :
    s.attempted.length ≤ s'.attempted.length := by
  cases l with
  | record sendTime =>
    rcases step_record hl with ⟨-, rfl⟩
    simp
  | sendto ok =>
    rcases step_sendto hl with ⟨-, rfl⟩
    cases ok <;> exact Nat.le_refl _
  | count =>
    rcases step_count hl with ⟨-, rfl⟩
    exact Nat.le_refl _
  | leave =>
    rcases step_leave hl with ⟨-, rfl⟩
    exact Nat.le_refl _
  | receive datagram recvTime =>
    rcases step_receive hl with rfl | ⟨tradeId, info, -, -, rfl⟩
    · exact Nat.le_refl _
    · exact Nat.le_refl _
  | exit =>
    rcases step_exit hl with rfl
    exact Nat.le_refl _
  | signal =>
    cases hl
    exact Nat.le_refl _

end Sender

/-! ## The receiver -/

/-- The id of a new message is not in the map yet: the 64-bit counter has not come
round to an id that is in use. -/
def NewId (s : State) : Label → Prop
  | .record _ => s.tradeId ∉ s.timingMap
  | _ => True

/-- The accounts of the receiver: the map has the attempted ids, the marked entries are
the handled ones, and each was counted once. -/
structure ReceiverOk (s : State) : Prop where
  keys : ∀ tradeId, tradeId ∈ s.timingMap ↔ tradeId ∈ s.attempted
  nodup : s.attempted.Nodup
  marks : ∀ tradeId info, s.timingMap.lookup tradeId = some info →
    (info.received = true ↔ tradeId ∈ s.handled)
  once : s.handled.Nodup
  known : s.handled ⊆ s.attempted
  received : s.totalReceived = s.handled.length
  buckets : s.latencyHistogram.length = 10000
  histogram : s.latencyHistogram.sum + s.latencyOver10ms = s.totalReceived

theorem receiverOk_init : ReceiverOk .init where
  keys tradeId := by
    constructor
    · intro h
      exact absurd h (AList.notMem_empty tradeId)
    · intro h
      exact absurd h List.not_mem_nil
  nodup := List.nodup_nil
  marks tradeId info h := by cases (AList.lookup_empty tradeId).symm.trans h
  once := List.nodup_nil
  known := List.nil_subset _
  received := rfl
  buckets := List.length_replicate
  -- 10000 empty buckets
  histogram := by
    have hzero : State.init.latencyHistogram = List.replicate 10000 0 := rfl
    rw [hzero, List.sum_replicate_nat]
    rfl

section Receiver

variable {totalMessages : UInt64} {s s' : State} {l : Label}

/-- What the receiver keeps its accounts of has not changed. -/
theorem ReceiverOk.frame (hs : ReceiverOk s) (hmap : s'.timingMap = s.timingMap)
    (hattempted : s'.attempted = s.attempted) (hhandled : s'.handled = s.handled)
    (hreceived : s'.totalReceived = s.totalReceived)
    (hhistogram : s'.latencyHistogram = s.latencyHistogram)
    (hover : s'.latencyOver10ms = s.latencyOver10ms) : ReceiverOk s' := by
  rcases hs with ⟨hkeys, hnodup, hmarks, honce, hknown, hcount, hbuckets, hsum⟩
  rw [← hmap, ← hattempted] at hkeys
  rw [← hmap, ← hhandled] at hmarks
  rw [← hattempted] at hnodup
  rw [← hhandled] at honce
  rw [← hhandled, ← hattempted] at hknown
  rw [← hreceived, ← hhandled] at hcount
  rw [← hhistogram] at hbuckets
  rw [← hhistogram, ← hover, ← hreceived] at hsum
  exact ⟨hkeys, hnodup, hmarks, honce, hknown, hcount, hbuckets, hsum⟩

theorem ReceiverOk.record {sendTime : Nat} {pc : SenderPc} (hs : ReceiverOk s)
    (hnew : s.tradeId ∉ s.timingMap) :
    ReceiverOk { s with
      pc := pc
      timingMap := s.timingMap.insert s.tradeId ⟨sendTime, false, 0⟩
      attempted := s.attempted ++ [s.tradeId] } where
  keys tradeId := by
    rw [AList.mem_insert, hs.keys, List.mem_append, List.mem_singleton, or_comm]
  nodup := by
    have hnotMem : s.tradeId ∉ s.attempted := fun h => hnew ((hs.keys _).mpr h)
    exact List.nodup_append.mpr ⟨hs.nodup, List.nodup_singleton _, by
      intro a ha b hb
      rw [List.mem_singleton] at hb
      rintro rfl
      exact hnotMem (hb ▸ ha)⟩
  marks tradeId info h := by
    by_cases heq : tradeId = s.tradeId
    · -- a new entry has no mark, and its id cannot have been handled
      subst heq
      rw [AList.lookup_insert] at h
      cases h
      have hnotHandled : s.tradeId ∉ s.handled := fun h => hnew ((hs.keys _).mpr (hs.known h))
      simp [hnotHandled]
    · rw [AList.lookup_insert_ne heq] at h
      exact hs.marks tradeId info h
  once := hs.once
  known := fun tradeId h => List.mem_append_left _ (hs.known h)
  received := hs.received
  buckets := hs.buckets
  histogram := hs.histogram

theorem ReceiverOk.reply {tradeId : UInt64} {info : TradeTimingInfo} {recvTime : Nat}
    (hs : ReceiverOk s) (hinfo : s.timingMap.lookup tradeId = some info)
    (hreceived : info.received = false) : ReceiverOk (s.reply tradeId info recvTime) := by
  have hmem : tradeId ∈ s.timingMap := by
    rw [← AList.lookup_isSome, hinfo]
    rfl
  have hnotHandled : tradeId ∉ s.handled := by
    rw [← hs.marks tradeId info hinfo, hreceived]
    exact Bool.false_ne_true
  refine ⟨?_, hs.nodup, ?_, ?_, ?_, ?_, ?_, ?_⟩
  · intro id
    refine (AList.mem_insert _).trans (Iff.trans ?_ (hs.keys id))
    constructor
    · rintro (rfl | h)
      · exact hmem
      · exact h
    · exact Or.inr
  · intro id info' h
    simp only [State.reply, List.mem_append, List.mem_singleton] at h ⊢
    by_cases heq : id = tradeId
    · subst heq
      rw [AList.lookup_insert] at h
      cases h
      simp
    · rw [AList.lookup_insert_ne heq] at h
      rw [hs.marks id info' h]
      simp [heq]
  · exact List.nodup_append.mpr ⟨hs.once, List.nodup_singleton _, by
      intro a ha b hb
      rw [List.mem_singleton] at hb
      rintro rfl
      exact hnotHandled (hb ▸ ha)⟩
  · intro id h
    rcases List.mem_append.mp h with h | h
    · exact hs.known h
    · rw [List.mem_singleton.mp h]
      exact (hs.keys tradeId).mp hmem
  · simp only [State.reply, List.length_append, List.length_singleton, hs.received]
  · simp only [State.reply]
    split
    · rw [List.length_modify, hs.buckets]
    · exact hs.buckets
  · -- a round trip has its bucket, or it took too long
    have hsum := hs.histogram
    simp only [State.reply]
    split
    · rename_i hrtt
      rw [Counts.sum_modify_succ (by rw [hs.buckets]; exact hrtt)]
      omega
    · omega

theorem step_receiverOk (hs : ReceiverOk s) (hnew : NewId s l)
    (hl : step totalMessages s l = some s') : ReceiverOk s' := by
  cases l with
  | record sendTime =>
    rcases step_record hl with ⟨-, rfl⟩
    -- the only step that adds an entry, so the id has to be new
    exact hs.record hnew
  | sendto ok =>
    rcases step_sendto hl with ⟨-, rfl⟩
    cases ok with
    | true => exact hs.frame rfl rfl rfl rfl rfl rfl
    | false => exact hs.frame rfl rfl rfl rfl rfl rfl
  | count =>
    rcases step_count hl with ⟨-, rfl⟩
    exact hs.frame rfl rfl rfl rfl rfl rfl
  | leave =>
    rcases step_leave hl with ⟨-, rfl⟩
    exact hs.frame rfl rfl rfl rfl rfl rfl
  | receive datagram recvTime =>
    -- a datagram without an id, with an unknown one or a second reply changes nothing
    rcases step_receive hl with rfl | ⟨tradeId, info, hinfo, hreceived, rfl⟩
    · exact hs
    · exact hs.reply hinfo hreceived
  | exit =>
    rcases step_exit hl with rfl
    exact hs.frame rfl rfl rfl rfl rfl rfl
  | signal =>
    cases hl
    exact hs.frame rfl rfl rfl rfl rfl rfl

/-- The lost messages are the attempted ones without a handled reply. -/
theorem ReceiverOk.lost_eq (hs : ReceiverOk s) :
    s.lost = s.attempted.countP fun tradeId => decide (tradeId ∉ s.handled) := by
  have hperm : s.timingMap.keys.Perm s.attempted := by
    rw [List.perm_ext_iff_of_nodup s.timingMap.keys_nodup hs.nodup]
    intro tradeId
    rw [← AList.mem_keys]
    exact hs.keys tradeId
  rw [← hperm.countP_eq, AList.keys, List.keys, List.countP_map]
  apply List.countP_congr
  intro entry hentry
  have hmark := hs.marks entry.1 entry.2 (AList.mem_lookup_iff.mpr hentry)
  simp only [Function.comp_apply, decide_eq_true_eq, ← hmark, Bool.not_eq_true, Bool.not_eq_true']

/-- Every attempt is received or lost. -/
theorem ReceiverOk.received_add_lost (hs : ReceiverOk s) :
    s.totalReceived + s.lost = s.attempted.length := by
  rw [hs.received, hs.lost_eq]
  exact Counts.countP_not_mem_add_length hs.nodup hs.once hs.known

end Receiver

/-! ## Whole runs -/

section Runs

variable {totalMessages : UInt64} {s s' : State} {ls : List Label}

/-- A failed `sendto` counts one. -/
def Label.failed (l : Label) : Nat := if l = .sendto false then 1 else 0

theorem step_failed {l : Label} (hl : step totalMessages s l = some s') :
    s'.failed = s.failed + l.failed := by
  cases l with
  | record sendTime =>
    rcases step_record hl with ⟨-, rfl⟩
    rfl
  | sendto ok =>
    rcases step_sendto hl with ⟨-, rfl⟩
    cases ok with
    | true => rfl
    | false => rfl
  | count =>
    rcases step_count hl with ⟨-, rfl⟩
    rfl
  | leave =>
    rcases step_leave hl with ⟨-, rfl⟩
    rfl
  | receive datagram recvTime =>
    rcases step_receive hl with rfl | ⟨tradeId, info, -, -, rfl⟩
    · rfl
    · rfl
  | exit =>
    rcases step_exit hl with rfl
    rfl
  | signal =>
    cases hl
    rfl

/-- No failure is on record when no `sendto` of the run has failed. -/
theorem failed_eq_zero_iff (hrun : Run.exec (step totalMessages) .init ls = some s) :
    s.failed = 0 ↔ Label.sendto false ∉ ls := by
  have hsum : s.failed = 0 + (ls.map Label.failed).sum :=
    -- the failures of the run are its labels `sendto false`, one each
    Run.exec_sum (fun _ _ _ hl => step_failed hl) hrun
  rw [hsum, Nat.zero_add, List.sum_eq_zero_iff_forall_eq_nat]
  simp only [List.mem_map, forall_exists_index, and_imp, forall_apply_eq_imp_iff₂, Label.failed]
  constructor
  · intro hall hmem
    have hone := hall _ hmem
    rw [if_pos rfl] at hone
    cases hone
  · intro hnone l hl
    rw [if_neg]
    rintro rfl
    exact hnone hl

theorem run_senderOk (hrun : Run.exec (step totalMessages) .init ls = some s) : SenderOk s :=
  Run.invariant (fun _ _ _ hs hl => step_senderOk hs hl) senderOk_init hrun

theorem run_receiverOk (hrun : Run.exec (step totalMessages) .init ls = some s)
    (hnew : Run.Meets (step totalMessages) NewId .init ls) : ReceiverOk s :=
  Run.invariant_of_meets (fun _ _ _ hs hnew hl => step_receiverOk hs hnew hl) receiverOk_init hnew
    hrun

/-- Below `2^64` attempts every id is a new one. -/
theorem newId_of_few {l : Label} (hsender : SenderOk s) (hreceiver : ReceiverOk s)
    (hl : step totalMessages s l = some s') (hfew : s'.attempted.length < 2 ^ 64) : NewId s l := by
  cases l with
  | record sendTime =>
    have hnodup : s'.attempted.Nodup := (step_senderOk hsender hl).nodup hfew
    rcases step_record hl with ⟨-, rfl⟩
    intro hmem
    exact (List.nodup_append.mp hnodup).2.2 _ ((hreceiver.keys _).mp hmem) _
      (List.mem_singleton_self _) rfl
  | _ => trivial

theorem meets_newId (hsender : SenderOk s) (hreceiver : ReceiverOk s)
    (hrun : Run.exec (step totalMessages) s ls = some s') (hfew : s'.attempted.length < 2 ^ 64) :
    Run.Meets (step totalMessages) NewId s ls := by
  induction ls generalizing s with
  | nil => trivial
  | cons l ls ih =>
    rcases Run.exec_cons hrun with ⟨t, hl, hls⟩
    have hle : t.attempted.length ≤ s'.attempted.length :=
      Run.invariant (fun _ _ _ hs hl => Nat.le_trans hs (step_attempted hl)) (Nat.le_refl _) hls
    have hnew : NewId s l := newId_of_few hsender hreceiver hl (Nat.lt_of_le_of_lt hle hfew)
    refine ⟨hnew, ?_⟩
    intro t' hl'
    cases hl.symm.trans hl'
    exact ih (step_senderOk hsender hl) (step_receiverOk hreceiver hnew hl) hls

/-- In a run in which no trade id comes round, the accounts add up exactly when no call of
`sendto` fails. -/
theorem lossAccounted_iff (hrun : Run.exec (step totalMessages) .init ls = some s)
    (hdone : s.Finished) (hnew : Run.Meets (step totalMessages) NewId .init ls) :
    LossAccounted s ↔ Label.sendto false ∉ ls := by
  have hsender := run_senderOk hrun
  have hreceiver := run_receiverOk hrun hnew
  have htotal := hreceiver.received_add_lost
  have hattempts := hsender.attempts
  have hcounted := hsender.counted
  have hsent := hsender.sent
  rw [hdone.1] at hattempts hcounted hsent
  rw [← failed_eq_zero_iff hrun]
  constructor
  · intro haccounted
    -- a failed attempt is received or lost as well, but it is not counted as sent
    have hclaim := haccounted.total
    simp only [SenderPc.recorded, SenderPc.accepted] at hattempts hcounted
    omega
  · intro hfailed
    have hall : s.attempted = s.sentOk := (hsent hfailed).trans (List.append_nil _)
    refine ⟨?_, ?_, hreceiver.histogram⟩
    · rw [htotal, hall]
      exact hcounted
    · rw [hreceiver.lost_eq, hall]

end Runs

/-- One message, sent and answered after five microseconds. -/
def oneReply : List Label :=
  [.record 0, .sendto true, .count, .receive (List.replicate 38 'x' ++ "0000000001".toList) 5000,
    .leave, .exit]

theorem lossAccounted_oneReply :
    ∃ s, Run.exec (step 1) .init oneReply = some s ∧ s.totalReceived = 1 ∧ s.Finished ∧
      Run.Meets (step 1) NewId .init oneReply ∧ LossAccounted s := by
  have hrun : Run.exec (step 1) .init oneReply = some _ := rfl
  have hnew := meets_newId senderOk_init receiverOk_init hrun (by decide)
  exact ⟨_, hrun, rfl, ⟨rfl, rfl⟩, hnew, (lossAccounted_iff hrun ⟨rfl, rfl⟩ hnew).mpr (by decide)⟩

/-- One message that the socket did not take: nothing was sent, and one message is lost. -/
theorem lossAccounted_fails_on_error :
    ∃ s, Run.exec (step 1) .init [.record 0, .sendto false, .leave, .exit] = some s ∧
      s.Finished ∧ s.totalSent = 0 ∧ s.totalReceived = 0 ∧ s.lost = 1 ∧ ¬ LossAccounted s := by
  refine ⟨_, rfl, ⟨rfl, rfl⟩, rfl, rfl, rfl, ?_⟩
  intro haccounted
  exact absurd haccounted.total (by decide)

end TradingLatency.Benchmark
