import TradingLatency.AfXdp.TxFrames

/-!
# TX completions (`sendBatch`, `submitTxRing`, `pollTxCompletions`, `close`)

The bookkeeping of an AF_XDP socket about what it has given to the kernel. The
rings appear here as the counts of what has passed each of their ends: entries of
the TX ring are reserved, submitted and taken by the kernel, and entries of the
completion ring are posted by the kernel, peeked and released.

`outstanding_tx_` and `cached_completions_` follow the rings in every run
(`completions_accounted`). `close` looks at another counter of the same name in the
wrapper, which no call ever changes (`close_counts_iff`), so that it never completes
anything (`close_eq_self`).
-/

namespace TradingLatency.AfXdp

/-! ## Data model -/

/-- What has passed the two rings since the socket was made. -/
structure TxRings where
  reserved : Nat
  submitted : Nat
  taken : Nat
  posted : Nat
  peeked : Nat
  released : Nat
deriving DecidableEq

/-- What the accounting uses of an `AFXDPSocket`: whether `wrapper_->xsk` is set,
the counters of the class, and `wrapper_->outstanding_tx`. -/
structure XskSocket where
  rings : TxRings
  bound : Bool
  outstandingTx : UInt32
  cachedCompletions : UInt32
  wrapperOutstandingTx : UInt32
deriving DecidableEq

/-- The constructor of `AFXDPSocket`. -/
def XskSocket.init : XskSocket := ⟨⟨0, 0, 0, 0, 0, 0⟩, false, 0, 0, 0⟩

namespace XskSocket

/-! ## The calls -/

/-- `bind`, when `xsk_socket__create` succeeds. -/
def bind (s : XskSocket) : XskSocket := { s with bound := true }

/-- `xsk_ring_cons__peek` on the completion ring returns `n`. -/
def peek (s : XskSocket) (n : Nat) : XskSocket :=
  { s with rings := { s.rings with peeked := s.rings.peeked + n } }

/-- `xsk_ring_cons__release` on the completion ring. -/
def release (s : XskSocket) (n : Nat) : XskSocket :=
  { s with rings := { s.rings with released := s.rings.released + n } }

/-- `pollTxCompletions`, when the peek returns `newCompletions`. -/
def pollTxCompletions (s : XskSocket) (newCompletions : Nat) : XskSocket :=
  if s.outstandingTx = 0 then s
  else if newCompletions = 0 then s
  else
    let cached := s.cachedCompletions + UInt32.ofNat newCompletions
    let s := { s.peek newCompletions with cachedCompletions := cached }
    if cached < txBatchSize then s
    else { s.release cached.toNat with
      outstandingTx := s.outstandingTx - cached
      cachedCompletions := 0 }

/-- `reserveTxRing`: all or nothing. -/
def reserveTxRing (s : XskSocket) (count : Nat) : Nat × XskSocket :=
  if s.rings.reserved + count ≤ s.rings.taken + txFrames then
    (count, { s with rings := { s.rings with reserved := s.rings.reserved + count } })
  else (0, s)

/-- `submitTxRing`. -/
def submitTxRing (s : XskSocket) (count : Nat) : XskSocket :=
  { s with
    rings := { s.rings with submitted := s.rings.submitted + count }
    outstandingTx := s.outstandingTx + UInt32.ofNat count }

/-- `sendBatch` up to the reservation: the number of descriptors it asks for, or
`none` when it throws or returns 0 before. -/
def sendBatch (s : XskSocket) (offsets lengths : List Int) (batchSize : Int)
    (newCompletions : Nat) : Option Nat × XskSocket :=
  -- a negative size is a huge `size_t`
  if batchSize < 0 ∨ offsets.length < batchSize.toNat ∨ lengths.length < batchSize.toNat then
    (none, s)
  else
    let s := s.pollTxCompletions newCompletions
    if s.outstandingTx > UInt32.ofNat txFrames - txBatchSize then (none, s)
    else
      let batchSize := min batchSize.toNat txBatchSize.toNat
      if batchSize = 0 then (none, s) else (some batchSize, s)

/-- The rest of `sendBatch`: the reservation and the submission. -/
def sendReserved (s : XskSocket) (batchSize : Nat) : Nat × XskSocket :=
  let (ret, s) := s.reserveTxRing batchSize
  if ret = 0 then (0, s) else (ret, s.submitTxRing ret)

/-- The kernel takes a descriptor from the TX ring. -/
def take (s : XskSocket) : XskSocket :=
  { s with rings := { s.rings with taken := s.rings.taken + 1 } }

/-- The kernel posts a completion. -/
def complete (s : XskSocket) : XskSocket :=
  { s with rings := { s.rings with posted := s.rings.posted + 1 } }

/-- The loop of `close`, with what the peeks return. -/
def closeLoop : Nat → List Nat → XskSocket → XskSocket
  | 0, _, s => s
  | retries + 1, peeks, s =>
      if s.wrapperOutstandingTx > 0 then
        let completed := peeks.headD 0
        closeLoop retries peeks.tail
          { (s.peek completed).release completed with
            wrapperOutstandingTx := s.wrapperOutstandingTx - UInt32.ofNat completed }
      else s

/-- The test that `close` makes before its loop. -/
def drains (s : XskSocket) : Bool := s.bound && s.wrapperOutstandingTx > 0

/-- The part of `close` that completes pending transmissions. -/
def close (s : XskSocket) (peeks : List Nat) : XskSocket :=
  if s.drains then closeLoop 10 peeks s else s

end XskSocket

/-! ## The system of the caller and the kernel -/

/-- The caller is between two calls, or in `sendBatch` before the reservation. -/
inductive XskCaller where
  | idle
  | sending (batchSize : Nat)
deriving DecidableEq

structure XskState where
  socket : XskSocket
  caller : XskCaller
deriving DecidableEq

def XskState.init : XskState := ⟨XskSocket.init, .idle⟩

/-- The calls, with what a peek returns, and the steps of the kernel. `send` is
`sendBatch` with vectors of one element. -/
inductive XskLabel where
  | bind
  | sendBatch (offsets lengths : List Int) (batchSize : Int) (newCompletions : Nat)
  | sendReserved
  | reserveTxRing (count : Nat)
  | submitTxRing (count : Nat)
  | pollTxCompletions (newCompletions : Nat)
  | take
  | complete

/-- What a peek for `tx_frames_` completions can return: only completions that
have not been peeked. -/
def XskSocket.CanPeek (s : XskSocket) (n : Nat) : Prop :=
  s.rings.peeked + n ≤ s.rings.posted ∧ n ≤ txFrames

instance (s : XskSocket) (n : Nat) : Decidable (s.CanPeek n) := instDecidableAnd

/-- One step; `none` when it is not enabled. -/
def xskStep (s : XskState) : XskLabel → Option XskState
  | .bind =>
      if s.caller = .idle ∧ ¬ s.socket.bound then some { s with socket := s.socket.bind } else none
  | .sendBatch offsets lengths batchSize newCompletions =>
      if s.caller = .idle ∧ s.socket.bound ∧ s.socket.CanPeek newCompletions then
        match s.socket.sendBatch offsets lengths batchSize newCompletions with
        | (none, socket) => some { s with socket := socket }
        | (some batchSize, socket) => some { socket := socket, caller := .sending batchSize }
      else none
  | .sendReserved =>
      match s.caller with
      | .sending batchSize =>
          some { socket := (s.socket.sendReserved batchSize).2, caller := .idle }
      | .idle => none
  | .reserveTxRing count =>
      if s.caller = .idle ∧ s.socket.bound then
        some { s with socket := (s.socket.reserveTxRing count).2 }
      else none
  | .submitTxRing count =>
      -- only what has been reserved can be submitted
      if s.caller = .idle ∧ s.socket.bound ∧
          s.socket.rings.submitted + count ≤ s.socket.rings.reserved then
        some { s with socket := s.socket.submitTxRing count }
      else none
  | .pollTxCompletions newCompletions =>
      if s.caller = .idle ∧ s.socket.bound ∧ s.socket.CanPeek newCompletions then
        some { s with socket := s.socket.pollTxCompletions newCompletions }
      else none
  | .take =>
      -- the kernel takes a descriptor together with a free entry of the completion ring
      if s.socket.rings.taken < s.socket.rings.submitted ∧
          s.socket.rings.taken < s.socket.rings.released + TxSocket.completionRingSize then
        some { s with socket := s.socket.take }
      else none
  | .complete =>
      if s.socket.rings.posted < s.socket.rings.taken then
        some { s with socket := s.socket.complete }
      else none

/-- What a step makes of the socket, and what it asks for. -/
def XskMoves (s : XskState) : XskLabel → XskSocket → Prop
  | .bind, t => t = s.socket.bind
  | .sendBatch offsets lengths batchSize n, t =>
      s.socket.CanPeek n ∧ t = (s.socket.sendBatch offsets lengths batchSize n).2
  | .sendReserved, t => ∃ batchSize, s.caller = .sending batchSize ∧
      t = (s.socket.sendReserved batchSize).2
  | .reserveTxRing count, t => t = (s.socket.reserveTxRing count).2
  | .submitTxRing count, t => s.socket.rings.submitted + count ≤ s.socket.rings.reserved ∧
      t = s.socket.submitTxRing count
  | .pollTxCompletions n, t => s.socket.CanPeek n ∧ t = s.socket.pollTxCompletions n
  | .take, t => s.socket.rings.taken < s.socket.rings.submitted ∧
      s.socket.rings.taken < s.socket.rings.released + TxSocket.completionRingSize ∧
      t = s.socket.take
  | .complete, t => s.socket.rings.posted < s.socket.rings.taken ∧ t = s.socket.complete

theorem xskStep_moves {s s' : XskState} {l : XskLabel} (h : xskStep s l = some s') :
    XskMoves s l s'.socket := by
  cases l with
  | sendBatch offsets lengths batchSize n =>
    simp only [xskStep] at h
    -- the kernel completes no more descriptors than it was given
    split at h
    · rename_i hguard
      refine ⟨hguard.2.2, ?_⟩
      rcases hres : s.socket.sendBatch offsets lengths batchSize n with ⟨_ | batch, socket⟩
      · rw [hres] at h
        cases h
        rfl
      · rw [hres] at h
        cases h
        rfl
    · cases h
  | sendReserved =>
    simp only [xskStep] at h
    split at h
    · rename_i batchSize hcaller
      cases h
      exact ⟨batchSize, hcaller, rfl⟩
    · cases h
  | bind | reserveTxRing count =>
    simp only [xskStep] at h
    split at h
    · cases h
      rfl
    · cases h
  | submitTxRing count | pollTxCompletions n =>
    simp only [xskStep] at h
    split at h
    · rename_i hguard
      cases h
      exact ⟨hguard.2.2, rfl⟩
    · cases h
  | take =>
    simp only [xskStep] at h
    split at h
    · rename_i hguard
      cases h
      exact ⟨hguard.1, hguard.2, rfl⟩
    · cases h
  | complete =>
    simp only [xskStep] at h
    split at h
    · rename_i hguard
      cases h
      exact ⟨hguard, rfl⟩
    · cases h

/-! ## The counters follow the rings -/

/-- The accounting of the completions. -/
structure CompletionsAccounted (s : XskSocket) : Prop where
  outstanding : s.outstandingTx.toNat + s.rings.released = s.rings.submitted
  cached_le : s.cachedCompletions ≤ s.outstandingTx
  cached_lt : s.cachedCompletions < txBatchSize
  -- what the next poll would subtract
  no_underflow : ∀ n, s.CanPeek n → s.cachedCompletions + UInt32.ofNat n ≤ s.outstandingTx
  released_le : s.rings.released ≤ s.rings.peeked

/-- The order of the ends of the rings, and their sizes. -/
structure TxRings.Ordered (r : TxRings) : Prop where
  released_le : r.released ≤ r.peeked
  peeked_le : r.peeked ≤ r.posted
  posted_le : r.posted ≤ r.taken
  taken_le : r.taken ≤ r.submitted
  submitted_le : r.submitted ≤ r.reserved
  tx_size : r.reserved ≤ r.taken + txFrames
  completion_size : r.taken ≤ r.released + TxSocket.completionRingSize

structure XskInv (s : XskSocket) : Prop where
  rings : s.rings.Ordered
  outstanding : s.outstandingTx.toNat + s.rings.released = s.rings.submitted
  cached : s.cachedCompletions.toNat + s.rings.released = s.rings.peeked
  cached_lt : s.cachedCompletions.toNat < 64

theorem xskInv_init : XskInv XskSocket.init where
  rings := by constructor <;> decide
  outstanding := rfl
  cached := rfl
  cached_lt := by decide

/-- What has been submitted and not released fits into the two rings. -/
theorem TxRings.Ordered.submitted_le_released {r : TxRings} (h : r.Ordered) :
    r.submitted ≤ r.released + 6144 := by
  have hsub := h.submitted_le
  have htx : r.reserved ≤ r.taken + 2048 := h.tx_size
  have hcomp : r.taken ≤ r.released + 4096 := h.completion_size
  omega

/-- The completions behind a peek, before the test for a full batch. -/
theorem XskInv.toNat_cached {s : XskSocket} (h : XskInv s) {n : Nat} (hn : s.CanPeek n) :
    (s.cachedCompletions + UInt32.ofNat n).toNat = s.cachedCompletions.toNat + n := by
  have hle : n ≤ 2048 := hn.2
  have hcached := h.cached_lt
  have hofNat : (UInt32.ofNat n).toNat = n := UInt32.toNat_ofNat_of_lt' (by show n < 2 ^ 32; omega)
  rw [UInt32.toNat_add, hofNat]
  omega

theorem XskInv.cached_le {s : XskSocket} (h : XskInv s) {n : Nat} (hn : s.CanPeek n) :
    s.cachedCompletions + UInt32.ofNat n ≤ s.outstandingTx := by
  rw [UInt32.le_iff_toNat_le, h.toNat_cached hn]
  have hcached := h.cached
  have hout := h.outstanding
  have hposted := h.rings.posted_le
  have htaken := h.rings.taken_le
  have hpeek := hn.1
  omega

theorem XskInv.accounted {s : XskSocket} (h : XskInv s) : CompletionsAccounted s where
  outstanding := h.outstanding
  cached_le := by
    have hzero : s.cachedCompletions + 0 ≤ s.outstandingTx :=
      h.cached_le (n := 0) ⟨h.rings.peeked_le, Nat.zero_le _⟩
    rwa [UInt32.add_zero] at hzero
  cached_lt := UInt32.lt_iff_toNat_lt.mpr h.cached_lt
  no_underflow := fun _ hn => h.cached_le hn
  released_le := h.rings.released_le

theorem poll_xskInv {s : XskSocket} (h : XskInv s) {n : Nat} (hn : s.CanPeek n) :
    XskInv (s.pollTxCompletions n) := by
  have hcached := h.toNat_cached hn
  have hle := UInt32.le_iff_toNat_le.mp (h.cached_le hn)
  rw [hcached] at hle
  have hpeeked := h.cached
  have hout := h.outstanding
  have hpeek := hn.1
  unfold XskSocket.pollTxCompletions
  by_cases hzero : s.outstandingTx = 0
  · rw [if_pos hzero]
    exact h
  by_cases hnone : n = 0
  · rw [if_neg hzero, if_pos hnone]
    exact h
  rw [if_neg hzero, if_neg hnone]
  simp only
  by_cases hbatch : s.cachedCompletions + UInt32.ofNat n < txBatchSize
  · -- the completions stay cached
    rw [if_pos hbatch]
    have hlt : (s.cachedCompletions + UInt32.ofNat n).toNat < 64 := UInt32.lt_iff_toNat_lt.mp hbatch
    refine ⟨{ h.rings with released_le := ?_, peeked_le := hpeek }, h.outstanding, ?_, hlt⟩
    · show s.rings.released ≤ s.rings.peeked + n
      omega
    · show (s.cachedCompletions + UInt32.ofNat n).toNat + s.rings.released = s.rings.peeked + n
      omega
  · -- everything that has been peeked is released
    rw [if_neg hbatch]
    have hrings := h.rings
    have hcomp := hrings.completion_size
    have hsub : (s.outstandingTx - (s.cachedCompletions + UInt32.ofNat n)).toNat =
        s.outstandingTx.toNat - (s.cachedCompletions.toNat + n) := by
      rw [UInt32.toNat_sub_of_le _ _ (h.cached_le hn), hcached]
    refine ⟨{ h.rings with
        released_le := ?_, peeked_le := hpeek, completion_size := ?_ }, ?_, ?_, ?_⟩
    · show s.rings.released + (s.cachedCompletions + UInt32.ofNat n).toNat ≤ s.rings.peeked + n
      omega
    · show s.rings.taken ≤ s.rings.released + (s.cachedCompletions + UInt32.ofNat n).toNat +
        TxSocket.completionRingSize
      omega
    · show (s.outstandingTx - (s.cachedCompletions + UInt32.ofNat n)).toNat +
        (s.rings.released + (s.cachedCompletions + UInt32.ofNat n).toNat) = s.rings.submitted
      omega
    · show 0 + (s.rings.released + (s.cachedCompletions + UInt32.ofNat n).toNat) = s.rings.peeked + n
      omega
    · show (0 : UInt32).toNat < 64
      decide

theorem reserve_xskInv {s : XskSocket} (h : XskInv s) (count : Nat) :
    XskInv (s.reserveTxRing count).2 := by
  unfold XskSocket.reserveTxRing
  split
  · rename_i hroom
    refine ⟨{ h.rings with submitted_le := ?_, tx_size := hroom }, h.outstanding, h.cached,
      h.cached_lt⟩
    exact Nat.le_trans h.rings.submitted_le (Nat.le_add_right _ _)
  · exact h

theorem submit_xskInv {s : XskSocket} (h : XskInv s) {count : Nat}
    (hcount : s.rings.submitted + count ≤ s.rings.reserved) : XskInv (s.submitTxRing count) := by
  have hrings : (s.submitTxRing count).rings.Ordered :=
    { h.rings with
      taken_le := Nat.le_trans h.rings.taken_le (Nat.le_add_right _ _), submitted_le := hcount }
  refine ⟨hrings, ?_, h.cached, h.cached_lt⟩
  have hout := h.outstanding
  have hbound : s.rings.submitted + count ≤ s.rings.released + 6144 := hrings.submitted_le_released
  show (s.outstandingTx + UInt32.ofNat count).toNat + s.rings.released = s.rings.submitted + count
  have hofNat : (UInt32.ofNat count).toNat = count :=
    UInt32.toNat_ofNat_of_lt' (by show count < 2 ^ 32; omega)
  rw [UInt32.toNat_add, hofNat]
  omega

theorem sendBatch_xskInv {s : XskSocket} (h : XskInv s) (offsets lengths : List Int)
    (batchSize : Int) {n : Nat} (hn : s.CanPeek n) :
    XskInv (s.sendBatch offsets lengths batchSize n).2 := by
  unfold XskSocket.sendBatch
  split
  · exact h
  · simp only
    split
    · exact poll_xskInv h hn
    · split
      · exact poll_xskInv h hn
      · exact poll_xskInv h hn

theorem sendReserved_xskInv {s : XskSocket} (h : XskInv s) (batchSize : Nat) :
    XskInv (s.sendReserved batchSize).2 := by
  have hreserve := reserve_xskInv h batchSize
  unfold XskSocket.sendReserved
  by_cases hroom : s.rings.reserved + batchSize ≤ s.rings.taken + txFrames
  · simp only [XskSocket.reserveTxRing, if_pos hroom] at hreserve ⊢
    split
    · exact hreserve
    · apply submit_xskInv hreserve
      exact Nat.add_le_add_right h.rings.submitted_le batchSize
  · simp only [XskSocket.reserveTxRing, if_neg hroom, if_true]
    exact h

theorem xskStep_inv {s s' : XskState} {l : XskLabel} (h : XskInv s.socket)
    (hl : xskStep s l = some s') : XskInv s'.socket := by
  have hmoves := xskStep_moves hl
  generalize s'.socket = t at hmoves
  cases l with
  | bind =>
    cases hmoves
    exact ⟨h.rings, h.outstanding, h.cached, h.cached_lt⟩
  | sendBatch offsets lengths batchSize n =>
    rcases hmoves with ⟨hn, rfl⟩
    exact sendBatch_xskInv h offsets lengths batchSize hn
  | sendReserved =>
    rcases hmoves with ⟨batchSize, -, rfl⟩
    exact sendReserved_xskInv h batchSize
  | reserveTxRing count =>
    cases hmoves
    exact reserve_xskInv h count
  | submitTxRing count =>
    rcases hmoves with ⟨hcount, rfl⟩
    exact submit_xskInv h hcount
  | pollTxCompletions n =>
    rcases hmoves with ⟨hn, rfl⟩
    exact poll_xskInv h hn
  | take =>
    rcases hmoves with ⟨hsubmitted, hroom, rfl⟩
    refine ⟨{ h.rings with
      posted_le := ?_, taken_le := hsubmitted, tx_size := ?_, completion_size := hroom },
      -- a descriptor taken by the kernel is still one of the submitted ones
      h.outstanding, h.cached, h.cached_lt⟩
    · exact Nat.le_trans h.rings.posted_le (Nat.le_succ _)
    · show s.socket.rings.reserved ≤ s.socket.rings.taken + 1 + txFrames
      have := h.rings.tx_size
      omega
  | complete =>
    rcases hmoves with ⟨htaken, rfl⟩
    refine ⟨{ h.rings with peeked_le := ?_, posted_le := htaken }, h.outstanding, h.cached,
      -- the completion ring fills by one entry
      h.cached_lt⟩
    exact Nat.le_trans h.rings.peeked_le (Nat.le_succ _)

theorem xskInv_run {ls : List XskLabel} {s : XskState}
    (hrun : Run.exec xskStep XskState.init ls = some s) : XskInv s.socket :=
  Run.invariant (fun _ _ _ h hl => xskStep_inv h hl) xskInv_init hrun

/-- In every state of every run, `outstanding_tx_` is what was submitted and not
released, fewer than 64 completions are cached and no more than are outstanding,
the next poll cannot underflow, and no more is released than was peeked. -/
theorem completions_accounted {ls : List XskLabel} {s : XskState}
    (hrun : Run.exec xskStep XskState.init ls = some s) : CompletionsAccounted s.socket :=
  (xskInv_run hrun).accounted

/-- The kernel takes and completes a descriptor. -/
def takeAndComplete : List XskLabel := [.take, .complete]

/-- A batch of 64 and a single packet are sent. All of them are completed, and
released with the 65th completion. -/
def batchLabels : List XskLabel :=
  [.bind, .sendBatch (List.replicate 64 0) (List.replicate 64 60) 64 0, .sendReserved,
    .take, .complete, .pollTxCompletions 1, .reserveTxRing 1, .submitTxRing 1] ++
    (List.replicate 64 takeAndComplete).flatten ++ [.pollTxCompletions 64]

theorem completions_accounted_batch :
    ∃ s, Run.exec xskStep XskState.init batchLabels = some s ∧ s.socket.rings.released = 65 ∧
      CompletionsAccounted s.socket := by
  have hreleased : (Run.exec xskStep XskState.init batchLabels).map (·.socket.rings.released) =
      some 65 := by
    decide +kernel
  rcases Option.map_eq_some_iff.mp hreleased with ⟨s, hrun, hs⟩
  exact ⟨s, hrun, hs, completions_accounted hrun⟩

/-! ## The counter of `close` -/

/-- The counter that `close` drains on is what was submitted and not released, and
`close` skips its loop only when there is nothing. -/
structure CloseCounts (s : XskSocket) : Prop where
  counter : s.wrapperOutstandingTx.toNat + s.rings.released = s.rings.submitted
  skips : s.drains = false → s.rings.submitted = s.rings.released

/-- The step submits a descriptor. -/
def Submits (s : XskState) : XskLabel → Prop
  | .sendReserved =>
      match s.caller with
      | .sending batchSize => (s.socket.reserveTxRing batchSize).1 ≠ 0
      | .idle => False
  | .submitTxRing count => count ≠ 0
  | _ => False

theorem poll_frame (s : XskSocket) (n : Nat) :
    (s.pollTxCompletions n).wrapperOutstandingTx = s.wrapperOutstandingTx ∧
      (s.pollTxCompletions n).rings.submitted = s.rings.submitted := by
  unfold XskSocket.pollTxCompletions
  split
  · exact ⟨rfl, rfl⟩
  · split
    · exact ⟨rfl, rfl⟩
    · simp only
      split
      · exact ⟨rfl, rfl⟩
      · exact ⟨rfl, rfl⟩

theorem sendBatch_frame (s : XskSocket) (offsets lengths : List Int) (batchSize : Int) (n : Nat) :
    (s.sendBatch offsets lengths batchSize n).2.wrapperOutstandingTx = s.wrapperOutstandingTx ∧
      (s.sendBatch offsets lengths batchSize n).2.rings.submitted = s.rings.submitted := by
  unfold XskSocket.sendBatch
  split
  · exact ⟨rfl, rfl⟩
  · simp only
    split
    · exact poll_frame s n
    · split
      · exact poll_frame s n
      · exact poll_frame s n

/-- What a step does to the counter of `close` and to what is outstanding. -/
structure SubmitSpec (submits : Prop) (s t : XskSocket) : Prop where
  counter : t.wrapperOutstandingTx = s.wrapperOutstandingTx
  adds : submits → t.rings.released < t.rings.submitted
  keeps : ¬ submits → t.rings.submitted = s.rings.submitted

theorem SubmitSpec.of_frame {s t : XskSocket}
    (hcounter : t.wrapperOutstandingTx = s.wrapperOutstandingTx)
    (hsubmitted : t.rings.submitted = s.rings.submitted) : SubmitSpec False s t :=
  ⟨hcounter, False.elim, fun _ => hsubmitted⟩

theorem submit_spec {s : XskSocket} (hle : s.rings.released ≤ s.rings.submitted) (count : Nat) :
    SubmitSpec (count ≠ 0) s (s.submitTxRing count) := by
  refine ⟨rfl, ?_, ?_⟩
  · intro hne
    show s.rings.released < s.rings.submitted + count
    omega
  · intro hzero
    rw [not_not.mp hzero]
    rfl

theorem sendReserved_spec {s : XskSocket} (hle : s.rings.released ≤ s.rings.submitted)
    (batchSize : Nat) :
    SubmitSpec ((s.reserveTxRing batchSize).1 ≠ 0) s (s.sendReserved batchSize).2 := by
  unfold XskSocket.sendReserved XskSocket.reserveTxRing
  by_cases hroom : s.rings.reserved + batchSize ≤ s.rings.taken + txFrames
  · simp only [if_pos hroom]
    -- a reservation of nothing succeeds, and submits nothing
    by_cases hzero : batchSize = 0
    · rw [if_pos hzero]
      exact ⟨rfl, fun hne => absurd hzero hne, fun _ => rfl⟩
    · rw [if_neg hzero]
      refine ⟨rfl, ?_, fun hne => absurd hzero hne⟩
      intro _
      show s.rings.released < s.rings.submitted + batchSize
      omega
  · -- without room the reservation gives 0 and the caller does not submit
    simp only [if_neg hroom, if_true]
    exact ⟨rfl, fun hne => absurd rfl hne, fun _ => rfl⟩

/-- No step changes the counter of `close`; some add to what is outstanding. -/
theorem xskStep_submitted {s s' : XskState} {l : XskLabel} (hinv : XskInv s.socket)
    (h : xskStep s l = some s') : SubmitSpec (Submits s l) s.socket s'.socket := by
  have hmoves := xskStep_moves h
  have hle : s.socket.rings.released ≤ s.socket.rings.submitted := by
    have hout := hinv.outstanding
    omega
  generalize s'.socket = t at hmoves ⊢
  cases l with
  | sendReserved =>
    -- of all the steps only these two submit
    rcases hmoves with ⟨batchSize, hcaller, rfl⟩
    simp only [Submits, hcaller]
    exact sendReserved_spec hle batchSize
  | submitTxRing count =>
    rcases hmoves with ⟨-, rfl⟩
    exact submit_spec hle count
  | sendBatch offsets lengths batchSize n =>
    rcases hmoves with ⟨-, rfl⟩
    have hframe := sendBatch_frame s.socket offsets lengths batchSize n
    exact .of_frame hframe.1 hframe.2
  | pollTxCompletions n =>
    rcases hmoves with ⟨-, rfl⟩
    have hframe := poll_frame s.socket n
    exact .of_frame hframe.1 hframe.2
  | reserveTxRing count =>
    cases hmoves
    unfold XskSocket.reserveTxRing
    split
    · exact .of_frame rfl rfl
    · exact .of_frame rfl rfl
  | bind =>
    cases hmoves
    exact .of_frame rfl rfl
  | take =>
    rcases hmoves with ⟨-, -, rfl⟩
    exact .of_frame rfl rfl
  | complete =>
    rcases hmoves with ⟨-, rfl⟩
    exact .of_frame rfl rfl

/-- The counter of `close` stays 0 in every run. -/
theorem wrapperOutstandingTx_run {ls : List XskLabel} {s : XskState}
    (hrun : Run.exec xskStep XskState.init ls = some s) : s.socket.wrapperOutstandingTx = 0 := by
  have hstep : ∀ (t : XskState) l t', XskInv t.socket ∧ t.socket.wrapperOutstandingTx = 0 →
      xskStep t l = some t' → XskInv t'.socket ∧ t'.socket.wrapperOutstandingTx = 0 := by
    intro t l t' ⟨ht, hzero⟩ hl
    exact ⟨xskStep_inv ht hl, (xskStep_submitted ht hl).counter.trans hzero⟩
  exact (Run.invariant hstep ⟨xskInv_init, rfl⟩ hrun).2

/-- So `close` completes nothing, however much is outstanding and whatever a peek
would return: its loop is not entered. -/
theorem close_eq_self {ls : List XskLabel} {s : XskState}
    (hrun : Run.exec xskStep XskState.init ls = some s) (peeks : List Nat) :
    s.socket.close peeks = s.socket := by
  have hdrains : s.socket.drains = false := by
    rw [XskSocket.drains, wrapperOutstandingTx_run hrun]
    exact Bool.and_false _
  rw [XskSocket.close, hdrains]
  rfl

/-- The counter of `close` is 0, and nothing has been submitted. -/
structure NothingSubmitted (s : XskSocket) : Prop where
  inv : XskInv s
  counter : s.wrapperOutstandingTx = 0
  submitted : s.rings.submitted = 0

theorem nothingSubmitted_init : NothingSubmitted XskSocket.init := ⟨xskInv_init, rfl, rfl⟩

theorem NothingSubmitted.closeCounts {s : XskSocket} (h : NothingSubmitted s) : CloseCounts s := by
  have hreleased : s.rings.released = 0 := by
    have hout := h.inv.outstanding
    rw [h.submitted] at hout
    omega
  refine ⟨?_, ?_⟩
  · rw [h.counter, h.submitted, hreleased]
    rfl
  · intro _
    rw [h.submitted, hreleased]

theorem xskStep_quiet {s s' : XskState} {l : XskLabel} (hs : NothingSubmitted s.socket)
    (hsub : ¬ Submits s l) (hl : xskStep s l = some s') : NothingSubmitted s'.socket := by
  rcases xskStep_submitted hs.inv hl with ⟨hcounter, -, hquiet⟩
  refine ⟨xskStep_inv hs.inv hl, ?_, ?_⟩
  · rw [hcounter, hs.counter]
  · rw [hquiet hsub, hs.submitted]

theorem xskStep_nothingSubmitted {s s' : XskState} {l : XskLabel}
    (hs : NothingSubmitted s.socket) (hl : xskStep s l = some s') :
    CloseCounts s'.socket ↔ ¬ Submits s l := by
  rcases xskStep_submitted hs.inv hl with ⟨hcounter, hsubmits, -⟩
  constructor
  · intro hcloses hsub
    have hcount := hcloses.counter
    have hlt := hsubmits hsub
    rw [hcounter, hs.counter] at hcount
    simp only [UInt32.toNat_zero] at hcount
    omega
  · intro hsub
    exact (xskStep_quiet hs hsub hl).closeCounts

/-- The counter of `close` is right in every state of a run exactly when the run
submits nothing. -/
theorem close_counts_iff {ls : List XskLabel} {s : XskState}
    (hrun : Run.exec xskStep XskState.init ls = some s) :
    (∀ ls' t, ls' <+: ls → Run.exec xskStep XskState.init ls' = some t → CloseCounts t.socket) ↔
      Run.Meets xskStep (fun s l => ¬ Submits s l) XskState.init ls := by
  have hinit : NothingSubmitted XskState.init.socket := nothingSubmitted_init
  exact Run.always_iff_meets (fun _ hs => hs.closeCounts)
    (fun _ _ _ hs hsub hl => xskStep_quiet hs hsub hl)
    (fun _ _ _ hs hl => xskStep_nothingSubmitted hs hl) hinit hrun

/-- A socket that is bound and polled. -/
def quietLabels : List XskLabel := [.bind, .reserveTxRing 1, .submitTxRing 0, .pollTxCompletions 0]

theorem close_counts_quiet :
    ∃ s, Run.exec xskStep XskState.init quietLabels = some s ∧
      ∀ ls' t, ls' <+: quietLabels → Run.exec xskStep XskState.init ls' = some t →
        CloseCounts t.socket := by
  have hbound : (Run.exec xskStep XskState.init quietLabels).map (·.socket.bound) = some true := by
    decide
  rcases Option.map_eq_some_iff.mp hbound with ⟨s, hrun, -⟩
  refine ⟨s, hrun, (close_counts_iff hrun).mpr ?_⟩
  refine ⟨fun h => h, ?_⟩
  intro _ _
  refine ⟨fun h => h, ?_⟩
  intro _ _
  refine ⟨fun h => h rfl, ?_⟩
  intro _ _
  exact ⟨fun h => h, fun _ _ => trivial⟩

/-- One packet is sent, and `close` would not wait for it. -/
def oneSendLabels : List XskLabel := [.bind, .sendBatch [0] [60] 1 0, .sendReserved]

theorem close_skips_one :
    ∃ s, Run.exec xskStep XskState.init oneSendLabels = some s ∧ s.socket.rings.submitted = 1 ∧
      s.socket.rings.released = 0 ∧ s.socket.wrapperOutstandingTx = 0 ∧
      s.socket.drains = false ∧ ¬ CloseCounts s.socket := by
  have hstate : (Run.exec xskStep XskState.init oneSendLabels).map (fun s =>
      (s.socket.rings.submitted, s.socket.rings.released, s.socket.wrapperOutstandingTx,
        s.socket.drains)) = some (1, 0, 0, false) := by
    decide
  rcases Option.map_eq_some_iff.mp hstate with ⟨s, hrun, hs⟩
  simp only [Prod.mk.injEq] at hs
  rcases hs with ⟨hsubmitted, hreleased, hcounter, hdrains⟩
  refine ⟨s, hrun, hsubmitted, hreleased, hcounter, hdrains, ?_⟩
  intro hcloses
  have hequal := hcloses.skips hdrains
  rw [hsubmitted, hreleased] at hequal
  cases hequal

end TradingLatency.AfXdp
