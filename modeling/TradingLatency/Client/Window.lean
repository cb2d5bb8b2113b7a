import TradingLatency.Client.SendLoop

/-!
# The window of the correlation arrays (`timestamp_client.c`)

The send loop of `run_client_roundtrip` stores the timestamps of a packet at its
sequence number modulo 50000. The arrays are meant as rings that hold the last
50000 packets. The sequence number is a `uint32_t`, and 50000 does not divide
`2^32`: behind the wrap the index starts again at zero, where packets of the last
17296 before the wrap still are.

`window_held_iff` says for which numbers of packets the arrays hold the window in
every run of the loop.
-/

namespace TradingLatency.Client

open Ring

/-! ## The arrays -/

/-- `app_tx_timestamps` and `app_tx_tsc_values`. -/
structure TxArrays where
  timestamps : UInt32 → Timespec
  tscValues : UInt32 → UInt64

/-- The arrays are zeroed. -/
def TxArrays.zero : TxArrays := ⟨fun _ => ⟨0, 0⟩, fun _ => 0⟩

/-- `store_tx_timestamp` and `store_tx_timestamps`; the other calls do not touch
the arrays. -/
def TxArrays.apply (a : TxArrays) : SendCall → TxArrays
  | .storeTxTimestamp seqNum appTxTs =>
      { a with timestamps := Function.update a.timestamps (getCircularIndex seqNum) appTxTs }
  | .storeTxTimestamps seqNum appTxTs tsc =>
      { timestamps := Function.update a.timestamps (getCircularIndex seqNum) appTxTs
        tscValues := Function.update a.tscValues (getCircularIndex seqNum) tsc }
  | .createStats _ _ _ | .updateAppTx _ _ _ _ | .enqueueCsv _ => a

/-- The arrays behind the calls of the loop. -/
def LoopState.arrays (s : LoopState) : TxArrays := s.calls.foldl TxArrays.apply .zero

/-- For each of the last 50000 packets, the arrays hold its timestamp and its
time-stamp counter at the index of its number on the wire. -/
def HoldsWindow (s : LoopState) : Prop :=
  ∀ (k : Nat) (p : Accepted), s.accepted[k]? = some p → s.accepted.length ≤ k + 50000 →
    s.arrays.timestamps (getCircularIndex (ntohl p.data)) = p.appTxTs ∧
      s.arrays.tscValues (getCircularIndex (ntohl p.data)) = p.txTsc

/-- Only the writes to the arrays count. -/
theorem foldl_apply_filter (calls : List SendCall) (a : TxArrays) :
    calls.foldl TxArrays.apply a = (calls.filter (·.isStore)).foldl TxArrays.apply a := by
  induction calls generalizing a with
  | nil => rfl
  | cons c calls ih => cases c <;> exact ih _

/-- The packets with their places in the order of sending. -/
def LoopState.numbered (s : LoopState) : List (Nat × Accepted) := s.accepted.mapIdx Prod.mk

/-- The index of a packet. -/
def indexOf (e : Nat × Accepted) : UInt32 := getCircularIndex (UInt32.ofNat e.1)

/-- The arrays behind the writes for some packets. -/
theorem foldl_apply_store (es : List (Nat × Accepted)) (a : TxArrays) :
    (es.map fun e => SendMode.roundtrip.store (UInt32.ofNat e.1) e.2).foldl TxArrays.apply a =
      ⟨writeAll indexOf (·.2.appTxTs) a.timestamps es,
        writeAll indexOf (·.2.txTsc) a.tscValues es⟩ := by
  induction es generalizing a with
  | nil => rfl
  | cons e es ih => exact ih _

/-- The arrays hold what was written for the accepted packets. -/
theorem Disciplined.arrays_eq {cfg : Config} {s : LoopState} (h : Disciplined cfg .roundtrip s) :
    s.arrays = ⟨writeAll indexOf (·.2.appTxTs) (fun _ => ⟨0, 0⟩) s.numbered,
      writeAll indexOf (·.2.txTsc) (fun _ => 0) s.numbered⟩ := by
  have hcalls : s.calls.filter (·.isStore) =
      s.numbered.map fun e => SendMode.roundtrip.store (UInt32.ofNat e.1) e.2 := by
    apply List.ext_getElem?
    intro k
    rw [h.stored, LoopState.numbered, List.getElem?_map, List.getElem?_mapIdx,
      List.getElem?_mapIdx, Option.map_map]
    rfl
  rw [LoopState.arrays, foldl_apply_filter, hcalls]
  exact foldl_apply_store s.numbered .zero

/-- The number of a packet on the wire is its place, modulo `2^32`. -/
theorem Disciplined.wire_getElem? {cfg : Config} {mode : SendMode} {s : LoopState}
    (h : Disciplined cfg mode s) {k : Nat} {p : Accepted} (hp : s.accepted[k]? = some p) :
    ntohl p.data = UInt32.ofNat k := by
  have hlt : k < s.accepted.length := (List.getElem?_eq_some_iff.mp hp).1
  have hwire := congrArg (·[k]?) h.wire
  simp only [List.getElem?_map, hp, List.getElem?_range hlt, Option.map_some] at hwire
  exact Option.some.inj hwire

/-! ## Indices -/

/-- No wrap of the sequence number lies within the last 50000 of `n` packets. -/
def WindowUnwrapped (n : Nat) : Prop :=
  n ≤ 2 ^ 32 ∨ n % 2 ^ 32 = 0 ∨ 50000 ≤ n % 2 ^ 32

theorem toNat_getCircularIndex (k : Nat) :
    (getCircularIndex (UInt32.ofNat k)).toNat = k % 2 ^ 32 % 50000 := by
  rw [getCircularIndex, UInt32.toNat_mod, UInt32.toNat_ofNat']
  rfl

/-- No two packets of the window have the same index. -/
theorem index_ne_of_unwrapped {n k j : Nat} (hn : WindowUnwrapped n) (hwindow : n ≤ k + 50000)
    (hkj : k < j) (hj : j < n) :
    getCircularIndex (UInt32.ofNat j) ≠ getCircularIndex (UInt32.ofNat k) := by
  intro h
  have heq : j % 2 ^ 32 % 50000 = k % 2 ^ 32 % 50000 := by
    rw [← toNat_getCircularIndex, ← toNat_getCircularIndex, h]
  have hsame : j % 2 ^ 32 = k % 2 ^ 32 + (j - k) := by
    rcases hn with hn | hn | hn <;> omega
  omega

/-- When the window crosses a wrap, two of its packets have the same index. They
are 17296 packets apart, the remainder of `2^32` modulo 50000. -/
theorem exists_index_eq {n : Nat} (hn : ¬ WindowUnwrapped n) :
    ∃ k j, n ≤ k + 50000 ∧ k < j ∧ j < n ∧
      getCircularIndex (UInt32.ofNat j) = getCircularIndex (UInt32.ofNat k) := by
  unfold WindowUnwrapped at hn
  -- the later packet is the first behind the wrap whose partner is in the window
  have hj : ∃ j, j = n - n % 2 ^ 32 + (n % 2 ^ 32 - 32704) := ⟨_, rfl⟩
  rcases hj with ⟨j, hj⟩
  refine ⟨j - 17296, j, by omega, by omega, by omega, ?_⟩
  apply UInt32.toNat_inj.mp
  rw [toNat_getCircularIndex, toNat_getCircularIndex]
  omega

/-! ## Every run -/

section Window

variable {cfg : Config} {rxPort : UInt32} {packetSize : Nat}

/-- As long as the window crosses no wrap, the arrays hold it. -/
theorem Disciplined.holdsWindow {s : LoopState} (h : Disciplined cfg .roundtrip s)
    (hn : WindowUnwrapped s.accepted.length) : HoldsWindow s := by
  intro k p hp hwindow
  have hk : s.numbered[k]? = some (k, p) := by
    rw [LoopState.numbered, List.getElem?_mapIdx, hp]
    rfl
  -- inside the window no later packet has the same index
  have hnew : ∀ e ∈ s.numbered.drop (k + 1), indexOf e ≠ indexOf (k, p) := by
    intro e he
    rcases List.mem_iff_getElem?.mp he with ⟨i, hi⟩
    rw [List.getElem?_drop, LoopState.numbered, List.getElem?_mapIdx] at hi
    rcases Option.map_eq_some_iff.mp hi with ⟨q, hq, rfl⟩
    have hlt := (List.getElem?_eq_some_iff.mp hq).1
    exact index_ne_of_unwrapped hn hwindow (by omega) hlt
  rw [h.wire_getElem? hp, h.arrays_eq]
  exact ⟨writeAll_newest (fun e : Nat × Accepted => e.2.appTxTs) hk hnew _,
    writeAll_newest (fun e : Nat × Accepted => e.2.txTsc) hk hnew _⟩

/-- The loop can send any number of packets one by one, each at any time. -/
theorem exists_run (clock : Nat → ClockReading) (n : Nat) :
    ∃ attempts s, Run.exec (iteration cfg rxPort .roundtrip) (LoopState.init packetSize) attempts =
        some s ∧ s.running = true ∧ s.accepted.map (·.appTxTs) =
      (List.range n).map fun k => (clock k).time := by
  -- one packet a batch, each accepted with the clock reading of its number
  induction n with
  | zero => exact ⟨[], _, rfl, rfl, rfl⟩
  | succ n ih =>
    rcases ih with ⟨attempts, s, hexec, hrunning, htimes⟩
    have hbatch : 1 ≤ batchCount cfg := by
      unfold batchCount batchSize
      split <;> omega
    have hstep : ∃ s', iteration cfg rxPort .roundtrip s
          ⟨fun _ => clock n, .sent 1, fun _ => (clock n, clock n)⟩ = some s' ∧
        s'.running = true ∧
        s'.accepted.map (·.appTxTs) = s.accepted.map (·.appTxTs) ++ [(clock n).time] := by
      simp only [iteration, hrunning, if_pos hbatch, if_true]
      refine ⟨_, rfl, rfl, ?_⟩
      rw [List.map_append]
      rfl
    rcases hstep with ⟨s', hs', hrunning', htimes'⟩
    refine ⟨attempts ++ [⟨fun _ => clock n, .sent 1, fun _ => (clock n, clock n)⟩], s', ?_,
      hrunning', ?_⟩
    · rw [Run.exec_append hexec, Run.exec, hs']
      rfl
    · rw [htimes', htimes, List.range_succ, List.map_append]
      rfl

/-- When the window crosses a wrap, there is a run in which the arrays do not hold
it: two packets of the window that were sent at different times have one index. -/
theorem exists_lost {n : Nat} (hn : ¬ WindowUnwrapped n) :
    ∃ attempts s, Run.exec (iteration cfg rxPort .roundtrip) (LoopState.init packetSize) attempts =
      some s ∧ s.accepted.length = n ∧ ¬ HoldsWindow s := by
  rcases exists_index_eq hn with ⟨k, j, hwindow, hkj, hj, hindex⟩
  obtain ⟨attempts, s, hexec, -, htimes⟩ : ∃ attempts s,
      Run.exec (iteration cfg rxPort .roundtrip) (LoopState.init packetSize) attempts = some s ∧
      s.running = true ∧ s.accepted.map (·.appTxTs) =
        (List.range n).map fun i => ⟨if i = k then 1 else 0, 0⟩ :=
    exists_run (fun i => ⟨⟨if i = k then 1 else 0, 0⟩, 0⟩) n
  have hlen : s.accepted.length = n := by
    have h := congrArg List.length htimes
    simpa using h
  have hwire := (loopInv_run hexec).disciplined
  refine ⟨attempts, s, hexec, hlen, ?_⟩
  -- if the window held, the two packets with one index would have different times there
  intro hholds
  have htime : ∀ i, i < n → n ≤ i + 50000 →
      s.arrays.timestamps (getCircularIndex (UInt32.ofNat i)) = ⟨if i = k then 1 else 0, 0⟩ := by
    intro i hi hin
    have hp : s.accepted[i]? = some s.accepted[i] := List.getElem?_eq_getElem (hlen ▸ hi)
    have hslot := (hholds i _ hp (hlen ▸ hin)).1
    have hsent := congrArg (·[i]?) htimes
    simp only [List.getElem?_map, hp, List.getElem?_range hi, Option.map_some] at hsent
    rw [hwire.wire_getElem? hp] at hslot
    exact hslot.trans (Option.some.inj hsent)
  have hearly := htime k (by omega) hwindow
  have hlate := htime j hj (by omega)
  rw [hindex, hearly, if_pos rfl, if_neg (by omega)] at hlate
  exact absurd hlate (by decide)

/-- For every number `n` of packets, the arrays hold the last 50000 packets at the
end of every run that has sent `n` packets if and only if the sequence number has
not wrapped yet, or no wrap lies within the last 50000 packets. -/
theorem window_held_iff (cfg : Config) (rxPort : UInt32) (packetSize n : Nat) :
    (∀ attempts s,
      Run.exec (iteration cfg rxPort .roundtrip) (LoopState.init packetSize) attempts = some s →
      s.accepted.length = n → HoldsWindow s) ↔
      n ≤ 2 ^ 32 ∨ n % 2 ^ 32 = 0 ∨ 50000 ≤ n % 2 ^ 32 := by
  constructor
  · intro hall
    by_contra hn
    rcases exists_lost hn with ⟨attempts, s, hexec, hlen, hlost⟩
    exact hlost (hall attempts s hexec hlen)
  · rintro hn attempts s hexec rfl
    exact (loopInv_run hexec).disciplined.holdsWindow hn

/-- The first packet behind the wrap overwrites the timestamps of the packet that
was sent 17296 packets before. -/
theorem window_lost_behind_wrap :
    ∃ attempts s,
      Run.exec (iteration batchConfig 0 .roundtrip) (LoopState.init 64) attempts = some s ∧
      s.accepted.length = 2 ^ 32 + 1 ∧ ¬ HoldsWindow s :=
  exists_lost (by unfold WindowUnwrapped; decide)

end Window

end TradingLatency.Client
