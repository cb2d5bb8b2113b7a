import Mathlib.Data.List.AList
import Mathlib.Data.UInt

/-!
# The latency tracker (`tracker.rs`)

The tracker of the Rust client keeps the time at which each order and each cancel
was sent, and records a sample when the answer arrives. `print_stats` reports the
histogram and starts a new one.

The clock is monotonic and counts nanoseconds. The histogram is kept as the list of
the values recorded in it; its percentiles and the log file are left out.
-/

namespace TradingLatency.Hft

/-- A `HashMap` from client ids to the time of sending. -/
abbrev SentTimes := AList fun _ : String => Nat

/-- The upper bound of the histogram: one hour. -/
def histogramMax : UInt64 := 3600000000000

/-- The histogram of the library `hdrhistogram`, as its documentation describes it: the
values recorded since the last reset, each within the bounds it was created with. -/
structure Histogram where
  values : List UInt64

namespace Histogram

def empty : Histogram := ⟨[]⟩

/-- `record`; `none` for a value above the bound. -/
def record (h : Histogram) (value : UInt64) : Option Histogram :=
  if value ≤ histogramMax then some ⟨h.values ++ [value]⟩ else none

end Histogram

/-- `LatencyTracker`. All samples of the run, and the histograms that
`print_stats` has reported, are history. -/
structure LatencyTracker where
  orderSentTimes : SentTimes
  cancelSentTimes : SentTimes
  histogram : Histogram
  responseCount : UInt64
  testSize : UInt64
  samples : List UInt64
  reports : List (List UInt64)

namespace LatencyTracker

def new (testSize : UInt64) : LatencyTracker := ⟨∅, ∅, Histogram.empty, 0, testSize, [], []⟩

/-- `record_order_sent`. -/
def recordOrderSent (t : LatencyTracker) (clientId : String) (now : Nat) : LatencyTracker :=
  { t with orderSentTimes := t.orderSentTimes.insert clientId now }

/-- `record_cancel_sent`. -/
def recordCancelSent (t : LatencyTracker) (clientId : String) (now : Nat) : LatencyTracker :=
  { t with cancelSentTimes := t.cancelSentTimes.insert clientId now }

/-- `calculate_rtt`; `elapsed` is never negative, and `as u64` cuts it to 64 bits. -/
def calculateRtt (sentTime now : Nat) : UInt64 := UInt64.ofNat (now - sentTime)

/-- `clamp(1, 3_600_000_000_000)`. -/
def clamp (rtt : UInt64) : UInt64 :=
  if rtt < 1 then 1 else if histogramMax < rtt then histogramMax else rtt

/-- `record_latency`. -/
def recordLatency (t : LatencyTracker) (rtt : UInt64) : LatencyTracker :=
  { t with
    histogram := (t.histogram.record (clamp rtt)).getD t.histogram
    -- the count goes up even if the histogram refuses the value
    responseCount := t.responseCount + 1
    samples := t.samples ++ [clamp rtt] }

/-- A response to what was sent at `sentTime`, if anything was. -/
def recordResponse (t : LatencyTracker) (sentTime : Option Nat) (now : Nat) :
    Option UInt64 × LatencyTracker :=
  match sentTime with
  | some sentTime =>
      let rtt := calculateRtt sentTime now
      (some rtt, t.recordLatency rtt)
  | none => (none, t)

/-- `record_order_response`. -/
def recordOrderResponse (t : LatencyTracker) (clientId : String) (now : Nat) :
    Option UInt64 × LatencyTracker :=
  recordResponse { t with orderSentTimes := t.orderSentTimes.erase clientId }
    (t.orderSentTimes.lookup clientId) now

/-- `record_cancel_response`. -/
def recordCancelResponse (t : LatencyTracker) (clientId : String) (now : Nat) :
    Option UInt64 × LatencyTracker :=
  recordResponse { t with cancelSentTimes := t.cancelSentTimes.erase clientId }
    (t.cancelSentTimes.lookup clientId) now

/-- `should_print_stats`; `none` for a division by zero. -/
def shouldPrintStats (t : LatencyTracker) : Option Bool :=
  -- the count is tested first, so a `test_size` of zero is no failure at the start
  if 0 < t.responseCount then
    if t.testSize = 0 then none else some (t.responseCount % t.testSize = 0)
  else some false

/-- `is_test_complete`. -/
def isTestComplete (t : LatencyTracker) : Bool := t.testSize ≤ t.responseCount

/-- `print_stats`. -/
def printStats (t : LatencyTracker) : LatencyTracker :=
  { t with
    reports := t.reports ++ [t.histogram.values]
    histogram := Histogram.empty }

/-! ## Samples -/

/-- A clamped value is within the bounds of the histogram. -/
theorem clamp_le (rtt : UInt64) : clamp rtt ≤ histogramMax := by
  unfold clamp
  split
  · decide
  · split
    · exact UInt64.le_refl _
    · rename_i h
      exact UInt64.not_lt.mp h

/-- No sample is lost. -/
theorem recordLatency_histogram (t : LatencyTracker) (rtt : UInt64) :
    (t.recordLatency rtt).histogram.values = t.histogram.values ++ [clamp rtt] := by
  simp only [recordLatency, Histogram.record, if_pos (clamp_le rtt), Option.getD_some]

/-- The response to something that was sent is a sample. -/
theorem recordResponse_some (t : LatencyTracker) {sentTime : Option Nat} (h : sentTime.isSome)
    (now : Nat) : ∃ rtt, (t.recordResponse sentTime now).2 = t.recordLatency rtt := by
  rcases Option.isSome_iff_exists.mp h with ⟨sent, rfl⟩
  exact ⟨_, rfl⟩

theorem recordOrderResponse_of_mem {t : LatencyTracker} {clientId : String}
    (h : clientId ∈ t.orderSentTimes.keys) (now : Nat) :
    ∃ rtt, (t.recordOrderResponse clientId now).2 =
      LatencyTracker.recordLatency { t with orderSentTimes := t.orderSentTimes.erase clientId } rtt :=
  recordResponse_some _ (AList.lookup_isSome.mpr (AList.mem_keys.mpr h)) now

theorem recordCancelResponse_of_mem {t : LatencyTracker} {clientId : String}
    (h : clientId ∈ t.cancelSentTimes.keys) (now : Nat) :
    ∃ rtt, (t.recordCancelResponse clientId now).2 =
      LatencyTracker.recordLatency { t with cancelSentTimes := t.cancelSentTimes.erase clientId } rtt :=
  recordResponse_some _ (AList.lookup_isSome.mpr (AList.mem_keys.mpr h)) now

/-! ## The two conditions -/

/-- `should_print_stats` on the numbers. -/
theorem shouldPrintStats_eq {t : LatencyTracker} (h : 0 < t.testSize.toNat) :
    t.shouldPrintStats =
      some (decide (0 < t.responseCount.toNat ∧ t.responseCount.toNat % t.testSize.toNat = 0)) := by
  have hsize : t.testSize ≠ 0 := by
    intro hzero
    rw [hzero] at h
    exact absurd h (by decide)
  have hmod : t.responseCount % t.testSize = 0 ↔ t.responseCount.toNat % t.testSize.toNat = 0 := by
    rw [← UInt64.toNat_inj, UInt64.toNat_mod]
    rfl
  unfold shouldPrintStats
  by_cases hpos : 0 < t.responseCount
  · have hpos' : 0 < t.responseCount.toNat := UInt64.lt_iff_toNat_lt.mp hpos
    simp only [if_pos hpos, if_neg hsize, hmod, hpos', true_and]
  · have hpos' : ¬ 0 < t.responseCount.toNat := fun h => hpos (UInt64.lt_iff_toNat_lt.mpr h)
    simp only [if_neg hpos, hpos', false_and, decide_false]

/-- `is_test_complete` on the numbers. -/
theorem isTestComplete_iff {t : LatencyTracker} :
    t.isTestComplete = true ↔ t.testSize.toNat ≤ t.responseCount.toNat := by
  rw [isTestComplete, decide_eq_true_iff, UInt64.le_iff_toNat_le]

/-- Below `test_size` there is nothing to print. -/
theorem not_print_of_lt {r n : Nat} (h : r < n) : ¬ (0 < r ∧ r % n = 0) := by
  rintro ⟨hpos, hmod⟩
  rw [Nat.mod_eq_of_lt h] at hmod
  omega

/-- Responses come in pairs, so the first count from `test_size` on is `test_size`
or one more; it is a multiple in the first case, and in the second for a
`test_size` of one only. -/
theorem print_iff_of_even {r n : Nat} (hn : 0 < n) (hge : n ≤ r) (hle : r ≤ n + 1)
    (heven : r % 2 = 0) : r % n = 0 ↔ n % 2 = 0 ∨ n = 1 := by
  rcases Nat.lt_or_ge n r with hlt | hle'
  · have hr : r = 1 + n := by omega
    subst hr
    rw [Nat.add_mod_right]
    rcases Nat.lt_or_ge 1 n with h1 | h1
    · rw [Nat.mod_eq_of_lt h1]
      omega
    · have hone : n = 1 := by omega
      subst hone
      decide
  · have hr : r = n := by omega
    subst hr
    rw [Nat.mod_self]
    omega

end LatencyTracker

end TradingLatency.Hft
