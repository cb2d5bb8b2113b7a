import TradingLatency.Stats.Analysis
import TradingLatency.Stats.Refinement
import Mathlib.Data.List.Sort

/-!
# The statistics window

The documentation says that the statistics are about the most recent packets,
as many as the configured buffer size `n`. Three capacities are involved: `n`,
the ring of the next power of two with one slot kept empty, and the array of
`n` values of each delta, which is filled from the oldest entry on.

`stats_window_iff` says when the values of a delta are those of the last `n` entries.
Two things can go wrong: the ring no longer has the oldest of them (`n` is a
power of two), or it still has older ones, which take the places of the newest.
-/

namespace TradingLatency

open Ring

/-! ## The history of a run -/

/-- One call on an unbounded list of entries. -/
def historyCall (log : List StatsEntry) : StatsCall → List StatsEntry
  | .create seq port entryType => log ++ [minimalStatsEntry seq port entryType]
  | .update u => modifyLast (·.seqNum = u.seqNum) (StatsEntry.edit u.edit) log

/-- All entries that a run creates, oldest first; an update reaches the newest
entry with its sequence number. -/
def history (calls : List StatsCall) : List StatsEntry := calls.foldl historyCall []

/-- What the ring holds follows from the last entries of the history. -/
theorem live_foldl_logCall (c : Nat) (calls : List StatsCall) {log ring : List StatsEntry}
    (h : live c ring = recent (c - 1) log) :
    live c (calls.foldl (logCall c) ring) = recent (c - 1) (calls.foldl historyCall log) := by
  induction calls generalizing log ring with
  | nil => exact h
  | cons call calls ih =>
    apply ih
    cases call with
    | create seq port entryType =>
      -- both lists grow by the entry
      show recent (c - 1) (ring ++ _) = recent (c - 1) (log ++ _)
      rw [recent_append, recent_append (c - 1) log, ← h]
      rfl
    | update u =>
      -- both change the last entry with that number
      show live c (logUpdate c ring u) = recent (c - 1) (modifyLast _ _ log)
      rw [live_logUpdate, recent_modifyLast, h]

/-- The entries of the ring after a run. -/
theorem statsEntries_foldl_applyCall {n : UInt32} {mode : StatsMode} {stats₀ : StatsCollector}
    (hcreate : createStatsCollector n mode = some stats₀) (calls : List StatsCall) :
    statsEntries (calls.foldl applyCall stats₀) =
      recent (stats₀.capacity.toNat - 1) (history calls) := by
  rcases represents_create hcreate with ⟨m, hm, hcap, -, -, h₀⟩
  rw [statsEntries_eq hm (represents_foldl hm calls h₀), hcap]
  exact live_foldl_logCall (2 ^ m) calls rfl

theorem capacity_create {n : UInt32} {mode : StatsMode} {stats₀ : StatsCollector}
    (hcreate : createStatsCollector n mode = some stats₀) : stats₀.capacity = nextPowerOf2 n := by
  unfold createStatsCollector at hcreate
  split at hcreate
  · simp at hcreate
  · simp only at hcreate
    split at hcreate
    · simp at hcreate
    · rw [← Option.some.inj hcreate]

/-! ## Reported figures -/

/-- The figures of a delta are those of the given values. -/
structure ComputedFrom (analysis : DeltaAnalysis) (values : List ℚ) : Prop where
  perm : analysis.deltaValues.Perm values
  packetCount : analysis.packetCount = values.length
  percentiles : exactPercentilesCalculate analysis =
    exactPercentilesCalculate { DeltaAnalysis.zero with deltaValues := values }

/-- Sorting forgets the order. -/
theorem mergeSort_eq_of_perm {l l' : List ℚ} (h : l.Perm l') :
    l.mergeSort (· ≤ ·) = l'.mergeSort (· ≤ ·) := by
  have hperm : (l.mergeSort (· ≤ ·)).Perm (l'.mergeSort (· ≤ ·)) :=
    (List.mergeSort_perm _ _).trans (h.trans (List.mergeSort_perm _ _).symm)
  exact hperm.eq_of_pairwise' (List.pairwise_mergeSort' _ _) (List.pairwise_mergeSort' _ _)

/-- Count and percentiles depend on the values only, not on their order. -/
theorem computedFrom_iff (analysis : DeltaAnalysis) (values : List ℚ) :
    ComputedFrom analysis values ↔ analysis.deltaValues.Perm values := by
  constructor
  · exact fun h => h.perm
  · intro h
    have hlen : analysis.packetCount = values.length := h.length_eq
    refine ⟨h, hlen, ?_⟩
    unfold exactPercentilesCalculate
    rw [hlen, mergeSort_eq_of_perm h]
    rfl

/-- The valid values of a delta in the last `n` entries. -/
def windowDeltas (n : Nat) (calls : List StatsCall) (i : Fin 12) : List ℚ :=
  (recent n (history calls)).filterMap (validDelta i)

/-! ## When the window is kept -/

/-- The entries of the window that a ring with room for `room` entries has lost. -/
def lostEntries (n room : Nat) (log : List StatsEntry) : List StatsEntry :=
  (recent n log).take ((recent n log).length - room)

/-- The entries of the ring that are older than the window. -/
def olderEntries (n room : Nat) (log : List StatsEntry) : List StatsEntry :=
  (recent room log).take ((recent room log).length - n)

/-- No valid value of the delta is lost, and older entries have no valid value
either, unless the window is full of valid values and the older ones equal
those that they push out. -/
structure WindowKept (n room : Nat) (calls : List StatsCall) (i : Fin 12) : Prop where
  lost : ∀ e ∈ lostEntries n room (history calls), validDelta i e = none
  older : (∀ e ∈ olderEntries n room (history calls), validDelta i e = none) ∨
    (windowDeltas n calls i).length = n ∧
      (((olderEntries n room (history calls)).filterMap (validDelta i)).take n).Perm
        ((windowDeltas n calls i).drop
          (n - ((olderEntries n room (history calls)).filterMap (validDelta i)).length))

/-- Values in front of a list that is cut at `n` values. -/
theorem take_append_perm_iff {α : Type} {n : Nat} (os bs : List α) (hbs : bs.length ≤ n) :
    ((os ++ bs).take n).Perm bs ↔
      os = [] ∨ bs.length = n ∧ (os.take n).Perm (bs.drop (n - os.length)) := by
  -- the entries behind the oldest ones are those of the ring but for their order
  have hswap : bs.length = n →
      (((os ++ bs).take n).Perm bs ↔ (os.take n).Perm (bs.drop (n - os.length))) := by
    intro hn
    have hsplit : bs.Perm (bs.drop (n - os.length) ++ bs.take (n - os.length)) := by
      have := @List.perm_append_comm α (bs.take (n - os.length)) (bs.drop (n - os.length))
      rwa [List.take_append_drop] at this
    rw [List.take_append]
    constructor
    · exact fun h => (List.perm_append_right_iff _).mp (h.trans hsplit)
    · exact fun h => (h.append_right _).trans hsplit.symm
  constructor
  · intro h
    by_cases hos : os = []
    · exact Or.inl hos
    · -- as many values are kept as the window has
      have hpos := List.length_pos_iff.mpr hos
      have hlen := h.length_eq
      rw [List.length_take, List.length_append] at hlen
      have hn : bs.length = n := by omega
      exact Or.inr ⟨hn, (hswap hn).mp h⟩
  · rintro (rfl | ⟨hn, h⟩)
    · rw [List.nil_append, List.take_of_length_le hbs]
    · exact (hswap hn).mpr h

theorem length_filterMap_recent_le (w : Nat) (log : List StatsEntry) (i : Fin 12) :
    ((recent w log).filterMap (validDelta i)).length ≤ w := by
  calc ((recent w log).filterMap (validDelta i)).length
      ≤ (recent w log).length := List.length_filterMap_le _ _
    _ ≤ w := by rw [length_recent]; exact Nat.min_le_right _ _

/-- The first `n` valid values of the ring are those of the window exactly if
the window is kept. -/
theorem take_ring_perm_iff {n room : Nat} (hroom : n ≤ room + 1) (calls : List StatsCall)
    (i : Fin 12) :
    (((recent room (history calls)).filterMap (validDelta i)).take n).Perm
        (windowDeltas n calls i) ↔ WindowKept n room calls i := by
  have hlen := fun w => length_recent w (history calls)
  rcases Nat.lt_or_ge room n with hlt | hle
  swap
  · -- the ring has the window, and perhaps older entries in front of it
    have hlost : lostEntries n room (history calls) = [] := by
      rw [lostEntries, hlen, Nat.sub_eq_zero_of_le (by omega), List.take_zero]
    have hring := recent_split hle (history calls)
    rw [hring, List.filterMap_append]
    show ((_ ++ windowDeltas n calls i).take n).Perm _ ↔ _
    rw [take_append_perm_iff _ (windowDeltas n calls i) (length_filterMap_recent_le n _ i),
      List.filterMap_eq_nil_iff]
    constructor
    · exact fun h => ⟨by simp [hlost], h⟩
    · exact fun h => h.older
  · -- the ring has one entry less than the window
    have holder : olderEntries n room (history calls) = [] := by
      rw [olderEntries, hlen, Nat.sub_eq_zero_of_le (by omega), List.take_zero]
    have hring := length_filterMap_recent_le room (history calls) i
    rw [List.take_of_length_le (by omega), windowDeltas, recent_split (Nat.le_of_lt hlt),
      List.filterMap_append]
    show List.Perm _ ((lostEntries n room (history calls)).filterMap (validDelta i) ++ _) ↔ _
    constructor
    · intro h
      have hlength := h.length_eq
      rw [List.length_append] at hlength
      have hnil : (lostEntries n room (history calls)).filterMap (validDelta i) = [] :=
        List.length_eq_zero_iff.mp (by omega)
      exact ⟨List.filterMap_eq_nil_iff.mp hnil, Or.inl (by simp [holder])⟩
    · intro h
      rw [List.filterMap_eq_nil_iff.mpr h.lost, List.nil_append]

/-- One delta: its figures are those of the window exactly if the window is kept. -/
theorem computedFrom_window_iff {mode : StatsMode} {config : StatsConfig}
    {stats₀ : StatsCollector} {result : AnalysisResult}
    (hcreate : createStatsCollector config.bufferSize mode = some stats₀)
    (hinit : initializeAnalysisResult mode config = some result) (calls : List StatsCall)
    {i : Fin 12} (hi : i ∈ modeDeltas mode) :
    ComputedFrom ((processBufferForAnalysis (calls.foldl applyCall stats₀) result).deltas i)
        (windowDeltas config.bufferSize.toNat calls i) ↔
      WindowKept config.bufferSize.toNat ((nextPowerOf2 config.bufferSize).toNat - 1) calls i := by
  have hsize : config.bufferSize ≠ 0 := by
    intro hzero
    simp [createStatsCollector, hzero] at hcreate
  have hactive : i ∈ result.activeDeltas := by
    rw [(initializeAnalysisResult_spec hsize hinit).1]
    exact hi
  rcases represents_create hcreate with ⟨m, -, hcap, hle, -, -⟩
  have hcapacity := capacity_create hcreate
  rw [computedFrom_iff, deltaValues_processBufferForAnalysis hsize hinit _ hactive,
    statsEntries_foldl_applyCall hcreate, hcapacity]
  rw [hcapacity] at hcap
  exact take_ring_perm_iff (by omega) calls i

/-- The reported figures of all deltas of the mode are computed from exactly the
valid deltas of the last `n` entries if and only if the window is kept. -/
theorem stats_window_iff {mode : StatsMode} {config : StatsConfig}
    {stats₀ : StatsCollector} {result : AnalysisResult}
    (hcreate : createStatsCollector config.bufferSize mode = some stats₀)
    (hinit : initializeAnalysisResult mode config = some result) (calls : List StatsCall) :
    (∀ i ∈ modeDeltas mode,
      ComputedFrom ((processBufferForAnalysis (calls.foldl applyCall stats₀) result).deltas i)
        (windowDeltas config.bufferSize.toNat calls i)) ↔
    ∀ i ∈ modeDeltas mode,
      WindowKept config.bufferSize.toNat ((nextPowerOf2 config.bufferSize).toNat - 1) calls i :=
  forall₂_congr fun _ hi => computedFrom_window_iff hcreate hinit calls hi

/-! ## A run that loses a value -/

/-- A one-way client that sends `k` packets, each two microseconds after its
application timestamp. -/
def onewayPackets (k : Nat) : List StatsCall :=
  (List.range k).flatMap fun seq =>
    [.create (UInt32.ofNat seq) 1 .clientOneway,
      .update (.appTx (UInt32.ofNat seq) 1000 0 .clientOneway),
      .update (.tx (UInt32.ofNat seq) 3000 .clientOneway)]

/-- The entry of such a packet. -/
def onewayEntry (seq : Nat) : StatsEntry :=
  { minimalStatsEntry (UInt32.ofNat seq) 1 .clientOneway with
    timestampNs := Function.update (Function.update (fun _ => 0) 1 1000) 2 3000 }

theorem history_onewayPackets (k : Nat) :
    history (onewayPackets k) = (List.range k).map onewayEntry := by
  induction k with
  | zero => rfl
  | succ k ih =>
    -- both updates reach the entry that was created last
    have hupdate : ∀ (log : List StatsEntry) (e : StatsEntry) (u : StatsUpdate),
        e.seqNum = u.seqNum → historyCall (log ++ [e]) (.update u) = log ++ [e.edit u.edit] := by
      intro log e u he
      exact modifyLast_append_cons _ (by simpa using he) (by simp)
    have hcalls : onewayPackets (k + 1) = onewayPackets k ++
        [.create (UInt32.ofNat k) 1 .clientOneway,
          .update (.appTx (UInt32.ofNat k) 1000 0 .clientOneway),
          .update (.tx (UInt32.ofNat k) 3000 .clientOneway)] := by
      simp only [onewayPackets, List.range_succ, List.flatMap_append, List.flatMap_singleton]
    rw [history, hcalls, List.foldl_append]
    show List.foldl historyCall (history (onewayPackets k)) _ = _
    rw [ih, List.range_succ, List.map_append, List.foldl_cons, List.foldl_cons, List.foldl_cons,
      List.foldl_nil]
    show historyCall (historyCall (_ ++ [minimalStatsEntry _ _ _]) _) _ = _
    rw [hupdate _ _ _ rfl, hupdate _ _ _ rfl]
    rfl

theorem validDelta_onewayEntry (seq : Nat) : validDelta 0 (onewayEntry seq) = some 2 := by
  have hdelta : deltaNs 1000 3000 = 2000 := by decide
  show (if (1000 : UInt64) ≠ 0 ∧ (3000 : UInt64) ≠ 0 ∧ 1 ≤ deltaNs 1000 3000 ∧
    deltaNs 1000 3000 ≤ 1000000000 then some ((deltaNs 1000 3000 : ℚ) / 1000) else none) = some 2
  rw [hdelta, if_pos (by decide)]
  norm_num

/-- A ring with room for one entry less loses the first packet. -/
theorem onewayEntry_zero_lost (k : Nat) :
    onewayEntry 0 ∈ lostEntries (k + 1) k (history (onewayPackets (k + 1))) := by
  have hall : recent (k + 1) (history (onewayPackets (k + 1))) =
      onewayEntry 0 :: (List.range k).map (onewayEntry ∘ Nat.succ) := by
    rw [history_onewayPackets, recent, List.length_map, List.length_range, Nat.sub_self,
      List.drop_zero, List.range_succ_eq_map, List.map_cons, List.map_map]
  rw [lostEntries, hall, List.length_cons, List.length_map, List.length_range,
    Nat.add_sub_cancel_left]
  exact List.mem_singleton_self _

/-- Of a window of ten thousand entries the ring has all, and nothing older, as
long as no more packets are sent. -/
theorem stats_window_two_packets :
    ∃ stats₀ result, createStatsCollector 10000 .clientOneway = some stats₀ ∧
      initializeAnalysisResult .clientOneway ⟨10000, 10, 1000⟩ = some result ∧
      ∀ i ∈ modeDeltas .clientOneway,
        ComputedFrom
          ((processBufferForAnalysis ((onewayPackets 2).foldl applyCall stats₀) result).deltas i)
          (windowDeltas 10000 (onewayPackets 2) i) := by
  refine ⟨_, _, rfl, rfl, (@stats_window_iff _ ⟨10000, 10, 1000⟩ _ _ rfl rfl _).mpr ?_⟩
  intro i _
  have hroom : (nextPowerOf2 10000).toNat - 1 = 16383 := by decide
  have hlen : ∀ w, (recent w (history (onewayPackets 2))).length ≤ 2 := by
    intro w
    rw [history_onewayPackets, length_recent]
    exact Nat.min_le_left _ _
  refine ⟨?_, Or.inl ?_⟩
  · show ∀ e ∈ lostEntries 10000 ((nextPowerOf2 10000).toNat - 1) _, _
    -- fewer packets than the window
    have := hlen 10000
    rw [hroom, lostEntries, Nat.sub_eq_zero_of_le (by omega)]
    simp
  · -- fewer packets than the ring
    show ∀ e ∈ olderEntries 10000 ((nextPowerOf2 10000).toNat - 1) _, _
    have := hlen 16383
    rw [hroom, olderEntries, Nat.sub_eq_zero_of_le (by omega)]
    simp

/-- With a buffer size of `2^14` and as many packets, all valid, the ring has
lost the first of them. -/
theorem stats_window_loses_oldest :
    ∃ stats₀ result, createStatsCollector 16384 .clientOneway = some stats₀ ∧
      initializeAnalysisResult .clientOneway ⟨16384, 10, 1000⟩ = some result ∧
      ¬ ∀ i ∈ modeDeltas .clientOneway,
        ComputedFrom
          ((processBufferForAnalysis ((onewayPackets 16384).foldl applyCall stats₀) result).deltas
            i)
          (windowDeltas 16384 (onewayPackets 16384) i) := by
  obtain ⟨stats₀, hcreate⟩ : ∃ stats₀, createStatsCollector 16384 .clientOneway = some stats₀ :=
    ⟨_, rfl⟩
  obtain ⟨result, hinit⟩ :
      ∃ result, initializeAnalysisResult .clientOneway ⟨16384, 10, 1000⟩ = some result := ⟨_, rfl⟩
  refine ⟨stats₀, result, hcreate, hinit, ?_⟩
  intro h
  have hmem : (0 : Fin 12) ∈ modeDeltas .clientOneway := List.mem_singleton_self 0
  have hkept := (@computedFrom_window_iff _ ⟨16384, 10, 1000⟩ _ _ hcreate hinit
    (onewayPackets 16384) _ hmem).mp (h 0 hmem)
  have hroom : (nextPowerOf2 16384).toNat - 1 = 16383 := by decide
  -- the first packet has left the ring but is still in the window
  have hnone := hkept.lost (onewayEntry 0) (by
    show onewayEntry 0 ∈ lostEntries 16384 ((nextPowerOf2 16384).toNat - 1) _
    rw [hroom]
    exact onewayEntry_zero_lost 16383)
  rw [validDelta_onewayEntry] at hnone
  exact absurd hnone (by simp)

end TradingLatency
