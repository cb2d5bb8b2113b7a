import TradingLatency.Lib.Counts
import TradingLatency.Stats.Options
import TradingLatency.Stats.Window

/-!
# What the histogram counts

A delta counts an entry in a bin of its histogram or as an outlier, and keeps the
value in an array of `buffer_size` places. A value that finds no place is counted
as an outlier and then once more in the histogram, so the counts add up exactly
as long as the array has room (`delta_accounting_iff`). The ring is larger than
the array whenever `buffer_size` is no power of two.
-/

namespace TradingLatency

open Ring

/-! ## Definitions -/

/-- Both timestamps of the delta are set, and the second is the later one. -/
def laterEntry (i : Fin 12) (entry : StatsEntry) : Prop :=
  entry.timestampNs (allDeltas i).1 ≠ 0 ∧ entry.timestampNs (allDeltas i).2 ≠ 0 ∧
    entry.timestampNs (allDeltas i).1 < entry.timestampNs (allDeltas i).2

instance laterEntry.decidable (i : Fin 12) : DecidablePred (laterEntry i) :=
  fun _ => instDecidableAnd

/-- The two timestamps of the delta are less than `2^63` nanoseconds apart. -/
def nearEntry (i : Fin 12) (entry : StatsEntry) : Prop :=
  (entry.timestampNs (allDeltas i).1).toNat < (entry.timestampNs (allDeltas i).2).toNat + 2 ^ 63 ∧
    (entry.timestampNs (allDeltas i).2).toNat < (entry.timestampNs (allDeltas i).1).toNat + 2 ^ 63

/-- What the histogram and the outliers add up to. -/
def DeltaAnalysis.counted (analysis : DeltaAnalysis) : Nat :=
  analysis.histogram.sum + analysis.outlierCount

/-- The counts of a delta after the given entries. -/
structure DeltaAccounted (config : StatsConfig) (i : Fin 12) (entries : List StatsEntry)
    (analysis : DeltaAnalysis) : Prop where
  total : analysis.counted = (entries.filter (laterEntry i)).length
  once : ∀ before e after, entries = before ++ e :: after →
    (analysisOf config i (before ++ [e])).counted =
      (analysisOf config i before).counted + if laterEntry i e then 1 else 0
  usedBins_le : analysis.usedBins ≤ config.maxBins.toNat ∧
    analysis.histogram.length = config.maxBins.toNat
  unused_zero : ∀ bin, analysis.usedBins ≤ bin → analysis.histogram.getD bin 0 = 0

/-! ## The bins -/

/-- The bins in use lie inside of the histogram, and the others are empty. -/
structure BinsInv (config : StatsConfig) (analysis : DeltaAnalysis) : Prop where
  length : analysis.histogram.length = config.maxBins.toNat
  used : analysis.usedBins ≤ config.maxBins.toNat
  unused : ∀ bin, analysis.usedBins ≤ bin → analysis.histogram.getD bin 0 = 0

theorem binsInv_freshDelta (config : StatsConfig) : BinsInv config (freshDelta config) where
  length := by simp [freshDelta]
  used := Nat.zero_le _
  unused bin _ := by
    rw [freshDelta, List.getD_eq_getElem?_getD, List.getElem?_replicate]
    split <;> rfl

theorem binsInv_updateHistogram {config : StatsConfig} {analysis : DeltaAnalysis}
    (h : BinsInv config analysis) (v : ℚ) : BinsInv config (updateHistogram analysis config v) := by
  simp only [updateHistogram]
  generalize (v / (config.binWidthUs.toNat : ℚ)).floor.toNat = bin
  split
  · -- the bin is in the range: it is counted, and `used_bins` reaches it
    rename_i hbin
    constructor
    · simpa using h.length
    · have := h.used
      simp only
      split <;> omega
    · intro k hk
      -- a bin that is not used yet is another one
      have hne : bin ≠ k := by
        simp only at hk
        split at hk <;> omega
      have hle : analysis.usedBins ≤ k := by
        simp only at hk
        split at hk <;> omega
      have hkeep := h.unused k hle
      rw [List.getD_eq_getElem?_getD] at hkeep ⊢
      simpa [List.getElem?_modify, hne] using hkeep
  · -- beyond the last bin: the value is an outlier
    exact ⟨h.length, h.used, h.unused⟩

theorem binsInv_processEntryForDelta {config : StatsConfig} {analysis : DeltaAnalysis}
    (h : BinsInv config analysis) (entry : StatsEntry) (i : Fin 12) :
    BinsInv config (processEntryForDelta entry analysis i config) := by
  rw [processEntryForDelta_eq entry analysis i config rfl rfl]
  split
  · split
    · apply binsInv_updateHistogram
      unfold exactPercentilesAddValue
      split <;> exact ⟨h.length, h.used, h.unused⟩
    · exact ⟨h.length, h.used, h.unused⟩
  · exact h

theorem analysisOf_concat (config : StatsConfig) (i : Fin 12) (entries : List StatsEntry)
    (e : StatsEntry) :
    analysisOf config i (entries ++ [e]) =
      processEntryForDelta e (analysisOf config i entries) i config := by
  rw [analysisOf, List.foldl_append]
  rfl

theorem binsInv_analysisOf (config : StatsConfig) (i : Fin 12) (entries : List StatsEntry) :
    BinsInv config (analysisOf config i entries) := by
  induction entries using List.reverseRecOn with
  | nil => exact binsInv_freshDelta config
  | append_singleton entries e ih =>
    rw [analysisOf_concat]
    exact binsInv_processEntryForDelta ih e i

/-! ## The counts -/

@[simp] theorem histogram_addValue (analysis : DeltaAnalysis) (v : ℚ) :
    (exactPercentilesAddValue analysis v).histogram = analysis.histogram := by
  unfold exactPercentilesAddValue
  split <;> rfl

theorem counted_addValue (analysis : DeltaAnalysis) (v : ℚ) :
    (exactPercentilesAddValue analysis v).counted =
      analysis.counted + if analysis.deltaCapacity ≤ analysis.packetCount then 1 else 0 := by
  unfold exactPercentilesAddValue
  by_cases hroom : analysis.packetCount < analysis.deltaCapacity
  · rw [if_pos hroom, if_neg (Nat.not_le.mpr hroom)]
    rfl
  · rw [if_neg hroom, if_pos (Nat.not_lt.mp hroom)]
    simp only [DeltaAnalysis.counted]
    omega

theorem counted_updateHistogram {config : StatsConfig} {analysis : DeltaAnalysis}
    (h : analysis.histogram.length = config.maxBins.toNat) (v : ℚ) :
    (updateHistogram analysis config v).counted = analysis.counted + 1 := by
  simp only [updateHistogram]
  split
  · rename_i hbin
    simp only [DeltaAnalysis.counted]
    rw [Counts.sum_modify_succ (by omega)]
    omega
  · simp only [DeltaAnalysis.counted]
    omega

/-- Timestamps less than `2^63` apart have an exact difference. -/
theorem deltaNs_of_near {tsA tsB : UInt64} (hA : tsA.toNat < tsB.toNat + 2 ^ 63)
    (hB : tsB.toNat < tsA.toNat + 2 ^ 63) : deltaNs tsA tsB = (tsB.toNat : Int) - tsA.toNat := by
  have hto : ∀ ts : UInt64, ts.toInt64.toInt = (ts.toNat : Int).bmod (2 ^ 64) :=
    fun ts => BitVec.toInt_eq_toNat_bmod ts.toBitVec
  rw [deltaNs, Int64.toInt_sub, hto, hto, Int.sub_bmod_bmod, Int.bmod_sub_bmod]
  apply Int.bmod_eq_of_le <;> omega

theorem later_iff {i : Fin 12} {e : StatsEntry} (hnear : nearEntry i e) :
    laterEntry i e ↔ e.timestampNs (allDeltas i).1 ≠ 0 ∧ e.timestampNs (allDeltas i).2 ≠ 0 ∧
      1 ≤ deltaNs (e.timestampNs (allDeltas i).1) (e.timestampNs (allDeltas i).2) := by
  rw [deltaNs_of_near hnear.1 hnear.2, laterEntry, UInt64.lt_iff_toNat_lt]
  refine and_congr_right fun _ => and_congr_right fun _ => ?_
  omega

theorem isSome_validDelta (i : Fin 12) (e : StatsEntry) :
    (validDelta i e).isSome = true ↔
      (e.timestampNs (allDeltas i).1 ≠ 0 ∧ e.timestampNs (allDeltas i).2 ≠ 0 ∧
        1 ≤ deltaNs (e.timestampNs (allDeltas i).1) (e.timestampNs (allDeltas i).2)) ∧
      deltaNs (e.timestampNs (allDeltas i).1) (e.timestampNs (allDeltas i).2) ≤ 1000000000 := by
  simp only [validDelta]
  split
  · rename_i h
    exact iff_of_true rfl ⟨⟨h.1, h.2.1, h.2.2.1⟩, h.2.2.2⟩
  · rename_i h
    refine iff_of_false (by simp) ?_
    rintro ⟨⟨hA, hB, hpos⟩, hle⟩
    exact h ⟨hA, hB, hpos, hle⟩

/-- One entry: a valid one that finds no room counts twice. -/
theorem counted_processEntryForDelta {config : StatsConfig} {analysis : DeltaAnalysis}
    (h : analysis.histogram.length = config.maxBins.toNat) {i : Fin 12} {e : StatsEntry}
    (hnear : nearEntry i e) :
    (processEntryForDelta e analysis i config).counted =
      analysis.counted + (if laterEntry i e then 1 else 0) +
        (if (validDelta i e).isSome ∧ analysis.deltaCapacity ≤ analysis.packetCount then 1
          else 0) := by
  rw [processEntryForDelta_eq e analysis i config rfl rfl]
  have hlater := later_iff hnear
  have hvalid := isSome_validDelta i e
  generalize e.timestampNs (allDeltas i).1 = tsA at hlater hvalid ⊢
  generalize e.timestampNs (allDeltas i).2 = tsB at hlater hvalid ⊢
  by_cases hpos : tsA ≠ 0 ∧ tsB ≠ 0 ∧ 1 ≤ deltaNs tsA tsB
  swap
  · -- no later timestamp: nothing is counted
    rw [if_neg hpos, if_neg (fun hl => hpos (hlater.mp hl)),
      if_neg (fun hv => hpos (hvalid.mp hv.1).1)]
    rfl
  rw [if_pos hpos, if_pos (hlater.mpr hpos)]
  by_cases hle : deltaNs tsA tsB ≤ 1000000000
  swap
  · -- more than a second: an outlier, and no value
    rw [if_neg hle, if_neg (fun hv => hle (hvalid.mp hv.1).2)]
    simp only [DeltaAnalysis.counted]
    omega
  -- a value; where the array is full it is counted a second time, as an outlier
  rw [if_pos hle, counted_updateHistogram (by rw [histogram_addValue, h]), counted_addValue,
    hvalid.mpr ⟨hpos, hle⟩]
  simp only [true_and]
  omega

theorem deltaCapacity_analysisOf (config : StatsConfig) (i : Fin 12) (entries : List StatsEntry) :
    (analysisOf config i entries).deltaCapacity = config.bufferSize.toNat := by
  induction entries using List.reverseRecOn with
  | nil => rfl
  | append_singleton entries e ih =>
    have hcap : (analysisOf config i entries).deltaValues.length ≤
        (analysisOf config i entries).deltaCapacity := by
      rw [deltaValues_analysisOf, ih]
      exact List.length_take_le _ _
    rw [analysisOf_concat, (processEntryForDelta_spec e _ i config hcap).1, ih]

/-- The counts after a list of entries: one for every later entry, and one more
for every valid one beyond the capacity. -/
theorem counted_analysisOf (config : StatsConfig) (i : Fin 12) {entries : List StatsEntry}
    (hnear : ∀ e ∈ entries, nearEntry i e) :
    (analysisOf config i entries).counted =
      (entries.filter (laterEntry i)).length +
        ((entries.filterMap (validDelta i)).length - config.bufferSize.toNat) := by
  -- induction over the entries from the last one on
  induction entries using List.reverseRecOn with
  | nil => simp [analysisOf, freshDelta, DeltaAnalysis.counted]
  | append_singleton entries e ih =>
    have ih' := ih fun e he => hnear e (List.mem_append_left _ he)
    have hbins := binsInv_analysisOf config i entries
    have hcount : (analysisOf config i entries).packetCount =
        min config.bufferSize.toNat (entries.filterMap (validDelta i)).length := by
      rw [DeltaAnalysis.packetCount, deltaValues_analysisOf, List.length_take]
    rw [analysisOf_concat, counted_processEntryForDelta hbins.length (hnear e (by simp)), ih',
      hcount, deltaCapacity_analysisOf, List.filter_append, List.filterMap_append,
      List.length_append, List.length_append]
    have hfilter : ([e].filter (laterEntry i)).length = if laterEntry i e then 1 else 0 := by
      by_cases hl : laterEntry i e <;> simp [hl]
    have hvalid : ([e].filterMap (validDelta i)).length =
        if (validDelta i e).isSome then 1 else 0 := by
      cases hv : validDelta i e <;> simp [hv]
    rw [hfilter, hvalid]
    generalize (if laterEntry i e then 1 else 0) = later
    -- the new entry has a value: it is kept, or counted again
    by_cases hv : (validDelta i e).isSome = true
    · simp only [hv, true_and, if_true]
      split <;> omega
    · -- no value
      simp only [hv, Bool.false_eq_true, false_and, if_false]
      omega

/-- The counts are right exactly as long as every valid value has its place. -/
theorem deltaAccounted_iff (config : StatsConfig) (i : Fin 12) {entries : List StatsEntry}
    (hnear : ∀ e ∈ entries, nearEntry i e) :
    DeltaAccounted config i entries (analysisOf config i entries) ↔
      (entries.filterMap (validDelta i)).length ≤ config.bufferSize.toNat := by
  have hbins := binsInv_analysisOf config i entries
  constructor
  · intro h
    have htotal := h.total
    rw [counted_analysisOf config i hnear] at htotal
    omega
  · intro hroom
    refine ⟨?_, ?_, ⟨hbins.used, hbins.length⟩, hbins.unused⟩
    · rw [counted_analysisOf config i hnear]
      omega
    · intro before e after hsplit
      -- a prefix of the entries has no more valid values than all of them
      have hstart : entries = (before ++ [e]) ++ after := by simp [hsplit]
      have hle : ((before ++ [e]).filterMap (validDelta i)).length ≤
          (entries.filterMap (validDelta i)).length := by
        rw [hstart]
        exact ((List.sublist_append_left _ _).filterMap _).length_le
      have hle' : (before.filterMap (validDelta i)).length ≤
          ((before ++ [e]).filterMap (validDelta i)).length :=
        ((List.sublist_append_left _ _).filterMap _).length_le
      have hnear' : ∀ e' ∈ before ++ [e], nearEntry i e' := by
        intro e' he'
        apply hnear
        rw [hstart]
        exact List.mem_append_left _ he'
      rw [counted_analysisOf config i hnear',
        counted_analysisOf config i fun e' he' => hnear' e' (List.mem_append_left _ he'),
        List.filter_append, List.length_append]
      have hfilter : ([e].filter (laterEntry i)).length = if laterEntry i e then 1 else 0 := by
        by_cases hl : laterEntry i e <;> simp [hl]
      rw [hfilter]
      omega

/-- For every accepted configuration and every content of the ring with deltas
below `2^63` nanoseconds, the counts of an active delta are right if and only if
no more entries than `buffer_size` have a valid value of at most one second. -/
theorem delta_accounting_iff {optargs : List (Option CText.Text)} {config : StatsConfig}
    (hopts : statsOptions optargs = .ok config) {mode : StatsMode} {result : AnalysisResult}
    (hinit : initializeAnalysisResult mode config = some result) (stats : StatsCollector)
    {i : Fin 12} (hi : i ∈ result.activeDeltas)
    (hnear : ∀ e ∈ statsEntries stats, nearEntry i e) :
    DeltaAccounted config i (statsEntries stats)
        ((processBufferForAnalysis stats result).deltas i) ↔
      ((statsEntries stats).filterMap (validDelta i)).length ≤ config.bufferSize.toNat := by
  have hsize : config.bufferSize ≠ 0 := by
    intro hzero
    have hrange := (acceptedStats_of_options hopts).bufferSize.1
    rw [hzero] at hrange
    exact absurd hrange (by decide)
  rw [deltas_processBufferForAnalysis hsize hinit stats hi]
  exact deltaAccounted_iff config i hnear

/-! ## One-way packets -/

/-- The configuration of `--stats=10K`. -/
def tenThousand : StatsConfig := ⟨10000, 10, 1000⟩

theorem statsOptions_tenThousand : statsOptions [some "10K".toList] = .ok tenThousand := by
  rfl

theorem timestampNs_onewayEntry (seq : Nat) :
    (onewayEntry seq).timestampNs (allDeltas 0).1 = 1000 ∧
      (onewayEntry seq).timestampNs (allDeltas 0).2 = 3000 :=
  ⟨rfl, rfl⟩

theorem nearEntry_onewayEntry (seq : Nat) : nearEntry 0 (onewayEntry seq) := by
  rcases timestampNs_onewayEntry seq with ⟨hA, hB⟩
  unfold nearEntry
  rw [hA, hB]
  decide

theorem laterEntry_onewayEntry (seq : Nat) : laterEntry 0 (onewayEntry seq) := by
  rcases timestampNs_onewayEntry seq with ⟨hA, hB⟩
  unfold laterEntry
  rw [hA, hB]
  decide

/-- The ring of `2^14` places still has all of a few packets. -/
theorem statsEntries_onewayPackets {stats₀ : StatsCollector}
    (hcreate : createStatsCollector 10000 .clientOneway = some stats₀) {k : Nat} (hk : k ≤ 16383) :
    statsEntries ((onewayPackets k).foldl applyCall stats₀) = (List.range k).map onewayEntry := by
  have hroom : (nextPowerOf2 10000).toNat - 1 = 16383 := by decide
  rw [statsEntries_foldl_applyCall hcreate, capacity_create hcreate, hroom, history_onewayPackets,
    recent, List.length_map, List.length_range, Nat.sub_eq_zero_of_le hk, List.drop_zero]

theorem validDeltas_onewayPackets (k : Nat) :
    ((List.range k).map onewayEntry).filterMap (validDelta 0) = List.replicate k 2 := by
  have hvalid : validDelta 0 ∘ onewayEntry = fun _ => some 2 := by
    funext seq
    rw [Function.comp_apply, validDelta_onewayEntry]
  rw [List.filterMap_map, hvalid, List.filterMap_eq_map', List.map_const', List.length_range]

theorem nearEntry_onewayPackets {k : Nat} {e : StatsEntry}
    (he : e ∈ (List.range k).map onewayEntry) : nearEntry 0 e := by
  rcases List.mem_map.mp he with ⟨seq, -, rfl⟩
  exact nearEntry_onewayEntry seq

/-- Two packets are counted once each. -/
theorem delta_accounting_two :
    ∃ stats₀ result, createStatsCollector 10000 .clientOneway = some stats₀ ∧
      initializeAnalysisResult .clientOneway tenThousand = some result ∧
      DeltaAccounted tenThousand 0 ((List.range 2).map onewayEntry)
        ((processBufferForAnalysis ((onewayPackets 2).foldl applyCall stats₀) result).deltas 0) := by
  rcases hcreate : createStatsCollector 10000 .clientOneway with _ | stats₀
  · exact absurd hcreate nofun
  rcases hinit : initializeAnalysisResult .clientOneway tenThousand with _ | result
  · exact absurd hinit nofun
  refine ⟨stats₀, result, rfl, rfl, ?_⟩
  have hentries := statsEntries_onewayPackets hcreate (k := 2) (by omega)
  have hactive : (0 : Fin 12) ∈ result.activeDeltas := by
    rw [(initializeAnalysisResult_spec (by decide) hinit).1]
    exact List.mem_singleton_self 0
  have hiff := delta_accounting_iff statsOptions_tenThousand hinit
    ((onewayPackets 2).foldl applyCall stats₀) hactive
  rw [hentries] at hiff
  refine (hiff fun e he => nearEntry_onewayPackets he).mpr ?_
  rw [validDeltas_onewayPackets, List.length_replicate]
  decide

/-- Of `10001` packets that all fit the ring, the last one finds no place in the
array of `10000` values and is counted twice. -/
theorem delta_counted_twice :
    ∃ stats₀ result, statsOptions [some "10K".toList] = .ok tenThousand ∧
      createStatsCollector 10000 .clientOneway = some stats₀ ∧
      initializeAnalysisResult .clientOneway tenThousand = some result ∧
      statsEntries ((onewayPackets 10001).foldl applyCall stats₀) =
        (List.range 10001).map onewayEntry ∧
      ((processBufferForAnalysis ((onewayPackets 10001).foldl applyCall stats₀) result).deltas
        0).counted = 10002 ∧
      ¬ DeltaAccounted tenThousand 0 ((List.range 10001).map onewayEntry)
        ((processBufferForAnalysis ((onewayPackets 10001).foldl applyCall stats₀) result).deltas
          0) := by
  rcases hcreate : createStatsCollector 10000 .clientOneway with _ | stats₀
  · exact absurd hcreate nofun
  rcases hinit : initializeAnalysisResult .clientOneway tenThousand with _ | result
  · exact absurd hinit nofun
  have hentries := statsEntries_onewayPackets hcreate (k := 10001) (by omega)
  have hactive : (0 : Fin 12) ∈ result.activeDeltas := by
    rw [(initializeAnalysisResult_spec (by decide) hinit).1]
    exact List.mem_singleton_self 0
  have hnear : ∀ e ∈ (List.range 10001).map onewayEntry, nearEntry 0 e :=
    fun e he => nearEntry_onewayPackets he
  have hsize : tenThousand.bufferSize.toNat = 10000 := rfl
  have hlater : ((List.range 10001).map onewayEntry).filter (laterEntry 0) =
      (List.range 10001).map onewayEntry := by
    rw [List.filter_eq_self]
    intro e he
    rcases List.mem_map.mp he with ⟨seq, -, rfl⟩
    exact decide_eq_true (laterEntry_onewayEntry seq)
  have hcounted := counted_analysisOf tenThousand 0 hnear
  rw [validDeltas_onewayPackets, List.length_replicate, hsize, hlater, List.length_map,
    List.length_range] at hcounted
  refine ⟨stats₀, result, statsOptions_tenThousand, rfl, rfl, hentries, ?_, ?_⟩
  · rw [deltas_processBufferForAnalysis (by decide) hinit _ hactive, hentries, hcounted]
  · rw [deltas_processBufferForAnalysis (by decide) hinit _ hactive, hentries,
      deltaAccounted_iff tenThousand 0 hnear, validDeltas_onewayPackets, List.length_replicate,
      hsize]
    omega

end TradingLatency
