import TradingLatency.Stats.Collector
import Mathlib.Data.Rat.Floor

/-!
# The statistics engine (`timestamp_common.c`)

At the end of a run the entries of the collector are visited once, and for each
delta of the program mode the difference of two timestamps is added to a list
of values and to a histogram. Exact rational numbers stand in place of `double`;
memory allocation succeeds.

`valuesOf_foldl` says what one delta collects from a list of entries: the valid
differences, oldest first, as many as its array has room for.
-/

namespace TradingLatency

/-! ## Data model -/

/-- The fields of `stats_config_t` behind `enabled`. -/
structure StatsConfig where
  bufferSize : UInt32
  binWidthUs : UInt32
  maxBins : UInt32
deriving DecidableEq, Repr

/-- The timestamp indices of `ALL_DELTAS`. -/
def allDeltas : Fin 12 → Fin 12 × Fin 12
  | 0 => (1, 2)
  | 1 => (3, 4)
  | 2 => (4, 6)
  | 3 => (1, 6)
  | 4 => (0, 5)
  | 5 => (1, 3)
  | 6 => (7, 8)
  | 7 => (8, 9)
  | 8 => (9, 10)
  | 9 => (10, 11)
  | 10 => (7, 11)
  | 11 => (7, 9)

/-- `CLIENT_ONEWAY_DELTAS`, `CLIENT_ROUNDTRIP_DELTAS`, `SERVER_ONEWAY_DELTAS` and
`SERVER_ROUNDTRIP_DELTAS`. -/
def modeDeltas : StatsMode → List (Fin 12)
  | .clientOneway => [0]
  | .clientRoundtrip => [0, 1, 2, 5, 3, 4]
  | .serverOneway => [6, 7, 11]
  | .serverRoundtrip => [6, 7, 8, 9, 11, 10]

/-- `delta_analysis_t`. `deltaValues` holds the first `packet_count` values of
the array. -/
structure DeltaAnalysis where
  deltaValues : List ℚ
  deltaCapacity : Nat
  histogram : List Nat
  outlierCount : Nat
  usedBins : Nat

/-- `packet_count`, which is printed as "Packets Evaluated". -/
def DeltaAnalysis.packetCount (analysis : DeltaAnalysis) : Nat := analysis.deltaValues.length

/-- A zeroed `delta_analysis_t`. -/
def DeltaAnalysis.zero : DeltaAnalysis := ⟨[], 0, [], 0, 0⟩

/-- `stats_analysis_result_t`. -/
structure AnalysisResult where
  deltas : Fin 12 → DeltaAnalysis
  activeDeltas : List (Fin 12)
  mode : StatsMode
  config : StatsConfig

/-! ## Set-up -/

/-- `exact_percentiles_init`: a capacity of zero is refused. -/
def exactPercentilesInit (analysis : DeltaAnalysis) (capacity : UInt32) : DeltaAnalysis :=
  if capacity = 0 then analysis
  else { analysis with deltaValues := [], deltaCapacity := capacity.toNat }

/-- `configure_analysis_for_mode`. -/
def configureAnalysisForMode (mode : StatsMode) (config : StatsConfig) : AnalysisResult where
  deltas i := if i ∈ modeDeltas mode then exactPercentilesInit .zero config.bufferSize else .zero
  activeDeltas := modeDeltas mode
  mode := mode
  config := config

/-- `validate_analysis_result`. -/
def validateAnalysisResult (result : AnalysisResult) : Bool :=
  result.activeDeltas.length ≠ 0 && result.activeDeltas.length ≤ 10 &&
    result.config.maxBins ≠ 0 && result.config.binWidthUs ≠ 0

/-- `allocate_analysis_structures_for_delta`: `none` where it returns `-1`. -/
def allocateAnalysisStructuresForDelta (analysis : DeltaAnalysis) (maxBins bufferCapacity : UInt32) :
    Option DeltaAnalysis :=
  if maxBins = 0 then none
  else
    let analysis := exactPercentilesInit analysis bufferCapacity
    some { analysis with
      deltaValues := []
      histogram := List.replicate maxBins.toNat 0
      outlierCount := 0
      usedBins := 0 }

/-- The loop of `allocate_analysis_histograms`. -/
def allocateLoop (config : StatsConfig) :
    List (Fin 12) → (Fin 12 → DeltaAnalysis) → Option (Fin 12 → DeltaAnalysis)
  | [], deltas => some deltas
  | i :: active, deltas =>
      match allocateAnalysisStructuresForDelta (deltas i) config.maxBins config.bufferSize with
      | none => none
      | some analysis => allocateLoop config active (Function.update deltas i analysis)

/-- `allocate_analysis_histograms`. -/
def allocateAnalysisHistograms (result : AnalysisResult) : Option AnalysisResult :=
  (allocateLoop result.config result.activeDeltas result.deltas).map fun deltas =>
    { result with deltas := deltas }

/-- `initialize_analysis_result`: `none` where it returns `-1`. -/
def initializeAnalysisResult (mode : StatsMode) (config : StatsConfig) : Option AnalysisResult :=
  let result := configureAnalysisForMode mode config
  if validateAnalysisResult result then allocateAnalysisHistograms result else none

/-! ## Processing -/

/-- `(int64_t)ts_b - (int64_t)ts_a`. -/
def deltaNs (tsA tsB : UInt64) : Int := (tsB.toInt64 - tsA.toInt64).toInt

/-- `exact_percentiles_add_value`. -/
def exactPercentilesAddValue (analysis : DeltaAnalysis) (deltaUs : ℚ) : DeltaAnalysis :=
  if analysis.packetCount < analysis.deltaCapacity then
    { analysis with deltaValues := analysis.deltaValues ++ [deltaUs] }
  else { analysis with outlierCount := analysis.outlierCount + 1 }

/-- The histogram part of `process_entry_for_delta`. -/
def updateHistogram (analysis : DeltaAnalysis) (config : StatsConfig) (deltaUs : ℚ) :
    DeltaAnalysis :=
  let bin := (deltaUs / (config.binWidthUs.toNat : ℚ)).floor.toNat
  if bin < config.maxBins.toNat then
    { analysis with
      histogram := analysis.histogram.modify bin (· + 1)
      usedBins := if bin ≥ analysis.usedBins then bin + 1 else analysis.usedBins }
  else { analysis with outlierCount := analysis.outlierCount + 1 }

/-- `process_entry_for_delta`. -/
def processEntryForDelta (entry : StatsEntry) (analysis : DeltaAnalysis) (deltaIdx : Fin 12)
    (config : StatsConfig) : DeltaAnalysis :=
  let tsA := entry.timestampNs (allDeltas deltaIdx).1
  let tsB := entry.timestampNs (allDeltas deltaIdx).2
  if tsA = 0 ∨ tsB = 0 then analysis
  else if deltaNs tsA tsB < 0 then analysis
  else
    let deltaUs : ℚ := (deltaNs tsA tsB : ℚ) / 1000
    if deltaUs < 1 / 1000 then analysis
    else if deltaUs > 1000000 then { analysis with outlierCount := analysis.outlierCount + 1 }
    else updateHistogram (exactPercentilesAddValue analysis deltaUs) config deltaUs

/-- The inner loop of `process_buffer_for_analysis`: one entry, all deltas. -/
def processEntry (result : AnalysisResult) (entry : StatsEntry) : AnalysisResult :=
  { result with
    deltas := result.activeDeltas.foldl
      (fun deltas i => Function.update deltas i
        (processEntryForDelta entry (deltas i) i result.config)) result.deltas }

/-- `process_buffer_for_analysis`. -/
def processBufferForAnalysis (stats : StatsCollector) (result : AnalysisResult) : AnalysisResult :=
  if getBufferCount stats = 0 then result
  else
    match allocateAnalysisHistograms result with
    | none => result
    | some result => forEachEntry stats processEntry result

/-! ## Percentiles -/

/-- One turn of the loop of `exact_percentiles_calculate` on the sorted values. -/
def percentileOf (values : List ℚ) (p : ℚ) : ℚ :=
  let pos := p / 100 * ((values.length : ℚ) - 1)
  let lowerIdx := pos.floor.toNat
  let upperIdx := pos.ceil.toNat
  if lowerIdx = upperIdx ∨ upperIdx ≥ values.length then values.getD lowerIdx 0
  else
    let lowerVal := values.getD lowerIdx 0
    let upperVal := values.getD upperIdx 0
    lowerVal + (pos - lowerIdx) * (upperVal - lowerVal)

/-- `exact_percentiles_calculate`: P25, P50, P75, P90 and P95. -/
def exactPercentilesCalculate (analysis : DeltaAnalysis) : List ℚ :=
  if analysis.packetCount = 0 then [0, 0, 0, 0, 0]
  else [25, 50, 75, 90, 95].map (percentileOf (analysis.deltaValues.mergeSort (· ≤ ·)))

/-! ## What a delta collects -/

/-- The value of a valid delta in microseconds: both timestamps are set, and
the second lies between one nanosecond and one second behind the first. -/
def validDelta (deltaIdx : Fin 12) (entry : StatsEntry) : Option ℚ :=
  let tsA := entry.timestampNs (allDeltas deltaIdx).1
  let tsB := entry.timestampNs (allDeltas deltaIdx).2
  if tsA ≠ 0 ∧ tsB ≠ 0 ∧ 1 ≤ deltaNs tsA tsB ∧ deltaNs tsA tsB ≤ 1000000000 then
    some ((deltaNs tsA tsB : ℚ) / 1000)
  else none

@[simp] theorem deltaValues_updateHistogram (analysis : DeltaAnalysis) (config : StatsConfig)
    (v : ℚ) : (updateHistogram analysis config v).deltaValues = analysis.deltaValues := by
  simp only [updateHistogram]
  split <;> rfl

@[simp] theorem deltaCapacity_updateHistogram (analysis : DeltaAnalysis) (config : StatsConfig)
    (v : ℚ) : (updateHistogram analysis config v).deltaCapacity = analysis.deltaCapacity := by
  simp only [updateHistogram]
  split <;> rfl

/-- The tests of `process_entry_for_delta` in nanoseconds: an entry without both
timestamps, or whose second one is not the later, is passed over, and one of
more than a second is an outlier. -/
theorem processEntryForDelta_eq (entry : StatsEntry) (analysis : DeltaAnalysis) (i : Fin 12)
    (config : StatsConfig) {tsA tsB : UInt64} (hA : entry.timestampNs (allDeltas i).1 = tsA)
    (hB : entry.timestampNs (allDeltas i).2 = tsB) :
    processEntryForDelta entry analysis i config =
      if tsA ≠ 0 ∧ tsB ≠ 0 ∧ 1 ≤ deltaNs tsA tsB then
        if deltaNs tsA tsB ≤ 1000000000 then
          updateHistogram (exactPercentilesAddValue analysis ((deltaNs tsA tsB : ℚ) / 1000)) config
            ((deltaNs tsA tsB : ℚ) / 1000)
        else { analysis with outlierCount := analysis.outlierCount + 1 }
      else analysis := by
  unfold processEntryForDelta
  rw [hA, hB]
  simp only
  by_cases hz : tsA = 0 ∨ tsB = 0
  · rw [if_pos hz, if_neg (by tauto)]
  rw [if_neg hz]
  rw [not_or] at hz
  by_cases hneg : deltaNs tsA tsB < 0
  · rw [if_pos hneg, if_neg (by omega)]
  rw [if_neg hneg]
  by_cases hsmall : (deltaNs tsA tsB : ℚ) / 1000 < 1 / 1000
  · -- below one nanosecond there is only zero
    have hlt : deltaNs tsA tsB < 1 := by
      have : (deltaNs tsA tsB : ℚ) < 1 := by linarith
      exact_mod_cast this
    rw [if_pos hsmall, if_neg (by omega)]
  rw [if_neg hsmall]
  have hge : 1 ≤ deltaNs tsA tsB := by
    have : (1 : ℚ) ≤ deltaNs tsA tsB := by linarith
    exact_mod_cast this
  have hpos : tsA ≠ 0 ∧ tsB ≠ 0 ∧ 1 ≤ deltaNs tsA tsB := ⟨hz.1, hz.2, hge⟩
  by_cases hlarge : (deltaNs tsA tsB : ℚ) / 1000 > 1000000
  · have hgt : 1000000000 < deltaNs tsA tsB := by
      have : (1000000000 : ℚ) < deltaNs tsA tsB := by linarith
      exact_mod_cast this
    rw [if_pos hlarge, if_pos hpos, if_neg (by omega)]
  · have hle : deltaNs tsA tsB ≤ 1000000000 := by
      have : (deltaNs tsA tsB : ℚ) ≤ 1000000000 := by linarith
      exact_mod_cast this
    rw [if_neg hlarge, if_pos hpos, if_pos hle]

/-- One entry adds its valid delta, if there is room. -/
theorem processEntryForDelta_spec (entry : StatsEntry) (analysis : DeltaAnalysis) (i : Fin 12)
    (config : StatsConfig) (hcap : analysis.deltaValues.length ≤ analysis.deltaCapacity) :
    (processEntryForDelta entry analysis i config).deltaCapacity = analysis.deltaCapacity ∧
    (processEntryForDelta entry analysis i config).deltaValues =
      (analysis.deltaValues ++ (validDelta i entry).toList).take analysis.deltaCapacity := by
  have hkeep : (analysis.deltaValues ++ []).take analysis.deltaCapacity = analysis.deltaValues := by
    rw [List.append_nil, List.take_of_length_le hcap]
  rw [processEntryForDelta_eq entry analysis i config rfl rfl]
  unfold validDelta
  generalize entry.timestampNs (allDeltas i).1 = tsA
  generalize entry.timestampNs (allDeltas i).2 = tsB
  simp only
  by_cases hpos : tsA ≠ 0 ∧ tsB ≠ 0 ∧ 1 ≤ deltaNs tsA tsB
  swap
  · -- not a later timestamp
    rw [if_neg hpos, if_neg (by tauto)]
    exact ⟨rfl, hkeep.symm⟩
  rw [if_pos hpos]
  by_cases hle : deltaNs tsA tsB ≤ 1000000000
  swap
  · -- more than a second
    rw [if_neg hle, if_neg (by tauto)]
    exact ⟨rfl, hkeep.symm⟩
  rw [if_pos hle, if_pos ⟨hpos.1, hpos.2.1, hpos.2.2, hle⟩, deltaValues_updateHistogram,
    deltaCapacity_updateHistogram]
  unfold exactPercentilesAddValue DeltaAnalysis.packetCount
  by_cases hroom : analysis.deltaValues.length < analysis.deltaCapacity
  · -- room in the array
    rw [if_pos hroom]
    refine ⟨rfl, ?_⟩
    rw [List.take_of_length_le]
    · rfl
    · rw [List.length_append, Option.toList_some, List.length_singleton]
      exact hroom
  · -- the array is full, the value is dropped
    rw [if_neg hroom]
    refine ⟨rfl, ?_⟩
    rw [List.take_append_of_le_length (by omega), List.take_of_length_le hcap]

/-- A list of entries adds its valid deltas in order, as many as there is room
for. -/
theorem valuesOf_foldl (entries : List StatsEntry) (i : Fin 12) (config : StatsConfig)
    (analysis : DeltaAnalysis) (hcap : analysis.deltaValues.length ≤ analysis.deltaCapacity) :
    (entries.foldl (fun a e => processEntryForDelta e a i config) analysis).deltaValues =
      (analysis.deltaValues ++ entries.filterMap (validDelta i)).take analysis.deltaCapacity := by
  induction entries generalizing analysis with
  | nil => simp [List.take_of_length_le hcap]
  | cons e entries ih =>
    rcases processEntryForDelta_spec e analysis i config hcap with ⟨hc, hv⟩
    have hlen : (processEntryForDelta e analysis i config).deltaValues.length ≤
        (processEntryForDelta e analysis i config).deltaCapacity := by
      rw [hv, hc]
      exact List.length_take_le _ _
    rw [List.foldl_cons, ih _ hlen, hc, hv]
    -- values that were cut off once stay cut off
    have hcons : (e :: entries).filterMap (validDelta i) =
        (validDelta i e).toList ++ entries.filterMap (validDelta i) := by
      rw [List.filterMap_cons]
      cases validDelta i e <;> rfl
    rw [hcons, ← List.append_assoc]
    generalize analysis.deltaValues ++ (validDelta i e).toList = vs
    rcases Nat.le_total vs.length analysis.deltaCapacity with hle | hle
    · rw [List.take_of_length_le hle]
    · rw [List.take_append_of_le_length (by simp [hle]), List.take_append_of_le_length hle,
        List.take_take, Nat.min_self]

/-! ## The result for one delta -/

theorem nodup_modeDeltas (mode : StatsMode) : (modeDeltas mode).Nodup := by
  cases mode <;> decide

/-- A loop over distinct indices changes each of them once. -/
theorem foldl_update_apply {α : Type} (f : Fin 12 → α → α) {active : List (Fin 12)}
    (hnd : active.Nodup) (deltas : Fin 12 → α) (i : Fin 12) :
    active.foldl (fun deltas j => Function.update deltas j (f j (deltas j))) deltas i =
      if i ∈ active then f i (deltas i) else deltas i := by
  induction active generalizing deltas with
  | nil => simp
  | cons j active ih =>
    rcases List.nodup_cons.mp hnd with ⟨hj, hnd'⟩
    rw [List.foldl_cons, ih hnd']
    by_cases hij : i = j
    · subst hij
      simp [hj]
    · simp [hij]

/-- The entries, seen by one active delta. -/
theorem deltas_foldl_processEntry {result : AnalysisResult} (hnd : result.activeDeltas.Nodup)
    {i : Fin 12} (hi : i ∈ result.activeDeltas) (entries : List StatsEntry) :
    (entries.foldl processEntry result).deltas i =
      entries.foldl (fun a e => processEntryForDelta e a i result.config) (result.deltas i) := by
  induction entries generalizing result with
  | nil => rfl
  | cons e entries ih =>
    -- the loop over the active deltas changes the one of `i` once
    have hstep : (processEntry result e).deltas i =
        processEntryForDelta e (result.deltas i) i result.config := by
      have hloop := foldl_update_apply (fun j a => processEntryForDelta e a j result.config) hnd
        result.deltas i
      rw [if_pos hi] at hloop
      exact hloop
    have hrest := @ih (processEntry result e) hnd hi
    rw [List.foldl_cons, List.foldl_cons, hrest, hstep]
    rfl

/-- A delta right after its structures have been allocated. -/
def freshDelta (config : StatsConfig) : DeltaAnalysis where
  deltaValues := []
  deltaCapacity := config.bufferSize.toNat
  histogram := List.replicate config.maxBins.toNat 0
  outlierCount := 0
  usedBins := 0

/-- A fresh array of the configured capacity. -/
def FreshDelta (config : StatsConfig) (analysis : DeltaAnalysis) : Prop :=
  analysis.deltaValues = [] ∧ analysis.deltaCapacity = config.bufferSize.toNat

theorem freshDelta_spec (config : StatsConfig) : FreshDelta config (freshDelta config) :=
  ⟨rfl, rfl⟩

theorem allocateAnalysisStructuresForDelta_eq {config : StatsConfig} (hsize : config.bufferSize ≠ 0)
    (hbins : config.maxBins ≠ 0) (analysis : DeltaAnalysis) :
    allocateAnalysisStructuresForDelta analysis config.maxBins config.bufferSize =
      some (freshDelta config) := by
  simp [allocateAnalysisStructuresForDelta, exactPercentilesInit, hbins, hsize, freshDelta]

theorem allocateLoop_spec {config : StatsConfig} (hsize : config.bufferSize ≠ 0)
    (hbins : config.maxBins ≠ 0) (active : List (Fin 12)) (deltas : Fin 12 → DeltaAnalysis) :
    ∃ deltas', allocateLoop config active deltas = some deltas' ∧
      (∀ i ∈ active, deltas' i = freshDelta config) ∧
      ∀ i, deltas i = freshDelta config → deltas' i = freshDelta config := by
  induction active generalizing deltas with
  | nil => exact ⟨deltas, rfl, by simp, fun _ h => h⟩
  | cons j active ih =>
    have hj := allocateAnalysisStructuresForDelta_eq hsize hbins (deltas j)
    rcases ih (Function.update deltas j (freshDelta config)) with ⟨deltas', hloop, hall, hkeep⟩
    -- a delta that is fresh stays fresh, the one just made included
    have hupdate : ∀ i, deltas i = freshDelta config ∨ i = j →
        Function.update deltas j (freshDelta config) i = freshDelta config := by
      intro i hi
      by_cases hij : i = j
      · subst hij
        rw [Function.update_self]
      · rw [Function.update_of_ne hij]
        exact hi.resolve_right hij
    refine ⟨deltas', by simp only [allocateLoop, hj, hloop], ?_, ?_⟩
    · intro i hi
      rcases List.mem_cons.mp hi with rfl | hi
      · exact hkeep i (hupdate i (Or.inr rfl))
      · exact hall i hi
    · exact fun i hi => hkeep i (hupdate i (Or.inl hi))

/-- What `initialize_analysis_result` leaves behind. -/
theorem initializeAnalysisResult_spec {mode : StatsMode} {config : StatsConfig}
    {result : AnalysisResult} (hsize : config.bufferSize ≠ 0)
    (h : initializeAnalysisResult mode config = some result) :
    result.activeDeltas = modeDeltas mode ∧ result.config = config ∧ config.maxBins ≠ 0 ∧
      ∀ i ∈ result.activeDeltas, result.deltas i = freshDelta config := by
  unfold initializeAnalysisResult at h
  simp only at h
  split at h
  · rename_i hvalid
    have hbins : config.maxBins ≠ 0 := by
      simp only [validateAnalysisResult, configureAnalysisForMode, Bool.and_eq_true] at hvalid
      exact of_decide_eq_true hvalid.1.2
    rcases Option.map_eq_some_iff.mp h with ⟨deltas, hloop, rfl⟩
    rcases allocateLoop_spec hsize hbins (modeDeltas mode)
      (configureAnalysisForMode mode config).deltas with ⟨deltas', hloop', hall, -⟩
    have heq : deltas = deltas' := Option.some.inj (hloop.symm.trans hloop')
    refine ⟨rfl, rfl, hbins, ?_⟩
    rw [heq]
    exact hall
  · simp at h

theorem allocateAnalysisHistograms_mode {result result' : AnalysisResult}
    (h : allocateAnalysisHistograms result = some result') : result'.mode = result.mode := by
  rcases Option.map_eq_some_iff.mp h with ⟨deltas, -, rfl⟩
  rfl

theorem mode_foldl_processEntry (entries : List StatsEntry) (result : AnalysisResult) :
    (entries.foldl processEntry result).mode = result.mode := by
  induction entries generalizing result with
  | nil => rfl
  | cons e entries ih =>
    rw [List.foldl_cons, ih]
    rfl

theorem mode_processBufferForAnalysis (stats : StatsCollector) (result : AnalysisResult) :
    (processBufferForAnalysis stats result).mode = result.mode := by
  unfold processBufferForAnalysis
  split
  · rfl
  · split
    · rfl
    · rename_i result' halloc
      have hfold : forEachEntry stats processEntry result' =
          (statsEntries stats).foldl processEntry result' := by
        rw [statsEntries, List.foldl_map]
        rfl
      rw [hfold, mode_foldl_processEntry]
      exact allocateAnalysisHistograms_mode halloc

/-- What one delta makes of a list of entries. -/
def analysisOf (config : StatsConfig) (i : Fin 12) (entries : List StatsEntry) : DeltaAnalysis :=
  entries.foldl (fun a e => processEntryForDelta e a i config) (freshDelta config)

/-- The analysis of a collector visits its entries once for every active delta. -/
theorem deltas_processBufferForAnalysis {mode : StatsMode} {config : StatsConfig}
    {result : AnalysisResult} (hsize : config.bufferSize ≠ 0)
    (hinit : initializeAnalysisResult mode config = some result) (stats : StatsCollector)
    {i : Fin 12} (hi : i ∈ result.activeDeltas) :
    (processBufferForAnalysis stats result).deltas i =
      analysisOf config i (statsEntries stats) := by
  rcases initializeAnalysisResult_spec hsize hinit with ⟨hactive, hconfig, hbins, hfresh⟩
  unfold processBufferForAnalysis
  by_cases hcount : getBufferCount stats = 0
  · -- nothing to process: the arrays stay empty
    have hnil : statsEntries stats = [] := by simp [statsEntries, hcount]
    rw [if_pos hcount, hfresh i hi, hnil]
    rfl
  · rw [if_neg hcount]
    rcases allocateLoop_spec hsize hbins result.activeDeltas result.deltas with
      ⟨deltas', hloop, hall, -⟩
    have halloc : allocateAnalysisHistograms result = some { result with deltas := deltas' } := by
      rw [allocateAnalysisHistograms, hconfig, hloop]
      rfl
    have hnd : result.activeDeltas.Nodup := hactive ▸ nodup_modeDeltas mode
    have hentries : forEachEntry stats processEntry { result with deltas := deltas' } =
        (statsEntries stats).foldl processEntry { result with deltas := deltas' } := by
      rw [statsEntries, List.foldl_map]
      rfl
    rw [halloc]
    simp only
    rw [hentries, @deltas_foldl_processEntry { result with deltas := deltas' } hnd i hi]
    simp only [hall i hi, hconfig]
    rfl

/-- The values of a delta are the valid ones, cut at the configured size. -/
theorem deltaValues_analysisOf (config : StatsConfig) (i : Fin 12) (entries : List StatsEntry) :
    (analysisOf config i entries).deltaValues =
      (entries.filterMap (validDelta i)).take config.bufferSize.toNat := by
  rcases freshDelta_spec config with ⟨hempty, hcap⟩
  rw [analysisOf, valuesOf_foldl _ _ _ _ (by rw [hempty]; exact Nat.zero_le _), hempty, hcap,
    List.nil_append]

/-- The values that the analysis of a collector collects for an active delta:
the valid deltas of the entries, oldest first, cut at the configured size. -/
theorem deltaValues_processBufferForAnalysis {mode : StatsMode} {config : StatsConfig}
    {result : AnalysisResult} (hsize : config.bufferSize ≠ 0)
    (hinit : initializeAnalysisResult mode config = some result) (stats : StatsCollector)
    {i : Fin 12} (hi : i ∈ result.activeDeltas) :
    ((processBufferForAnalysis stats result).deltas i).deltaValues =
      ((statsEntries stats).filterMap (validDelta i)).take config.bufferSize.toNat := by
  rw [deltas_processBufferForAnalysis hsize hinit stats hi, deltaValues_analysisOf]

end TradingLatency
