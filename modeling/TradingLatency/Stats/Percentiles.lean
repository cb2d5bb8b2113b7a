import TradingLatency.Stats.Window
import TradingLatency.Lib.Interpolation
import TradingLatency.Lib.Run

/-!
# Exact percentiles (`exact_percentiles_*`)

A `delta_analysis_t` sorts its values in place when it is asked for percentiles,
keeps the results, and drops them when a value is added. Whatever values are added
and whatever is asked in between, the answers are the interpolated percentiles of
all values added so far (`percentiles_exact`).
-/

namespace TradingLatency

open Interpolation

/-! ## Data model -/

/-- A `delta_analysis_t` with `percentiles_calculated` and `exact_percentiles`. -/
structure Percentiles where
  analysis : DeltaAnalysis
  percentilesCalculated : Bool
  exactPercentiles : List ℚ

/-- `percentile_positions`. -/
def percentilePositions : List ℚ := [25, 50, 75, 90, 95]

/-- A turn of the loop of `exact_percentiles_calculate`; `none` when it would read
behind the values. -/
def checkedPercentile (values : List ℚ) (p : ℚ) : Option ℚ := do
  let pos := p / 100 * ((values.length : ℚ) - 1)
  let lowerIdx := pos.floor.toNat
  let upperIdx := pos.ceil.toNat
  if lowerIdx = upperIdx ∨ upperIdx ≥ values.length then values[lowerIdx]?
  else
    let lowerVal ← values[lowerIdx]?
    let upperVal ← values[upperIdx]?
    return lowerVal + (pos - lowerIdx) * (upperVal - lowerVal)

namespace Percentiles

/-- `exact_percentiles_init` on a zeroed structure. -/
def init (capacity : UInt32) : Percentiles :=
  ⟨exactPercentilesInit .zero capacity, false, [0, 0, 0, 0, 0]⟩

/-- `exact_percentiles_add_value`. -/
def addValue (s : Percentiles) (deltaUs : ℚ) : Percentiles :=
  { s with
    analysis := exactPercentilesAddValue s.analysis deltaUs
    percentilesCalculated :=
      -- a value that is not stored leaves the results
      if s.analysis.packetCount < s.analysis.deltaCapacity then false else s.percentilesCalculated }

/-- `exact_percentiles_calculate`; `none` when it would read behind the values. -/
def calculate (s : Percentiles) : Option Percentiles :=
  if s.analysis.packetCount = 0 then some s
  else if s.percentilesCalculated then some s
  else do
    let deltaValues := s.analysis.deltaValues.mergeSort (· ≤ ·)
    let exactPercentiles ← percentilePositions.mapM (checkedPercentile deltaValues)
    return ⟨{ s.analysis with deltaValues := deltaValues }, true, exactPercentiles⟩

/-- The `switch` of `exact_percentiles_get`. -/
def select (s : Percentiles) (percentile : UInt8) : ℚ :=
  if percentile = 25 then s.exactPercentiles.getD 0 0
  else if percentile = 50 then s.exactPercentiles.getD 1 0
  else if percentile = 75 then s.exactPercentiles.getD 2 0
  else if percentile = 90 then s.exactPercentiles.getD 3 0
  else if percentile = 95 then s.exactPercentiles.getD 4 0
  else 0

/-- `exact_percentiles_get`. -/
def get (s : Percentiles) (percentile : UInt8) : Option (ℚ × Percentiles) :=
  (if s.percentilesCalculated then some s else s.calculate).map fun s => (s.select percentile, s)

end Percentiles

/-! ## Runs -/

/-- The calls. -/
inductive PercentileOp where
  | addValue (deltaUs : ℚ)
  | calculate
  | get (percentile : UInt8)

def percentileStep (s : Percentiles) : PercentileOp → Option Percentiles
  | .addValue deltaUs => some (s.addValue deltaUs)
  | .calculate => s.calculate
  | .get percentile => (s.get percentile).map Prod.snd

/-- The values that are added, in their order. -/
def addedValues (ops : List PercentileOp) : List ℚ :=
  ops.filterMap fun
    | .addValue deltaUs => some deltaUs
    | _ => none

/-- What `exact_percentiles_get` answers after the calls. -/
def reported (capacity : UInt32) (ops : List PercentileOp) (percentile : UInt8) : Option ℚ := do
  let s ← Run.exec percentileStep (Percentiles.init capacity) ops
  let (value, _) ← s.get percentile
  return value

/-- The percentiles that are kept. -/
def keptPercentiles : List UInt8 := [25, 50, 75, 90, 95]

/-- The values in ascending order. -/
def sortedValues (values : List ℚ) : List ℚ := values.mergeSort (· ≤ ·)

/-- The value at position `p * (n - 1) / 100` of the sorted values. -/
def interpolatedPercentile (values : List ℚ) (p : UInt8) : ℚ :=
  interpolate (sortedValues values) ((p.toNat : ℚ) * ((values.length : ℚ) - 1) / 100)

/-- The answers after the calls `ops`. -/
structure PercentilesExact (capacity : UInt32) (ops : List PercentileOp) : Prop where
  -- no call has read behind the values
  reads : (Run.exec percentileStep (Percentiles.init capacity) ops).isSome
  interpolated : ∀ p ∈ keptPercentiles,
    reported capacity ops p = some (interpolatedPercentile (addedValues ops) p)
  ordered : ∃ lowest p25 p50 p75 p90 p95 highest,
    (addedValues ops).min? = some lowest ∧ reported capacity ops 25 = some p25 ∧
      reported capacity ops 50 = some p50 ∧ reported capacity ops 75 = some p75 ∧
      reported capacity ops 90 = some p90 ∧ reported capacity ops 95 = some p95 ∧
      (addedValues ops).max? = some highest ∧
      lowest ≤ p25 ∧ p25 ≤ p50 ∧ p50 ≤ p75 ∧ p75 ≤ p90 ∧ p90 ≤ p95 ∧ p95 ≤ highest
  -- neither the order of the values nor what is asked in between matters
  orderFree : ∀ ops', (addedValues ops').Perm (addedValues ops) →
    ∀ p, reported capacity ops' p = reported capacity ops p

/-! ## One percentile -/

theorem length_sortedValues (values : List ℚ) : (sortedValues values).length = values.length :=
  List.length_mergeSort values

theorem pairwise_sortedValues (values : List ℚ) : (sortedValues values).Pairwise (· ≤ ·) :=
  List.pairwise_mergeSort' _ values

theorem mem_sortedValues {values : List ℚ} {v : ℚ} : v ∈ sortedValues values ↔ v ∈ values :=
  List.mem_mergeSort

theorem sortedValues_ne_nil {values : List ℚ} (hne : values ≠ []) : sortedValues values ≠ [] := by
  intro hnil
  have hlen := length_sortedValues values
  rw [hnil] at hlen
  exact hne (List.length_eq_zero_iff.mp hlen.symm)

theorem getElem?_eq_getD {l : List ℚ} {i : Nat} (h : i < l.length) : l[i]? = some (l.getD i 0) := by
  rw [List.getElem?_eq_getElem h, List.getD_eq_getElem l 0 h]

/-- A turn of the loop reads inside of the list and interpolates. -/
theorem checkedPercentile_eq {values : List ℚ} (hne : values ≠ []) {p : ℚ} (hp : 0 ≤ p)
    (hp' : p ≤ 100) :
    checkedPercentile values p =
      some (interpolate values (p * ((values.length : ℚ) - 1) / 100)) := by
  have hpos : 0 < values.length := List.length_pos_iff.mpr hne
  have hn : (0 : ℚ) ≤ (values.length : ℚ) - 1 := by
    have : (1 : ℚ) ≤ values.length := by exact_mod_cast hpos
    linarith
  have hmul : p / 100 * ((values.length : ℚ) - 1) = p * ((values.length : ℚ) - 1) / 100 := by ring
  set x : ℚ := p * ((values.length : ℚ) - 1) / 100
  have hx : 0 ≤ x := div_nonneg (mul_nonneg hp hn) (by norm_num)
  have hx' : x ≤ ((values.length - 1 : Nat) : ℚ) := by
    rw [Nat.cast_sub hpos, Nat.cast_one, div_le_iff₀ (by norm_num), mul_comm _ (100 : ℚ)]
    exact mul_le_mul_of_nonneg_right hp' hn
  have hceil' : x.ceil = ⌈x⌉ := Rat.ceil_eq_neg_floor_neg x
  have hfloor : x.floor.toNat = ⌊x⌋₊ := Int.floor_toNat x
  have hceil : x.ceil.toNat = ⌈x⌉₊ := by
    rw [hceil']
    exact Int.ceil_toNat x
  have hlt : ⌈x⌉₊ < values.length := by
    have := Nat.ceil_le.mpr hx'
    omega
  have hle : ⌊x⌋₊ ≤ ⌈x⌉₊ := Nat.floor_le_ceil x
  simp only [checkedPercentile, hmul, hfloor, hceil]
  by_cases heq : ⌊x⌋₊ = ⌈x⌉₊
  · -- a position in the list
    have hxk : x = (⌊x⌋₊ : ℚ) := by
      refine le_antisymm ?_ (Nat.floor_le hx)
      rw [heq]
      exact Nat.le_ceil x
    rw [if_pos (Or.inl heq), getElem?_eq_getD (by omega)]
    conv_rhs => rw [hxk, interpolate_natCast]
  · have hsucc : ⌈x⌉₊ = ⌊x⌋₊ + 1 := by
      have := Nat.ceil_le_floor_add_one x
      omega
    rw [if_neg (by omega), hsucc, getElem?_eq_getD (by omega), getElem?_eq_getD (by omega)]
    rfl

/-- With the reads in range this is the loop of `exactPercentilesCalculate`. -/
theorem percentileOf_eq {values : List ℚ} {p v : ℚ} (h : checkedPercentile values p = some v) :
    percentileOf values p = v := by
  simp only [checkedPercentile] at h
  simp only [percentileOf]
  split at h
  · next hlast =>
    rw [if_pos hlast, List.getD_eq_getElem?_getD, h]
    rfl
  · next hlast =>
    rcases Option.bind_eq_some_iff.mp h with ⟨lowerVal, hlower, h⟩
    rcases Option.bind_eq_some_iff.mp h with ⟨upperVal, hupper, h⟩
    rw [if_neg hlast, List.getD_eq_getElem?_getD, List.getD_eq_getElem?_getD, hlower, hupper]
    exact Option.some.inj h

theorem percentilePositions_eq :
    percentilePositions = keptPercentiles.map fun p => (p.toNat : ℚ) := by
  rfl

theorem keptPercentiles_le : ∀ p ∈ keptPercentiles, p.toNat ≤ 100 := by
  have hall : keptPercentiles.all (·.toNat ≤ 100) = true := rfl
  intro p hp
  exact of_decide_eq_true (List.all_eq_true.mp hall p hp)

theorem checkedPercentile_kept {values : List ℚ} (hne : values ≠ []) {p : UInt8}
    (hp : p ∈ keptPercentiles) :
    checkedPercentile (sortedValues values) (p.toNat : ℚ) =
      some (interpolatedPercentile values p) := by
  have hle : (p.toNat : ℚ) ≤ 100 := by exact_mod_cast keptPercentiles_le p hp
  rw [checkedPercentile_eq (sortedValues_ne_nil hne) (Nat.cast_nonneg _) hle, length_sortedValues]
  rfl

/-- A loop in which every turn succeeds. -/
theorem mapM_eq_some_map {α : Type} {f : α → Option ℚ} {g : α → ℚ} {l : List α}
    (h : ∀ a ∈ l, f a = some (g a)) : l.mapM f = some (l.map g) := by
  induction l with
  | nil => rfl
  | cons a l ih =>
    rw [List.mapM_cons, h a List.mem_cons_self, ih fun b hb => h b (List.mem_cons_of_mem _ hb)]
    rfl

/-- The loop over the five positions. -/
theorem mapM_checkedPercentile {values : List ℚ} (hne : values ≠ []) :
    percentilePositions.mapM (checkedPercentile (sortedValues values)) =
      some (keptPercentiles.map (interpolatedPercentile values)) := by
  rw [percentilePositions_eq, List.mapM_map]
  exact mapM_eq_some_map fun _ hp => checkedPercentile_kept hne hp

/-- What is kept is what the statistics report for the delta. -/
theorem exactPercentilesCalculate_eq {analysis : DeltaAnalysis} (hne : analysis.deltaValues ≠ []) :
    exactPercentilesCalculate analysis =
      keptPercentiles.map (interpolatedPercentile analysis.deltaValues) := by
  have hcount : analysis.packetCount ≠ 0 := fun h => hne (List.length_eq_zero_iff.mp h)
  rw [exactPercentilesCalculate, if_neg hcount, ← percentilePositions, percentilePositions_eq,
    List.map_map]
  apply List.map_congr_left
  intro p hp
  exact percentileOf_eq (checkedPercentile_kept hne hp)

/-! ## Calls -/

/-- The values so far, and the results if they are kept. -/
structure PercentilesInv (capacity : UInt32) (values : List ℚ) (s : Percentiles) : Prop where
  perm : s.analysis.deltaValues.Perm values
  capacity_eq : s.analysis.deltaCapacity = capacity.toNat
  kept : s.percentilesCalculated = true →
    values ≠ [] ∧ s.exactPercentiles = keptPercentiles.map (interpolatedPercentile values)

theorem percentilesInv_init {capacity : UInt32} (h : capacity ≠ 0) :
    PercentilesInv capacity [] (Percentiles.init capacity) := by
  simp only [Percentiles.init, exactPercentilesInit, if_neg h]
  refine ⟨List.Perm.refl _, rfl, ?_⟩
  intro hkept
  cases hkept

variable {capacity : UInt32} {values : List ℚ} {s : Percentiles}

theorem addValue_inv (h : PercentilesInv capacity values s) (hroom : values.length < capacity.toNat)
    (deltaUs : ℚ) : PercentilesInv capacity (values ++ [deltaUs]) (s.addValue deltaUs) := by
  have hlt : s.analysis.packetCount < s.analysis.deltaCapacity := by
    rw [DeltaAnalysis.packetCount, h.perm.length_eq, h.capacity_eq]
    exact hroom
  simp only [Percentiles.addValue, exactPercentilesAddValue, if_pos hlt]
  refine ⟨h.perm.append_right _, h.capacity_eq, ?_⟩
  intro hkept
  cases hkept

/-- The calculation succeeds, and afterwards the results are kept. -/
theorem calculate_inv (h : PercentilesInv capacity values s) :
    ∃ s', s.calculate = some s' ∧ PercentilesInv capacity values s' ∧
      (values ≠ [] → s'.percentilesCalculated = true) := by
  have hcount : s.analysis.packetCount = values.length := h.perm.length_eq
  unfold Percentiles.calculate
  by_cases hzero : s.analysis.packetCount = 0
  · rw [if_pos hzero]
    refine ⟨s, rfl, h, ?_⟩
    intro hne
    rw [hcount] at hzero
    exact absurd (List.length_eq_zero_iff.mp hzero) hne
  rw [if_neg hzero]
  by_cases hkept : s.percentilesCalculated = true
  · rw [if_pos hkept]
    exact ⟨s, rfl, h, fun _ => hkept⟩
  -- the values are sorted in place
  rw [if_neg hkept]
  have hne : values ≠ [] := by
    intro hnil
    rw [hcount, hnil] at hzero
    exact hzero rfl
  have hsort : s.analysis.deltaValues.mergeSort (· ≤ ·) = sortedValues values :=
    mergeSort_eq_of_perm h.perm
  simp only [hsort, mapM_checkedPercentile hne]
  refine ⟨_, rfl, ⟨List.mergeSort_perm _ _, h.capacity_eq, ?_⟩, fun _ => rfl⟩
  intro _
  exact ⟨hne, rfl⟩

/-- What `exact_percentiles_get` answers for a list of values. -/
def percentileAnswer (values : List ℚ) (p : UInt8) : ℚ :=
  if p ∈ keptPercentiles then interpolatedPercentile values p else 0

theorem select_kept (h : s.exactPercentiles = keptPercentiles.map (interpolatedPercentile values))
    (p : UInt8) : s.select p = percentileAnswer values p := by
  rw [Percentiles.select, percentileAnswer, h]
  -- the branches of the `switch`, in its order
  by_cases h25 : p = 25
  · rw [if_pos h25, h25]
    rfl
  by_cases h50 : p = 50
  · rw [if_neg h25, if_pos h50, h50]
    rfl
  by_cases h75 : p = 75
  · rw [if_neg h25, if_neg h50, if_pos h75, h75]
    rfl
  by_cases h90 : p = 90
  · rw [if_neg h25, if_neg h50, if_neg h75, if_pos h90, h90]
    rfl
  by_cases h95 : p = 95
  · rw [if_neg h25, if_neg h50, if_neg h75, if_neg h90, if_pos h95, h95]
    rfl
  rw [if_neg h25, if_neg h50, if_neg h75, if_neg h90, if_neg h95, if_neg]
  simp only [keptPercentiles, List.mem_cons, List.not_mem_nil, or_false, not_or]
  exact ⟨h25, h50, h75, h90, h95⟩

theorem get_inv (h : PercentilesInv capacity values s) (p : UInt8) :
    ∃ value s', s.get p = some (value, s') ∧ PercentilesInv capacity values s' ∧
      (values ≠ [] → value = percentileAnswer values p) := by
  have hready : ∃ s', (if s.percentilesCalculated then some s else s.calculate) = some s' ∧
      PercentilesInv capacity values s' ∧ (values ≠ [] → s'.percentilesCalculated = true) := by
    by_cases hkept : s.percentilesCalculated = true
    · rw [if_pos hkept]
      exact ⟨s, rfl, h, fun _ => hkept⟩
    · rw [if_neg hkept]
      exact calculate_inv h
  rcases hready with ⟨s', hs', hinv, hcalc⟩
  rw [Percentiles.get, hs']
  refine ⟨_, s', rfl, hinv, ?_⟩
  intro hne
  exact select_kept (hinv.kept (hcalc hne)).2 p

/-! ## Runs of calls -/

theorem addedValues_append (ops ops' : List PercentileOp) :
    addedValues (ops ++ ops') = addedValues ops ++ addedValues ops' :=
  List.filterMap_append

/-- A call succeeds if it adds a value within the capacity, or none. -/
theorem percentileStep_inv (h : PercentilesInv capacity values s) (op : PercentileOp)
    (hroom : (values ++ addedValues [op]).length ≤ capacity.toNat) :
    ∃ s', percentileStep s op = some s' ∧
      PercentilesInv capacity (values ++ addedValues [op]) s' := by
  cases op with
  | addValue deltaUs =>
    -- the only operation that adds a value
    refine ⟨_, rfl, addValue_inv h ?_ deltaUs⟩
    rw [List.length_append] at hroom
    exact hroom
  | calculate =>
    rcases calculate_inv h with ⟨s', hs', hinv, -⟩
    refine ⟨s', hs', ?_⟩
    rw [show addedValues [.calculate] = [] from rfl, List.append_nil]
    exact hinv
  | get p =>
    rcases get_inv h p with ⟨value, s', hs', hinv, -⟩
    refine ⟨s', ?_, ?_⟩
    · rw [percentileStep, hs']
      rfl
    · rw [show addedValues [.get p] = [] from rfl, List.append_nil]
      exact hinv

/-- Calls that add values within the capacity succeed, and keep the values. -/
theorem percentiles_run (h : PercentilesInv capacity values s) (ops : List PercentileOp)
    (hroom : (values ++ addedValues ops).length ≤ capacity.toNat) :
    ∃ s', Run.exec percentileStep s ops = some s' ∧
      PercentilesInv capacity (values ++ addedValues ops) s' := by
  induction ops generalizing values s with
  | nil =>
    refine ⟨s, rfl, ?_⟩
    rw [show addedValues [] = [] from rfl, List.append_nil]
    exact h
  | cons op ops ih =>
    have hsplit : addedValues (op :: ops) = addedValues [op] ++ addedValues ops :=
      addedValues_append [op] ops
    rw [hsplit, ← List.append_assoc] at hroom ⊢
    have hfirst : (values ++ addedValues [op]).length ≤ capacity.toNat := by
      rw [List.length_append] at hroom
      omega
    rcases percentileStep_inv h op hfirst with ⟨t, ht, hinv⟩
    rcases ih hinv hroom with ⟨s', hs', hinv'⟩
    exact ⟨s', by rw [Run.exec, ht]; exact hs', hinv'⟩

/-- After calls that add at least one value, the answers are those of the values. -/
theorem reported_eq (hcap : capacity ≠ 0) {ops : List PercentileOp} (hne : addedValues ops ≠ [])
    (hfit : (addedValues ops).length ≤ capacity.toNat) (p : UInt8) :
    reported capacity ops p = some (percentileAnswer (addedValues ops) p) := by
  rcases percentiles_run (percentilesInv_init hcap) ops hfit with ⟨s, hs, hinv⟩
  rcases get_inv hinv p with ⟨value, s', hget, -, hvalue⟩
  rw [List.nil_append] at hvalue
  rw [← hvalue hne]
  simp only [reported, hs, Option.bind_eq_bind, Option.bind_some, hget]
  rfl

/-! ## The order of the percentiles -/

theorem length_sub_one (hne : values ≠ []) :
    ((values.length - 1 : Nat) : ℚ) = (values.length : ℚ) - 1 := by
  rw [Nat.cast_sub (List.length_pos_iff.mpr hne), Nat.cast_one]

/-- Percentiles ascend. -/
theorem interpolatedPercentile_mono (hne : values ≠ []) {p q : UInt8} (hpq : p ≤ q) (hq : q ≤ 100) :
    interpolatedPercentile values p ≤ interpolatedPercentile values q := by
  have hn : (0 : ℚ) ≤ (values.length : ℚ) - 1 := by
    rw [← length_sub_one hne]
    exact Nat.cast_nonneg _
  have hle : (p.toNat : ℚ) ≤ q.toNat := by exact_mod_cast UInt8.le_iff_toNat_le.mp hpq
  have hle' : (q.toNat : ℚ) ≤ 100 := by exact_mod_cast UInt8.le_iff_toNat_le.mp hq
  refine interpolate_mono (pairwise_sortedValues values) ?_ ?_ ?_ (sortedValues_ne_nil hne)
  · exact div_nonneg (mul_nonneg (Nat.cast_nonneg _) hn) (by norm_num)
  · exact div_le_div_of_nonneg_right (mul_le_mul_of_nonneg_right hle hn) (by norm_num)
  · rw [length_sortedValues, length_sub_one hne, div_le_iff₀ (by norm_num), mul_comm _ (100 : ℚ)]
    exact mul_le_mul_of_nonneg_right hle' hn

theorem min?_eq_interpolated (hne : values ≠ []) :
    values.min? = some (interpolatedPercentile values 0) := by
  have hpos : 0 < (sortedValues values).length := by
    rw [length_sortedValues]
    exact List.length_pos_iff.mpr hne
  have hfirst : interpolatedPercentile values 0 = (sortedValues values).getD 0 0 := by
    have hzero : ((0 : UInt8).toNat : ℚ) * ((values.length : ℚ) - 1) / 100 = ((0 : Nat) : ℚ) := by
      rw [show (0 : UInt8).toNat = 0 from rfl, Nat.cast_zero, zero_mul, zero_div]
    rw [interpolatedPercentile, hzero, interpolate_natCast]
  rw [hfirst, List.min?_eq_some_iff]
  constructor
  · rw [← mem_sortedValues, List.getD_eq_getElem _ _ hpos]
    exact List.getElem_mem _
  · intro v hv
    rcases List.getElem_of_mem (mem_sortedValues.mpr hv) with ⟨i, hi, rfl⟩
    rw [← List.getD_eq_getElem _ 0 hi]
    exact getD_le_getD (pairwise_sortedValues values) (Nat.zero_le _) hi

theorem max?_eq_interpolated (hne : values ≠ []) :
    values.max? = some (interpolatedPercentile values 100) := by
  have hpos : 0 < values.length := List.length_pos_iff.mpr hne
  have hlast : values.length - 1 < (sortedValues values).length := by
    rw [length_sortedValues]
    omega
  -- at 100 the position is the last index, without a fraction
  have hvalue : interpolatedPercentile values 100 =
      (sortedValues values).getD (values.length - 1) 0 := by
    have hend : ((100 : UInt8).toNat : ℚ) * ((values.length : ℚ) - 1) / 100 =
        ((values.length - 1 : Nat) : ℚ) := by
      rw [length_sub_one hne, show (100 : UInt8).toNat = 100 from rfl, Nat.cast_ofNat]
      ring
    rw [interpolatedPercentile, hend, interpolate_natCast]
  rw [hvalue, List.max?_eq_some_iff]
  constructor
  · rw [← mem_sortedValues, List.getD_eq_getElem _ _ hlast]
    exact List.getElem_mem _
  · intro v hv
    rcases List.getElem_of_mem (mem_sortedValues.mpr hv) with ⟨i, hi, rfl⟩
    rw [← List.getD_eq_getElem _ 0 hi]
    refine getD_le_getD (pairwise_sortedValues values) ?_ hlast
    rw [length_sortedValues] at hi
    omega

/-- The answers are the interpolated percentiles of all values added so far,
ascending from the least to the greatest value, whatever the order. -/
theorem percentiles_exact (capacity : UInt32) (hcap : capacity ≠ 0) (ops : List PercentileOp)
    (hne : addedValues ops ≠ []) (hfit : (addedValues ops).length ≤ capacity.toNat) :
    PercentilesExact capacity ops := by
  have hreported := @reported_eq capacity hcap
  refine ⟨?_, ?_, ?_, ?_⟩
  · rcases percentiles_run (percentilesInv_init hcap) ops hfit with ⟨s, hs, -⟩
    rw [hs]
    rfl
  · intro p hp
    rw [hreported hne hfit, percentileAnswer, if_pos hp]
  · have hasc : ∀ p q : UInt8, p ≤ q → q ≤ 100 →
        interpolatedPercentile (addedValues ops) p ≤ interpolatedPercentile (addedValues ops) q :=
      fun p q hpq hq => interpolatedPercentile_mono hne hpq hq
    refine ⟨_, _, _, _, _, _, _, min?_eq_interpolated hne, hreported hne hfit 25,
      hreported hne hfit 50, hreported hne hfit 75, hreported hne hfit 90, hreported hne hfit 95,
      max?_eq_interpolated hne,
      hasc 0 25 ?_ ?_, hasc 25 50 ?_ ?_, hasc 50 75 ?_ ?_, hasc 75 90 ?_ ?_, hasc 90 95 ?_ ?_,
      hasc 95 100 ?_ ?_⟩
    all_goals decide
  · -- only the sorted values count, and they do not depend on the order
    intro ops' hperm p
    have hne' : addedValues ops' ≠ [] := by
      intro hnil
      rw [hnil] at hperm
      exact hne (List.nil_perm.mp hperm)
    rw [hreported hne' (by rw [hperm.length_eq]; exact hfit), hreported hne hfit, percentileAnswer,
      percentileAnswer, interpolatedPercentile, interpolatedPercentile, sortedValues, sortedValues,
      mergeSort_eq_of_perm hperm, hperm.length_eq]

/-- Two values, a question, and two more values. -/
def sampleOps : List PercentileOp :=
  [.addValue 4, .addValue 1, .get 50, .addValue 3, .calculate, .addValue 2]

theorem percentiles_exact_sample :
    reported 8 sampleOps 50 = some (interpolatedPercentile [4, 1, 3, 2] 50) ∧
      PercentilesExact 8 sampleOps := by
  have hexact : PercentilesExact 8 sampleOps :=
    percentiles_exact 8 (by decide) sampleOps (by decide) (by decide)
  exact ⟨hexact.interpolated 50 (by decide), hexact⟩

end TradingLatency
