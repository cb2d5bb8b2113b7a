import TradingLatency.Stats.Collector

/-!
# The collector refines a bounded list

The abstract collector is the list of all entries ever created, oldest first,
with the updates that have reached them. Its last `c - 1` entries are `live`;
an update reaches the last live entry with its sequence number. `Represents`
says how head, tail and buffer of the ring follow from the list, and every call
keeps it (`represents_applyCall`).
-/

namespace TradingLatency

open Ring

/-! ## The abstract collector -/

/-- The entries that are still in a ring of `c` slots. -/
def live (c : Nat) (log : List StatsEntry) : List StatsEntry := log.drop (log.length - (c - 1))

/-- An update of the last live entry with its sequence number. -/
def logUpdate (c : Nat) (log : List StatsEntry) (u : StatsUpdate) : List StatsEntry :=
  log.take (log.length - (c - 1)) ++
    modifyLast (·.seqNum = u.seqNum) (StatsEntry.edit u.edit) (live c log)

/-- One call on the abstract collector. -/
def logCall (c : Nat) (log : List StatsEntry) : StatsCall → List StatsEntry
  | .create seq port entryType => log ++ [minimalStatsEntry seq port entryType]
  | .update u => logUpdate c log u

theorem length_live (c : Nat) (log : List StatsEntry) :
    (live c log).length = min log.length (c - 1) := by
  rw [live, List.length_drop]
  omega

@[simp] theorem length_logUpdate (c : Nat) (log : List StatsEntry) (u : StatsUpdate) :
    (logUpdate c log u).length = log.length := by
  rw [logUpdate, List.length_append, length_modifyLast, length_live, List.length_take]
  omega

/-- An update works on the live entries. -/
theorem live_logUpdate (c : Nat) (log : List StatsEntry) (u : StatsUpdate) :
    live c (logUpdate c log u) =
      modifyLast (·.seqNum = u.seqNum) (StatsEntry.edit u.edit) (live c log) := by
  have hlen : (log.take (log.length - (c - 1))).length = log.length - (c - 1) := by
    rw [List.length_take]
    omega
  rw [live, length_logUpdate, logUpdate, List.drop_append, hlen, Nat.sub_self, List.drop_zero,
    List.drop_of_length_le (Nat.le_of_eq hlen), List.nil_append]

theorem getElem?_live (c : Nat) (log : List StatsEntry) (i : Nat) :
    (live c log)[i]? = log[log.length - (c - 1) + i]? := by
  rw [live, List.getElem?_drop]

/-! ## The capacity -/

theorem toNat_shiftLeft_one (x : UInt32) : (x <<< 1).toNat = 2 * x.toNat % 2 ^ 32 := by
  rw [UInt32.toNat_shiftLeft]
  show x.toNat <<< 1 % 2 ^ 32 = _
  rw [Nat.shiftLeft_eq, Nat.pow_one, Nat.mul_comm]

/-- The loop of `next_power_of_2` from `2^j` on, where all smaller powers are
too small. -/
theorem nextPowerOf2Loop_spec (n : UInt32) (fuel j : Nat) (hj : j + fuel = 32) (hlt : j < 32)
    {power : UInt32} (hp : power.toNat = 2 ^ j) (hbelow : ∀ i < j, 2 ^ i < n.toNat) :
    nextPowerOf2Loop n fuel power = 0 ∨
      ∃ m < 32, (nextPowerOf2Loop n fuel power).toNat = 2 ^ m ∧ n.toNat ≤ 2 ^ m ∧
        ∀ i < m, 2 ^ i < n.toNat := by
  -- `power` is `2 ^ j`, and every power before it was below `n`
  induction fuel generalizing j power with
  | zero => omega
  | succ fuel ih =>
    unfold nextPowerOf2Loop
    by_cases hn : power < n
    · rw [if_pos hn]
      -- the bit has been shifted out: no power of two is large enough
      by_cases hz : power <<< 1 = 0
      · rw [if_pos hz]
        exact Or.inl rfl
      · rw [if_neg hz]
        have hshift : (power <<< 1).toNat = 2 ^ (j + 1) % 2 ^ 32 := by
          rw [toNat_shiftLeft_one, hp, Nat.pow_succ 2 j, Nat.mul_comm]
        have hj1 : j + 1 < 32 := by
          by_contra hge
          have hj31 : j + 1 = 32 := by omega
          rw [hj31] at hshift
          exact hz (UInt32.toNat_inj.mp (by rw [hshift]; rfl))
        have hpow : (2 : Nat) ^ (j + 1) < 2 ^ 32 := Nat.pow_lt_pow_right (by decide) hj1
        rw [Nat.mod_eq_of_lt hpow] at hshift
        refine ih (j + 1) (by omega) hj1 hshift ?_
        intro i hi
        rcases Nat.lt_or_eq_of_le (Nat.lt_succ_iff.mp hi) with h | rfl
        · exact hbelow i h
        · rw [← hp]
          exact UInt32.lt_iff_toNat_lt.mp hn
    · -- the first power of two that is not below `n`
      rw [if_neg hn]
      refine Or.inr ⟨j, hlt, hp, ?_, hbelow⟩
      rw [← hp]
      exact UInt32.le_iff_toNat_le.mp (UInt32.not_lt.mp hn)

/-- A capacity that is not zero is the least power of two above the size. -/
theorem nextPowerOf2_spec {n : UInt32} (hn : n ≠ 0) (hr : nextPowerOf2 n ≠ 0) :
    ∃ m < 32, (nextPowerOf2 n).toNat = 2 ^ m ∧ n.toNat ≤ 2 ^ m ∧ ∀ i < m, 2 ^ i < n.toNat := by
  unfold nextPowerOf2 at hr ⊢
  rw [if_neg hn] at hr ⊢
  -- a power of two is its own
  by_cases hpow : n &&& (n - 1) = 0
  · rw [if_pos hpow]
    have hne : n.toNat ≠ 0 := fun h => hn (UInt32.toNat_inj.mp h)
    have hsub : (n - 1).toNat = n.toNat - 1 := by
      rw [UInt32.toNat_sub_of_le]
      · rfl
      · exact UInt32.le_iff_toNat_le.mpr (Nat.one_le_iff_ne_zero.mpr hne)
    have hand := congrArg UInt32.toNat hpow
    rw [UInt32.toNat_and, hsub] at hand
    rcases (Nat.and_sub_one_eq_zero_iff_isPowerOfTwo hne).mp hand with ⟨m, hm⟩
    have hm32 : m < 32 := by
      have := n.toNat_lt
      rw [hm] at this
      exact (Nat.pow_lt_pow_iff_right (by decide)).mp this
    refine ⟨m, hm32, hm, Nat.le_of_eq hm, ?_⟩
    intro i hi
    rw [hm]
    exact Nat.pow_lt_pow_right (by decide) hi
  · rw [if_neg hpow] at hr ⊢
    rcases @nextPowerOf2Loop_spec n 32 0 rfl (by decide) 1 rfl (by omega) with h | h
    · exact absurd h hr
    · exact h

/-! ## The representation -/

/-- The ring holds the live entries of the list. -/
structure Represents (m : Nat) (stats : StatsCollector) (log : List StatsEntry) : Prop where
  mask : stats.sizeMask.toNat = 2 ^ m - 1
  head : stats.head = slot m log.length
  tail : stats.tail = slot m (log.length - (2 ^ m - 1))
  buffer : ∀ i e, log.length - (2 ^ m - 1) ≤ i → log[i]? = some e → stats.buffer (slot m i) = e
  total : stats.totalEntries = UInt64.ofNat log.length
  dropped : stats.droppedEntries = UInt64.ofNat (log.length - (2 ^ m - 1))

theorem represents_create {n : UInt32} {mode : StatsMode} {stats : StatsCollector}
    (h : createStatsCollector n mode = some stats) :
    ∃ m < 32, stats.capacity.toNat = 2 ^ m ∧ n.toNat ≤ 2 ^ m ∧ (∀ i < m, 2 ^ i < n.toNat) ∧
      Represents m stats [] := by
  unfold createStatsCollector at h
  split at h
  · simp at h
  · rename_i hn
    simp only at h
    -- sizes above 2^31 have no next power of two, and the call fails
    split at h
    · simp at h
    · rename_i hr
      rcases nextPowerOf2_spec hn hr with ⟨m, hm, hcap, hle, hleast⟩
      simp only [Option.some.injEq] at h
      subst h
      refine ⟨m, hm, hcap, hle, hleast, ?_⟩
      have hpos := Nat.two_pow_pos m
      constructor
      · show (nextPowerOf2 n - 1).toNat = 2 ^ m - 1
        rw [UInt32.toNat_sub_of_le, hcap]
        · rfl
        · rw [UInt32.le_iff_toNat_le, hcap]
          exact hpos
      · rfl
      · simp [slot]
      · simp
      · rfl
      · simp

section Represented

variable {m : Nat} (hm : m < 32) {stats : StatsCollector} {log : List StatsEntry}
  (h : Represents m stats log)

include hm h

/-- `get_buffer_count` counts the live entries. -/
theorem toNat_getBufferCount : (getBufferCount stats).toNat = (live (2 ^ m) log).length := by
  have hpos := Nat.two_pow_pos m
  have hdiff : Tracks m (stats.head - stats.tail) (log.length - (log.length - (2 ^ m - 1))) := by
    rw [h.head, h.tail]
    exact (tracks_slot hm _).sub (by omega) (tracks_slot hm _) (by omega)
  rw [getBufferCount, hdiff.toNat_and h.mask, length_live]
  rw [Nat.mod_eq_of_lt (by omega)]
  omega

/-- The entries from tail to head are the live ones. -/
theorem statsEntries_eq : statsEntries stats = live (2 ^ m) log := by
  apply List.ext_getElem?
  intro i
  rw [statsEntries, toNat_getBufferCount hm h, List.getElem?_map]
  by_cases hi : i < (live (2 ^ m) log).length
  · have htrack : Tracks m (stats.tail + UInt32.ofNat i) (log.length - (2 ^ m - 1) + i) := by
      rw [h.tail]
      exact (tracks_slot hm _).add (by omega) (tracks_ofNat (by omega) i)
    rw [List.getElem?_range hi, Option.map_some, htrack.and_eq hm h.mask,
      List.getElem?_eq_getElem hi, Option.some.injEq]
    apply h.buffer _ _ (by omega)
    rw [← getElem?_live, List.getElem?_eq_getElem hi]
  · rw [List.getElem?_eq_none (by simpa using hi), List.getElem?_eq_none (by omega)]
    rfl

/-- The loop of the analysis visits the live entries in order. -/
theorem forEachEntry_eq {β : Type} (visit : β → StatsEntry → β) (b : β) :
    forEachEntry stats visit b = (live (2 ^ m) log).foldl visit b := by
  rw [← statsEntries_eq hm h, statsEntries, List.foldl_map]
  rfl

/-- The backward search finds the last live entry with the sequence number. -/
theorem findStatsEntry_eq (seq : UInt32) :
    findStatsEntry stats seq =
      ((live (2 ^ m) log).reverse.findIdx? (·.seqNum = seq)).map
        fun i => slot m (log.length - 1 - i) := by
  have hidx : ∀ i < (live (2 ^ m) log).length,
      (stats.head - 1 - UInt32.ofNat i) &&& stats.sizeMask = slot m (log.length - 1 - i) := by
    intro i hi
    rw [length_live] at hi
    have htrack : Tracks m (stats.head - 1 - UInt32.ofNat i) (log.length - 1 - i) := by
      rw [h.head]
      exact ((tracks_slot hm _).sub (by omega) (tracks_ofNat (by omega) 1) (by omega)).sub
        (by omega) (tracks_ofNat (by omega) i) (by omega)
    exact htrack.and_eq hm h.mask
  have hread : ∀ i a, (live (2 ^ m) log).reverse[i]? = some a →
      decide ((stats.buffer ((stats.head - 1 - UInt32.ofNat (0 + i)) &&& stats.sizeMask)).seqNum =
        seq) = decide (a.seqNum = seq) := by
    intro i a ha
    have hi : i < (live (2 ^ m) log).length := by
      simpa using (List.getElem?_eq_some_iff.mp ha).1
    rw [List.getElem?_reverse hi, getElem?_live] at ha
    rw [Nat.zero_add, hidx i hi]
    have hlen := length_live (2 ^ m) log
    rw [h.buffer (log.length - 1 - i) a (by omega)]
    rw [← ha]
    congr 1
    omega
  have hsearch := findSome?_range' (p := fun e : StatsEntry => decide (e.seqNum = seq)) (s := 0)
    (fun i => decide ((stats.buffer ((stats.head - 1 - UInt32.ofNat i) &&&
      stats.sizeMask)).seqNum = seq))
    (fun i => (stats.head - 1 - UInt32.ofNat i) &&& stats.sizeMask) hread
  rw [List.length_reverse, ← toNat_getBufferCount hm h, ← List.range_eq_range'] at hsearch
  simp only [decide_eq_true_eq, Nat.zero_add] at hsearch
  rw [findStatsEntry, hsearch]
  -- the found offset lies in the list, where the masked index is the slot
  apply Option.map_congr
  intro i hi
  have hlt := (List.findIdx?_eq_some_iff_getElem.mp hi).1
  rw [List.length_reverse] at hlt
  exact hidx i hlt

/-- The ring is full exactly if `c - 1` entries were created. -/
theorem next_head_eq_tail :
    (stats.head + 1) &&& stats.sizeMask = stats.tail ↔ 2 ^ m - 1 ≤ log.length := by
  have hpos := Nat.two_pow_pos m
  rw [h.head, slot_succ hm h.mask, h.tail]
  constructor
  · intro heq
    by_contra hlt
    have hd : log.length - (2 ^ m - 1) = 0 := by omega
    rw [hd] at heq
    have := eq_of_slot_eq hm (Nat.zero_le _) (by omega) heq.symm
    omega
  · intro hle
    have hsum : log.length + 1 = log.length - (2 ^ m - 1) + 2 ^ m := by omega
    rw [slot, slot, hsum, Nat.add_mod_right]

/-- Creating an entry appends it to the list. -/
theorem represents_statsEnqueue (e : StatsEntry) :
    Represents m (statsEnqueue stats e) (log ++ [e]) := by
  have hpos := Nat.two_pow_pos m
  have hlen : (log ++ [e]).length = log.length + 1 := by simp
  have hnext : (stats.head + 1) &&& stats.sizeMask = slot m (log.length + 1) := by
    rw [h.head, slot_succ hm h.mask]
  -- the new entry does not take the slot of a live one
  have hbuffer : ∀ i e', log.length + 1 - (2 ^ m - 1) ≤ i → (log ++ [e])[i]? = some e' →
      Function.update stats.buffer stats.head e (slot m i) = e' := by
    intro i e' hi he'
    have hlive : ∀ i e, log.length + 1 - (2 ^ m - 1) ≤ i → log[i]? = some e →
        stats.buffer (slot m (0 + i)) = e := by
      intro i e hi he
      rw [Nat.zero_add]
      exact h.buffer i e (by omega) he
    have hupdate := update_slot_concat hm (by omega) hlive e hi he'
    rwa [Nat.zero_add, Nat.zero_add, ← h.head] at hupdate
  have htotal : stats.totalEntries + 1 = UInt64.ofNat (log.length + 1) := by
    rw [h.total, UInt64.ofNat_add]
    rfl
  by_cases hfull : 2 ^ m - 1 ≤ log.length
  · -- the oldest entry is given up
    have htail : (stats.tail + 1) &&& stats.sizeMask = slot m (log.length - (2 ^ m - 1) + 1) := by
      rw [h.tail, slot_succ hm h.mask]
    have hd : log.length + 1 - (2 ^ m - 1) = log.length - (2 ^ m - 1) + 1 := by omega
    simp only [statsEnqueue, if_pos ((next_head_eq_tail hm h).mpr hfull)]
    refine ⟨h.mask, ?_, ?_, ?_, ?_, ?_⟩
    · rw [hlen, ← hnext]
    · rw [hlen, hd, ← htail]
    · rw [hlen]
      exact hbuffer
    · rw [hlen, ← htotal]
    · rw [hlen, hd, UInt64.ofNat_add]
      show stats.droppedEntries + 1 = _
      rw [h.dropped]
      rfl
  · have hd : log.length + 1 - (2 ^ m - 1) = log.length - (2 ^ m - 1) := by omega
    simp only [statsEnqueue, if_neg (fun hc => hfull ((next_head_eq_tail hm h).mp hc))]
    refine ⟨h.mask, ?_, ?_, ?_, ?_, ?_⟩
    · rw [hlen, ← hnext]
    · rw [hlen, hd]
      exact h.tail
    · rw [hlen]
      exact hbuffer
    · rw [hlen, ← htotal]
    · rw [hlen, hd]
      exact h.dropped

/-- An update that finds nothing changes nothing. -/
theorem updateStatsBuffer_of_not_live {seq : UInt32} (edit : Slots → Slots)
    (hno : ∀ e ∈ live (2 ^ m) log, e.seqNum ≠ seq) : updateStatsBuffer stats seq edit = stats := by
  have hnone : (live (2 ^ m) log).reverse.findIdx? (·.seqNum = seq) = none := by
    rw [List.findIdx?_eq_none_iff]
    intro e he
    simpa using hno e (List.mem_reverse.mp he)
  rw [updateStatsBuffer, findStatsEntry_eq hm h, hnone]
  rfl

/-- An update edits the last live entry with its sequence number. -/
theorem represents_applyUpdate (u : StatsUpdate) :
    Represents m (applyUpdate stats u) (logUpdate (2 ^ m) log u) := by
  have hlen := length_logUpdate (2 ^ m) log u
  rw [applyUpdate_eq]
  rcases hfind : (live (2 ^ m) log).reverse.findIdx? (·.seqNum = u.seqNum) with _ | i
  · have hsame : logUpdate (2 ^ m) log u = log := by
      rw [logUpdate, modifyLast, hfind]
      exact List.take_append_drop _ _
    rw [updateStatsBuffer, findStatsEntry_eq hm h, hfind, hsame]
    exact h
  · -- the entry at position `j` of the list is edited in both
    have hi := (List.findIdx?_eq_some_iff_getElem.mp hfind).1
    rw [List.length_reverse, length_live] at hi
    have hlog : logUpdate (2 ^ m) log u =
        log.modify (log.length - 1 - i) (StatsEntry.edit u.edit) := by
      have hidx : log.length - 1 - i = log.length - (2 ^ m - 1) +
          ((live (2 ^ m) log).length - 1 - i) := by
        rw [length_live]
        omega
      rw [logUpdate, modifyLast, hfind, hidx]
      exact take_append_modify_drop _ _ _ _ (Nat.sub_le _ _)
    rw [updateStatsBuffer, findStatsEntry_eq hm h, hfind, Option.map_some]
    refine ⟨h.mask, ?_, ?_, ?_, ?_, ?_⟩
    · rw [hlen]
      exact h.head
    · rw [hlen]
      exact h.tail
    · intro j e hj he
      rw [hlen] at hj
      rw [hlog, List.getElem?_modify] at he
      rcases Option.map_eq_some_iff.mp he with ⟨e₀, he₀, heq⟩
      have hjlt : j < log.length := (List.getElem?_eq_some_iff.mp he₀).1
      show Function.update stats.buffer (slot m (log.length - 1 - i)) _ (slot m j) = e
      by_cases hji : log.length - 1 - i = j
      · rw [if_pos hji] at heq
        rw [hji, Function.update_self, h.buffer j e₀ hj he₀]
        exact heq
      · -- another live entry has another slot
        have hne : slot m j ≠ slot m (log.length - 1 - i) :=
          slot_ne hm (Ne.symm hji) (by omega) (by omega)
        rw [if_neg hji] at heq
        rw [Function.update_of_ne hne, h.buffer j e₀ hj he₀]
        exact heq
    · rw [hlen]
      exact h.total
    · rw [hlen]
      exact h.dropped

/-- Every call keeps the representation. -/
theorem represents_applyCall (call : StatsCall) :
    Represents m (applyCall stats call) (logCall (2 ^ m) log call) := by
  cases call with
  | create seq port entryType => exact represents_statsEnqueue hm h _
  | update u => exact represents_applyUpdate hm h u

end Represented

/-- Every run of calls keeps the representation. -/
theorem represents_foldl {m : Nat} (hm : m < 32) (calls : List StatsCall) {stats : StatsCollector}
    {log : List StatsEntry} (h : Represents m stats log) :
    Represents m (calls.foldl applyCall stats) (calls.foldl (logCall (2 ^ m)) log) := by
  induction calls generalizing stats log with
  | nil => exact h
  | cons call calls ih => exact ih (represents_applyCall hm h call)

/-! ## The bounded list -/

/-- What identifies an entry; it is set at the creation and never updated. -/
def StatsEntry.ident (e : StatsEntry) : UInt32 × UInt16 × UInt8 × UInt8 :=
  (e.seqNum, e.srcPort, e.entryType, e.timestampMask)

/-- The entries that a run creates, oldest first. -/
def createdEntries (calls : List StatsCall) : List StatsEntry :=
  calls.filterMap fun
    | .create seq port entryType => some (minimalStatsEntry seq port entryType)
    | .update _ => none

/-- What the edit of an update keeps, the updated list keeps. -/
theorem map_logUpdate {β : Type} (g : StatsEntry → β) {u : StatsUpdate}
    (hg : ∀ e, g (StatsEntry.edit u.edit e) = g e) (c : Nat) (log : List StatsEntry) :
    (logUpdate c log u).map g = log.map g := by
  rw [logUpdate, List.map_append, map_modifyLast g hg, ← List.map_append, live,
    List.take_append_drop]

theorem map_ident_foldl_logCall (c : Nat) (calls : List StatsCall) (log : List StatsEntry) :
    (calls.foldl (logCall c) log).map StatsEntry.ident =
      log.map StatsEntry.ident ++ (createdEntries calls).map StatsEntry.ident := by
  induction calls generalizing log with
  | nil => simp [createdEntries]
  | cons call calls ih =>
    rw [List.foldl_cons, ih]
    cases call with
    | create seq port entryType => simp [logCall, createdEntries]
    | update u =>
      have hident := map_logUpdate StatsEntry.ident (u := u) (fun _ => rfl) c log
      simp [logCall, createdEntries, hident]

/-- An update leaves the slots alone that its mode does not own. -/
theorem edit_of_not_owned (u : StatsUpdate) (ts : Slots) {i : Fin 12} (hi : i ∉ u.ownedSlots) :
    u.edit ts i = ts i := by
  -- one case for each kind of update and each mode that it tells apart
  rcases u with ⟨seq, kerTx, mode⟩ | ⟨seq, app, tsc, mode⟩ | ⟨seq, hw, ker, app, tsc, mode⟩
  · cases mode <;>
      simp only [StatsUpdate.ownedSlots, List.mem_cons, List.not_mem_nil, or_false] at hi <;>
      simp [StatsUpdate.edit, editTx, Function.update_of_ne, hi]
  · cases mode <;>
      simp only [StatsUpdate.ownedSlots, List.mem_cons, List.not_mem_nil, or_false, not_or] at hi
    · simp [StatsUpdate.edit, editAppTx, hi]
    · by_cases htsc : tsc > 0 <;> simp [StatsUpdate.edit, editAppTx, htsc, hi]
    · rfl
    · simp [StatsUpdate.edit, editAppTx, hi]
  · cases mode <;>
      simp only [StatsUpdate.ownedSlots, List.mem_cons, List.not_mem_nil, or_false, not_or] at hi
    · rfl
    · by_cases htsc : tsc > 0 <;> simp [StatsUpdate.edit, editRx, htsc, hi]
    · simp [StatsUpdate.edit, editRx, hi]
    · simp [StatsUpdate.edit, editRx, hi]

/-- What an update does to a collector: without a live entry of its sequence
number nothing, else it makes its edit in the last such entry, which changes owned
slots only. -/
structure UpdatesLast (stats : StatsCollector) (u : StatsUpdate) : Prop where
  not_found : (∀ e ∈ statsEntries stats, e.seqNum ≠ u.seqNum) → applyUpdate stats u = stats
  found : ∀ older e newer, statsEntries stats = older ++ e :: newer → e.seqNum = u.seqNum →
    (∀ e' ∈ newer, e'.seqNum ≠ u.seqNum) →
    ∃ ts, ts = u.edit e.timestampNs ∧
      statsEntries (applyUpdate stats u) = older ++ { e with timestampNs := ts } :: newer ∧
      ∀ i ∉ u.ownedSlots, ts i = e.timestampNs i

/-- The collector after a run of calls is a bounded list: `c` is its capacity
and `k` the number of entries that were created. -/
structure RefinesBoundedList (n : UInt32) (stats₀ : StatsCollector) (calls : List StatsCall) :
    Prop where
  least_power : ∃ m, stats₀.capacity.toNat = 2 ^ m ∧ n.toNat ≤ 2 ^ m ∧
    ∀ i, n.toNat ≤ 2 ^ i → 2 ^ m ≤ 2 ^ i
  entries : statsEntries (calls.foldl applyCall stats₀) =
    live stats₀.capacity.toNat (calls.foldl (logCall stats₀.capacity.toNat) [])
  length_entries : (statsEntries (calls.foldl applyCall stats₀)).length =
    min (createdEntries calls).length (stats₀.capacity.toNat - 1)
  ident_entries : (statsEntries (calls.foldl applyCall stats₀)).map StatsEntry.ident =
    ((createdEntries calls).drop
      ((createdEntries calls).length - (stats₀.capacity.toNat - 1))).map StatsEntry.ident
  total : (calls.foldl applyCall stats₀).totalEntries = UInt64.ofNat (createdEntries calls).length
  dropped : (calls.foldl applyCall stats₀).droppedEntries =
    UInt64.ofNat ((createdEntries calls).length - (stats₀.capacity.toNat - 1))
  updates : ∀ u, UpdatesLast (calls.foldl applyCall stats₀) u
  visits : ∀ (β : Type) (visit : β → StatsEntry → β) (b : β),
    forEachEntry (calls.foldl applyCall stats₀) visit b =
      (live stats₀.capacity.toNat (calls.foldl (logCall stats₀.capacity.toNat) [])).foldl visit b

theorem updatesLast_of_represents {m : Nat} (hm : m < 32) {stats : StatsCollector}
    {log : List StatsEntry} (h : Represents m stats log) (u : StatsUpdate) :
    UpdatesLast stats u := by
  constructor
  · intro hno
    rw [statsEntries_eq hm h] at hno
    rw [applyUpdate_eq]
    exact updateStatsBuffer_of_not_live hm h u.edit hno
  · intro older e newer hsplit he hnewer
    refine ⟨u.edit e.timestampNs, rfl, ?_, fun i hi => edit_of_not_owned u e.timestampNs hi⟩
    have h' := represents_applyUpdate hm h u
    rw [statsEntries_eq hm h] at hsplit
    rw [statsEntries_eq hm h', live_logUpdate, hsplit]
    exact modifyLast_append_cons _ (by simpa using he) (fun e' he' => by simpa using hnewer e' he')

/-- For every size for which the collector is created, and every run of create
and update calls, the collector is a bounded list. -/
theorem stats_collector_bounded_list {n : UInt32} {mode : StatsMode} {stats₀ : StatsCollector}
    (hcreate : createStatsCollector n mode = some stats₀) (calls : List StatsCall) :
    RefinesBoundedList n stats₀ calls := by
  rcases represents_create hcreate with ⟨m, hm, hcap, hle, hbelow, h₀⟩
  have h := represents_foldl hm calls h₀
  -- updates change no number, so the entries are in the order of their creation
  have hident := map_ident_foldl_logCall (2 ^ m) calls []
  rw [List.map_nil, List.nil_append] at hident
  have hlen : (calls.foldl (logCall (2 ^ m)) []).length = (createdEntries calls).length := by
    have := congrArg List.length hident
    simpa using this
  have hentries := statsEntries_eq hm h
  constructor
  · refine ⟨m, hcap, hle, fun i hi => Nat.pow_le_pow_right (by decide) ?_⟩
    by_contra hlt
    have := hbelow i (by omega)
    omega
  · rw [hcap]
    exact hentries
  · rw [hcap, hentries, length_live, hlen]
  · rw [hcap, hentries, live, List.map_drop, hident, hlen, List.map_drop]
  · rw [h.total, hlen]
  · rw [hcap, h.dropped, hlen]
  · exact updatesLast_of_represents hm h
  · intro β visit b
    rw [hcap]
    exact forEachEntry_eq hm h visit b

/-- A collector of four slots: the first of four entries is gone, and of the two
entries with one number the newer one has been updated. -/
theorem stats_collector_bounded_list_four :
    ∃ stats₀, createStatsCollector 3 .clientOneway = some stats₀ ∧
      RefinesBoundedList 3 stats₀
        [.create 6 1 .clientOneway, .create 7 1 .clientOneway, .create 7 2 .clientOneway,
          .update (.appTx 7 99 0 .clientOneway), .create 8 1 .clientOneway] :=
  ⟨_, rfl, stats_collector_bounded_list rfl _⟩

end TradingLatency
