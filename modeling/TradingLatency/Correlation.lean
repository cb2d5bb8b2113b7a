import TradingLatency.Stats.Refinement

/-!
# Correlation of packets (`timestamp_common.h`)

What the round-trip client and server share: sequence numbers in network byte
order, the index into the correlation arrays, the messages of the error queue
that carry kernel TX timestamps, and the entry of one packet in the statistics
collector.

The collector finds the entry of a packet by its sequence number. `entryOf` is
the entry by its place in the order of creation, and `logUpdate_newest` says
that both are the same for a packet that is the newest with its number.
-/

namespace TradingLatency

open Ring

/-! ## Packets and timestamps -/

/-- `struct timespec` and `struct __kernel_timespec`. -/
structure Timespec where
  tvSec : Int64
  tvNsec : Int64
deriving DecidableEq

/-- `ts.tv_sec * 1000000000ULL + ts.tv_nsec`. -/
def Timespec.ns (ts : Timespec) : UInt64 :=
  ts.tvSec.toUInt64 * 1000000000 + ts.tvNsec.toUInt64

/-- `ntohl(*(uint32_t *)bytes)`. -/
def ntohl : List UInt8 → UInt32
  | a :: b :: c :: d :: _ =>
      a.toUInt32 <<< 24 ||| b.toUInt32 <<< 16 ||| c.toUInt32 <<< 8 ||| d.toUInt32
  | _ => 0

/-- `htonl`, as the bytes in memory. -/
def htonl (x : UInt32) : List UInt8 :=
  [(x >>> 24).toUInt8, (x >>> 16).toUInt8, (x >>> 8).toUInt8, x.toUInt8]

/-- A word is put together from its bytes. -/
theorem or_bytes (b : BitVec 32) :
    ((b >>> 24).setWidth 8).setWidth 32 <<< 24 ||| ((b >>> 16).setWidth 8).setWidth 32 <<< 16 |||
      ((b >>> 8).setWidth 8).setWidth 32 <<< 8 ||| (b.setWidth 8).setWidth 32 = b := by
  apply BitVec.eq_of_getLsbD_eq
  intro i hi
  simp only [BitVec.getLsbD_or, BitVec.getLsbD_shiftLeft, BitVec.getLsbD_setWidth,
    BitVec.getLsbD_ushiftRight]
  -- the bit is in one of the four bytes
  rcases (by omega : i < 8 ∨ 8 ≤ i ∧ i < 16 ∨ 16 ≤ i ∧ i < 24 ∨ 24 ≤ i) with h | h | h | h
  all_goals grind

theorem ntohl_htonl (x : UInt32) (rest : List UInt8) : ntohl (htonl x ++ rest) = x :=
  UInt32.eq_of_toBitVec_eq (or_bytes x.toBitVec)

/-- `MAX_SEQUENCE_NUMBERS`. -/
def maxSequenceNumbers : UInt32 := 50000

/-- `get_circular_index`. -/
def getCircularIndex (seqNum : UInt32) : UInt32 := seqNum % maxSequenceNumbers

/-! ## Messages of the error queue -/

/-- The control messages that `process_tx_timestamps_in_main_thread` looks at. -/
inductive Cmsg where
  | recverr (eeData : UInt32)
  | timestamping (ts : Timespec)
  | other

/-- A message of the error queue: the looped packet, of which at most 64 bytes
are read, and its control messages. -/
structure TxMessage where
  packetData : List UInt8
  cmsgs : List Cmsg
  length_le : packetData.length ≤ 64

/-- The body of the loop over the control messages. -/
def TxMessage.readCmsg (msg : TxMessage) (acc : UInt32 × Timespec) : Cmsg → UInt32 × Timespec
  | .recverr eeData =>
      if 46 ≤ msg.packetData.length then (ntohl (msg.packetData.drop 42), acc.2)
      else if 4 ≤ msg.packetData.length then (ntohl msg.packetData, acc.2)
      else (eeData, acc.2)
  | .timestamping ts => (acc.1, ts)
  | .other => acc

/-- Sequence number and kernel TX timestamp of a message. -/
def TxMessage.read (msg : TxMessage) : UInt32 × Timespec :=
  msg.cmsgs.foldl msg.readCmsg (0, ⟨0, 0⟩)

/-! ## The entry of a packet -/

/-- The entry that was the `k`-th one to be created, counted from zero, of
`created` entries; `none` when it is no longer in the ring. -/
def entryOf (stats : StatsCollector) (created k : Nat) : Option StatsEntry :=
  if created ≤ k + (statsEntries stats).length then
    (statsEntries stats)[k + (statsEntries stats).length - created]?
  else none

theorem entryOf_eq {m : Nat} (hm : m < 32) {stats : StatsCollector} {log : List StatsEntry}
    (h : Represents m stats log) (k : Nat) :
    entryOf stats log.length k = if log.length - (2 ^ m - 1) ≤ k then log[k]? else none := by
  have hlen := length_live (2 ^ m) log
  unfold entryOf
  rw [statsEntries_eq hm h]
  by_cases hk : log.length - (2 ^ m - 1) ≤ k
  · rw [if_pos (by omega), if_pos hk, getElem?_live]
    congr 1
    omega
  · rw [if_neg (by omega), if_neg hk]

/-- An update reaches the newest entry with its sequence number, if it is live,
and no other. -/
theorem logUpdate_newest {c k : Nat} {log : List StatsEntry} {u : StatsUpdate} {e : StatsEntry}
    (hk : log[k]? = some e) (he : e.seqNum = u.seqNum)
    (hnew : ∀ j e', k < j → log[j]? = some e' → e'.seqNum ≠ u.seqNum) :
    logUpdate c log u =
      if log.length - (c - 1) ≤ k then log.modify k (StatsEntry.edit u.edit) else log := by
  rcases List.getElem?_eq_some_iff.mp hk with ⟨hlt, rfl⟩
  have hnewer : ∀ j, k < j → ∀ e' ∈ log.drop j, decide (e'.seqNum = u.seqNum) = false := by
    intro j hj e' he'
    rcases List.getElem?_of_mem he' with ⟨i, hi⟩
    rw [List.getElem?_drop] at hi
    simpa using hnew (j + i) e' (by omega) hi
  unfold logUpdate live
  by_cases hlive : log.length - (c - 1) ≤ k
  · rw [if_pos hlive, List.modify_eq_take_cons_drop hlt]
    have hsplit : log = log.take k ++ log[k] :: log.drop (k + 1) := by
      rw [List.getElem_cons_drop, List.take_append_drop]
    have hdrop : log.drop (log.length - (c - 1)) =
        (log.take k).drop (log.length - (c - 1)) ++ log[k] :: log.drop (k + 1) := by
      conv_lhs => rw [hsplit]
      rw [List.drop_append_of_le_length]
      · rw [← hsplit]
      · rw [List.length_take, ← hsplit]
        omega
    rw [hdrop, modifyLast_append_cons _ (by simpa using he) (hnewer _ (Nat.lt_succ_self k)),
      ← List.append_assoc]
    congr 1
    have htake : log.take (log.length - (c - 1)) = (log.take k).take (log.length - (c - 1)) := by
      rw [List.take_take, Nat.min_eq_left hlive]
    rw [htake, List.take_append_drop]
  · -- the entry is gone, and so are all others with its number
    rw [if_neg hlive, modifyLast_of_forall_not _ (hnewer _ (by omega)), List.take_append_drop]

theorem getElem?_logUpdate {c k : Nat} {log : List StatsEntry} (u : StatsUpdate) {e : StatsEntry}
    (hk : log[k]? = some e) :
    (logUpdate c log u)[k]? = some e ∨ (logUpdate c log u)[k]? = some (e.edit u.edit) := by
  have hlen : (log.take (log.length - (c - 1))).length = log.length - (c - 1) := by
    rw [List.length_take]
    omega
  unfold logUpdate
  -- below the last `c - 1` entries the update changes nothing
  by_cases hlt : k < log.length - (c - 1)
  · rw [List.getElem?_append_left (by omega), List.getElem?_take_of_lt hlt]
    exact Or.inl hk
  · rw [List.getElem?_append_right (by omega), hlen]
    apply getElem?_modifyLast
    rw [getElem?_live, Nat.add_sub_cancel' (by omega)]
    exact hk

/-! ## Entries and their packets -/

/-- The collector has the entries `log`, which were created for the sequence
numbers `nums`. -/
structure Records (m : Nat) (stats : StatsCollector) (nums : List UInt32)
    (log : List StatsEntry) : Prop where
  represents : Represents m stats log
  numbers : log.map (·.seqNum) = nums

/-- The `k`-th entry has been created, and has the property while it is in a
ring of `c` slots. -/
def EntryHas (c : Nat) (log : List StatsEntry) (k : Nat) (P : StatsEntry → Prop) : Prop :=
  k < log.length ∧ (log.length - (c - 1) ≤ k → ∃ e, log[k]? = some e ∧ P e)

section Records

variable {m : Nat} {stats : StatsCollector} {nums : List UInt32} {log : List StatsEntry}

theorem Records.length (h : Records m stats nums log) : log.length = nums.length := by
  rw [← h.numbers, List.length_map]

theorem Records.create (hm : m < 32) (h : Records m stats nums log) (seqNum : UInt32)
    (srcPort : UInt16) (entryType : TimestampMode) :
    Records m (createMinimalStatsEntry stats seqNum srcPort entryType) (nums ++ [seqNum])
      (log ++ [minimalStatsEntry seqNum srcPort entryType]) where
  represents := represents_statsEnqueue hm h.represents _
  numbers := by
    rw [List.map_append, h.numbers]
    rfl

theorem Records.update (hm : m < 32) (h : Records m stats nums log) (u : StatsUpdate) :
    Records m (applyUpdate stats u) nums (logUpdate (2 ^ m) log u) where
  represents := represents_applyUpdate hm h.represents u
  numbers := by
    rw [map_logUpdate _ (fun _ => rfl)]
    exact h.numbers

/-- An entry that `entryOf` finds is that of its packet, and has what it keeps. -/
theorem Records.entryOf (hm : m < 32) (h : Records m stats nums log) {k : Nat}
    {P : StatsEntry → Prop} (hP : EntryHas (2 ^ m) log k P) {e : StatsEntry}
    (he : TradingLatency.entryOf stats nums.length k = some e) : nums[k]? = some e.seqNum ∧ P e := by
  rw [← h.length, entryOf_eq hm h.represents] at he
  split at he
  · rename_i hk
    obtain ⟨e', he', hPe⟩ := hP.2 hk
    obtain rfl : e' = e := Option.some.inj (he'.symm.trans he)
    refine ⟨?_, hPe⟩
    rw [← h.numbers, List.getElem?_map, he]
    rfl
  · simp at he

end Records

namespace EntryHas

variable {c k : Nat} {log : List StatsEntry} {P : StatsEntry → Prop}

theorem concat (h : EntryHas c log k P) (e : StatsEntry) : EntryHas c (log ++ [e]) k P := by
  obtain ⟨hlt, hlive⟩ := h
  unfold EntryHas
  rw [List.length_append, List.length_singleton, List.getElem?_append_left hlt]
  exact ⟨by omega, fun hk => hlive (by omega)⟩

/-- An update that keeps the property of every entry. -/
theorem update (h : EntryHas c log k P) {u : StatsUpdate} (hu : ∀ e, P e → P (e.edit u.edit)) :
    EntryHas c (logUpdate c log u) k P := by
  obtain ⟨hlt, hlive⟩ := h
  unfold EntryHas
  rw [length_logUpdate]
  refine ⟨hlt, fun hk => ?_⟩
  obtain ⟨e, he, hPe⟩ := hlive hk
  rcases getElem?_logUpdate u he with he' | he'
  · exact ⟨e, he', hPe⟩
  · exact ⟨e.edit u.edit, he', hu e hPe⟩

end EntryHas

section Newest

variable {m k : Nat} {stats : StatsCollector} {nums : List UInt32} {log : List StatsEntry}
  {u : StatsUpdate}

/-- An update goes to the newest packet with its sequence number. -/
theorem Records.logUpdate_eq (h : Records m stats nums log) (hk : nums[k]? = some u.seqNum)
    (hnew : ∀ j, k < j → nums[j]? ≠ some u.seqNum) (c : Nat) :
    logUpdate c log u =
      if log.length - (c - 1) ≤ k then log.modify k (StatsEntry.edit u.edit) else log := by
  rw [← h.numbers, List.getElem?_map] at hk
  obtain ⟨e, he, hseq⟩ := Option.map_eq_some_iff.mp hk
  apply logUpdate_newest he hseq
  intro j e' hj he' heq
  apply hnew j hj
  rw [← h.numbers, List.getElem?_map, he', Option.map_some, heq]

theorem Records.entryHas_self (h : Records m stats nums log) (hk : nums[k]? = some u.seqNum)
    (hnew : ∀ j, k < j → nums[j]? ≠ some u.seqNum) {c : Nat} {P : StatsEntry → Prop}
    (hP : ∀ e, log[k]? = some e → P (e.edit u.edit)) : EntryHas c (logUpdate c log u) k P := by
  have hlt : k < log.length := by
    rw [h.length]
    exact (List.getElem?_eq_some_iff.mp hk).1
  refine ⟨by rw [length_logUpdate]; exact hlt, fun hlive => ?_⟩
  rw [length_logUpdate] at hlive
  rw [h.logUpdate_eq hk hnew, if_pos hlive, List.getElem?_modify_eq, List.getElem?_eq_getElem hlt]
  exact ⟨_, rfl, hP _ (List.getElem?_eq_getElem hlt)⟩

theorem Records.entryHas_other (h : Records m stats nums log) (hk : nums[k]? = some u.seqNum)
    (hnew : ∀ j, k < j → nums[j]? ≠ some u.seqNum) {c j : Nat} {P : StatsEntry → Prop}
    (hj : EntryHas c log j P) (hne : j ≠ k) : EntryHas c (logUpdate c log u) j P := by
  unfold EntryHas
  rw [length_logUpdate]
  refine ⟨hj.1, fun hlive => ?_⟩
  obtain ⟨e, he, hPe⟩ := hj.2 hlive
  refine ⟨e, ?_, hPe⟩
  rw [h.logUpdate_eq hk hnew]
  split
  · rw [List.getElem?_modify_ne _ _ (Ne.symm hne), he]
  · exact he

end Newest

end TradingLatency
