import TradingLatency.Lib.Ring
import TradingLatency.Csv.Format

/-!
# The statistics collector (`timestamp_common.h`, `timestamp_common.c`)

A ring of `stats_entry_t` that overwrites its oldest entry when it is full.
Entries are created with all timestamps zero and filled in later: the three
`update_stats_buffer_with_*` functions search backwards from the newest entry
for a sequence number and set the timestamps of their mode.

Statistics are enabled, and memory allocation succeeds.
-/

namespace TradingLatency

/-! ## Data model -/

/-- `stats_mode_type_t`. -/
inductive StatsMode where
  | clientOneway
  | clientRoundtrip
  | serverOneway
  | serverRoundtrip
deriving DecidableEq, Repr

/-- `timestamp_mode_t`. -/
inductive TimestampMode where
  | clientOneway
  | clientRoundtrip
  | serverOneway
  | serverRoundtrip
deriving DecidableEq, Repr

/-- The values of the enumeration. -/
def TimestampMode.value : TimestampMode → UInt8
  | .clientOneway => 1
  | .clientRoundtrip => 2
  | .serverOneway => 3
  | .serverRoundtrip => 4

/-- `get_timestamp_mask_for_mode`. -/
def getTimestampMaskForMode : TimestampMode → UInt8
  | .clientOneway => 0x07
  | .clientRoundtrip => 0x7F
  | .serverOneway => 0x80
  | .serverRoundtrip => 0xF8

/-- `stats_entry_t`. -/
structure StatsEntry where
  seqNum : UInt32
  timestampNs : Slots
  srcPort : UInt16
  entryType : UInt8
  timestampMask : UInt8
deriving DecidableEq

/-- An entry of the zeroed buffer. -/
def StatsEntry.zero : StatsEntry := ⟨0, fun _ => 0, 0, 0, 0⟩

/-- `stats_collector_t`. The buffer is read and written at masked indices only. -/
structure StatsCollector where
  buffer : UInt32 → StatsEntry
  head : UInt32
  tail : UInt32
  sizeMask : UInt32
  capacity : UInt32
  programMode : StatsMode
  totalEntries : UInt64
  droppedEntries : UInt64

/-! ## Creation -/

/-- The loop of `next_power_of_2`. A value that is shifted 32 times is zero. -/
def nextPowerOf2Loop (n : UInt32) : Nat → UInt32 → UInt32
  | 0, power => power
  | fuel + 1, power =>
      if power < n then
        if power <<< 1 = 0 then 0 else nextPowerOf2Loop n fuel (power <<< 1)
      else power

/-- `next_power_of_2`. -/
def nextPowerOf2 (n : UInt32) : UInt32 :=
  if n = 0 then 1
  else if n &&& (n - 1) = 0 then n
  else nextPowerOf2Loop n 32 1

/-- `create_stats_collector`. -/
def createStatsCollector (bufferSize : UInt32) (mode : StatsMode) : Option StatsCollector :=
  if bufferSize = 0 then none
  else
    let actualSize := nextPowerOf2 bufferSize
    if actualSize = 0 then none
    else some
      { buffer := fun _ => .zero
        head := 0
        tail := 0
        sizeMask := actualSize - 1
        capacity := actualSize
        programMode := mode
        totalEntries := 0
        droppedEntries := 0 }

/-! ## Ring operations -/

/-- `stats_enqueue`: a full ring gives up its oldest entry. -/
def statsEnqueue (stats : StatsCollector) (entry : StatsEntry) : StatsCollector :=
  let currentHead := stats.head
  let nextHead := (currentHead + 1) &&& stats.sizeMask
  let stats :=
    if nextHead = stats.tail then
      { stats with
        tail := (stats.tail + 1) &&& stats.sizeMask
        droppedEntries := stats.droppedEntries + 1 }
    else stats
  { stats with
    buffer := Function.update stats.buffer currentHead entry
    head := nextHead
    totalEntries := stats.totalEntries + 1 }

/-- `get_buffer_count`. -/
def getBufferCount (stats : StatsCollector) : UInt32 :=
  (stats.head - stats.tail) &&& stats.sizeMask

/-- The entry that `create_minimal_stats_entry` makes. -/
def minimalStatsEntry (seqNum : UInt32) (srcPort : UInt16) (entryType : TimestampMode) :
    StatsEntry where
  seqNum := seqNum
  timestampNs := fun _ => 0
  srcPort := srcPort
  entryType := entryType.value
  timestampMask := getTimestampMaskForMode entryType

/-- `create_minimal_stats_entry`. -/
def createMinimalStatsEntry (stats : StatsCollector) (seqNum : UInt32) (srcPort : UInt16)
    (entryType : TimestampMode) : StatsCollector :=
  statsEnqueue stats (minimalStatsEntry seqNum srcPort entryType)

/-! ## Updates -/

/-- The search of the update functions, from the newest entry backwards: the
index of the first entry with the sequence number. -/
def findStatsEntry (stats : StatsCollector) (seqNum : UInt32) : Option UInt32 :=
  (List.range (getBufferCount stats).toNat).findSome? fun i =>
    let index := (stats.head - 1 - UInt32.ofNat i) &&& stats.sizeMask
    if (stats.buffer index).seqNum = seqNum then some index else none

/-- Set the timestamps of an entry. -/
def StatsEntry.edit (edit : Slots → Slots) (entry : StatsEntry) : StatsEntry :=
  { entry with timestampNs := edit entry.timestampNs }

/-- The common body of the update functions. -/
def updateStatsBuffer (stats : StatsCollector) (seqNum : UInt32) (edit : Slots → Slots) :
    StatsCollector :=
  match findStatsEntry stats seqNum with
  | none => stats
  | some index =>
      { stats with
        buffer := Function.update stats.buffer index ((stats.buffer index).edit edit) }

/-- The `switch` of `update_stats_buffer_with_tx_timestamp`. -/
def editTx (kerTx : UInt64) : StatsMode → Slots → Slots
  | .clientOneway, ts => Function.update ts 2 kerTx
  | .clientRoundtrip, ts => Function.update ts 2 kerTx
  | .serverOneway, ts => ts
  | .serverRoundtrip, ts => Function.update ts 11 kerTx

/-- The `switch` of `update_stats_buffer_with_app_tx_timestamp`. -/
def editAppTx (appTx tscTx : UInt64) : StatsMode → Slots → Slots
  | .clientOneway, ts => Function.update ts 1 appTx
  | .clientRoundtrip, ts =>
      Function.update (if tscTx > 0 then Function.update ts 0 tscTx else ts) 1 appTx
  | .serverOneway, ts => ts
  | .serverRoundtrip, ts => Function.update ts 10 appTx

/-- The `switch` of `update_stats_buffer_with_rx_timestamps`. -/
def editRx (hwRx kerRx appRx tscRx : UInt64) : StatsMode → Slots → Slots
  | .clientOneway, ts => ts
  | .clientRoundtrip, ts =>
      let ts := Function.update (Function.update ts 3 hwRx) 4 kerRx
      Function.update (if tscRx > 0 then Function.update ts 5 tscRx else ts) 6 appRx
  | .serverOneway, ts => Function.update (Function.update (Function.update ts 7 hwRx) 8 kerRx) 9 appRx
  | .serverRoundtrip, ts =>
      Function.update (Function.update (Function.update ts 7 hwRx) 8 kerRx) 9 appRx

/-- `update_stats_buffer_with_tx_timestamp`. -/
def updateStatsBufferWithTxTimestamp (stats : StatsCollector) (seqNum : UInt32)
    (kerTx : UInt64) (mode : StatsMode) : StatsCollector :=
  updateStatsBuffer stats seqNum (editTx kerTx mode)

/-- `update_stats_buffer_with_app_tx_timestamp`. -/
def updateStatsBufferWithAppTxTimestamp (stats : StatsCollector) (seqNum : UInt32)
    (appTx tscTx : UInt64) (mode : StatsMode) : StatsCollector :=
  updateStatsBuffer stats seqNum (editAppTx appTx tscTx mode)

/-- `update_stats_buffer_with_rx_timestamps`. -/
def updateStatsBufferWithRxTimestamps (stats : StatsCollector) (seqNum : UInt32)
    (hwRx kerRx appRx tscRx : UInt64) (mode : StatsMode) : StatsCollector :=
  updateStatsBuffer stats seqNum (editRx hwRx kerRx appRx tscRx mode)

/-! ## Reading -/

/-- The entries from tail to head. -/
def statsEntries (stats : StatsCollector) : List StatsEntry :=
  (List.range (getBufferCount stats).toNat).map fun i =>
    stats.buffer ((stats.tail + UInt32.ofNat i) &&& stats.sizeMask)

/-- The loop of `process_buffer_for_analysis`, with what is done for an entry
as a parameter. -/
def forEachEntry {β : Type} (stats : StatsCollector) (visit : β → StatsEntry → β) (b : β) : β :=
  (List.range (getBufferCount stats).toNat).foldl
    (fun b i => visit b (stats.buffer ((stats.tail + UInt32.ofNat i) &&& stats.sizeMask))) b

/-! ## Calls -/

/-- The update calls. -/
inductive StatsUpdate where
  | tx (seqNum : UInt32) (kerTx : UInt64) (mode : StatsMode)
  | appTx (seqNum : UInt32) (appTx tscTx : UInt64) (mode : StatsMode)
  | rx (seqNum : UInt32) (hwRx kerRx appRx tscRx : UInt64) (mode : StatsMode)

/-- The calls that change the collector. -/
inductive StatsCall where
  | create (seqNum : UInt32) (srcPort : UInt16) (entryType : TimestampMode)
  | update (u : StatsUpdate)

/-- The sequence number that an update looks for. -/
def StatsUpdate.seqNum : StatsUpdate → UInt32
  | .tx seq _ _ | .appTx seq _ _ _ | .rx seq _ _ _ _ _ => seq

/-- What an update does to the timestamps of the entry it finds. -/
def StatsUpdate.edit : StatsUpdate → Slots → Slots
  | .tx _ kerTx mode => editTx kerTx mode
  | .appTx _ app tsc mode => editAppTx app tsc mode
  | .rx _ hwRx kerRx appRx tscRx mode => editRx hwRx kerRx appRx tscRx mode

/-- The slots that an update owns in its mode. -/
def StatsUpdate.ownedSlots : StatsUpdate → List (Fin 12)
  | .tx _ _ .clientOneway | .tx _ _ .clientRoundtrip => [2]
  | .tx _ _ .serverOneway => []
  | .tx _ _ .serverRoundtrip => [11]
  | .appTx _ _ _ .clientOneway => [1]
  | .appTx _ _ _ .clientRoundtrip => [0, 1]
  | .appTx _ _ _ .serverOneway => []
  | .appTx _ _ _ .serverRoundtrip => [10]
  | .rx _ _ _ _ _ .clientOneway => []
  | .rx _ _ _ _ _ .clientRoundtrip => [3, 4, 5, 6]
  | .rx _ _ _ _ _ .serverOneway | .rx _ _ _ _ _ .serverRoundtrip => [7, 8, 9]

/-- One update call. -/
def applyUpdate (stats : StatsCollector) : StatsUpdate → StatsCollector
  | .tx seq kerTx mode => updateStatsBufferWithTxTimestamp stats seq kerTx mode
  | .appTx seq appTx tscTx mode => updateStatsBufferWithAppTxTimestamp stats seq appTx tscTx mode
  | .rx seq hwRx kerRx appRx tscRx mode =>
      updateStatsBufferWithRxTimestamps stats seq hwRx kerRx appRx tscRx mode

/-- One call. -/
def applyCall (stats : StatsCollector) : StatsCall → StatsCollector
  | .create seq port entryType => createMinimalStatsEntry stats seq port entryType
  | .update u => applyUpdate stats u

theorem applyUpdate_eq (stats : StatsCollector) (u : StatsUpdate) :
    applyUpdate stats u = updateStatsBuffer stats u.seqNum u.edit := by
  cases u <;> rfl

/-! ## The mode -/

theorem programMode_create {n : UInt32} {mode : StatsMode} {stats : StatsCollector}
    (h : createStatsCollector n mode = some stats) : stats.programMode = mode := by
  unfold createStatsCollector at h
  simp only at h
  split at h
  · cases h
  · split at h
    · cases h
    · cases h
      rfl

theorem programMode_statsEnqueue (stats : StatsCollector) (entry : StatsEntry) :
    (statsEnqueue stats entry).programMode = stats.programMode := by
  unfold statsEnqueue
  simp only
  split <;> rfl

theorem programMode_applyUpdate (stats : StatsCollector) (u : StatsUpdate) :
    (applyUpdate stats u).programMode = stats.programMode := by
  rw [applyUpdate_eq]
  unfold updateStatsBuffer
  split <;> rfl

end TradingLatency
