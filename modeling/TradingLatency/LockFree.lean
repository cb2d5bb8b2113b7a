import TradingLatency.Lib.Run
import TradingLatency.Lib.Spsc
import TradingLatency.Server.Queue

/-!
# The lock-free queues (`timestamp_server.c`, `timestamp_common.h`)

The return packet queue and the CSV ring are the same algorithm under two
layouts: in the one the producer stores `tail` and the consumer `head`, in the
other it is the other way round. A `Layout` names the fields, and `microStep`
takes the calls apart into the atomic loads, the copies of entries and the
stores, which interleave in any order.

The indices are `uint32_t`. Every step is one of `Spsc.step`, on the same
indices as natural numbers, or none (`microStep_simulates`), so what the library
says holds for both queues (`queues_fifo`).
-/

namespace TradingLatency.LockFree

open Server

/-! ## Data model -/

/-- The fields of a queue, by their roles. -/
structure Layout (Q α : Type) where
  sizeMask : Q → UInt32
  writeIdx : Q → UInt32
  readIdx : Q → UInt32
  slots : Q → UInt32 → α
  setWriteIdx : Q → UInt32 → Q
  setReadIdx : Q → UInt32 → Q
  setSlot : Q → UInt32 → α → Q

/-- `ReturnPacketQueue`: the producer stores `tail`. -/
def returnPacketLayout : Layout ReturnPacketQueue ReturnPacketRequest where
  sizeMask := (·.sizeMask)
  writeIdx := (·.tail)
  readIdx := (·.head)
  slots := (·.requests)
  setWriteIdx queue i := { queue with tail := i }
  setReadIdx queue i := { queue with head := i }
  setSlot queue i req := { queue with requests := Function.update queue.requests i req }

/-- What `csv_enqueue_fast` and `csv_dequeue_batch` use of `csv_ring_buffer_t`. -/
structure CsvRing where
  entries : UInt32 → CsvEntry
  head : UInt32
  tail : UInt32
  sizeMask : UInt32

/-- The ring that `csv_buffer_create` sets up. -/
def csvRingCreate (size : UInt32) (entries : UInt32 → CsvEntry) : CsvRing := ⟨entries, 0, 0, size - 1⟩

/-- `csv_ring_buffer_t`: the producer stores `head`. -/
def csvLayout : Layout CsvRing CsvEntry where
  sizeMask := (·.sizeMask)
  writeIdx := (·.head)
  readIdx := (·.tail)
  slots := (·.entries)
  setWriteIdx buffer i := { buffer with head := i }
  setReadIdx buffer i := { buffer with tail := i }
  setSlot buffer i entry := { buffer with entries := Function.update buffer.entries i entry }

/-- The place of the producer in an enqueue of `e`, with the index it has loaded. -/
inductive Producer (α : Type) where
  | idle
  | loaded (e : α) (current : UInt32)
  | notFull (e : α) (current : UInt32)
  | copied (e : α) (current : UInt32)

/-- The place of the consumer in a batch of at most `max` entries, with what the
batch has so far. A single dequeue is a batch of one. -/
inductive Consumer (α : Type) where
  | idle
  | looping (max : Int) (batch : List α)
  | loaded (max : Int) (batch : List α) (current : UInt32)
  | nonEmpty (max : Int) (batch : List α) (current : UInt32)
  | copied (max : Int) (batch : List α) (current : UInt32) (e : α)

/-- A queue and its two sides. The entries whose enqueue has succeeded and those
that have been dequeued are history. -/
structure State (Q α : Type) where
  queue : Q
  producer : Producer α
  consumer : Consumer α
  enqueued : List α
  dequeued : List α

/-- Nobody has called yet. -/
def State.init {Q α : Type} (queue : Q) : State Q α := ⟨queue, .idle, .idle, [], []⟩

/-! ## Steps -/

/-- The atomic steps. -/
inductive Label (α : Type) where
  | enqueue (e : α)
  | checkFull
  | copyIn
  | publish
  | dequeueBatch (max : Int)
  | loadRead
  | checkEmpty
  | copyOut
  | release

/-- The loop goes on while the batch is shorter than `max`. -/
def loopBatch {α : Type} (max : Int) (batch : List α) : Consumer α :=
  if (batch.length : Int) < max then .looping max batch else .idle

section Steps

variable {Q α : Type} (L : Layout Q α)

/-- `(i + 1) & size_mask`. -/
def nextIdx (queue : Q) (i : UInt32) : UInt32 := (i + 1) &&& L.sizeMask queue

/-- One atomic step of one side. -/
def microStep (s : State Q α) : Label α → Option (State Q α)
  | .enqueue e =>
      match s.producer with
      | .idle => some { s with producer := .loaded e (L.writeIdx s.queue) }
      | _ => none
  | .checkFull =>
      match s.producer with
      | .loaded e current =>
          if nextIdx L s.queue current = L.readIdx s.queue then some { s with producer := .idle }
          else some { s with producer := .notFull e current }
      | _ => none
  | .copyIn =>
      match s.producer with
      | .notFull e current =>
          some { s with queue := L.setSlot s.queue current e, producer := .copied e current }
      | _ => none
  | .publish =>
      match s.producer with
      | .copied e current =>
          some { s with
            queue := L.setWriteIdx s.queue (nextIdx L s.queue current)
            producer := .idle
            enqueued := s.enqueued ++ [e] }
      | _ => none
  | .dequeueBatch max =>
      match s.consumer with
      | .idle => some { s with consumer := loopBatch max [] }
      | _ => none
  | .loadRead =>
      match s.consumer with
      | .looping max batch =>
          some { s with consumer := .loaded max batch (L.readIdx s.queue) }
      | _ => none
  | .checkEmpty =>
      match s.consumer with
      | .loaded max batch current =>
          if current = L.writeIdx s.queue then some { s with consumer := .idle }
          else some { s with consumer := .nonEmpty max batch current }
      | _ => none
  | .copyOut =>
      match s.consumer with
      | .nonEmpty max batch current =>
          some { s with consumer := .copied max batch current (L.slots s.queue current) }
      | _ => none
  | .release =>
      match s.consumer with
      | .copied max batch current e =>
          some { s with
            queue := L.setReadIdx s.queue (nextIdx L s.queue current)
            consumer := loopBatch max (batch ++ [e])
            dequeued := s.dequeued ++ [e] }
      | _ => none

/-! ## Statement -/

/-- The entries that are published and not yet released. -/
def State.queued (s : State Q α) : List α := s.enqueued.drop s.dequeued.length

/-- The slot of the `j`-th entry. -/
def slotOf (size : UInt32) (j : Nat) : UInt32 := UInt32.ofNat (j % size.toNat)

/-- The queue is a bounded FIFO queue: what was dequeued is a prefix of what was
enqueued; the slot of an entry that is published and not released has the entry,
and no copy of the producer goes there; at most `size - 1` entries are queued;
and an enqueue is refused only if there are that many. -/
structure Fifo (size : UInt32) (s : State Q α) : Prop where
  fifo : s.dequeued <+: s.enqueued
  intact : ∀ j e, s.dequeued.length ≤ j → s.enqueued[j]? = some e →
    L.slots s.queue (slotOf size j) = e
  untouched : ∀ e current, s.producer = .notFull e current → ∀ j, s.dequeued.length ≤ j →
    j < s.enqueued.length → current ≠ slotOf size j
  bounded : s.queued.length ≤ size.toNat - 1
  refused : ∀ s' e current, s.producer = .loaded e current →
    microStep L s .checkFull = some s' → s'.producer = .idle → s.queued.length = size.toNat - 1

end Steps

/-! ## Simulation by the library's queue -/

/-- The fields are independent. -/
structure Layout.Lawful {Q α : Type} (L : Layout Q α) : Prop where
  mask_write : ∀ q i, L.sizeMask (L.setWriteIdx q i) = L.sizeMask q
  mask_read : ∀ q i, L.sizeMask (L.setReadIdx q i) = L.sizeMask q
  mask_slot : ∀ q i e, L.sizeMask (L.setSlot q i e) = L.sizeMask q
  write_write : ∀ q i, L.writeIdx (L.setWriteIdx q i) = i
  write_read : ∀ q i, L.writeIdx (L.setReadIdx q i) = L.writeIdx q
  write_slot : ∀ q i e, L.writeIdx (L.setSlot q i e) = L.writeIdx q
  read_write : ∀ q i, L.readIdx (L.setWriteIdx q i) = L.readIdx q
  read_read : ∀ q i, L.readIdx (L.setReadIdx q i) = i
  read_slot : ∀ q i e, L.readIdx (L.setSlot q i e) = L.readIdx q
  slots_write : ∀ q i, L.slots (L.setWriteIdx q i) = L.slots q
  slots_read : ∀ q i, L.slots (L.setReadIdx q i) = L.slots q
  slots_slot : ∀ q i e, L.slots (L.setSlot q i e) = Function.update (L.slots q) i e

theorem returnPacketLayout_lawful : returnPacketLayout.Lawful := by
  constructor <;> intros <;> rfl

theorem csvLayout_lawful : csvLayout.Lawful := by
  constructor <;> intros <;> rfl

/-- The place of the producer, with natural numbers. -/
def Producer.toSpsc {α : Type} : Producer α → Spsc.Producer α
  | .idle => .idle
  | .loaded e i => .loaded e i.toNat
  | .notFull e i => .notFull e i.toNat
  | .copied e i => .copied e i.toNat

/-- The place of the consumer; the batch does not matter. -/
def Consumer.toSpsc {α : Type} : Consumer α → Spsc.Consumer α
  | .idle | .looping _ _ => .idle
  | .loaded _ _ i => .loaded i.toNat
  | .nonEmpty _ _ i => .nonEmpty i.toNat
  | .copied _ _ i e => .copied e i.toNat

/-- The queue of the library that does the same, on a ring of `2^k` slots. -/
structure Simulates {Q α : Type} (L : Layout Q α) (k : Nat) (s : State Q α)
    (q : Spsc.Queue α) : Prop where
  mask : (L.sizeMask s.queue).toNat = 2 ^ k - 1
  write : q.writeIdx = (L.writeIdx s.queue).toNat
  read : q.readIdx = (L.readIdx s.queue).toNat
  slots : ∀ i : UInt32, q.slots i.toNat = L.slots s.queue i
  producer : q.producer = s.producer.toSpsc
  consumer : q.consumer = s.consumer.toSpsc
  enqueued : q.enqueued = s.enqueued
  dequeued : q.dequeued = s.dequeued

section Simulation

variable {Q α : Type} {L : Layout Q α} {k : Nat} {s s' : State Q α} {q : Spsc.Queue α}

/-- The next index, in 32 bits as in natural numbers. -/
theorem toNat_nextIdx (hk : k < 32) {queue : Q} (hmask : (L.sizeMask queue).toNat = 2 ^ k - 1)
    (i : UInt32) : (nextIdx L queue i).toNat = Spsc.next (2 ^ k) i.toNat := by
  rw [nextIdx, Ring.toNat_and_mask hmask, Spsc.next, Nat.and_two_pow_sub_one_eq_mod,
    UInt32.toNat_add]
  show (i.toNat + 1) % 2 ^ 32 % 2 ^ k = _
  rw [Nat.mod_mod_of_dvd _ (Nat.pow_dvd_pow 2 (by omega))]

theorem toSpsc_loopBatch (max : Int) (batch : List α) : (loopBatch max batch).toSpsc = .idle := by
  unfold loopBatch
  split <;> rfl

/-- A step of the library, or none. -/
def StepOrStay (k : Nat) (q q' : Spsc.Queue α) : Prop :=
  q' = q ∨ ∃ a, Spsc.step (2 ^ k) q a = some q'

/-- The comparison of the indices is that of the numbers. -/
theorem checkFull_simulates (hk : k < 32) (h : Simulates L k s q)
    (hs : microStep L s .checkFull = some s') : ∃ q', Simulates L k s' q' ∧ StepOrStay k q q' := by
  simp only [microStep] at hs
  split at hs
  · rename_i e current hprod
    have hp : q.producer = .loaded e current.toNat := by rw [h.producer, hprod]; rfl
    have hfull : nextIdx L s.queue current = L.readIdx s.queue ↔
        Spsc.next (2 ^ k) current.toNat = q.readIdx := by
      rw [h.read, ← toNat_nextIdx hk h.mask, UInt32.toNat_inj]
    -- full: the abstract queue refuses the entry as well
    split at hs
    · rename_i heq
      obtain rfl := Option.some.inj hs
      refine ⟨{ q with producer := .idle }, { h with producer := rfl }, Or.inr ⟨.checkFull, ?_⟩⟩
      simp [Spsc.step, hp, hfull.mp heq]
    · -- room: the producer may copy
      rename_i hne
      obtain rfl := Option.some.inj hs
      refine ⟨{ q with producer := .notFull e current.toNat }, { h with producer := rfl },
        Or.inr ⟨.checkFull, ?_⟩⟩
      simp [Spsc.step, hp, mt hfull.mpr hne]
  · -- the producer is at another place
    simp at hs

theorem copyIn_simulates (hL : L.Lawful) (h : Simulates L k s q)
    (hs : microStep L s .copyIn = some s') : ∃ q', Simulates L k s' q' ∧ StepOrStay k q q' := by
  simp only [microStep] at hs
  split at hs
  · rename_i e current hprod
    obtain rfl := Option.some.inj hs
    have hp : q.producer = .notFull e current.toNat := by rw [h.producer, hprod]; rfl
    refine ⟨{ q with
      slots := Function.update q.slots current.toNat e, producer := .copied e current.toNat },
      ?_, Or.inr ⟨.copyIn, by simp [Spsc.step, hp]⟩⟩
    constructor
    · rw [hL.mask_slot]
      exact h.mask
    · rw [hL.write_slot]
      exact h.write
    · rw [hL.read_slot]
      exact h.read
    · intro i
      show Function.update q.slots current.toNat e i.toNat = _
      rw [hL.slots_slot]
      -- only the slot at the write index has changed
      by_cases hi : i = current
      · rw [hi, Function.update_self, Function.update_self]
      · rw [Function.update_of_ne hi, Function.update_of_ne (mt UInt32.toNat_inj.mp hi)]
        exact h.slots i
    · rfl
    · exact h.consumer
    · exact h.enqueued
    · exact h.dequeued
  · simp at hs

theorem publish_simulates (hL : L.Lawful) (hk : k < 32) (h : Simulates L k s q)
    (hs : microStep L s .publish = some s') : ∃ q', Simulates L k s' q' ∧ StepOrStay k q q' := by
  simp only [microStep] at hs
  split at hs
  · rename_i e current hprod
    obtain rfl := Option.some.inj hs
    have hp : q.producer = .copied e current.toNat := by rw [h.producer, hprod]; rfl
    refine ⟨{ q with
      writeIdx := Spsc.next (2 ^ k) current.toNat
      producer := .idle
      enqueued := q.enqueued ++ [e] }, ?_, Or.inr ⟨.publish, by simp [Spsc.step, hp]⟩⟩
    constructor
    · rw [hL.mask_write]
      exact h.mask
    · -- publishing moves the write index, and nothing else of the layout
      rw [hL.write_write, toNat_nextIdx hk h.mask]
    · rw [hL.read_write]
      exact h.read
    · rw [hL.slots_write]
      exact h.slots
    · rfl
    · exact h.consumer
    · show q.enqueued ++ [e] = s.enqueued ++ [e]
      rw [h.enqueued]
    · exact h.dequeued
  · simp at hs

theorem enqueue_simulates (h : Simulates L k s q) {e : α}
    (hs : microStep L s (.enqueue e) = some s') : ∃ q', Simulates L k s' q' ∧ StepOrStay k q q' := by
  simp only [microStep] at hs
  split at hs
  · rename_i hprod
    obtain rfl := Option.some.inj hs
    have hp : q.producer = .idle := by rw [h.producer, hprod]; rfl
    refine ⟨{ q with producer := .loaded e q.writeIdx },
      { h with producer := by rw [h.write]; rfl }, Or.inr ⟨.offer e, by simp [Spsc.step, hp]⟩⟩
  · simp at hs

theorem loadRead_simulates (h : Simulates L k s q)
    (hs : microStep L s .loadRead = some s') : ∃ q', Simulates L k s' q' ∧ StepOrStay k q q' := by
  simp only [microStep] at hs
  split at hs
  · rename_i max batch hcons
    obtain rfl := Option.some.inj hs
    have hc : q.consumer = .idle := by rw [h.consumer, hcons]; rfl
    refine ⟨{ q with consumer := .loaded q.readIdx },
      { h with consumer := by rw [h.read]; rfl }, Or.inr ⟨.loadRead, by simp [Spsc.step, hc]⟩⟩
  · simp at hs

theorem checkEmpty_simulates (h : Simulates L k s q)
    (hs : microStep L s .checkEmpty = some s') : ∃ q', Simulates L k s' q' ∧ StepOrStay k q q' := by
  simp only [microStep] at hs
  split at hs
  · rename_i max batch current hcons
    have hc : q.consumer = .loaded current.toNat := by rw [h.consumer, hcons]; rfl
    have hempty : current = L.writeIdx s.queue ↔ current.toNat = q.writeIdx := by
      rw [h.write, UInt32.toNat_inj]
    -- empty: both leave the loop
    split at hs
    · rename_i heq
      obtain rfl := Option.some.inj hs
      refine ⟨{ q with consumer := .idle }, { h with consumer := rfl },
        Or.inr ⟨.checkEmpty, ?_⟩⟩
      simp [Spsc.step, hc, hempty.mp heq]
    · -- an entry is there: the consumer may copy it
      rename_i hne
      obtain rfl := Option.some.inj hs
      refine ⟨{ q with consumer := .nonEmpty current.toNat }, { h with consumer := rfl },
        Or.inr ⟨.checkEmpty, ?_⟩⟩
      simp [Spsc.step, hc, mt hempty.mpr hne]
  · simp at hs

theorem copyOut_simulates (h : Simulates L k s q)
    (hs : microStep L s .copyOut = some s') : ∃ q', Simulates L k s' q' ∧ StepOrStay k q q' := by
  simp only [microStep] at hs
  split at hs
  · rename_i max batch current hcons
    obtain rfl := Option.some.inj hs
    have hc : q.consumer = .nonEmpty current.toNat := by rw [h.consumer, hcons]; rfl
    refine ⟨{ q with consumer := .copied (q.slots current.toNat) current.toNat },
      { h with consumer := by rw [h.slots]; rfl }, Or.inr ⟨.copyOut, by simp [Spsc.step, hc]⟩⟩
  · simp at hs

theorem release_simulates (hL : L.Lawful) (hk : k < 32) (h : Simulates L k s q)
    (hs : microStep L s .release = some s') : ∃ q', Simulates L k s' q' ∧ StepOrStay k q q' := by
  simp only [microStep] at hs
  split at hs
  · rename_i max batch current e hcons
    obtain rfl := Option.some.inj hs
    have hc : q.consumer = .copied e current.toNat := by rw [h.consumer, hcons]; rfl
    refine ⟨{ q with
      readIdx := Spsc.next (2 ^ k) current.toNat
      consumer := .idle
      dequeued := q.dequeued ++ [e] }, ?_, Or.inr ⟨.release, by simp [Spsc.step, hc]⟩⟩
    constructor
    · rw [hL.mask_read]
      exact h.mask
    · rw [hL.write_read]
      exact h.write
    · -- releasing moves the read index
      rw [hL.read_read, toNat_nextIdx hk h.mask]
    · rw [hL.slots_read]
      exact h.slots
    · exact h.producer
    · -- the consumer goes on with the batch that has one more entry
      exact (toSpsc_loopBatch max (batch ++ [e])).symm
    · exact h.enqueued
    · show q.dequeued ++ [e] = s.dequeued ++ [e]
      rw [h.dequeued]
  · simp at hs

/-- The library does not know batches. -/
theorem dequeueBatch_simulates (h : Simulates L k s q) {max : Int}
    (hs : microStep L s (.dequeueBatch max) = some s') : ∃ q', Simulates L k s' q' ∧ StepOrStay k q q' := by
  simp only [microStep] at hs
  split at hs
  · rename_i hcons
    obtain rfl := Option.some.inj hs
    refine ⟨q, { h with consumer := ?_ }, Or.inl rfl⟩
    rw [h.consumer, hcons]
    exact (toSpsc_loopBatch max []).symm
  · simp at hs

/-- Every step is one of the library, or none. -/
theorem microStep_simulates (hL : L.Lawful) (hk : k < 32) (h : Simulates L k s q) {l : Label α}
    (hs : microStep L s l = some s') : ∃ q', Simulates L k s' q' ∧ StepOrStay k q q' := by
  cases l with
  | enqueue e => exact enqueue_simulates h hs
  | checkFull => exact checkFull_simulates hk h hs
  | copyIn => exact copyIn_simulates hL h hs
  | publish => exact publish_simulates hL hk h hs
  | dequeueBatch max => exact dequeueBatch_simulates h hs
  | loadRead => exact loadRead_simulates h hs
  | checkEmpty => exact checkEmpty_simulates h hs
  | copyOut => exact copyOut_simulates h hs
  | release => exact release_simulates hL hk h hs

end Simulation

/-! ## Both queues -/

/-- The queue of the library keeps its invariant. -/
def Reached {Q α : Type} (L : Layout Q α) (k : Nat) (s : State Q α) : Prop :=
  ∃ q, Simulates L k s q ∧ Spsc.Inv (2 ^ k) q

section Both

variable {Q α : Type} {L : Layout Q α} {k : Nat} {s s' : State Q α}

theorem reached_init {queue : Q} (hmask : (L.sizeMask queue).toNat = 2 ^ k - 1)
    (hwrite : L.writeIdx queue = 0) (hread : L.readIdx queue = 0) :
    Reached L k (State.init queue) := by
  refine ⟨Spsc.Queue.init fun i => L.slots queue (UInt32.ofNat i), ?_,
    Spsc.inv_init (Nat.two_pow_pos k) _⟩
  constructor
  · exact hmask
  · -- both indices start at zero
    show 0 = (L.writeIdx queue).toNat
    rw [hwrite]
    rfl
  · show 0 = (L.readIdx queue).toNat
    rw [hread]
    rfl
  · intro i
    show L.slots queue (UInt32.ofNat i.toNat) = L.slots queue i
    rw [UInt32.ofNat_toNat]
  · rfl
  · rfl
  · rfl
  · rfl

theorem microStep_reached (hL : L.Lawful) (hk : k < 32) (h : Reached L k s) {l : Label α}
    (hs : microStep L s l = some s') : Reached L k s' := by
  obtain ⟨q, hsim, hinv⟩ := h
  obtain ⟨q', hsim', hstay | ⟨a, ha⟩⟩ := microStep_simulates hL hk hsim hs
  · rw [hstay] at hsim'
    exact ⟨q, hsim', hinv⟩
  · exact ⟨q', hsim', Spsc.step_inv hinv ha⟩

/-- What the library says, in 32 bits. -/
theorem Reached.fifo (hk : k < 32) {size : UInt32} (hsize : size.toNat = 2 ^ k)
    (h : Reached L k s) : Fifo L size s := by
  obtain ⟨q, hsim, hinv⟩ := h
  -- positions of the history and slots of the array agree modulo the size
  have hslot : ∀ j, (slotOf size j).toNat = j % 2 ^ k := by
    intro j
    rw [slotOf, hsize]
    exact Ring.toNat_slot hk j
  have hqueued : s.queued = q.queued := by
    rw [State.queued, Spsc.Queue.queued, hsim.enqueued, hsim.dequeued]
  constructor
  · rw [← hsim.enqueued, ← hsim.dequeued]
    exact hinv.is_prefix
  · intro j e hj he
    rw [← hsim.dequeued] at hj
    rw [← hsim.enqueued] at he
    rw [← hsim.slots, hslot]
    exact hinv.slots_eq j e hj he
  · -- the producer never writes a slot that still holds an entry
    intro e current hprod j hj hlt heq
    have hp := hinv.producer_inv
    simp only [Spsc.ProducerInv, hsim.producer, hprod, Producer.toSpsc] at hp
    rw [← hsim.dequeued] at hj
    rw [← hsim.enqueued] at hlt
    apply Spsc.ne_writeIdx hinv hj hlt
    rw [← hslot, ← heq]
    exact hp.1
  · have hlt := Spsc.length_queued_lt hinv
    rw [hqueued, hsize]
    omega
  · -- a refusal means that the queue holds one entry less than it has slots
    intro s' e current hprod hs hidle
    have hp := hinv.producer_inv
    simp only [Spsc.ProducerInv, hsim.producer, hprod, Producer.toSpsc] at hp
    simp only [microStep, hprod] at hs
    split at hs
    · rename_i hnext
      rw [hqueued, hsize, ← Spsc.full_iff hinv, ← hp, hsim.read, ← toNat_nextIdx hk hsim.mask,
        hnext]
    · obtain rfl := Option.some.inj hs
      simp at hidle

theorem exec_fifo (hL : L.Lawful) (hk : k < 32) {size : UInt32} (hsize : size.toNat = 2 ^ k)
    {queue : Q} (hmask : L.sizeMask queue = size - 1) (hwrite : L.writeIdx queue = 0)
    (hread : L.readIdx queue = 0) {ls : List (Label α)}
    (hrun : Run.exec (microStep L) (State.init queue) ls = some s) : Fifo L size s := by
  have hpos := Nat.two_pow_pos k
  have hone : 1 ≤ size := by
    rw [UInt32.le_iff_toNat_le, hsize]
    exact hpos
  have hmaskNat : (L.sizeMask queue).toNat = 2 ^ k - 1 := by
    rw [hmask, UInt32.toNat_sub_of_le _ _ hone, hsize]
    rfl
  exact Reached.fifo hk hsize (Run.invariant (fun _ _ _ h hs => microStep_reached hL hk h hs)
    (reached_init hmaskNat hwrite hread) hrun)

end Both

/-- A power of two is a size that `create_return_packet_queue` takes. -/
theorem sizeMask_createReturnPacketQueue {k : Nat} {size : UInt32} (hsize : size.toNat = 2 ^ k)
    (requests : UInt32 → ReturnPacketRequest) :
    (createReturnPacketQueue size requests).sizeMask = size - 1 := by
  have hpos := Nat.two_pow_pos k
  have hone : 1 ≤ size := by
    rw [UInt32.le_iff_toNat_le, hsize]
    exact hpos
  have hne : size ≠ 0 := by
    rintro rfl
    exact absurd hsize.symm (Nat.ne_of_gt hpos)
  -- the guard of `create_return_packet_queue` is passed by powers of two
  have hand : size &&& (size - 1) = 0 := by
    apply UInt32.toNat_inj.mp
    have hmask : (size - 1).toNat = 2 ^ k - 1 := by
      rw [UInt32.toNat_sub_of_le _ _ hone, hsize]
      rfl
    rw [Ring.toNat_and_mask hmask, hsize, Nat.mod_self]
    rfl
  simp [createReturnPacketQueue, hne, hand]

/-- For every power of two, and however their atomic steps interleave, the return
packet queue and the CSV ring are bounded FIFO queues. -/
theorem queues_fifo {k : Nat} {size : UInt32} (hsize : size.toNat = 2 ^ k) :
    (∀ requests ls s, Run.exec (microStep returnPacketLayout)
        (State.init (createReturnPacketQueue size requests)) ls = some s →
      Fifo returnPacketLayout size s) ∧
    (∀ entries ls s, Run.exec (microStep csvLayout)
        (State.init (csvRingCreate size entries)) ls = some s → Fifo csvLayout size s) := by
  have hk : k < 32 := by
    rw [← Nat.pow_lt_pow_iff_right (a := 2) (by omega), ← hsize]
    exact size.toNat_lt
  constructor
  · -- the queue of return packets
    intro requests ls s hrun
    have hmask : returnPacketLayout.sizeMask (createReturnPacketQueue size requests) = size - 1 :=
      sizeMask_createReturnPacketQueue hsize requests
    exact exec_fifo returnPacketLayout_lawful hk hsize hmask rfl rfl hrun
  · -- the ring of the CSV buffer
    intro entries ls s hrun
    exact exec_fifo csvLayout_lawful hk hsize rfl rfl rfl hrun

/-- A request for the samples. -/
def sampleRequest (seqNum : UInt32) : ReturnPacketRequest :=
  ⟨seqNum, (IpText.ofText [], 0), [], 0, 0, 0⟩

/-- Two slots: one request is queued, the next is refused, and the first is taken. -/
def twoSlotRun : List (Label ReturnPacketRequest) :=
  [.enqueue (sampleRequest 1), .checkFull, .copyIn, .publish, .enqueue (sampleRequest 2),
    .checkFull, .dequeueBatch 1, .loadRead, .checkEmpty, .copyOut, .release]

/-- The smallest queue that can hold an entry. -/
theorem queues_fifo_two :
    ∃ s, Run.exec (microStep returnPacketLayout)
        (State.init (createReturnPacketQueue 2 fun _ => sampleRequest 0)) twoSlotRun = some s ∧
      s.dequeued = [sampleRequest 1] ∧ Fifo returnPacketLayout 2 s := by
  have hsize : (2 : UInt32).toNat = 2 ^ 1 := rfl
  obtain ⟨s, hs⟩ : ∃ s, Run.exec (microStep returnPacketLayout)
      (State.init (createReturnPacketQueue 2 fun _ => sampleRequest 0)) twoSlotRun = some s :=
    ⟨_, rfl⟩
  refine ⟨s, hs, ?_, (queues_fifo hsize).1 _ _ _ hs⟩
  rw [← Option.some.inj hs]
  rfl

end TradingLatency.LockFree
