import TradingLatency.Lib.Run
import TradingLatency.Lib.Spsc
import TradingLatency.Csv.RoundTrip

/-!
# The CSV buffer through shutdown (`timestamp_common.c`)

One producer thread enqueues entries (`csv_enqueue_fast`), the writer thread
dequeues, formats and writes them in batches (`csv_writer_thread`), and in the
end, when the producer has stopped, `csv_buffer_destroy` clears `running`, joins
the writer and closes the file. A step is one atomic access of one thread; the
steps interleave in any order. `write` takes all bytes that it is given. The batch
of the writer is assumed to lie where an entry may: `csv_entry_t` is declared
`aligned(64)`, but `csv_writer_thread` takes the memory from `malloc`, which
promises less, and the model has no addresses.

Behind its loop the writer flushes the ring once, with one batch. So all rows
reach the file if at most one batch is queued when the writer leaves the loop
(`csv_rows_written`), and rows are lost otherwise (`csv_rows_lost`). The size of
the write buffer is a 32-bit product, which wraps from `2^24` entries per batch
on: there a batch must also fit the buffer.
-/

namespace TradingLatency

open CText

/-! ## State -/

/-- The place of `csv_writer_thread`. `final` tells the flush behind the loop
from the passes of the loop; `batch` holds the entries dequeued so far. -/
inductive Writer where
  | checkRunning
  | dequeuing (final : Bool) (batch : List CsvEntry)
  | writing (final : Bool) (batch : List CsvEntry)
  | done

/-- The progress of `csv_buffer_destroy`. -/
inductive Destroy where
  | notCalled
  | joining
  | closed
deriving DecidableEq

/-- The entries that the writer holds. -/
def Writer.batch : Writer → List CsvEntry
  | .dequeuing _ batch => batch
  | .writing _ batch => batch
  | _ => []

/-- `csv_ring_buffer_t` with the places of the threads and the file contents. -/
structure CsvBuffer where
  ring : Spsc.Queue CsvEntry
  running : Bool
  writer : Writer
  destroy : Destroy
  file : Text

/-- `csv_buffer_create`: sizes that are no power of two are rejected, the file
starts with the header. The slots hold what the allocation left in them. -/
def csvBufferCreate (c : CsvBufferConfig) (slots : Nat → CsvEntry) : Option CsvBuffer :=
  if c.size = 0 ∨ c.size &&& (c.size - 1) ≠ 0 then none
  else some
    { ring := Spsc.Queue.init slots
      running := true
      writer := .checkRunning
      destroy := .notCalled
      file := getCsvHeader c.csvType ++ ['\n'] }

/-! ## Steps -/

/-- The atomic steps of the three threads. -/
inductive CsvStep where
  | producer (a : Spsc.Action CsvEntry)
  | readRunning
  | consumer (a : Spsc.Action CsvEntry)
  | batchFull
  | write
  | clearRunning
  | close

/-- Where the writer goes behind `csv_dequeue_batch`: an empty batch is not
written. -/
def afterDequeue (final : Bool) : List CsvEntry → Writer
  | [] => if final then .done else .checkRunning
  | e :: batch => .writing final (e :: batch)

/-- A step of the writer inside `csv_dequeue_batch`. -/
def dequeueStep (c : CsvBufferConfig) (s : CsvBuffer) (final : Bool) (batch : List CsvEntry)
    (a : Spsc.Action CsvEntry) : Option CsvBuffer :=
  match Spsc.step c.size.toNat s.ring a with
  | none => none
  | some ring =>
      match a with
      | .loadRead =>
          -- `while (count < max_entries)`
          if (batch.length : Int) < c.maxEntries then some { s with ring := ring } else none
      | .checkEmpty =>
          match ring.consumer with
          | .idle => some { s with ring := ring, writer := afterDequeue final batch }
          | _ => some { s with ring := ring }
      | .copyOut => some { s with ring := ring }
      | .release =>
          match s.ring.consumer with
          | .copied e _ => some { s with ring := ring, writer := .dequeuing final (batch ++ [e]) }
          | _ => none
      | _ => none

/-- One atomic step of one thread. The producer runs until the buffer is
destroyed, which waits for it to be done with its call. -/
def csvStep (c : CsvBufferConfig) (s : CsvBuffer) : CsvStep → Option CsvBuffer
  | .producer a =>
      if a.isProducer ∧ s.destroy = .notCalled then
        match Spsc.step c.size.toNat s.ring a with
        | none => none
        | some ring => some { s with ring := ring }
      else none
  | .readRunning =>
      match s.writer with
      | .checkRunning => some { s with writer := .dequeuing (!s.running) [] }
      | _ => none
  | .consumer a =>
      match s.writer with
      | .dequeuing final batch => dequeueStep c s final batch a
      | _ => none
  | .batchFull =>
      match s.writer, s.ring.consumer with
      | .dequeuing final batch, .idle =>
          if (batch.length : Int) < c.maxEntries then none
          else some { s with writer := afterDequeue final batch }
      | _, _ => none
  | .write =>
      match s.writer with
      | .writing final batch =>
          some { s with
            file := s.file ++ csvFormatBatch batch batch.length c.writeBufferSize c.csvType
            writer := if final then .done else .checkRunning }
      | _ => none
  | .clearRunning =>
      match s.destroy, s.ring.producer with
      | .notCalled, .idle => some { s with running := false, destroy := .joining }
      | _, _ => none
  | .close =>
      match s.destroy, s.writer with
      | .joining, .done => some { s with destroy := .closed }
      | _, _ => none

/-- The contents of a complete file: the header and one line per entry. -/
def csvFileText (ty : CsvType) (entries : List CsvEntry) : Text :=
  getCsvHeader ty ++ '\n' :: entries.flatMap fun e => csvLine ty e ++ ['\n']

/-- The condition on a step: when the writer leaves its loop, at most one batch
is queued; and where the size of the write buffer has wrapped, a batch that is
written finds 256 bytes per entry in it, and no less than 512. -/
def BacklogFits (c : CsvBufferConfig) (s : CsvBuffer) : CsvStep → Prop
  | .readRunning => s.running = false → s.ring.queued.length ≤ c.maxEntries.toNat
  | .write => 2 ^ 24 ≤ c.batchSize.toNat →
      s.writer.batch.length ≤ c.writeBufferSize / 256 ∧ 2 ≤ c.writeBufferSize / 256
  | _ => True

instance (c : CsvBufferConfig) (s : CsvBuffer) : (l : CsvStep) → Decidable (BacklogFits c s l)
  | .readRunning => inferInstanceAs (Decidable (_ → _))
  | .write => inferInstanceAs (Decidable (_ → _))
  | .producer _ | .consumer _ | .batchFull | .clearRunning | .close => .isTrue trivial

/-! ## The invariant -/

/-- The writer has left its loop. -/
def Writer.isFinal : Writer → Bool
  | .checkRunning => false
  | .dequeuing final _ => final
  | .writing final _ => final
  | .done => true

/-- What the final flush still has to take fits its batch. -/
def FlushFits (c : CsvBufferConfig) (s : CsvBuffer) : Prop :=
  match s.writer with
  | .dequeuing _ batch => batch.length + s.ring.queued.length ≤ c.maxEntries.toNat
  | _ => s.ring.queued = []

/-- The file holds the entries that were dequeued, less those in the hands of
the writer; and in the final flush nothing can be left behind. -/
structure WriterInv (c : CsvBufferConfig) (s : CsvBuffer) : Prop where
  ring_inv : Spsc.Inv c.size.toNat s.ring
  file_eq : ∃ written, s.ring.dequeued = written ++ s.writer.batch ∧
    s.file = csvFileText c.csvType written
  batch_le : s.writer.batch.length ≤ c.maxEntries.toNat
  running_iff : s.running = true ↔ s.destroy = .notCalled
  flush_fits : s.writer.isFinal = true → s.running = false ∧ FlushFits c s
  closed_done : s.destroy = .closed → s.writer = .done
  taking : s.ring.consumer = .idle ∨ (s.writer.batch.length : Int) < c.maxEntries

theorem csvFileText_append (ty : CsvType) (es es' : List CsvEntry) :
    csvFileText ty (es ++ es') =
      csvFileText ty es ++ es'.flatMap fun e => csvLine ty e ++ ['\n'] := by
  simp [csvFileText]

theorem batch_afterDequeue (final : Bool) (batch : List CsvEntry) :
    (afterDequeue final batch).batch = batch := by
  cases batch with
  | nil => cases final <;> rfl
  | cons e batch => rfl

theorem isFinal_afterDequeue (final : Bool) (batch : List CsvEntry) :
    (afterDequeue final batch).isFinal = final := by
  cases batch with
  | nil => cases final <;> rfl
  | cons e batch => rfl

theorem flushFits_afterDequeue {c : CsvBufferConfig} {s : CsvBuffer} {final : Bool}
    {batch : List CsvEntry} (hw : s.writer = afterDequeue final batch)
    (hq : s.ring.queued = []) : FlushFits c s := by
  unfold FlushFits
  rw [hw]
  cases batch with
  | nil => cases final <;> exact hq
  | cons e batch => exact hq

/-- A size that `csv_buffer_create` accepts is a power of two. -/
theorem exists_size_eq_two_pow {c : CsvBufferConfig} {slots : Nat → CsvEntry} {s : CsvBuffer}
    (h : csvBufferCreate c slots = some s) : ∃ k, c.size.toNat = 2 ^ k := by
  unfold csvBufferCreate at h
  split at h
  · simp at h
  · rename_i hsize
    -- `size & (size - 1)` is 0 for a power of two only
    rw [not_or, not_not] at hsize
    have hne : c.size.toNat ≠ 0 := fun h0 => hsize.1 (UInt32.toNat_inj.mp h0)
    have hsub : (c.size - 1).toNat = c.size.toNat - 1 := by
      rw [UInt32.toNat_sub_of_le]
      · rfl
      · exact UInt32.le_iff_toNat_le.mpr (Nat.one_le_iff_ne_zero.mpr hne)
    have hand := congrArg UInt32.toNat hsize.2
    rw [UInt32.toNat_and, hsub] at hand
    exact (Nat.and_sub_one_eq_zero_iff_isPowerOfTwo hne).mp hand

theorem writerInv_create {c : CsvBufferConfig} {slots : Nat → CsvEntry} {s : CsvBuffer}
    (h : csvBufferCreate c slots = some s) : WriterInv c s := by
  rcases exists_size_eq_two_pow h with ⟨k, hk⟩
  unfold csvBufferCreate at h
  split at h
  · simp at h
  · simp only [Option.some.injEq] at h
    subst h
    constructor
    · exact Spsc.inv_init (by rw [hk]; exact Nat.two_pow_pos k) slots
    · exact ⟨[], rfl, by simp [csvFileText]⟩
    · exact Nat.zero_le _
    · simp
    · intro h
      simp [Writer.isFinal] at h
    · intro h
      simp at h
    · exact Or.inl rfl

section Steps

variable {c : CsvBufferConfig} {s s' : CsvBuffer} (hinv : WriterInv c s)

include hinv

theorem producer_step_inv {k : Nat} (hk : c.size.toNat = 2 ^ k) {a : Spsc.Action CsvEntry}
    (h : csvStep c s (.producer a) = some s') :
    WriterInv c s' := by
  simp only [csvStep] at h
  split at h
  · rename_i hguard
    split at h
    · simp at h
    · rename_i ring hring
      simp only [Option.some.injEq] at h
      subst h
      have hsp := hinv.ring_inv
      rw [hk] at hring hsp
      rcases Spsc.producer_frame hguard.1 hring with ⟨hcons, hdeq⟩
      constructor
      · rw [hk]
        exact Spsc.step_inv hsp hring
      · rcases hinv.file_eq with ⟨written, hw, hf⟩
        exact ⟨written, hdeq.trans hw, hf⟩
      · exact hinv.batch_le
      · exact hinv.running_iff
      · -- the producer only runs before the shutdown
        intro hfinal
        have hrun := hinv.running_iff.mpr hguard.2
        rw [(hinv.flush_fits hfinal).1] at hrun
        exact absurd hrun (by decide)
      · exact hinv.closed_done
      · simpa only [hcons] using hinv.taking
  · simp at h

/-- A step of the ring inside `csv_dequeue_batch` that takes nothing. -/
theorem dequeue_keep_inv {final : Bool} {batch : List CsvEntry} {ring : Spsc.Queue CsvEntry}
    (hw : s.writer = .dequeuing final batch) (hring : Spsc.Inv c.size.toNat ring)
    (henq : ring.enqueued = s.ring.enqueued) (hdeq : ring.dequeued = s.ring.dequeued)
    (hroom : (batch.length : Int) < c.maxEntries) : WriterInv c { s with ring := ring } := by
  have hq : ring.queued = s.ring.queued := by rw [Spsc.Queue.queued, henq, hdeq, Spsc.Queue.queued]
  constructor
  · exact hring
  · -- nothing has been taken, so the file is as far behind as before
    rcases hinv.file_eq with ⟨written, hwr, hf⟩
    exact ⟨written, hdeq.trans hwr, hf⟩
  · exact hinv.batch_le
  · exact hinv.running_iff
  · intro hfinal
    rcases hinv.flush_fits hfinal with ⟨hrun, hfit⟩
    refine ⟨hrun, ?_⟩
    simp only [FlushFits, hw] at hfit ⊢
    rwa [hq]
  · exact hinv.closed_done
  · right
    rw [hw]
    exact hroom

/-- Leaving `csv_dequeue_batch`. In the final flush the ring must be empty. -/
theorem leave_inv {final : Bool} {batch : List CsvEntry} {ring : Spsc.Queue CsvEntry}
    (hw : s.writer = .dequeuing final batch) (hring : Spsc.Inv c.size.toNat ring)
    (hdeq : ring.dequeued = s.ring.dequeued) (hidle : ring.consumer = .idle)
    (hempty : final = true → ring.queued = []) :
    WriterInv c { s with ring := ring, writer := afterDequeue final batch } := by
  have hbatch := hinv.batch_le
  rw [hw] at hbatch
  constructor
  · exact hring
  · rcases hinv.file_eq with ⟨written, hwr, hf⟩
    refine ⟨written, ?_, hf⟩
    rw [hw] at hwr
    simp only [batch_afterDequeue]
    exact hdeq.trans hwr
  · rw [batch_afterDequeue]
    exact hbatch
  · exact hinv.running_iff
  · -- with the ring empty the last batch leaves nothing behind
    intro hfinal
    rw [isFinal_afterDequeue] at hfinal
    have hrun := (hinv.flush_fits (by rw [hw]; exact hfinal)).1
    exact ⟨hrun, flushFits_afterDequeue rfl (hempty hfinal)⟩
  · intro hclosed
    exact absurd (hinv.closed_done hclosed) (by rw [hw]; simp)
  · exact Or.inl hidle

/-- Taking one entry: it moves from the ring to the batch. -/
theorem take_inv {final : Bool} {batch : List CsvEntry}
    {ring : Spsc.Queue CsvEntry} {e : CsvEntry} (hw : s.writer = .dequeuing final batch)
    (hroom : (batch.length : Int) < c.maxEntries) (hring : Spsc.Inv c.size.toNat ring)
    (hidle : ring.consumer = .idle) (hdeq : ring.dequeued = s.ring.dequeued ++ [e])
    (hq : s.ring.queued = e :: ring.queued) :
    WriterInv c { s with ring := ring, writer := .dequeuing final (batch ++ [e]) } := by
  constructor
  · exact hring
  · -- the entry leaves the ring and joins the batch
    rcases hinv.file_eq with ⟨written, hwr, hf⟩
    refine ⟨written, ?_, hf⟩
    rw [hw] at hwr
    show ring.dequeued = written ++ (batch ++ [e])
    rw [hdeq, hwr, List.append_assoc]
    rfl
  · show (batch ++ [e]).length ≤ c.maxEntries.toNat
    rw [List.length_append, List.length_singleton]
    omega
  · exact hinv.running_iff
  · -- in the final flush the entry moves from the ring to the batch
    intro hfinal
    rcases hinv.flush_fits (by rw [hw]; exact hfinal) with ⟨hrun, hfit⟩
    refine ⟨hrun, ?_⟩
    simp only [FlushFits, hw, hq, List.length_cons] at hfit
    show (batch ++ [e]).length + ring.queued.length ≤ c.maxEntries.toNat
    rw [List.length_append, List.length_singleton]
    omega
  · intro hclosed
    exact absurd (hinv.closed_done hclosed) (by rw [hw]; simp)
  · exact Or.inl hidle

theorem consumer_step_inv {k : Nat} (hk : c.size.toNat = 2 ^ k) {a : Spsc.Action CsvEntry}
    (h : csvStep c s (.consumer a) = some s') : WriterInv c s' := by
  have hsp := hinv.ring_inv
  rw [hk] at hsp
  simp only [csvStep] at h
  split at h
  · rename_i final batch hw
    unfold dequeueStep at h
    split at h
    · simp at h
    · rename_i ring hring
      rw [hk] at hring
      have hring' : Spsc.Inv c.size.toNat ring := hk ▸ Spsc.step_inv hsp hring
      -- inside of the loop body there is room in the batch
      have hroom : s.ring.consumer ≠ .idle → (batch.length : Int) < c.maxEntries := by
        intro hne
        rcases hinv.taking with hidle | hlt
        · exact absurd hidle hne
        · rwa [hw] at hlt
      split at h
      · rcases Spsc.loadRead_inv hsp hring with ⟨-, henq, hdeq⟩
        split at h
        · rename_i hlt
          simp only [Option.some.injEq] at h
          subst h
          exact dequeue_keep_inv hinv hw hring' henq hdeq hlt
        · simp at h
      · rcases Spsc.checkEmpty_inv hsp hring with ⟨-, henq, hdeq, hcase⟩
        have hne : s.ring.consumer ≠ .idle := by
          intro hidle
          simp [Spsc.step, hidle] at hring
        have hq : ring.queued = s.ring.queued := by
          rw [Spsc.Queue.queued, henq, hdeq, Spsc.Queue.queued]
        split at h
        · rename_i hidle
          simp only [Option.some.injEq] at h
          subst h
          refine leave_inv hinv hw hring' hdeq hidle fun _ => ?_
          rcases hcase with ⟨-, hnil⟩ | ⟨hcons, -⟩
          · rw [hq, hnil]
          · exact absurd hidle hcons
        · simp only [Option.some.injEq] at h
          subst h
          exact dequeue_keep_inv hinv hw hring' henq hdeq (hroom hne)
      · rcases Spsc.copyOut_inv hsp hring with ⟨-, henq, hdeq⟩
        have hne : s.ring.consumer ≠ .idle := by
          intro hidle
          simp [Spsc.step, hidle] at hring
        simp only [Option.some.injEq] at h
        subst h
        exact dequeue_keep_inv hinv hw hring' henq hdeq (hroom hne)
      · rcases Spsc.release_inv hsp hring with ⟨e, i, hcons, hidle, -, -, hdeq, hq⟩
        rw [hcons] at h
        simp only [Option.some.injEq] at h
        subst h
        exact take_inv hinv hw (hroom (by rw [hcons]; simp)) hring' hidle hdeq hq
      · simp at h
  · simp at h

/-- The writer looks at `running`. -/
theorem readRunning_inv (hfits : BacklogFits c s .readRunning)
    (h : csvStep c s .readRunning = some s') : WriterInv c s' := by
  simp only [csvStep] at h
  split at h
  · rename_i hw
    simp only [Option.some.injEq] at h
    subst h
    constructor
    · exact hinv.ring_inv
    · rcases hinv.file_eq with ⟨written, hwr, hf⟩
      rw [hw] at hwr
      exact ⟨written, hwr, hf⟩
    · exact Nat.zero_le _
    · exact hinv.running_iff
    · -- here the writer leaves its loop: the condition on the run is used
      intro hfinal
      have hrun : s.running = false := by simpa [Writer.isFinal] using hfinal
      refine ⟨hrun, ?_⟩
      show 0 + s.ring.queued.length ≤ c.maxEntries.toNat
      rw [Nat.zero_add]
      exact hfits hrun
    · intro hclosed
      exact absurd (hinv.closed_done hclosed) (by rw [hw]; simp)
    · have htaking := hinv.taking
      rw [hw] at htaking
      exact htaking
  · simp at h

/-- A full batch ends the dequeuing. -/
theorem batchFull_inv (h : csvStep c s .batchFull = some s') : WriterInv c s' := by
  simp only [csvStep] at h
  split at h
  · rename_i final batch hw hidle
    split at h
    · simp at h
    · rename_i hfull
      simp only [Option.some.injEq] at h
      subst h
      refine leave_inv hinv hw hinv.ring_inv rfl hidle fun hfinal => ?_
      rcases hinv.flush_fits (by rw [hw]; exact hfinal) with ⟨-, hfit⟩
      simp only [FlushFits, hw] at hfit
      exact List.length_eq_zero_iff.mp (by omega)
  · simp at h

/-- The batch that is written fits the write buffer. -/
theorem csvFormatBatch_writing (hb : 2 ≤ c.batchSize.toNat) (hfits : BacklogFits c s .write)
    {final : Bool} {batch : List CsvEntry} (hw : s.writer = .writing final batch) :
    csvFormatBatch batch batch.length c.writeBufferSize c.csvType =
      batch.flatMap fun e => csvLine c.csvType e ++ ['\n'] := by
  have hmul := c.writeBufferSize_eq
  have hlen := hinv.batch_le
  rw [hw] at hlen
  -- the size of the buffer is a multiple of 256 also where the product wraps
  have hsize : 256 * (c.writeBufferSize / 256) = c.writeBufferSize := by omega
  rw [← hsize]
  by_cases hwrap : 2 ^ 24 ≤ c.batchSize.toNat
  · rcases hfits hwrap with ⟨hroom, htwo⟩
    rw [hw] at hroom
    exact csvFormatBatch_eq c.csvType _ htwo (by omega) batch hroom
  · have hmax : c.maxEntries = c.batchSize.toNat := by
      apply Int.bmod_eq_of_le <;> omega
    have hroom : batch.length ≤ c.writeBufferSize / 256 := by
      change batch.length ≤ c.maxEntries.toNat at hlen
      omega
    exact csvFormatBatch_eq c.csvType _ (by omega) (by omega) batch hroom

theorem write_inv (hb : 2 ≤ c.batchSize.toNat) (hfits : BacklogFits c s .write)
    (h : csvStep c s .write = some s') : WriterInv c s' := by
  simp only [csvStep] at h
  split at h
  · rename_i final batch hw
    simp only [Option.some.injEq] at h
    subst h
    constructor
    · exact hinv.ring_inv
    · rcases hinv.file_eq with ⟨written, hwr, hf⟩
      rw [hw] at hwr
      -- the batch is now in the file
      refine ⟨written ++ batch, ?_, ?_⟩
      · rw [hwr]
        cases final <;> simp [Writer.batch]
      · rw [hf, csvFormatBatch_writing hinv hb hfits hw, csvFileText_append]
    · cases final <;> exact Nat.zero_le _
    · exact hinv.running_iff
    · intro hfinal
      cases final with
      | false => simp [Writer.isFinal] at hfinal
      | true =>
        rcases hinv.flush_fits (by rw [hw]; rfl) with ⟨hrun, hfit⟩
        simp only [FlushFits, hw] at hfit
        exact ⟨hrun, hfit⟩
    · intro hclosed
      exact absurd (hinv.closed_done hclosed) (by rw [hw]; simp)
    · -- an empty batch has room
      rcases hinv.taking with hidle | hroom
      · exact Or.inl hidle
      · right
        rw [hw] at hroom
        cases final <;> exact Int.lt_of_le_of_lt (Int.natCast_nonneg _) hroom
  · simp at h

theorem clearRunning_inv (h : csvStep c s .clearRunning = some s') : WriterInv c s' := by
  simp only [csvStep] at h
  split at h
  · rename_i hd hp
    simp only [Option.some.injEq] at h
    subst h
    constructor
    · exact hinv.ring_inv
    · exact hinv.file_eq
    · exact hinv.batch_le
    · simp
    · intro hfinal
      exact ⟨rfl, (hinv.flush_fits hfinal).2⟩
    · intro hclosed
      simp at hclosed
    · exact hinv.taking
  · simp at h

theorem close_inv (h : csvStep c s .close = some s') : WriterInv c s' := by
  simp only [csvStep] at h
  split at h
  · rename_i hd hw
    simp only [Option.some.injEq] at h
    subst h
    constructor
    · exact hinv.ring_inv
    · exact hinv.file_eq
    · exact hinv.batch_le
    · have := hinv.running_iff
      simp only [hd, reduceCtorEq, iff_false] at this
      simp [this]
    · exact hinv.flush_fits
    · exact fun _ => hw
    · exact hinv.taking
  · simp at h

theorem csvStep_inv {k : Nat} (hk : c.size.toNat = 2 ^ k) (hb : 2 ≤ c.batchSize.toNat) {l : CsvStep}
    (hfits : BacklogFits c s l) (h : csvStep c s l = some s') : WriterInv c s' := by
  cases l with
  | producer a => exact producer_step_inv hinv hk h
  | consumer a => exact consumer_step_inv hinv hk h
  | readRunning => exact readRunning_inv hinv hfits h
  | batchFull => exact batchFull_inv hinv h
  | write => exact write_inv hinv hb hfits h
  | clearRunning => exact clearRunning_inv hinv h
  | close => exact close_inv hinv h

end Steps

/-! ## Whole runs -/

/-- All rows are written: in every run in which at most one batch is queued
when the writer leaves its loop, and in which the batches fit the write buffer,
a closed file holds the header and one line for each entry that was enqueued,
in order. -/
theorem csv_rows_written {c : CsvBufferConfig} {slots : Nat → CsvEntry} {s₀ s : CsvBuffer}
    {run : List CsvStep} (hb : 2 ≤ c.batchSize.toNat) (hcreate : csvBufferCreate c slots = some s₀)
    (hrun : Run.exec (csvStep c) s₀ run = some s)
    (hfits : Run.Meets (csvStep c) (BacklogFits c) s₀ run) :
    s.destroy = .closed → s.file = csvFileText c.csvType s.ring.enqueued := by
  rcases exists_size_eq_two_pow hcreate with ⟨k, hk⟩
  have hinv : WriterInv c s := by
    refine Run.invariant_of_meets ?_ (writerInv_create hcreate) hfits hrun
    intro s l s' hinv hcond hstep
    exact csvStep_inv hinv hk hb hcond hstep
  intro hclosed
  have hdone := hinv.closed_done hclosed
  -- the writer is done, and its final flush left nothing in the ring
  rcases hinv.flush_fits (by rw [hdone]; rfl) with ⟨-, hempty⟩
  simp only [FlushFits, hdone] at hempty
  rcases hinv.file_eq with ⟨written, hwr, hf⟩
  have hsp := hinv.ring_inv
  rw [hk] at hsp
  rw [hf, Spsc.enqueued_eq hsp, hempty, List.append_nil, hwr, hdone]
  simp [Writer.batch]

/-! ## Two runs -/

/-- A ring of four slots and batches of two entries. -/
def smallBuffer : CsvBufferConfig := ⟨4, 2, .serverTx⟩

/-- The steps of one `csv_enqueue_fast` call. -/
def enqueueSteps (e : CsvEntry) : List CsvStep :=
  [.producer (.offer e), .producer .checkFull, .producer .copyIn, .producer .publish]

/-- The steps of one turn of the loop of `csv_dequeue_batch`. -/
def dequeueSteps : List CsvStep :=
  [.consumer .loadRead, .consumer .checkEmpty, .consumer .copyOut, .consumer .release]

/-- The buffer is destroyed before the writer has looked at the ring. -/
def shutdownRun (es : List CsvEntry) : List CsvStep :=
  es.flatMap enqueueSteps ++ [.clearRunning, .readRunning] ++ dequeueSteps ++ dequeueSteps ++
    [.batchFull, .write, .close]

/-- What is seen of a run at its end. -/
def outcome (c : CsvBufferConfig) (run : List CsvStep) : Option (Destroy × List CsvEntry × Text) :=
  (csvBufferCreate c fun _ => sampleEntry 0).bind fun s₀ =>
    (Run.exec (csvStep c) s₀ run).map fun s => (s.destroy, s.ring.enqueued, s.file)

theorem exists_of_outcome {c : CsvBufferConfig} {run : List CsvStep}
    {o : Destroy × List CsvEntry × Text} (h : outcome c run = some o) :
    ∃ s₀ s, csvBufferCreate c (fun _ => sampleEntry 0) = some s₀ ∧
      Run.exec (csvStep c) s₀ run = some s ∧ (s.destroy, s.ring.enqueued, s.file) = o := by
  rcases Option.bind_eq_some_iff.mp h with ⟨s₀, h₀, h⟩
  rcases Option.map_eq_some_iff.mp h with ⟨s, hs, rfl⟩
  exact ⟨s₀, s, h₀, hs, rfl⟩

/-- Two entries are one batch, and both are written. -/
theorem csv_rows_written_two :
    ∃ s₀ s, csvBufferCreate smallBuffer (fun _ => sampleEntry 0) = some s₀ ∧
      Run.exec (csvStep smallBuffer) s₀ (shutdownRun [sampleEntry 7, sampleEntry 8]) = some s ∧
      s.destroy = .closed ∧ s.file = csvFileText .serverTx s.ring.enqueued := by
  have hout : (outcome smallBuffer (shutdownRun [sampleEntry 7, sampleEntry 8])).map (·.1) =
      some .closed := by
    decide +kernel
  rcases Option.map_eq_some_iff.mp hout with ⟨o, ho, hclosed⟩
  rcases exists_of_outcome ho with ⟨s₀, s, h₀, hs, rfl⟩
  refine ⟨s₀, s, h₀, hs, hclosed, csv_rows_written (by decide) h₀ hs ?_ hclosed⟩
  have hmeets : ∀ s₀ ∈ csvBufferCreate smallBuffer fun _ => sampleEntry 0,
      Run.Meets (csvStep smallBuffer) (BacklogFits smallBuffer) s₀
        (shutdownRun [sampleEntry 7, sampleEntry 8]) := by
    decide +kernel
  exact hmeets s₀ h₀

/-- Of three queued entries the final flush takes two, and the third is lost. -/
theorem csv_rows_lost :
    ∃ s₀ s, csvBufferCreate smallBuffer (fun _ => sampleEntry 0) = some s₀ ∧
      Run.exec (csvStep smallBuffer) s₀
        (shutdownRun [sampleEntry 7, sampleEntry 8, sampleEntry 9]) = some s ∧
      s.destroy = .closed ∧ s.ring.enqueued = [sampleEntry 7, sampleEntry 8, sampleEntry 9] ∧
      s.file = csvFileText .serverTx [sampleEntry 7, sampleEntry 8] ∧
      s.file ≠ csvFileText .serverTx s.ring.enqueued := by
  have hout : outcome smallBuffer (shutdownRun [sampleEntry 7, sampleEntry 8, sampleEntry 9]) =
      some (.closed, [sampleEntry 7, sampleEntry 8, sampleEntry 9],
        csvFileText .serverTx [sampleEntry 7, sampleEntry 8]) := by
    decide +kernel
  have hshort : csvFileText .serverTx [sampleEntry 7, sampleEntry 8] ≠
      csvFileText .serverTx [sampleEntry 7, sampleEntry 8, sampleEntry 9] := by
    decide +kernel
  rcases exists_of_outcome hout with ⟨s₀, s, h₀, hs, ho⟩
  simp only [Prod.mk.injEq] at ho
  refine ⟨s₀, s, h₀, hs, ho.1, ho.2.1, ho.2.2, ?_⟩
  rw [ho.2.1, ho.2.2]
  exact hshort

end TradingLatency
