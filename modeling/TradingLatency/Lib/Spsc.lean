import TradingLatency.Lib.Ring
import Mathlib.Logic.Function.Basic

/-!
# Spsc — a lock-free queue of one producer and one consumer

An array of `size = 2^k` slots with a write index, which only the producer
stores, and a read index, which only the consumer stores. An enqueue loads its
own index, compares its successor with the other side's index, copies the entry
and stores the index; a dequeue does the same on its side. Each of these is one
`Action`, so the two sides interleave in any order.

The lists `enqueued` and `dequeued` are history: the entries whose enqueue, or
dequeue, is complete. `Inv` says how indices and slots follow from them, and
`step_inv` that every action keeps it. So the queue is a bounded FIFO:
`dequeued` is a prefix of `enqueued`, at most `size - 1` entries apart.
-/

namespace Spsc

variable {α : Type}

/-- The place of the producer in an enqueue of `e`; `i` is the loaded index. -/
inductive Producer (α : Type) where
  | idle
  | loaded (e : α) (i : Nat)
  | notFull (e : α) (i : Nat)
  | copied (e : α) (i : Nat)

/-- The place of the consumer in a dequeue; `i` is the loaded index. -/
inductive Consumer (α : Type) where
  | idle
  | loaded (i : Nat)
  | nonEmpty (i : Nat)
  | copied (e : α) (i : Nat)

/-- The shared queue, the places of both sides, and the history. -/
structure Queue (α : Type) where
  slots : Nat → α
  writeIdx : Nat
  readIdx : Nat
  producer : Producer α
  consumer : Consumer α
  enqueued : List α
  dequeued : List α

/-- The empty queue. -/
def Queue.init (slots : Nat → α) : Queue α := ⟨slots, 0, 0, .idle, .idle, [], []⟩

/-- `(i + 1) & size_mask`. -/
def next (size i : Nat) : Nat := (i + 1) &&& (size - 1)

/-- The atomic steps of the two sides. -/
inductive Action (α : Type) where
  | offer (e : α)
  | checkFull
  | copyIn
  | publish
  | loadRead
  | checkEmpty
  | copyOut
  | release

/-- The actions of the producer; the others are the consumer's. -/
def Action.isProducer : Action α → Bool
  | .offer _ | .checkFull | .copyIn | .publish => true
  | _ => false

/-- One atomic step. A full queue sends the producer back, an empty one the
consumer. -/
def step (size : Nat) (q : Queue α) : Action α → Option (Queue α)
  | .offer e =>
      match q.producer with
      | .idle => some { q with producer := .loaded e q.writeIdx }
      | _ => none
  | .checkFull =>
      match q.producer with
      | .loaded e i =>
          if next size i = q.readIdx then some { q with producer := .idle }
          else some { q with producer := .notFull e i }
      | _ => none
  | .copyIn =>
      match q.producer with
      | .notFull e i =>
          some { q with slots := Function.update q.slots i e, producer := .copied e i }
      | _ => none
  | .publish =>
      match q.producer with
      | .copied e i =>
          some { q with writeIdx := next size i, producer := .idle, enqueued := q.enqueued ++ [e] }
      | _ => none
  | .loadRead =>
      match q.consumer with
      | .idle => some { q with consumer := .loaded q.readIdx }
      | _ => none
  | .checkEmpty =>
      match q.consumer with
      | .loaded i =>
          if i = q.writeIdx then some { q with consumer := .idle }
          else some { q with consumer := .nonEmpty i }
      | _ => none
  | .copyOut =>
      match q.consumer with
      | .nonEmpty i => some { q with consumer := .copied (q.slots i) i }
      | _ => none
  | .release =>
      match q.consumer with
      | .copied e i =>
          some { q with readIdx := next size i, consumer := .idle, dequeued := q.dequeued ++ [e] }
      | _ => none

/-! ## Frames -/

/-- The producer leaves the consumer's side alone. -/
theorem producer_frame {size : Nat} {q q' : Queue α} {a : Action α} (ha : a.isProducer = true)
    (h : step size q a = some q') : q'.consumer = q.consumer ∧ q'.dequeued = q.dequeued := by
  cases a <;> simp only [Action.isProducer, Bool.false_eq_true] at ha
  all_goals
    simp only [step] at h
    split at h
  -- the enabled case of each action, and the disabled one
  · simp only [Option.some.injEq] at h
    subst h
    exact ⟨rfl, rfl⟩
  · simp at h
  · split at h
    · simp only [Option.some.injEq] at h
      subst h
      exact ⟨rfl, rfl⟩
    · simp only [Option.some.injEq] at h
      subst h
      exact ⟨rfl, rfl⟩
  · simp at h
  · simp only [Option.some.injEq] at h
    subst h
    exact ⟨rfl, rfl⟩
  · simp at h
  · simp only [Option.some.injEq] at h
    subst h
    exact ⟨rfl, rfl⟩
  · simp at h

/-! ## Index arithmetic -/

theorem next_mod {k : Nat} (n : Nat) : next (2 ^ k) (n % 2 ^ k) = (n + 1) % 2 ^ k := by
  rw [next, Nat.and_two_pow_sub_one_eq_mod, Nat.mod_add_mod]

/-! ## The invariant -/

/-- What the producer knows: its index is current, and behind the check there
is room, which the consumer can only increase. -/
def ProducerInv (size : Nat) (q : Queue α) : Prop :=
  match q.producer with
  | .idle => True
  | .loaded _ i => i = q.writeIdx
  | .notFull _ i => i = q.writeIdx ∧ q.enqueued.length + 1 < q.dequeued.length + size
  | .copied e i => i = q.writeIdx ∧ q.enqueued.length + 1 < q.dequeued.length + size ∧ q.slots i = e

/-- What the consumer knows: its index is current, and behind the check there
is an entry, which the producer does not touch. -/
def ConsumerInv (q : Queue α) : Prop :=
  match q.consumer with
  | .idle => True
  | .loaded i => i = q.readIdx
  | .nonEmpty i => i = q.readIdx ∧ q.dequeued.length < q.enqueued.length
  | .copied e i => i = q.readIdx ∧ q.enqueued[q.dequeued.length]? = some e

/-- The invariant of the queue. -/
structure Inv (size : Nat) (q : Queue α) : Prop where
  writeIdx_eq : q.writeIdx = q.enqueued.length % size
  readIdx_eq : q.readIdx = q.dequeued.length % size
  is_prefix : q.dequeued <+: q.enqueued
  room : q.enqueued.length < q.dequeued.length + size
  slots_eq : ∀ i e, q.dequeued.length ≤ i → q.enqueued[i]? = some e → q.slots (i % size) = e
  producer_inv : ProducerInv size q
  consumer_inv : ConsumerInv q

theorem inv_init {size : Nat} (hsize : 0 < size) (slots : Nat → α) :
    Inv size (Queue.init slots) where
  writeIdx_eq := by simp [Queue.init]
  readIdx_eq := by simp [Queue.init]
  is_prefix := List.prefix_rfl
  room := by simpa [Queue.init] using hsize
  slots_eq := by simp [Queue.init]
  producer_inv := trivial
  consumer_inv := trivial

/-- What is stored and not yet taken. -/
def Queue.queued (q : Queue α) : List α := q.enqueued.drop q.dequeued.length

section Steps

variable {k : Nat} {q q' : Queue α} (hinv : Inv (2 ^ k) q)

include hinv

theorem length_dequeued_le : q.dequeued.length ≤ q.enqueued.length := hinv.is_prefix.length_le

theorem enqueued_eq : q.enqueued = q.dequeued ++ q.queued := by
  rcases hinv.is_prefix with ⟨t, ht⟩
  simp [Queue.queued, ← ht]

theorem length_queued_lt : q.queued.length < 2 ^ k := by
  have := hinv.room
  have := length_dequeued_le hinv
  rw [Queue.queued, List.length_drop]
  omega

theorem offer_inv {e : α} (h : step (2 ^ k) q (.offer e) = some q') :
    Inv (2 ^ k) q' ∧ q'.enqueued = q.enqueued ∧ q'.dequeued = q.dequeued := by
  simp only [step] at h
  split at h
  · simp only [Option.some.injEq] at h
    subst h
    exact ⟨{ hinv with producer_inv := rfl }, rfl, rfl⟩
  · simp at h

/-- The check compares with the current read index: it refuses exactly a queue
of `size - 1` entries. -/
theorem full_iff : next (2 ^ k) q.writeIdx = q.readIdx ↔ q.queued.length = 2 ^ k - 1 := by
  have hroom := hinv.room
  have hle := length_dequeued_le hinv
  rw [hinv.writeIdx_eq, hinv.readIdx_eq, next_mod, Queue.queued, List.length_drop]
  constructor
  · intro h
    by_contra hne
    have := Ring.eq_of_mod_eq (p := q.dequeued.length) (q := q.enqueued.length + 1) (by omega)
      (by omega) h.symm
    omega
  · intro h
    have hsum : q.enqueued.length + 1 = q.dequeued.length + 2 ^ k := by omega
    rw [hsum, Nat.add_mod_right]

theorem checkFull_inv (h : step (2 ^ k) q .checkFull = some q') :
    Inv (2 ^ k) q' ∧ q'.enqueued = q.enqueued ∧ q'.dequeued = q.dequeued := by
  have hp := hinv.producer_inv
  have hroom := hinv.room
  have hle := length_dequeued_le hinv
  simp only [step] at h
  split at h
  · rename_i e i hprod
    simp only [ProducerInv, hprod] at hp
    split at h
    · simp only [Option.some.injEq] at h
      subst h
      exact ⟨{ hinv with producer_inv := trivial }, rfl, rfl⟩
    · -- not full: there is room for one more entry
      rename_i hnext
      rw [hp, full_iff hinv, Queue.queued, List.length_drop] at hnext
      have hlt : q.enqueued.length + 1 < q.dequeued.length + 2 ^ k := by omega
      simp only [Option.some.injEq] at h
      subst h
      exact ⟨{ hinv with producer_inv := ⟨hp, hlt⟩ }, rfl, rfl⟩
  · simp at h

/-- The free slot is none of the slots in use. -/
theorem ne_writeIdx {i : Nat} (hle : q.dequeued.length ≤ i) (hlt : i < q.enqueued.length) :
    i % 2 ^ k ≠ q.writeIdx := by
  have hroom := hinv.room
  rw [hinv.writeIdx_eq]
  intro heq
  have := Ring.eq_of_mod_eq (Nat.le_of_lt hlt) (by omega) heq
  omega

theorem copyIn_inv (h : step (2 ^ k) q .copyIn = some q') :
    Inv (2 ^ k) q' ∧ q'.enqueued = q.enqueued ∧ q'.dequeued = q.dequeued := by
  have hp := hinv.producer_inv
  simp only [step] at h
  split at h
  · rename_i e i hprod
    simp only [ProducerInv, hprod] at hp
    rcases hp with ⟨rfl, hlt⟩
    simp only [Option.some.injEq] at h
    subst h
    refine ⟨{ hinv with slots_eq := ?_, producer_inv := ⟨rfl, hlt, by simp⟩ }, rfl, rfl⟩
    -- the slot written is free, so every entry in the queue keeps its own
    intro i e' hi he'
    change q.dequeued.length ≤ i at hi
    have hi' : i < q.enqueued.length := (List.getElem?_eq_some_iff.mp he').1
    have hne := ne_writeIdx hinv hi hi'
    show Function.update q.slots q.writeIdx e (i % 2 ^ k) = e'
    rw [Function.update_of_ne hne]
    exact hinv.slots_eq i e' hi he'
  · simp at h

theorem publish_inv (h : step (2 ^ k) q .publish = some q') :
    ∃ e i, q.producer = .copied e i ∧ Inv (2 ^ k) q' ∧ q'.enqueued = q.enqueued ++ [e] ∧
      q'.dequeued = q.dequeued := by
  have hp := hinv.producer_inv
  have hc := hinv.consumer_inv
  have hle := length_dequeued_le hinv
  simp only [step] at h
  split at h
  · rename_i e i hprod
    simp only [ProducerInv, hprod] at hp
    rcases hp with ⟨rfl, hlt, hslot⟩
    simp only [Option.some.injEq] at h
    subst h
    refine ⟨e, _, hprod, ?_, rfl, rfl⟩
    constructor
    · show next (2 ^ k) q.writeIdx = (q.enqueued ++ [e]).length % 2 ^ k
      rw [hinv.writeIdx_eq, next_mod, List.length_append]
      rfl
    · exact hinv.readIdx_eq
    · exact hinv.is_prefix.trans (List.prefix_append _ _)
    · show (q.enqueued ++ [e]).length < q.dequeued.length + 2 ^ k
      simpa using hlt
    · intro i e' hi he'
      change (q.enqueued ++ [e])[i]? = some e' at he'
      by_cases hlast : i < q.enqueued.length
      · rw [List.getElem?_append_left hlast] at he'
        exact hinv.slots_eq i e' hi he'
      · -- the new entry, in the slot that was copied
        have hi' := (List.getElem?_eq_some_iff.mp he').1
        simp only [List.length_append, List.length_singleton] at hi'
        have heq : i = q.enqueued.length := by omega
        subst heq
        simp only [List.getElem?_concat_length, Option.some.injEq] at he'
        show q.slots (q.enqueued.length % 2 ^ k) = e'
        rw [← hinv.writeIdx_eq, hslot, he']
    · trivial
    · -- what the consumer knows is not affected by a longer history
      unfold ConsumerInv at hc ⊢
      split at hc
      · rename_i hcons
        simp [hcons]
      · rename_i i hcons
        simpa [hcons] using hc
      · rename_i i hcons
        simp only [hcons, List.length_append, List.length_singleton]
        exact ⟨hc.1, by omega⟩
      · rename_i e' i hcons
        simp only [hcons]
        refine ⟨hc.1, ?_⟩
        rw [List.getElem?_append_left (List.getElem?_eq_some_iff.mp hc.2).1]
        exact hc.2
  · simp at h

theorem loadRead_inv (h : step (2 ^ k) q .loadRead = some q') :
    Inv (2 ^ k) q' ∧ q'.enqueued = q.enqueued ∧ q'.dequeued = q.dequeued := by
  simp only [step] at h
  split at h
  · simp only [Option.some.injEq] at h
    subst h
    exact ⟨{ hinv with consumer_inv := rfl }, rfl, rfl⟩
  · simp at h

/-- The indices are equal exactly if nothing is queued. -/
theorem empty_iff : q.readIdx = q.writeIdx ↔ q.queued = [] := by
  have hroom := hinv.room
  have hle := length_dequeued_le hinv
  rw [hinv.writeIdx_eq, hinv.readIdx_eq, Queue.queued, List.drop_eq_nil_iff]
  constructor
  · intro h
    have := Ring.eq_of_mod_eq hle hroom h
    omega
  · intro h
    rw [Nat.le_antisymm hle h]

theorem checkEmpty_inv (h : step (2 ^ k) q .checkEmpty = some q') :
    Inv (2 ^ k) q' ∧ q'.enqueued = q.enqueued ∧ q'.dequeued = q.dequeued ∧
      (q'.consumer = .idle ∧ q.queued = [] ∨ q'.consumer ≠ .idle ∧ q.queued ≠ []) := by
  have hc := hinv.consumer_inv
  have hle := length_dequeued_le hinv
  simp only [step] at h
  split at h
  · rename_i i hcons
    simp only [ConsumerInv, hcons] at hc
    subst hc
    split at h
    · -- the indices agree: nothing is queued
      rename_i heq
      simp only [Option.some.injEq] at h
      subst h
      exact ⟨{ hinv with consumer_inv := trivial }, rfl, rfl, Or.inl ⟨rfl, (empty_iff hinv).mp heq⟩⟩
    · -- they differ, so there is an entry at the read index
      rename_i hne
      rw [empty_iff hinv] at hne
      simp only [Option.some.injEq] at h
      subst h
      have hlt : q.dequeued.length < q.enqueued.length := by
        rw [Queue.queued, List.drop_eq_nil_iff] at hne
        omega
      exact ⟨{ hinv with consumer_inv := ⟨rfl, hlt⟩ }, rfl, rfl, Or.inr ⟨by simp, hne⟩⟩
  · simp at h

theorem copyOut_inv (h : step (2 ^ k) q .copyOut = some q') :
    Inv (2 ^ k) q' ∧ q'.enqueued = q.enqueued ∧ q'.dequeued = q.dequeued := by
  have hc := hinv.consumer_inv
  simp only [step] at h
  split at h
  · rename_i i hcons
    simp only [ConsumerInv, hcons] at hc
    rcases hc with ⟨rfl, hlt⟩
    simp only [Option.some.injEq] at h
    subst h
    -- the entry read is the oldest one that has not been taken
    have hslot := hinv.slots_eq _ _ (Nat.le_refl _) (List.getElem?_eq_getElem hlt)
    rw [← hinv.readIdx_eq] at hslot
    refine ⟨{ hinv with consumer_inv := ⟨rfl, ?_⟩ }, rfl, rfl⟩
    show q.enqueued[q.dequeued.length]? = some (q.slots q.readIdx)
    rw [hslot, List.getElem?_eq_getElem hlt]
  · simp at h

theorem release_inv (h : step (2 ^ k) q .release = some q') :
    ∃ e i, q.consumer = .copied e i ∧ q'.consumer = .idle ∧ Inv (2 ^ k) q' ∧
      q'.enqueued = q.enqueued ∧ q'.dequeued = q.dequeued ++ [e] ∧ q.queued = e :: q'.queued := by
  have hp := hinv.producer_inv
  have hc := hinv.consumer_inv
  simp only [step] at h
  split at h
  · rename_i e i hcons
    simp only [ConsumerInv, hcons] at hc
    rcases hc with ⟨rfl, hget⟩
    simp only [Option.some.injEq] at h
    subst h
    have hlt : q.dequeued.length < q.enqueued.length := (List.getElem?_eq_some_iff.mp hget).1
    refine ⟨e, _, hcons, rfl, ?_, rfl, rfl, ?_⟩
    · constructor
      · exact hinv.writeIdx_eq
      · show next (2 ^ k) q.readIdx = (q.dequeued ++ [e]).length % 2 ^ k
        rw [hinv.readIdx_eq, next_mod, List.length_append]
        rfl
      · -- the entry is the next one of the history
        show q.dequeued ++ [e] <+: q.enqueued
        rw [enqueued_eq hinv] at hget ⊢
        rw [List.getElem?_append_right (Nat.le_refl _), Nat.sub_self] at hget
        rcases hq : q.queued with _ | ⟨e', rest⟩
        · simp [hq] at hget
        · rw [hq, List.getElem?_cons_zero, Option.some.injEq] at hget
          subst hget
          exact ⟨rest, by simp⟩
      · have := hinv.room
        show q.enqueued.length < (q.dequeued ++ [e]).length + 2 ^ k
        simp only [List.length_append, List.length_singleton]
        omega
      · intro i e' hi he'
        refine hinv.slots_eq i e' ?_ he'
        change (q.dequeued ++ [e]).length ≤ i at hi
        simp only [List.length_append, List.length_singleton] at hi
        omega
      · -- more room than before
        unfold ProducerInv at hp ⊢
        split at hp
        · rename_i hprod
          simp [hprod]
        · rename_i e' i hprod
          simpa [hprod] using hp
        · rename_i e' i hprod
          simp only [hprod, List.length_append, List.length_singleton]
          exact ⟨hp.1, by omega⟩
        · rename_i e' i hprod
          simp only [hprod, List.length_append, List.length_singleton]
          exact ⟨hp.1, by omega, hp.2.2⟩
      · trivial
    · show q.enqueued.drop q.dequeued.length = e :: q.enqueued.drop (q.dequeued ++ [e]).length
      rw [List.drop_eq_getElem_cons hlt, List.length_append, List.length_singleton]
      rw [List.getElem?_eq_getElem hlt, Option.some.injEq] at hget
      rw [hget]
  · simp at h

/-- Every action keeps the invariant. -/
theorem step_inv {a : Action α} (h : step (2 ^ k) q a = some q') : Inv (2 ^ k) q' := by
  cases a with
  | offer e => exact (offer_inv hinv h).1
  | checkFull => exact (checkFull_inv hinv h).1
  | copyIn => exact (copyIn_inv hinv h).1
  | publish =>
    rcases publish_inv hinv h with ⟨_, _, _, hq, _⟩
    exact hq
  | loadRead => exact (loadRead_inv hinv h).1
  | checkEmpty => exact (checkEmpty_inv hinv h).1
  | copyOut => exact (copyOut_inv hinv h).1
  | release =>
    rcases release_inv hinv h with ⟨_, _, _, _, hq, _⟩
    exact hq

end Steps

end Spsc
