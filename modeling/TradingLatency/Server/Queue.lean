import TradingLatency.Lib.Ring
import TradingLatency.Csv.Format

/-!
# The return packet queue (`timestamp_server.c`)

The receive loop of the round-trip server hands the packets that are to be
returned to the TX thread through a ring of requests with one producer and one
consumer. A call of `enqueue_return_packet_request` or
`dequeue_return_packet_request` is one step here.

`items` is the list of requests from head to tail; on it the calls are those of
a bounded FIFO queue (`enqueue_items`, `dequeue_items`).
-/

namespace TradingLatency.Server

open Ring

/-! ## Data model -/

/-- `ReturnPacketRequest`. The field `packet` is history: the position of the
packet among the received ones. No function looks at it. -/
structure ReturnPacketRequest where
  seqNum : UInt32
  returnAddr : IpText × UInt16
  packetData : List UInt8
  packetSize : Nat
  originalClientSrcPort : UInt16
  packet : Nat
deriving DecidableEq

/-- `ReturnPacketQueue`. The requests are read and written at masked indices. -/
structure ReturnPacketQueue where
  requests : UInt32 → ReturnPacketRequest
  head : UInt32
  tail : UInt32
  sizeMask : UInt32

/-- `create_return_packet_queue`: a size that is no power of two becomes 4096.
The requests are what the allocation left there. -/
def createReturnPacketQueue (size : UInt32) (requests : UInt32 → ReturnPacketRequest) :
    ReturnPacketQueue :=
  let size := if size = 0 ∨ size &&& (size - 1) ≠ 0 then 4096 else size
  ⟨requests, 0, 0, size - 1⟩

/-! ## Operations -/

/-- `enqueue_return_packet_request`: `none` where it returns `false`. -/
def enqueueReturnPacketRequest (queue : ReturnPacketQueue) (req : ReturnPacketRequest) :
    Option ReturnPacketQueue :=
  let currentTail := queue.tail
  let nextTail := (currentTail + 1) &&& queue.sizeMask
  if nextTail = queue.head then none
  else some { queue with
    requests := Function.update queue.requests currentTail req
    tail := nextTail }

/-- `dequeue_return_packet_request`: `none` where it returns `false`. -/
def dequeueReturnPacketRequest (queue : ReturnPacketQueue) :
    Option (ReturnPacketRequest × ReturnPacketQueue) :=
  let currentHead := queue.head
  if currentHead = queue.tail then none
  else some (queue.requests currentHead,
    { queue with head := (currentHead + 1) &&& queue.sizeMask })

/-- The depth that the TX thread computes from two loads. -/
def ReturnPacketQueue.depth (queue : ReturnPacketQueue) : UInt32 :=
  (queue.tail - queue.head) &&& queue.sizeMask

/-- The requests from head to tail. -/
def ReturnPacketQueue.items (queue : ReturnPacketQueue) : List ReturnPacketRequest :=
  (List.range queue.depth.toNat).map fun i =>
    queue.requests ((queue.head + UInt32.ofNat i) &&& queue.sizeMask)

/-! ## The list of requests -/

/-- The ring of `2^m` slots holds the requests, and `d` have been taken from it. -/
structure Holds (m : Nat) (queue : ReturnPacketQueue) (d : Nat)
    (items : List ReturnPacketRequest) : Prop where
  mask : queue.sizeMask.toNat = 2 ^ m - 1
  head : queue.head = slot m d
  tail : queue.tail = slot m (d + items.length)
  room : items.length < 2 ^ m
  requests : ∀ i r, items[i]? = some r → queue.requests (slot m (d + i)) = r

theorem holds_create (requests : UInt32 → ReturnPacketRequest) :
    Holds 12 (createReturnPacketQueue 4096 requests) 0 [] where
  mask := rfl
  head := rfl
  tail := rfl
  room := Nat.two_pow_pos 12
  requests := by simp

section Operations

variable {m : Nat} (hm : m < 32) {queue : ReturnPacketQueue} {d : Nat}
  {items : List ReturnPacketRequest} (h : Holds m queue d items)

include hm h

/-- An enqueue appends the request, unless the queue is full. -/
theorem enqueue_cases (req : ReturnPacketRequest) :
    (enqueueReturnPacketRequest queue req = none ∧ items.length = 2 ^ m - 1) ∨
      ∃ queue', enqueueReturnPacketRequest queue req = some queue' ∧
        Holds m queue' d (items ++ [req]) := by
  have hroom := h.room
  have hnext : (queue.tail + 1) &&& queue.sizeMask = slot m (d + items.length + 1) := by
    rw [h.tail]
    exact slot_succ hm h.mask _
  -- the queue holds one request less than it has slots
  by_cases hfull : items.length = 2 ^ m - 1
  · left
    refine ⟨?_, hfull⟩
    have hsum : d + items.length + 1 = d + 2 ^ m := by omega
    rw [enqueueReturnPacketRequest, hnext, h.head, hsum, if_pos]
    rw [slot, slot, Nat.add_mod_right]
  · right
    have hne : (queue.tail + 1) &&& queue.sizeMask ≠ queue.head := by
      rw [hnext, h.head]
      exact slot_ne hm (by omega) (by omega) (by omega)
    rw [enqueueReturnPacketRequest, if_neg hne]
    refine ⟨_, rfl, h.mask, h.head, ?_, ?_, ?_⟩
    · simp only [List.length_append, List.length_singleton]
      -- the new request is written behind the last one, the others keep their slots
      rw [hnext, Nat.add_assoc]
    · simp only [List.length_append, List.length_singleton]
      omega
    · intro i r hi
      show Function.update queue.requests queue.tail req (slot m (d + i)) = r
      rw [h.tail]
      exact update_slot_concat hm (by omega) (fun i r _ => h.requests i r) req (Nat.zero_le i) hi

/-- A dequeue takes the first request, unless the queue is empty. -/
theorem dequeue_cases :
    (dequeueReturnPacketRequest queue = none ∧ items = []) ∨
      ∃ r rest queue', items = r :: rest ∧ dequeueReturnPacketRequest queue = some (r, queue') ∧
        Holds m queue' (d + 1) rest := by
  have hroom := h.room
  cases hitems : items with
  | nil =>
    -- empty: head and tail are in one slot
    left
    refine ⟨?_, rfl⟩
    rw [dequeueReturnPacketRequest, if_pos]
    rw [h.head, h.tail, hitems]
    rfl
  | cons r rest =>
    -- the oldest request is at the head
    right
    rw [hitems, List.length_cons] at hroom
    have hne : queue.head ≠ queue.tail := by
      rw [h.head, h.tail, hitems, List.length_cons]
      exact slot_ne hm (by omega) (by omega) (by omega)
    have hread : queue.requests queue.head = r := by
      rw [h.head]
      exact h.requests 0 r (by rw [hitems]; rfl)
    rw [dequeueReturnPacketRequest, if_neg hne, hread]
    refine ⟨r, rest, _, rfl, rfl, h.mask, ?_, ?_, by show rest.length < 2 ^ m; omega, ?_⟩
    · rw [h.head]
      exact slot_succ hm h.mask d
    · rw [h.tail, hitems, List.length_cons, Nat.add_assoc, Nat.add_comm 1]
    · -- the requests that are left move up by one
      intro i r' hi
      rw [Nat.add_assoc, Nat.add_comm 1]
      exact h.requests (i + 1) r' (by rw [hitems]; simpa using hi)

/-- The ring is read back as the list that it holds. -/
theorem items_eq : queue.items = items := by
  have hroom := h.room
  -- the difference of the indices is the number of requests, also when they have wrapped
  have hdepth : queue.depth.toNat = items.length := by
    have htrack : Tracks m (queue.tail - queue.head) (d + items.length - d) := by
      rw [h.tail, h.head]
      exact (tracks_of_toNat (toNat_slot hm _)).sub (by omega)
        (tracks_of_toNat (toNat_slot hm _)) (by omega)
    rw [ReturnPacketQueue.depth, htrack.toNat_and h.mask, Nat.add_sub_cancel_left,
      Nat.mod_eq_of_lt hroom]
  apply List.ext_getElem?
  intro i
  rw [ReturnPacketQueue.items, hdepth, List.getElem?_map]
  -- the requests that are there
  by_cases hi : i < items.length
  · have htrack : Tracks m (queue.head + UInt32.ofNat i) (d + i) := by
      rw [h.head]
      exact (tracks_of_toNat (toNat_slot hm _)).add (by omega) (tracks_ofNat (by omega) i)
    rw [List.getElem?_range hi, List.getElem?_eq_getElem hi, Option.map_some,
      htrack.and_eq hm h.mask, h.requests i _ (List.getElem?_eq_getElem hi)]
  · -- behind the last one
    rw [List.getElem?_eq_none (by simpa using hi), List.getElem?_eq_none (by omega)]
    rfl

end Operations

/-! ## The queue of the server -/

/-- The ring of the server has 4096 slots. -/
def QueueInv (queue : ReturnPacketQueue) : Prop := ∃ d, Holds 12 queue d queue.items

theorem queueInv_create (requests : UInt32 → ReturnPacketRequest) :
    QueueInv (createReturnPacketQueue 4096 requests) ∧
      (createReturnPacketQueue 4096 requests).items = [] := by
  have h := holds_create requests
  have hitems := items_eq (by decide) h
  exact ⟨⟨0, by rwa [hitems]⟩, hitems⟩

theorem enqueue_items {queue : ReturnPacketQueue} (hq : QueueInv queue)
    (req : ReturnPacketRequest) :
    enqueueReturnPacketRequest queue req = none ∨
      ∃ queue', enqueueReturnPacketRequest queue req = some queue' ∧ QueueInv queue' ∧
        queue'.items = queue.items ++ [req] := by
  rcases hq with ⟨d, h⟩
  rcases enqueue_cases (by decide) h req with ⟨hnone, -⟩ | ⟨queue', hsome, h'⟩
  · exact Or.inl hnone
  · have hitems := items_eq (by decide) h'
    exact Or.inr ⟨queue', hsome, ⟨d, by rwa [hitems]⟩, hitems⟩

theorem dequeue_items {queue queue' : ReturnPacketQueue} {r : ReturnPacketRequest}
    (hq : QueueInv queue) (h : dequeueReturnPacketRequest queue = some (r, queue')) :
    QueueInv queue' ∧ queue.items = r :: queue'.items := by
  rcases hq with ⟨d, hd⟩
  rcases dequeue_cases (by decide) hd with ⟨hnone, -⟩ | ⟨r', rest, q, hcons, hsome, h'⟩
  · rw [hnone] at h
    simp at h
  · rw [hsome] at h
    obtain ⟨rfl, rfl⟩ := Prod.mk.inj (Option.some.inj h)
    have hitems := items_eq (by decide) h'
    exact ⟨⟨d + 1, by rwa [hitems]⟩, by rw [hitems, hcons]⟩

end TradingLatency.Server
