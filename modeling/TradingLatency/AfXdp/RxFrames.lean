import TradingLatency.AfXdp.TxFrames
import Mathlib.Data.List.Perm.Basic

/-!
# RX frames (`AFXDPSocket.cpp`, `processPacketsForQueue`)

The receiving half of an AF_XDP socket. `bind` gives the 2048 RX frames to the
kernel through the fill ring. The kernel takes frames from there and delivers
them on the RX ring, `receive` moves their addresses to `pending_recycle_addrs_`,
and `recycleFrames` puts them back on the fill ring.

`receive` overwrites the pending addresses, and `recycleFrames` forgets them even
when it could not reserve room. No frame is lost (`rx_frames_conserved`), because
the loop calls the two in turn and the frames never outnumber the places of the
fill ring.
-/

namespace TradingLatency.AfXdp

/-! ## Data model -/

/-- `RX_FRAMES`, the number of RX frames and the size of the RX ring. -/
def rxFrames : Nat := 2048

/-- `fill_size`. -/
def fillRingSize : Nat := 4096

/-- `UMEM_RX_FIRST_FRAME_IX`: the TX frames come first. -/
def umemRxFirstFrameIx : Nat := txFrames

/-- The number of the frame that an address of the UMEM lies in. -/
def frameIx (addr : UInt64) : Nat := addr.toNat / frameSize

/-- `xsk_umem__extract_addr`. -/
def extractAddr (addr : UInt64) : UInt64 := addr &&& (0xffffffffffff : UInt64)

/-- A descriptor of the RX ring. -/
structure RxDesc where
  addr : UInt64
  len : UInt32

/-- What `receive` tells its caller about a packet. -/
structure RxPacket where
  offset : UInt64
  len : UInt32

/-- A call of `xsk_ring_prod__reserve` in `recycleFrames`. -/
structure Reservation where
  requested : Nat
  granted : Nat

/-- What receiving uses of an `AFXDPSocket`, the rings, and the frames that the
kernel has taken. The reservations are history. -/
structure RxSocket where
  fillRing : List UInt64
  inKernel : List UInt64
  rxRing : List RxDesc
  pendingRecycleAddrs : List UInt64
  reservations : List Reservation

namespace RxSocket

/-- `xsk_ring_prod__reserve` on the fill ring: all or nothing. -/
def reserveFillRing (s : RxSocket) (count : Nat) : Nat :=
  if s.fillRing.length + count ≤ fillRingSize then count else 0

/-- The part of `bind` that populates the fill queue. -/
def populateFillRing (s : RxSocket) : RxSocket :=
  let reserved := s.reserveFillRing rxFrames
  { s with
    fillRing := s.fillRing ++ (List.range reserved).map fun i =>
      UInt64.ofNat ((umemRxFirstFrameIx + i) * frameSize) }

/-- The socket behind `bind`. -/
def bind : RxSocket := populateFillRing ⟨[], [], [], [], []⟩

/-- `receive`, when `xsk_ring_cons__peek` sees `received` descriptors. -/
def receive (s : RxSocket) (received : Nat) : List RxPacket × RxSocket :=
  let descs := s.rxRing.take received
  if 0 < received then
    (descs.map fun desc => ⟨extractAddr desc.addr, desc.len⟩,
      { s with
        rxRing := s.rxRing.drop received
        -- the addresses that were pending are dropped
        pendingRecycleAddrs := descs.map (·.addr) })
  else ([], s)

/-- `recycleFrames`. -/
def recycleFrames (s : RxSocket) : RxSocket :=
  if s.pendingRecycleAddrs = [] then s
  else
    let freeCapacity := s.reserveFillRing s.pendingRecycleAddrs.length
    { s with
      fillRing := s.fillRing ++ (s.pendingRecycleAddrs.take freeCapacity).map extractAddr
      -- all are forgotten, also those that found no room
      pendingRecycleAddrs := []
      reservations := s.reservations ++ [⟨s.pendingRecycleAddrs.length, freeCapacity⟩] }

end RxSocket

/-! ## The system of the queue loop and the kernel -/

/-- The place of the loop of `processPacketsForQueue`. -/
inductive RxLoop where
  | receiving
  | processing (packets : List RxPacket)

structure RxState where
  socket : RxSocket
  loop : RxLoop

def RxState.init : RxState := ⟨RxSocket.bind, .receiving⟩

/-- The steps: the call of `receive`, with the descriptors that it sees, and that
of `recycleFrames` behind the packets; the kernel takes a frame from the fill
ring, and delivers a frame it has taken at an address inside of it. -/
inductive RxLabel where
  | receive (received : Nat)
  | recycle
  | take
  | deliver (i : Nat) (desc : RxDesc)

/-- The size of the batch vectors of the loop. -/
def rxBatchSize : Nat := 64

/-- One step; `none` when it is not enabled. -/
def rxStep (s : RxState) : RxLabel → Option RxState
  | .receive received =>
      match s.loop with
      | .receiving =>
          if received ≤ min rxBatchSize s.socket.rxRing.length then
            let (packets, socket) := s.socket.receive received
            -- without packets the loop comes back to `receive` at once
            if packets = [] then some ⟨socket, .receiving⟩ else some ⟨socket, .processing packets⟩
          else none
      | .processing _ => none
  | .recycle =>
      match s.loop with
      | .receiving => none
      -- the packets have been replicated, their frames go back
      | .processing _ => some ⟨s.socket.recycleFrames, .receiving⟩
  | .take =>
      match s.socket.fillRing with
      | [] => none
      | addr :: ring =>
          some { s with
            socket := { s.socket with
              fillRing := ring
              inKernel := s.socket.inKernel ++ [addr] } }
  | .deliver i desc =>
      match s.socket.inKernel[i]? with
      | none => none
      | some addr =>
          -- the kernel leaves headroom before the packet, inside the same frame
          if frameIx desc.addr = frameIx addr ∧ s.socket.rxRing.length < rxFrames then
            some { s with
              socket := { s.socket with
                inKernel := s.socket.inKernel.eraseIdx i
                rxRing := s.socket.rxRing ++ [desc] } }
          else none

/-! ## Conservation -/

/-- The frames of the fill ring, of the kernel, of the RX ring and of the pending
addresses. -/
def RxSocket.frames (s : RxSocket) : List Nat :=
  s.fillRing.map frameIx ++ s.inKernel.map frameIx ++ s.rxRing.map (frameIx ·.addr) ++
    s.pendingRecycleAddrs.map frameIx

/-- Every RX frame is in exactly one place, no other frame is on the fill ring,
what is recycled always finds room, and `receive` is called with no address
pending. -/
structure RxConserved (s : RxState) : Prop where
  exactlyOne : ∀ f, umemRxFirstFrameIx ≤ f → f < umemRxFirstFrameIx + rxFrames →
    (s.socket.fillRing.map frameIx).count f + (s.socket.inKernel.map frameIx).count f +
      (s.socket.rxRing.map (frameIx ·.addr)).count f +
      (s.socket.pendingRecycleAddrs.map frameIx).count f = 1
  noTxFrame : ∀ addr ∈ s.socket.fillRing, umemRxFirstFrameIx ≤ frameIx addr
  granted : ∀ r ∈ s.socket.reservations, r.granted = r.requested
  nonePending : s.loop = .receiving → s.socket.pendingRecycleAddrs = []

/-- The frames are the RX frames, each once. -/
structure RxInv (s : RxState) : Prop where
  frames : s.socket.frames.Perm (List.range' umemRxFirstFrameIx rxFrames)
  granted : ∀ r ∈ s.socket.reservations, r.granted = r.requested
  nonePending : s.loop = .receiving → s.socket.pendingRecycleAddrs = []

theorem RxInv.mem_iff {s : RxState} (hi : RxInv s) (f : Nat) :
    f ∈ s.socket.frames ↔ umemRxFirstFrameIx ≤ f ∧ f < umemRxFirstFrameIx + rxFrames := by
  rw [hi.frames.mem_iff, List.mem_range'_1]

theorem RxInv.conserved {s : RxState} (hi : RxInv s) : RxConserved s where
  exactlyOne := by
    intro f hge hlt
    have hnodup : s.socket.frames.Nodup := hi.frames.nodup_iff.mpr List.nodup_range'
    have hone : s.socket.frames.count f = 1 := by
      rw [hnodup.count, if_pos ((hi.mem_iff f).mpr ⟨hge, hlt⟩)]
    rwa [RxSocket.frames, List.count_append, List.count_append, List.count_append] at hone
  noTxFrame := by
    intro addr haddr
    have hmem : frameIx addr ∈ s.socket.frames := by
      simp only [RxSocket.frames, List.mem_append]
      exact .inl (.inl (.inl (List.mem_map_of_mem haddr)))
    exact ((hi.mem_iff _).mp hmem).1
  granted := hi.granted
  nonePending := hi.nonePending

theorem frameIx_fill {i : Nat} (hi : i < rxFrames) :
    frameIx (UInt64.ofNat ((umemRxFirstFrameIx + i) * frameSize)) = umemRxFirstFrameIx + i := by
  have hlt : i < 2048 := hi
  have hnat : (UInt64.ofNat ((umemRxFirstFrameIx + i) * frameSize)).toNat =
      (umemRxFirstFrameIx + i) * frameSize :=
    UInt64.toNat_ofNat_of_lt' (by show (2048 + i) * 4096 < 2 ^ 64; omega)
  rw [frameIx, hnat]
  exact Nat.mul_div_cancel _ (by decide)

theorem rxInv_init : RxInv RxState.init where
  frames := by
    have hreserved : RxSocket.reserveFillRing ⟨[], [], [], [], []⟩ rxFrames = rxFrames := rfl
    simp only [RxState.init, RxSocket.bind, RxSocket.populateFillRing, RxSocket.frames, hreserved,
      List.nil_append, List.map_nil, List.append_nil, List.map_map]
    apply List.Perm.of_eq
    rw [List.range'_eq_map_range]
    apply List.map_congr_left
    intro i hi
    exact frameIx_fill (List.mem_range.mp hi)
  granted r hr := (List.not_mem_nil hr).elim
  nonePending _ := rfl

/-- The address of a frame of the UMEM has no bits that `xsk_umem__extract_addr`
takes away. -/
theorem extractAddr_of_lt {addr : UInt64} (h : frameIx addr < 4096) : extractAddr addr = addr := by
  have haddr : addr.toNat < 2 ^ 48 := by
    have : addr.toNat / 4096 < 4096 := h
    omega
  apply UInt64.toNat_inj.mp
  have hand : (extractAddr addr).toNat = addr.toNat % 2 ^ 48 :=
    Nat.and_two_pow_sub_one_eq_mod addr.toNat 48
  rw [hand, Nat.mod_eq_of_lt haddr]

theorem receive_inv {s s' : RxState} {received : Nat} (hi : RxInv s)
    (h : rxStep s (.receive received) = some s') : RxInv s' := by
  simp only [rxStep] at h
  split at h
  · rename_i hloop
    have hnone := hi.nonePending hloop
    split at h
    · rename_i hle
      by_cases hpos : 0 < received
      · have hne : (s.socket.rxRing.take received).map
            (fun desc => (⟨extractAddr desc.addr, desc.len⟩ : RxPacket)) ≠ [] := by
          intro heq
          have hlen := congrArg List.length heq
          rw [List.length_map, List.length_take, List.length_nil] at hlen
          omega
        simp only [RxSocket.receive, if_pos hpos, if_neg hne, Option.some.injEq] at h
        subst h
        refine ⟨?_, hi.granted, fun hcontra => by cases hcontra⟩
        -- the front of the RX ring becomes the pending addresses
        have hframes := hi.frames
        rw [RxSocket.frames, hnone, ← List.take_append_drop received s.socket.rxRing] at hframes
        refine List.Perm.trans ?_ hframes
        apply List.perm_iff_count.mpr
        intro f
        simp only [RxSocket.frames, List.count_append, List.map_append, List.map_map, List.map_nil,
          List.count_nil, Function.comp_def]
        omega
      · simp only [RxSocket.receive, if_neg hpos, if_true, Option.some.injEq] at h
        subst h
        exact ⟨hi.frames, hi.granted, fun _ => hnone⟩
    · cases h
  · cases h

/-- All frames together need no more than half of the fill ring. -/
theorem reserveFillRing_pending {s : RxState} (hi : RxInv s) :
    s.socket.reserveFillRing s.socket.pendingRecycleAddrs.length =
      s.socket.pendingRecycleAddrs.length := by
  have hlen := hi.frames.length_eq
  simp only [RxSocket.frames, List.length_append, List.length_map, List.length_range'] at hlen
  have hroom : s.socket.fillRing.length + s.socket.pendingRecycleAddrs.length ≤ fillRingSize := by
    have hsizes : rxFrames = 2048 ∧ fillRingSize = 4096 := ⟨rfl, rfl⟩
    omega
  rw [RxSocket.reserveFillRing, if_pos hroom]

theorem recycle_inv {s s' : RxState} (hi : RxInv s) (h : rxStep s .recycle = some s') :
    RxInv s' := by
  simp only [rxStep] at h
  split at h
  · cases h
  · rw [Option.some.injEq] at h
    subst h
    by_cases hnone : s.socket.pendingRecycleAddrs = []
    · simp only [RxSocket.recycleFrames, if_pos hnone]
      exact ⟨hi.frames, hi.granted, fun _ => hnone⟩
    · have hextract : s.socket.pendingRecycleAddrs.map extractAddr = s.socket.pendingRecycleAddrs := by
        -- addresses of the UMEM are below 2^24, so masking them changes nothing
        refine (List.map_congr_left ?_).trans (List.map_id _)
        intro addr haddr
        apply extractAddr_of_lt
        have hmem : frameIx addr ∈ s.socket.frames := by
          simp only [RxSocket.frames, List.mem_append]
          exact .inr (List.mem_map_of_mem haddr)
        exact ((hi.mem_iff _).mp hmem).2
      simp only [RxSocket.recycleFrames, if_neg hnone, reserveFillRing_pending hi, List.take_length,
        hextract]
      refine ⟨?_, ?_, fun _ => rfl⟩
      · refine List.Perm.trans ?_ hi.frames
        apply List.perm_iff_count.mpr
        intro f
        simp only [RxSocket.frames, List.count_append, List.map_append, List.map_nil, List.count_nil]
        omega
      · intro r hr
        rcases List.mem_append.mp hr with hr | hr
        · exact hi.granted r hr
        · rw [List.mem_singleton.mp hr]

theorem take_inv {s s' : RxState} (hi : RxInv s) (h : rxStep s .take = some s') : RxInv s' := by
  simp only [rxStep] at h
  split at h
  · cases h
  · rename_i addr ring hring
    rw [Option.some.injEq] at h
    subst h
    refine ⟨?_, hi.granted, hi.nonePending⟩
    have hframes := hi.frames
    rw [RxSocket.frames, hring] at hframes
    refine List.Perm.trans ?_ hframes
    apply List.perm_iff_count.mpr
    intro f
    simp only [RxSocket.frames, List.count_append, List.map_append, List.map_cons, List.map_nil,
      List.count_cons, List.count_nil]
    omega

theorem deliver_inv {s s' : RxState} {i : Nat} {desc : RxDesc} (hi : RxInv s)
    (h : rxStep s (.deliver i desc) = some s') : RxInv s' := by
  simp only [rxStep] at h
  split at h
  · cases h
  · rename_i addr haddr
    split at h
    · rename_i hdeliver
      rw [Option.some.injEq] at h
      subst h
      refine ⟨?_, hi.granted, hi.nonePending⟩
      rcases List.getElem?_eq_some_iff.mp haddr with ⟨hlt, haddr⟩
      -- the frame leaves the kernel and enters the RX ring
      have hkernel := (List.getElem_cons_eraseIdx_perm hlt).map frameIx
      rw [haddr, List.map_cons] at hkernel
      refine List.Perm.trans ?_ hi.frames
      apply List.perm_iff_count.mpr
      intro f
      have hcount := hkernel.count_eq f
      rw [List.count_cons] at hcount
      simp only [RxSocket.frames, List.count_append, List.map_append, List.map_cons, List.map_nil,
        List.count_cons, List.count_nil, hdeliver.1]
      omega
    · cases h

theorem rxStep_inv {s s' : RxState} {l : RxLabel} (hi : RxInv s) (h : rxStep s l = some s') :
    RxInv s' := by
  cases l with
  | receive received => exact receive_inv hi h
  | recycle => exact recycle_inv hi h
  | take => exact take_inv hi h
  | deliver i desc => exact deliver_inv hi h

/-- In every run of the loop and the kernel the RX frames are conserved. -/
theorem rx_frames_conserved {ls : List RxLabel} {s : RxState}
    (hrun : Run.exec rxStep RxState.init ls = some s) : RxConserved s :=
  (Run.invariant (fun _ _ _ hi h => rxStep_inv hi h) rxInv_init hrun).conserved

/-- A frame makes a whole round. -/
theorem rx_frames_conserved_round :
    ∃ s, Run.exec rxStep RxState.init
        [.take, .take, .deliver 1 ⟨UInt64.ofNat (2049 * 4096 + 256), 60⟩, .receive 1, .take,
          .recycle] = some s ∧
      s.socket.reservations.length = 1 ∧ RxConserved s := by
  have hone : (Run.exec rxStep RxState.init
      [.take, .take, .deliver 1 ⟨UInt64.ofNat (2049 * 4096 + 256), 60⟩, .receive 1, .take,
        .recycle]).map (·.socket.reservations.length) = some 1 := by
    decide +kernel
  rcases Option.map_eq_some_iff.mp hone with ⟨s, hs, hlen⟩
  exact ⟨s, hs, hlen, rx_frames_conserved hs⟩

end TradingLatency.AfXdp
