import TradingLatency.AfXdp.RxFrames
import Mathlib.Data.List.GetD

/-!
# Where packets are built (`sendToDestinationZeroCopy`, `sendSinglePacketDirect`)

Both zero-copy send routines take the next TX frame from `getNextTxFrame`, which
returns the number of the frame. `sendSinglePacketDirect` makes an address of it,
`sendToDestinationZeroCopy` uses the number itself as the offset of the packet in
the UMEM and as the address of the descriptor. Its packets are one byte apart, so
each of them lies in the packets around it (`places_alike_iff`).
-/

namespace TradingLatency.AfXdp

open CText Bytes Inet

/-! ## The UMEM as one buffer -/

/-- The byte at `getUmemBuffer() + addr`. -/
def byteAt (umem : Nat → Frame) (addr : Nat) : UInt8 :=
  (umem (addr / frameSize)).bytes.getD (addr % frameSize) 0

def readBytes (umem : Nat → Frame) (addr n : Nat) : Bytes :=
  (List.range n).map fun i => byteAt umem (addr + i)

def writeBytes (umem : Nat → Frame) (addr : Nat) (data : Bytes) : Nat → Frame := fun f =>
  { bytes := (List.range frameSize).map fun i =>
      if addr ≤ f * frameSize + i ∧ f * frameSize + i < addr + data.length then
        data.getD (f * frameSize + i - addr) 0
      else byteAt umem (f * frameSize + i)
    length_eq := by rw [List.length_map, List.length_range] }

theorem length_readBytes (umem : Nat → Frame) (addr n : Nat) :
    (readBytes umem addr n).length = n := by
  rw [readBytes, List.length_map, List.length_range]

theorem getD_readBytes (umem : Nat → Frame) (addr : Nat) {n i : Nat} (h : i < n) :
    (readBytes umem addr n).getD i 0 = byteAt umem (addr + i) := by
  rw [List.getD_eq_getElem _ _ (by rw [length_readBytes]; exact h)]
  simp only [readBytes, List.getElem_map, List.getElem_range]

theorem byteAt_writeBytes (umem : Nat → Frame) (addr : Nat) (data : Bytes) (b : Nat) :
    byteAt (writeBytes umem addr data) b =
      if addr ≤ b ∧ b < addr + data.length then data.getD (b - addr) 0 else byteAt umem b := by
  have hlt : b % frameSize < frameSize := Nat.mod_lt _ (by decide)
  have hb : b / frameSize * frameSize + b % frameSize = b := Nat.div_add_mod' b frameSize
  rw [byteAt, writeBytes, List.getD_eq_getElem _ _ (by
    rw [List.length_map, List.length_range]
    exact hlt)]
  simp only [List.getElem_map, List.getElem_range, hb]

/-- `packet` has been written at `start`, and nothing else. -/
def Occupies (before after : Nat → Frame) (start : Nat) (packet : Bytes) : Prop :=
  ∀ b, byteAt after b =
    if start ≤ b ∧ b < start + packet.length then packet.getD (b - start) 0 else byteAt before b

/-! ## The two routines -/

inductive SendRoutine where
  | sendToDestinationZeroCopy
  | sendSinglePacketDirect
deriving DecidableEq

/-- A packet that has been built: what `getNextTxFrame` returned, where the packet
is, and the arguments of `send` or `setTxDescriptor`. -/
structure Placement where
  frame : Nat
  start : Nat
  packet : Bytes
  desc : TxDesc

namespace TxSocket

/-- `send`, which is `sendBatch` of one packet. -/
def send (s : TxSocket) (desc : TxDesc) (call : Nat) : Nat × TxSocket :=
  let s := s.pollTxCompletions
  if s.outstandingTx > UInt32.ofNat txFrames - txBatchSize then (0, s)
  else if s.reserveTxRing 1 = 0 then (0, s)
  else (1, s.submit desc call)

/-- The part of `sendToDestinationZeroCopy` that builds the packet; `none` when it
throws because `createUdpPacket` returns 0. -/
def buildZeroCopy (s : TxSocket) (host : Host) (dest : Destination) (data : Bytes) :
    Option Placement × TxSocket :=
  let (txFrameOffset, s) := s.getNextTxFrame
  -- the number of the frame is used as an offset
  let (packetLen, buffer) :=
    AfXdp.createUdpPacket host dest data (readBytes s.umem txFrameOffset frameSize)
  if packetLen = 0 then (none, s)
  else
    (some ⟨txFrameOffset, txFrameOffset, buffer.take packetLen,
        ⟨UInt64.ofNat txFrameOffset, UInt32.ofNat packetLen⟩⟩,
      { s with umem := writeBytes s.umem txFrameOffset buffer })

/-- `buildPacket`, with the place of the packet. -/
def buildDirect (s : TxSocket) (host : Host) (dest : Destination) (data : Bytes) :
    Option Placement × TxSocket :=
  let frameNumber := s.getNextTxFrame.1
  let (packetLen, buffer) :=
    AfXdp.createUdpPacket host dest data (s.umem frameNumber).bytes
  match s.buildPacket host dest data with
  | (none, s) => (none, s)
  | (some desc, s) =>
      (some ⟨frameNumber, frameNumber * frameSize, buffer.take packetLen, desc⟩, s)

end TxSocket

/-- The routine up to the packet. -/
def SendRoutine.build (r : SendRoutine) (s : TxSocket) (host : Host) (dest : Destination)
    (data : Bytes) : Option Placement × TxSocket :=
  match r with
  | .sendToDestinationZeroCopy => s.buildZeroCopy host dest data
  | .sendSinglePacketDirect => s.pollTxCompletions.buildDirect host dest data

/-- The rest of the routine. -/
def SendRoutine.finish (r : SendRoutine) (s : TxSocket) (desc : TxDesc) (call : Nat) : TxSocket :=
  match r with
  | .sendToDestinationZeroCopy => (s.send desc call).2
  | .sendSinglePacketDirect => if s.reserveTxRing 1 ≠ 1 then s else s.submit desc call

/-- The two parts are `sendSinglePacketDirect`. -/
theorem build_finish_direct (s : TxSocket) (host : Host) (dest : Destination) (data : Bytes) :
    (s.sendSinglePacketDirect host dest data).2 =
      match SendRoutine.sendSinglePacketDirect.build s host dest data with
      | (none, t) => t
      | (some p, t) =>
          SendRoutine.sendSinglePacketDirect.finish t p.desc s.pollTxCompletions.calls := by
  simp only [TxSocket.sendSinglePacketDirect, SendRoutine.build, TxSocket.buildDirect,
    SendRoutine.finish]
  rcases s.pollTxCompletions.buildPacket host dest data with ⟨_ | desc, t⟩
  · rfl
  · simp only
    split
    · rfl
    · rfl

/-! ## Sends and the kernel -/

/-- The socket, the packet that the caller has built and not sent, and all packets
that have been built. -/
structure PlaceState where
  socket : TxSocket
  pending : Option (Placement × Nat)
  placements : List Placement

/-- Any socket, before the first packet of a sequence. -/
def PlaceState.start (socket : TxSocket) : PlaceState := ⟨socket, none, []⟩

inductive PlaceLabel where
  | send (host : Host) (dest : Destination) (data : Bytes)
  | finish
  | consume
  | complete (i : Nat)

/-- One step of a caller that uses the routine `r`, or of the kernel. -/
def placeStep (r : SendRoutine) (s : PlaceState) : PlaceLabel → Option PlaceState
  | .send host dest data =>
      match s.pending with
      | some _ => none
      | none =>
          match r.build s.socket host dest data with
          | (none, socket) => some { s with socket := socket }
          | (some p, socket) => some {
              socket := socket
              pending := some (p, s.socket.calls)
              placements := s.placements ++ [p] }
  | .finish =>
      match s.pending with
      | none => none
      | some (p, call) =>
          some { s with socket := r.finish s.socket p.desc call, pending := none }
  | .consume => s.socket.consume.map fun socket => { s with socket := socket }
  | .complete i => (s.socket.complete i).map fun socket => { s with socket := socket }

/-- The payloads of a sequence of sends. -/
def payloads : List PlaceLabel → List Bytes
  | [] => []
  | .send _ _ data :: ls => data :: payloads ls
  | _ :: ls => payloads ls

/-- Two ranges of addresses have no address in common. -/
def RangesDisjoint (a m b n : Nat) : Prop := a + m ≤ b ∨ b + n ≤ a

/-- Every packet is in its own TX frame. -/
structure PlacesAlike (ps : List Placement) : Prop where
  inFrame : ∀ p ∈ ps, p.frame < txFrames ∧ p.start = frameSize * p.frame
  desc : ∀ p ∈ ps, p.desc.addr.toNat = p.start ∧ p.desc.len.toNat = p.packet.length
  disjoint : ∀ i j p q, i < j → j < i + txFrames → ps[i]? = some p → ps[j]? = some q →
    RangesDisjoint p.start p.packet.length q.start q.packet.length
  notRx : ∀ p ∈ ps, ∀ f, umemRxFirstFrameIx ≤ f → f < umemRxFirstFrameIx + rxFrames →
    RangesDisjoint p.start p.packet.length (frameSize * f) frameSize

/-! ## Building a packet -/

/-- What the routine makes of the number of a frame. -/
def SendRoutine.place : SendRoutine → Nat → Nat
  | .sendToDestinationZeroCopy, frame => frame
  | .sendSinglePacketDirect, frame => frame * frameSize

/-- The packet that a call has built between two states of the socket. -/
structure BuiltBy (r : SendRoutine) (s t : TxSocket) (p : Placement) : Prop where
  frame : p.frame = (s.prevUmemTxFrame % UInt32.ofNat txFrames).toNat
  start : p.start = r.place p.frame
  length_pos : 0 < p.packet.length
  length_le : p.packet.length ≤ frameSize
  desc : p.desc = ⟨UInt64.ofNat p.start, UInt32.ofNat p.packet.length⟩
  counter : t.prevUmemTxFrame = s.prevUmemTxFrame + 1
  occupies : Occupies s.umem t.umem p.start p.packet

/-- `createUdpPacket` writes the packet at the front of the buffer. -/
theorem getD_createUdpPacket (host : Host) (dest : Destination) {data buffer : Bytes}
    (h : 42 + data.length ≤ buffer.length) (i : Nat) :
    (createUdpPacket host dest data buffer).2.getD i 0 =
      if i < (packetHeaders host dest data.length ++ data).length then
        (packetHeaders host dest data.length ++ data).getD i 0
      else buffer.getD i 0 := by
  have hlen : (packetHeaders host dest data.length ++ data).length = 42 + data.length := by
    rw [List.length_append, length_packetHeaders]
  rw [createUdpPacket_eq host dest h, ← List.append_assoc]
  -- inside the packet the byte just written, behind it the one the buffer had
  split
  · next hlt => exact List.getD_append _ _ _ _ hlt
  · next hge =>
    rw [List.getD_append_right _ _ _ _ (by omega), List.getD_eq_getElem?_getD, List.getElem?_drop,
      List.getD_eq_getElem?_getD]
    congr 2
    omega

theorem take_createUdpPacket (host : Host) (dest : Destination) {data buffer : Bytes}
    (h : 42 + data.length ≤ buffer.length) :
    (createUdpPacket host dest data buffer).2.take (42 + data.length) =
      packetHeaders host dest data.length ++ data := by
  rw [createUdpPacket_eq host dest h, ← List.append_assoc]
  apply List.take_left'
  rw [List.length_append, length_packetHeaders]

theorem buildZeroCopy_built (s : TxSocket) (host : Host) (dest : Destination) {data : Bytes}
    (hfits : 42 + data.length ≤ frameSize) :
    ∃ p t, s.buildZeroCopy host dest data = (some p, t) ∧
      BuiltBy .sendToDestinationZeroCopy s t p := by
  set f := (s.prevUmemTxFrame % UInt32.ofNat txFrames).toNat with hf
  have hbuffer : 42 + data.length ≤ (readBytes s.umem f frameSize).length := by
    rw [length_readBytes]
    exact hfits
  have hlen : (packetHeaders host dest data.length ++ data).length = 42 + data.length := by
    rw [List.length_append, length_packetHeaders]
  have hone : (createUdpPacket host dest data (readBytes s.umem f frameSize)).1 =
      42 + data.length := by
    rw [createUdpPacket_eq host dest hbuffer]
  simp only [TxSocket.buildZeroCopy, TxSocket.getNextTxFrame, ← hf, hone,
    take_createUdpPacket host dest hbuffer]
  rw [if_neg (by omega)]
  refine ⟨_, _, rfl, ?_⟩
  constructor
  · rfl
  · rfl
  · simp only [hlen]
    omega
  · simp only [hlen]
    exact hfits
  · rw [hlen]
  · rfl
  · intro b
    simp only [byteAt_writeBytes, length_createUdpPacket, length_readBytes,
      getD_createUdpPacket host dest hbuffer]
    -- this routine writes at byte `f` of the area, where `f` is the number of the frame
    by_cases hin : f ≤ b ∧ b < f + frameSize
    · rw [if_pos hin]
      by_cases hpacket : b - f < (packetHeaders host dest data.length ++ data).length
      · rw [if_pos hpacket, if_pos ⟨hin.1, by omega⟩]
      · rw [if_neg hpacket, if_neg (by omega), getD_readBytes _ _ (by omega)]
        congr 1
        omega
    · rw [if_neg hin, if_neg (by omega)]

theorem buildDirect_built (s : TxSocket) (host : Host) (dest : Destination) {data : Bytes}
    (hfits : 42 + data.length ≤ frameSize) :
    ∃ p t, s.buildDirect host dest data = (some p, t) ∧
      BuiltBy .sendSinglePacketDirect s t p := by
  set f := (s.prevUmemTxFrame % UInt32.ofNat txFrames).toNat with hf
  have hbuffer : 42 + data.length ≤ (s.umem f).bytes.length := by
    rw [(s.umem f).length_eq]
    exact hfits
  have hlen : (packetHeaders host dest data.length ++ data).length = 42 + data.length := by
    rw [List.length_append, length_packetHeaders]
  have hone : (createUdpPacket host dest data (s.umem f).bytes).1 = 42 + data.length := by
    rw [createUdpPacket_eq host dest hbuffer]
  simp only [TxSocket.buildDirect, TxSocket.buildPacket, TxSocket.getNextTxFrame, ← hf, hone,
    take_createUdpPacket host dest hbuffer]
  rw [if_neg (by omega)]
  refine ⟨_, _, rfl, ?_⟩
  constructor
  · rfl
  · rfl
  · simp only [hlen]
    omega
  · simp only [hlen]
    exact hfits
  · rw [hlen]
  · rfl
  · intro b
    have hb : b / frameSize * frameSize + b % frameSize = b := Nat.div_add_mod' b frameSize
    have hlt : b % frameSize < frameSize := Nat.mod_lt _ (by decide)
    -- this one writes into the frame with number `f`
    by_cases hframe : b / frameSize = f
    · have hstart : f * frameSize + b % frameSize = b := hframe ▸ hb
      have hsub : b - f * frameSize = b % frameSize := by omega
      simp only [byteAt, hframe, Function.update_self, Frame.createUdpPacket,
        getD_createUdpPacket host dest hbuffer, hsub]
      by_cases hpacket : b % frameSize < (packetHeaders host dest data.length ++ data).length
      · rw [if_pos hpacket, if_pos ⟨by omega, by omega⟩]
      · rw [if_neg hpacket, if_neg (by omega)]
    · -- a byte of another frame is not in the range either
      have hout : ¬ (f * frameSize ≤ b ∧ b < f * frameSize + (42 + data.length)) := by
        rintro ⟨hle, hgt⟩
        apply hframe
        have hquot : (b - f * frameSize) / frameSize = 0 := Nat.div_eq_of_lt (by omega)
        rw [← Nat.sub_add_cancel hle, Nat.add_mul_div_right _ _ (by decide), hquot, Nat.zero_add]
      simp only [byteAt, Function.update_of_ne hframe]
      rw [if_neg (by rw [hlen]; exact hout)]

theorem build_built (r : SendRoutine) (s : TxSocket) (host : Host) (dest : Destination)
    {data : Bytes} (hfits : 42 + data.length ≤ frameSize) :
    ∃ p t, r.build s host dest data = (some p, t) ∧ BuiltBy r s t p := by
  cases r with
  | sendToDestinationZeroCopy => exact buildZeroCopy_built s host dest hfits
  | sendSinglePacketDirect =>
    rcases buildDirect_built s.pollTxCompletions host dest hfits with ⟨p, t, hbuild, hp⟩
    rcases pollTxCompletions_frame s with ⟨_, _, _, _, hpoll⟩
    rw [hpoll] at hp
    exact ⟨p, t, hbuild, hp.frame, hp.start, hp.length_pos, hp.length_le, hp.desc, hp.counter,
      hp.occupies⟩

/-! ## Runs -/

/-- The counter and the packets of a sequence that began with the counter at `c`. -/
structure PlaceInv (r : SendRoutine) (c : Nat) (counter : UInt32) (ps : List Placement) :
    Prop where
  counter : counter = UInt32.ofNat (c + ps.length)
  frame : ∀ i p, ps[i]? = some p → p.frame = (c + i) % txFrames
  start : ∀ p ∈ ps, p.start = r.place p.frame
  length_pos : ∀ p ∈ ps, 0 < p.packet.length
  length_le : ∀ p ∈ ps, p.packet.length ≤ frameSize
  desc : ∀ p ∈ ps, p.desc = ⟨UInt64.ofNat p.start, UInt32.ofNat p.packet.length⟩

theorem toNat_counter_mod (n : Nat) :
    (UInt32.ofNat n % UInt32.ofNat txFrames).toNat = n % txFrames := by
  have htx : (UInt32.ofNat txFrames).toNat = 2048 := rfl
  rw [UInt32.toNat_mod, htx, UInt32.toNat_ofNat']
  show n % 2 ^ 32 % 2048 = n % 2048
  omega

theorem finish_counter (r : SendRoutine) (s : TxSocket) (desc : TxDesc) (call : Nat) :
    (r.finish s desc call).prevUmemTxFrame = s.prevUmemTxFrame := by
  cases r with
  | sendSinglePacketDirect =>
    simp only [SendRoutine.finish]
    -- without room in the ring nothing is submitted
    split
    · rfl
    · rfl
  | sendToDestinationZeroCopy =>
    rcases pollTxCompletions_frame s with ⟨_, _, _, _, hpoll⟩
    simp only [SendRoutine.finish, TxSocket.send, hpoll]
    split
    · rfl
    · split
      · rfl
      · rfl

theorem placeStep_frame {r : SendRoutine} {s s' : PlaceState} {l : PlaceLabel}
    (hl : placeStep r s l = some s') (hsend : ∀ host dest data, l ≠ .send host dest data) :
    s'.placements = s.placements ∧ s'.socket.prevUmemTxFrame = s.socket.prevUmemTxFrame := by
  cases l with
  | send host dest data => exact absurd rfl (hsend host dest data)
  | finish =>
    simp only [placeStep] at hl
    split at hl
    · cases hl
    · cases hl
      exact ⟨rfl, finish_counter _ _ _ _⟩
  | consume =>
    rcases Option.map_eq_some_iff.mp hl with ⟨t, ht, rfl⟩
    simp only [TxSocket.consume] at ht
    split at ht
    · cases ht
    · cases ht
      exact ⟨rfl, rfl⟩
  | complete i =>
    rcases Option.map_eq_some_iff.mp hl with ⟨t, ht, rfl⟩
    simp only [TxSocket.complete] at ht
    split at ht
    · cases ht
      exact ⟨rfl, rfl⟩
    · cases ht

/-- A payload that fits is built at the next place. -/
theorem placeStep_send {r : SendRoutine} {s s' : PlaceState} {host : Host} {dest : Destination}
    {data : Bytes} (hfits : 42 + data.length ≤ frameSize)
    (hl : placeStep r s (.send host dest data) = some s') :
    ∃ p, s'.placements = s.placements ++ [p] ∧ BuiltBy r s.socket s'.socket p := by
  rcases build_built r s.socket host dest hfits with ⟨p, t, hbuild, hp⟩
  simp only [placeStep, hbuild] at hl
  split at hl
  · cases hl
  · cases hl
    exact ⟨p, rfl, hp⟩

theorem placeInv_send {r : SendRoutine} {c : Nat} {s t : TxSocket} {ps : List Placement}
    {p : Placement} (h : PlaceInv r c s.prevUmemTxFrame ps) (hp : BuiltBy r s t p) :
    PlaceInv r c t.prevUmemTxFrame (ps ++ [p]) := by
  -- what holds of the packets so far and of the new one
  have hall : ∀ {P : Placement → Prop}, (∀ q ∈ ps, P q) → P p → ∀ q ∈ ps ++ [p], P q := by
    intro P hold hnew q hq
    rw [List.mem_append, List.mem_singleton] at hq
    rcases hq with hq | rfl
    · exact hold q hq
    · exact hnew
  refine ⟨?_, ?_, hall h.start hp.start, hall h.length_pos hp.length_pos,
    hall h.length_le hp.length_le, hall h.desc hp.desc⟩
  · rw [hp.counter, h.counter, List.length_append, List.length_singleton, ← Nat.add_assoc]
    exact (UInt32.ofNat_add _ 1).symm
  · intro i q hq
    rcases Nat.lt_or_ge i ps.length with hlt | hge
    · rw [List.getElem?_append_left hlt] at hq
      exact h.frame i q hq
    · rw [List.getElem?_append_right hge, List.getElem?_singleton] at hq
      split at hq
      · next hzero =>
        cases hq
        rw [hp.frame, h.counter, toNat_counter_mod]
        congr 2
        omega
      · cases hq

/-- Every payload of a run is built, each at the next place. -/
theorem placeInv_run {r : SendRoutine} {c : Nat} {ls : List PlaceLabel} {s s' : PlaceState}
    (h : PlaceInv r c s.socket.prevUmemTxFrame s.placements)
    (hfits : ∀ data ∈ payloads ls, 42 + data.length ≤ frameSize)
    (hrun : Run.exec (placeStep r) s ls = some s') :
    PlaceInv r c s'.socket.prevUmemTxFrame s'.placements ∧
      s'.placements.length = s.placements.length + (payloads ls).length := by
  -- induction over the steps; only a send places a packet
  induction ls generalizing s with
  | nil =>
    cases hrun
    exact ⟨h, rfl⟩
  | cons l ls ih =>
    rcases Run.exec_cons hrun with ⟨t, hl, hls⟩
    by_cases hsend : ∃ host dest data, l = .send host dest data
    · rcases hsend with ⟨host, dest, data, rfl⟩
      have hdata : 42 + data.length ≤ frameSize := hfits data List.mem_cons_self
      rcases placeStep_send hdata hl with ⟨p, hps, hp⟩
      have ht := placeInv_send h hp
      rw [← hps] at ht
      have hrest := ih ht (fun d hd => hfits d (List.mem_cons_of_mem _ hd)) hls
      refine ⟨hrest.1, ?_⟩
      rw [hrest.2, hps, List.length_append, List.length_singleton, payloads, List.length_cons]
      omega
    · have hother : ∀ host dest data, l ≠ .send host dest data :=
        fun host dest data heq => hsend ⟨host, dest, data, heq⟩
      rcases placeStep_frame hl hother with ⟨hps, hcounter⟩
      have hpayloads : payloads (l :: ls) = payloads ls := by
        cases l with
        | send host dest data => exact absurd rfl (hother host dest data)
        | finish => rfl
        | consume => rfl
        | complete i => rfl
      rw [hpayloads] at hfits ⊢
      rw [← hps, ← hcounter] at h
      rw [← hps]
      exact ih h hfits hls

/-! ## Packets in their frames -/

theorem PlaceInv.frame_lt {r : SendRoutine} {c : Nat} {counter : UInt32} {ps : List Placement}
    (h : PlaceInv r c counter ps) {p : Placement} (hp : p ∈ ps) : p.frame < txFrames := by
  rcases List.mem_iff_getElem?.mp hp with ⟨i, hi⟩
  rw [h.frame i p hi]
  exact Nat.mod_lt _ (by decide)

/-- Packets that start where their frames start are in frames of their own. -/
theorem PlaceInv.placesAlike_iff {r : SendRoutine} {c : Nat} {counter : UInt32}
    {ps : List Placement} (h : PlaceInv r c counter ps) :
    PlacesAlike ps ↔ ∀ p ∈ ps, p.start = frameSize * p.frame := by
  constructor
  · intro halike p hp
    exact (halike.inFrame p hp).2
  · -- where each packet starts with its own frame, no two can meet
    intro hstart
    refine ⟨fun p hp => ⟨h.frame_lt hp, hstart p hp⟩, ?_, ?_, ?_⟩
    · intro p hp
      have hlt : p.frame < 2048 := h.frame_lt hp
      have hlen : p.packet.length ≤ 4096 := h.length_le p hp
      have hplace : p.start = 4096 * p.frame := hstart p hp
      rw [h.desc p hp]
      exact ⟨UInt64.toNat_ofNat_of_lt' (by show p.start < 2 ^ 64; omega),
        UInt32.toNat_ofNat_of_lt' (by show p.packet.length < 2 ^ 32; omega)⟩
    · -- fewer than 2048 calls apart, so the frames differ
      intro i j p q hij hj hi' hj'
      have hp := List.mem_of_getElem? hi'
      have hq := List.mem_of_getElem? hj'
      have hplen : p.packet.length ≤ 4096 := h.length_le p hp
      have hqlen : q.packet.length ≤ 4096 := h.length_le q hq
      have hpstart : p.start = 4096 * p.frame := hstart p hp
      have hqstart : q.start = 4096 * q.frame := hstart q hq
      have hne : p.frame ≠ q.frame := by
        have hpf : p.frame = (c + i) % 2048 := h.frame i p hi'
        have hqf : q.frame = (c + j) % 2048 := h.frame j q hj'
        have hj2 : j < i + 2048 := hj
        omega
      unfold RangesDisjoint
      omega
    · -- the frames for receiving are behind those for sending
      intro p hp f hf _
      have hlt : p.frame < 2048 := h.frame_lt hp
      have hlen : p.packet.length ≤ 4096 := h.length_le p hp
      have hplace : p.start = 4096 * p.frame := hstart p hp
      have hrx : 2048 ≤ f := hf
      left
      show p.start + p.packet.length ≤ 4096 * f
      omega

/-- Frame numbers that are offsets are right for frame 0 only, so for one packet. -/
theorem PlaceInv.zeroCopy_iff {c : Nat} {counter : UInt32} {ps : List Placement}
    (h : PlaceInv .sendToDestinationZeroCopy c counter ps) :
    (∀ p ∈ ps, p.start = frameSize * p.frame) ↔
      ps.length = 0 ∨ ps.length = 1 ∧ c % txFrames = 0 := by
  have hzero : ∀ i p, ps[i]? = some p →
      (p.start = frameSize * p.frame ↔ (c + i) % txFrames = 0) := by
    intro i p hi
    have hstart : p.start = p.frame := h.start p (List.mem_of_getElem? hi)
    rw [hstart, ← h.frame i p hi]
    show p.frame = 4096 * p.frame ↔ p.frame = 0
    omega
  -- only frame 0 has its number as its place, so a second send is out of place
  match ps, h, hzero with
  | [], _, _ => simp
  | [p], _, hzero =>
    have hp := hzero 0 p rfl
    rw [Nat.add_zero] at hp
    constructor
    · intro hall
      exact Or.inr ⟨rfl, hp.mp (hall p List.mem_cons_self)⟩
    · rintro (hlen | ⟨-, hc⟩) q hq
      · cases hlen
      · rw [List.mem_singleton.mp hq]
        exact hp.mpr hc
  | p :: q :: ps, _, hzero =>
    constructor
    · intro hall
      have hp := (hzero 0 p rfl).mp (hall p List.mem_cons_self)
      have hq := (hzero 1 q rfl).mp (hall q (List.mem_cons_of_mem _ List.mem_cons_self))
      have hp' : (c + 0) % 2048 = 0 := hp
      have hq' : (c + 1) % 2048 = 0 := hq
      omega
    · intro hlen
      simp only [List.length_cons] at hlen
      omega

/-- The packets of a sequence are in their frames exactly when they are sent by
`sendSinglePacketDirect`, or there is one at most and it gets frame 0. -/
theorem places_alike_iff (r : SendRoutine) (socket : TxSocket) {ls : List PlaceLabel}
    {s : PlaceState} (hfits : ∀ data ∈ payloads ls, 42 + data.length ≤ frameSize)
    (hrun : Run.exec (placeStep r) (PlaceState.start socket) ls = some s) :
    PlacesAlike s.placements ↔
      r = .sendSinglePacketDirect ∨ (payloads ls).length = 0 ∨
        (payloads ls).length = 1 ∧ socket.prevUmemTxFrame.toNat % txFrames = 0 := by
  have hstart : PlaceInv r socket.prevUmemTxFrame.toNat socket.prevUmemTxFrame [] := by
    refine ⟨?_, ?_, ?_, ?_, ?_, ?_⟩
    · exact UInt32.ofNat_toNat.symm
    · intro i p hi
      cases hi
    all_goals
      intro p hp
      cases hp
  rcases placeInv_run hstart hfits hrun with ⟨hinv, hlen⟩
  have hlength : s.placements.length = (payloads ls).length := by
    rw [hlen]
    exact Nat.zero_add _
  rw [hinv.placesAlike_iff, ← hlength]
  -- one routine multiplies by the size of a frame, the other does not
  cases r with
  | sendSinglePacketDirect =>
    refine iff_of_true ?_ (Or.inl rfl)
    intro p hp
    rw [hinv.start p hp, Nat.mul_comm]
    rfl
  | sendToDestinationZeroCopy =>
    rw [hinv.zeroCopy_iff]
    simp only [reduceCtorEq, false_or]

/-- Two sends of one byte each to the sample destination. -/
def twoSends : List PlaceLabel :=
  [.send sampleHost sampleDestination [1], .finish, .send sampleHost sampleDestination [2], .finish]

theorem twoSends_run (r : SendRoutine) (socket : TxSocket) :
    ∃ s, Run.exec (placeStep r) (PlaceState.start socket) twoSends = some s := by
  have hone : 42 + ([1] : Bytes).length ≤ frameSize := by decide
  have htwo : 42 + ([2] : Bytes).length ≤ frameSize := by decide
  rcases build_built r socket sampleHost sampleDestination hone with ⟨p, t, hp, -⟩
  rcases build_built r (r.finish t p.desc socket.calls) sampleHost sampleDestination htwo with
    ⟨q, u, hq, -⟩
  simp only [twoSends, Run.exec, placeStep, PlaceState.start, hp, hq]
  exact ⟨_, rfl⟩

theorem twoSends_fit : ∀ data ∈ payloads twoSends, 42 + data.length ≤ frameSize := by
  decide

theorem places_alike_direct :
    ∃ s, Run.exec (placeStep .sendSinglePacketDirect)
        (PlaceState.start (TxSocket.init fun _ => zeroFrame)) twoSends = some s ∧
      PlacesAlike s.placements := by
  rcases twoSends_run .sendSinglePacketDirect (TxSocket.init fun _ => zeroFrame) with ⟨s, hs⟩
  exact ⟨s, hs, (places_alike_iff _ _ twoSends_fit hs).mpr (Or.inl rfl)⟩

/-- The second packet is built one byte behind the start of the first, not in frame 1. -/
theorem places_overlap_zero_copy :
    ∃ s p q, Run.exec (placeStep .sendToDestinationZeroCopy)
        (PlaceState.start (TxSocket.init fun _ => zeroFrame)) twoSends = some s ∧
      s.placements = [p, q] ∧ p.start = 0 ∧ p.packet.length = 43 ∧ q.frame = 1 ∧ q.start = 1 ∧
      q.desc.addr = 1 ∧ ¬ RangesDisjoint p.start p.packet.length q.start q.packet.length ∧
      ¬ PlacesAlike s.placements := by
  -- packets of 43 bytes at bytes 0 and 1
  have hrun : (Run.exec (placeStep .sendToDestinationZeroCopy)
      (PlaceState.start (TxSocket.init fun _ => zeroFrame)) twoSends).map (fun s =>
        s.placements.map fun p => (p.frame, p.start, p.packet.length, p.desc.addr)) =
      some [(0, 0, 43, 0), (1, 1, 43, 1)] := by
    decide +kernel
  rcases Option.map_eq_some_iff.mp hrun with ⟨s, hs, hps⟩
  rcases List.map_eq_cons_iff.mp hps with ⟨p, rest, hlist, hp, hrest⟩
  rcases List.map_eq_cons_iff.mp hrest with ⟨q, rest', hlist', hq, hnil⟩
  rw [List.map_eq_nil_iff.mp hnil] at hlist'
  rw [hlist'] at hlist
  simp only [Prod.mk.injEq] at hp hq
  rcases hp with ⟨-, hp, hplen, -⟩
  rcases hq with ⟨hqf, hq, hqlen, hqd⟩
  have hoverlap : ¬ RangesDisjoint p.start p.packet.length q.start q.packet.length := by
    rw [hp, hplen, hq, hqlen]
    unfold RangesDisjoint
    omega
  refine ⟨s, p, q, hs, hlist, hp, hplen, hqf, hq, hqd, hoverlap, ?_⟩
  intro halike
  exact hoverlap (halike.disjoint 0 1 p q (by decide) (by decide) (by rw [hlist]; rfl)
    (by rw [hlist]; rfl))

end TradingLatency.AfXdp
