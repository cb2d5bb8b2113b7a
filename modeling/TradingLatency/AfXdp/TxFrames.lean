import TradingLatency.AfXdp.PacketRoundTrip
import TradingLatency.Lib.Run
import Mathlib.Logic.Function.Basic

/-!
# TX frames (`sendSinglePacketDirect`, `AFXDPSocket.cpp`)

The sending half of an AF_XDP socket. A packet is built in one of the 2048 TX
frames of the UMEM, and its descriptor goes through the TX ring to the kernel,
which owns the frame until it posts the completion.

`getNextTxFrame` hands out the frames in turn, without a look at the
completions. The `k`-th call gets frame `k % 2048`, so a descriptor that is still
outstanding when the counter comes round loses its frame. The frames are safe
exactly as long as that does not happen (`tx_frames_owned`, `tx_frame_overwritten`).
-/

namespace TradingLatency.AfXdp

open CText Bytes Inet

/-! ## Data model -/

/-- `TX_FRAMES`, the number of TX frames and the size of the TX ring. -/
def txFrames : Nat := 2048

/-- `TX_BATCH_SIZE`. -/
def txBatchSize : UInt32 := 64

/-- The size of a frame, `chunk_size`. -/
def frameSize : Nat := 4096

/-- The content of a frame of the UMEM. -/
structure Frame where
  bytes : Bytes
  length_eq : bytes.length = frameSize

/-- `struct xdp_desc`. -/
structure TxDesc where
  addr : UInt64
  len : UInt32
deriving DecidableEq

/-- A descriptor that has been submitted. The number of the call that did it and
the frame at that moment are history. -/
structure Submitted where
  desc : TxDesc
  call : Nat
  frame : Frame

/-- What sending uses of an `AFXDPSocket`, the rings it shares with the kernel,
and what the kernel holds. `posted` counts the completions that have not been
peeked, `peeked` those that have and are not released. `calls` is history: the
calls of `getNextTxFrame`. -/
structure TxSocket where
  umem : Nat → Frame
  prevUmemTxFrame : UInt32
  cachedCompletions : UInt32
  outstandingTx : UInt32
  txRing : List Submitted
  inKernel : List Submitted
  posted : Nat
  peeked : Nat
  calls : Nat

/-- A new socket, with anything in its UMEM. -/
def TxSocket.init (umem : Nat → Frame) : TxSocket where
  umem := umem
  prevUmemTxFrame := 0
  cachedCompletions := 0
  outstandingTx := 0
  txRing := []
  inKernel := []
  posted := 0
  peeked := 0
  calls := 0

/-- The descriptors that are submitted and not completed. -/
def TxSocket.outstanding (s : TxSocket) : List Submitted := s.txRing ++ s.inKernel

/-! ## Sending -/

/-- `createUdpPacket` keeps the size of the buffer. -/
theorem length_createUdpPacket (host : Host) (dest : Destination) (payload buffer : Bytes) :
    (createUdpPacket host dest payload buffer).2.length = buffer.length := by
  rcases Nat.lt_or_ge buffer.length (42 + payload.length) with h | h
  · rw [createUdpPacket_too_large host dest h]
  · rw [createUdpPacket_eq host dest h, List.length_append, List.length_append,
      length_packetHeaders, List.length_drop]
    omega

/-- A frame with a packet in it. -/
def Frame.createUdpPacket (frame : Frame) (host : Host) (dest : Destination) (payload : Bytes) :
    Frame where
  bytes := (AfXdp.createUdpPacket host dest payload frame.bytes).2
  length_eq := (length_createUdpPacket host dest payload frame.bytes).trans frame.length_eq

namespace TxSocket

/-- `pollTxCompletions`. -/
def pollTxCompletions (s : TxSocket) : TxSocket :=
  if s.outstandingTx = 0 then s
  else
    let newCompletions := min s.posted txFrames
    if newCompletions = 0 then s
    else
      let cached := s.cachedCompletions + UInt32.ofNat newCompletions
      let s := { s with
        posted := s.posted - newCompletions
        peeked := s.peeked + newCompletions
        cachedCompletions := cached }
      -- completions are released once 64 of them have come together
      if cached < txBatchSize then s
      else { s with
        peeked := s.peeked - cached.toNat
        outstandingTx := s.outstandingTx - cached
        cachedCompletions := 0 }

/-- `getNextTxFrame`: the number of the frame. -/
def getNextTxFrame (s : TxSocket) : Nat × TxSocket :=
  -- no look at `outstandingTx`: the frame may still belong to the kernel
  ((s.prevUmemTxFrame % UInt32.ofNat txFrames).toNat,
    { s with prevUmemTxFrame := s.prevUmemTxFrame + 1, calls := s.calls + 1 })

/-- `reserveTxRing`: all or nothing. -/
def reserveTxRing (s : TxSocket) (count : Nat) : Nat :=
  if s.txRing.length + count ≤ txFrames then count else 0

/-- `setTxDescriptor` and `submitTxRing(1)`; `call` made the packet. -/
def submit (s : TxSocket) (desc : TxDesc) (call : Nat) : TxSocket :=
  { s with
    txRing := s.txRing ++ [⟨desc, call, s.umem (desc.addr.toNat / frameSize)⟩]
    outstandingTx := s.outstandingTx + 1 }

/-- The part of `sendSinglePacketDirect` that builds the packet in the next
frame; `none` when `createUdpPacket` returns 0. -/
def buildPacket (s : TxSocket) (host : Host) (dest : Destination) (data : Bytes) :
    Option TxDesc × TxSocket :=
  let (frameNumber, s) := s.getNextTxFrame
  let packetLen := (AfXdp.createUdpPacket host dest data (s.umem frameNumber).bytes).1
  if packetLen = 0 then (none, s)
  else
    (some ⟨UInt64.ofNat (frameNumber * frameSize), UInt32.ofNat packetLen⟩,
      { s with
        umem := Function.update s.umem frameNumber
          ((s.umem frameNumber).createUdpPacket host dest data) })

/-- `sendSinglePacketDirect`. -/
def sendSinglePacketDirect (s : TxSocket) (host : Host) (dest : Destination) (data : Bytes) :
    Bool × TxSocket :=
  let s := s.pollTxCompletions
  let call := s.calls
  match s.buildPacket host dest data with
  -- after a failure the frame is not given back
  | (none, s) => (false, s)
  | (some desc, s) =>
      if s.reserveTxRing 1 ≠ 1 then (false, s) else (true, s.submit desc call)

/-! ## The kernel -/

/-- The size of the completion ring, `comp_size`. -/
def completionRingSize : Nat := 4096

/-- The kernel takes the oldest descriptor from the TX ring. -/
def consume (s : TxSocket) : Option TxSocket :=
  match s.txRing with
  | [] => none
  | d :: ring => some { s with txRing := ring, inKernel := s.inKernel ++ [d] }

/-- The kernel posts the completion of a descriptor it has taken. -/
def complete (s : TxSocket) (i : Nat) : Option TxSocket :=
  if i < s.inKernel.length ∧ s.posted + s.peeked < completionRingSize then
    some { s with inKernel := s.inKernel.eraseIdx i, posted := s.posted + 1 }
  else none

end TxSocket

/-! ## The system of the sender and the kernel -/

/-- The place of the sender in `sendSinglePacketDirect`. -/
inductive TxSender where
  | idle
  | polled (host : Host) (dest : Destination) (data : Bytes)
  | built (desc : TxDesc) (call : Nat)
  | reserved (desc : TxDesc) (call : Nat)

/-- A packet written into the frame at `addr`, and the descriptors that were
outstanding then. -/
structure TxWrite where
  addr : UInt64
  outstanding : List TxDesc

/-- The socket and the sender. The writes into TX frames, and the frames that the
kernel has transmitted, are history. -/
structure TxState where
  socket : TxSocket
  sender : TxSender
  writes : List TxWrite
  transmitted : List (Submitted × Frame)

def TxState.init (umem : Nat → Frame) : TxState := ⟨TxSocket.init umem, .idle, [], []⟩

/-- The steps: those of `sendSinglePacketDirect`, from its call to the submission,
and those of the kernel, which takes descriptors from the TX ring, transmits and
completes any it has taken. -/
inductive TxLabel where
  | send (host : Host) (dest : Destination) (data : Bytes)
  | build
  | reserve
  | submit
  | consume
  | transmit (i : Nat)
  | complete (i : Nat)

/-- One step; `none` when it is not enabled. -/
def txStep (s : TxState) : TxLabel → Option TxState
  | .send host dest data =>
      match s.sender with
      | .idle => some { s with
          socket := s.socket.pollTxCompletions
          sender := .polled host dest data }
      | _ => none
  | .build =>
      match s.sender with
      | .polled host dest data =>
          match s.socket.buildPacket host dest data with
          | (none, socket) => some { s with socket := socket, sender := .idle }
          | (some desc, socket) => some { s with
              socket := socket
              sender := .built desc s.socket.calls
              writes := s.writes ++ [⟨desc.addr, s.socket.outstanding.map (·.desc)⟩] }
      | _ => none
  | .reserve =>
      match s.sender with
      | .built desc call =>
          -- a full ring ends the call, the frame is not reused
          if s.socket.reserveTxRing 1 ≠ 1 then some { s with sender := .idle }
          else some { s with sender := .reserved desc call }
      | _ => none
  | .submit =>
      match s.sender with
      | .reserved desc call =>
          some { s with socket := s.socket.submit desc call, sender := .idle }
      | _ => none
  | .consume => s.socket.consume.map fun socket => { s with socket := socket }
  | .transmit i =>
      match s.socket.inKernel[i]? with
      | none => none
      | some d => some { s with
          transmitted := s.transmitted ++ [(d, s.socket.umem (d.desc.addr.toNat / frameSize))] }
  | .complete i => (s.socket.complete i).map fun socket => { s with socket := socket }

/-- No write has hit a frame of an outstanding descriptor, and every frame the
kernel has transmitted was what it was at its submission. -/
structure FramesOwned (s : TxState) : Prop where
  writes : ∀ w ∈ s.writes, ∀ d ∈ w.outstanding, d.addr ≠ w.addr
  transmitted : ∀ t ∈ s.transmitted, t.2 = t.1.frame

/-- If a packet that fits is about to be built, no descriptor is outstanding that
was submitted a multiple of 2048 calls ago. -/
def TxSender.NotComeRound (socket : TxSocket) : TxSender → Prop
  | .polled _ _ data => 42 + data.length ≤ frameSize →
      ∀ d ∈ socket.outstanding, ¬ txFrames ∣ socket.calls - d.call
  | _ => True

def NotComeRound (s : TxState) : TxLabel → Prop
  | .build => s.sender.NotComeRound s.socket
  | _ => True

instance (socket : TxSocket) : (sender : TxSender) → Decidable (sender.NotComeRound socket)
  | .idle => .isTrue trivial
  | .polled _ _ _ => inferInstanceAs (Decidable (_ → _))
  | .built _ _ => .isTrue trivial
  | .reserved _ _ => .isTrue trivial

instance (s : TxState) : (l : TxLabel) → Decidable (NotComeRound s l)
  | .send _ _ _ => .isTrue trivial
  | .build => inferInstanceAs (Decidable (s.sender.NotComeRound s.socket))
  | .reserve => .isTrue trivial
  | .submit => .isTrue trivial
  | .consume => .isTrue trivial
  | .transmit _ => .isTrue trivial
  | .complete _ => .isTrue trivial

/-! ## What the parts of a call do -/

/-- The address of the frame that call `k` gets. -/
def txAddr (k : Nat) : UInt64 := UInt64.ofNat (k % txFrames * frameSize)

theorem toNat_txAddr (k : Nat) : (txAddr k).toNat = k % txFrames * frameSize := by
  have hlt : k % txFrames < 2048 := Nat.mod_lt _ (by decide)
  exact UInt64.toNat_ofNat_of_lt' (by show _ * 4096 < 2 ^ 64; omega)

theorem txAddr_div (k : Nat) : (txAddr k).toNat / frameSize = k % txFrames := by
  rw [toNat_txAddr]
  exact Nat.mul_div_cancel _ (by decide)

theorem txAddr_ne {j k : Nat} (h : j % txFrames ≠ k % txFrames) : txAddr j ≠ txAddr k := by
  intro heq
  apply h
  rw [← txAddr_div j, ← txAddr_div k, heq]

/-- Polling only moves completions. -/
theorem pollTxCompletions_frame (s : TxSocket) :
    ∃ cached outstandingTx posted peeked, s.pollTxCompletions =
      { s with
        cachedCompletions := cached
        outstandingTx := outstandingTx
        posted := posted
        peeked := peeked } := by
  unfold TxSocket.pollTxCompletions
  split
  · exact ⟨_, _, _, _, rfl⟩
  · dsimp only
    split
    · exact ⟨_, _, _, _, rfl⟩
    · split
      · exact ⟨_, _, _, _, rfl⟩
      · exact ⟨_, _, _, _, rfl⟩

/-- The counter wraps at a multiple of the number of frames. -/
theorem getNextTxFrame_eq {s : TxSocket} (h : s.prevUmemTxFrame = UInt32.ofNat s.calls) :
    s.getNextTxFrame = (s.calls % txFrames,
      { s with prevUmemTxFrame := UInt32.ofNat (s.calls + 1), calls := s.calls + 1 }) := by
  have hframe : (UInt32.ofNat s.calls % UInt32.ofNat txFrames).toNat = s.calls % txFrames := by
    have htx : (UInt32.ofNat txFrames).toNat = 2048 := rfl
    rw [UInt32.toNat_mod, htx, UInt32.toNat_ofNat']
    show s.calls % 2 ^ 32 % 2048 = s.calls % 2048
    omega
  rw [TxSocket.getNextTxFrame, h, hframe, UInt32.ofNat_add]
  rfl

theorem buildPacket_fits {s : TxSocket} (h : s.prevUmemTxFrame = UInt32.ofNat s.calls) (host : Host)
    (dest : Destination) {data : Bytes} (hfits : 42 + data.length ≤ frameSize) :
    s.buildPacket host dest data =
      (some ⟨txAddr s.calls, UInt32.ofNat (42 + data.length)⟩,
        { s with
          umem := Function.update s.umem (s.calls % txFrames)
            ((s.umem (s.calls % txFrames)).createUdpPacket host dest data)
          prevUmemTxFrame := UInt32.ofNat (s.calls + 1)
          calls := s.calls + 1 }) := by
  have hlen := (s.umem (s.calls % txFrames)).length_eq
  simp only [TxSocket.buildPacket, getNextTxFrame_eq h]
  rw [createUdpPacket_eq host dest (by rw [hlen]; exact hfits), if_neg (by simp only; omega)]
  rfl

theorem buildPacket_too_large {s : TxSocket} (h : s.prevUmemTxFrame = UInt32.ofNat s.calls)
    (host : Host) (dest : Destination) {data : Bytes} (hlarge : frameSize < 42 + data.length) :
    s.buildPacket host dest data =
      (none, { s with prevUmemTxFrame := UInt32.ofNat (s.calls + 1), calls := s.calls + 1 }) := by
  have hlen := (s.umem (s.calls % txFrames)).length_eq
  simp only [TxSocket.buildPacket, getNextTxFrame_eq h]
  rw [createUdpPacket_too_large host dest (by rw [hlen]; exact hlarge), if_pos rfl]

/-- The steps of a call that nothing interrupts are `sendSinglePacketDirect`. -/
theorem exec_sendSinglePacketDirect {s : TxState} (hidle : s.sender = .idle) (host : Host)
    (dest : Destination) (data : Bytes) :
    ∃ ls s', Run.exec txStep s (.send host dest data :: ls) = some s' ∧ s'.sender = .idle ∧
      s'.socket = (s.socket.sendSinglePacketDirect host dest data).2 := by
  rcases hbuild : s.socket.pollTxCompletions.buildPacket host dest data with ⟨desc, socket⟩
  cases desc with
  | none =>
    refine ⟨[.build], ?_⟩
    simp only [Run.exec, txStep, hidle, hbuild, TxSocket.sendSinglePacketDirect]
    exact ⟨_, rfl, rfl, rfl⟩
  | some desc =>
    by_cases hroom : socket.reserveTxRing 1 ≠ 1
    · refine ⟨[.build, .reserve], ?_⟩
      simp only [Run.exec, txStep, hidle, hbuild, TxSocket.sendSinglePacketDirect, if_pos hroom]
      exact ⟨_, rfl, rfl, rfl⟩
    · refine ⟨[.build, .reserve, .submit], ?_⟩
      simp only [Run.exec, txStep, hidle, hbuild, TxSocket.sendSinglePacketDirect, if_neg hroom]
      exact ⟨_, rfl, rfl, rfl⟩

/-! ## Ownership -/

/-- A descriptor is that of its call, and its frame has not been touched. -/
def TxSocket.Holds (s : TxSocket) (d : Submitted) : Prop :=
  d.call < s.calls ∧ d.desc.addr = txAddr d.call ∧ s.umem (d.call % txFrames) = d.frame

/-- A descriptor that the sender is about to submit. -/
def TxSender.Pending (sender : TxSender) (desc : TxDesc) (call : Nat) : Prop :=
  sender = .built desc call ∨ sender = .reserved desc call

structure TxInv (s : TxState) : Prop where
  counter : s.socket.prevUmemTxFrame = UInt32.ofNat s.socket.calls
  holds : ∀ d ∈ s.socket.outstanding, s.socket.Holds d
  pending : ∀ desc call, s.sender.Pending desc call →
    desc.addr = txAddr call ∧ call < s.socket.calls
  owned : FramesOwned s

theorem txInv_init (umem : Nat → Frame) : TxInv (TxState.init umem) where
  counter := rfl
  holds d hd := by cases hd
  pending desc call h := by rcases h with h | h <;> cases h
  owned := ⟨fun _ hw => (List.not_mem_nil hw).elim, fun _ ht => (List.not_mem_nil ht).elim⟩

theorem not_pending_idle (desc : TxDesc) (call : Nat) : ¬ TxSender.idle.Pending desc call := by
  rintro (h | h) <;> cases h

theorem not_pending_polled (host : Host) (dest : Destination) (data : Bytes) (desc : TxDesc)
    (call : Nat) : ¬ (TxSender.polled host dest data).Pending desc call := by
  rintro (h | h) <;> cases h

theorem send_inv {s s' : TxState} {host : Host} {dest : Destination} {data : Bytes} (hi : TxInv s)
    (h : txStep s (.send host dest data) = some s') : TxInv s' := by
  simp only [txStep] at h
  split at h
  · rw [Option.some.injEq] at h
    subst h
    rcases pollTxCompletions_frame s.socket with ⟨cached, out, posted, peeked, hpoll⟩
    refine ⟨?_, ?_, ?_, hi.owned.writes, hi.owned.transmitted⟩
    · simp only [hpoll]
      exact hi.counter
    · simp only [hpoll]
      exact hi.holds
    · intro desc call hp
      exact absurd hp (not_pending_polled _ _ _ _ _)
  · cases h

/-- Building a packet touches the frame of this call only. -/
theorem build_inv {s s' : TxState} (hi : TxInv s) (hcond : NotComeRound s .build)
    (h : txStep s .build = some s') : TxInv s' := by
  simp only [txStep] at h
  split at h
  · rename_i host dest data hsender
    simp only [NotComeRound, TxSender.NotComeRound, hsender] at hcond
    rcases Nat.lt_or_ge frameSize (42 + data.length) with hlarge | hfits
    · rw [buildPacket_too_large hi.counter host dest hlarge] at h
      simp only [Option.some.injEq] at h
      subst h
      refine ⟨rfl, ?_, ?_, hi.owned.writes, hi.owned.transmitted⟩
      · intro d hd
        rcases hi.holds d hd with ⟨hlt, haddr, hframe⟩
        exact ⟨Nat.lt_succ_of_lt hlt, haddr, hframe⟩
      · intro desc call hp
        exact absurd hp (not_pending_idle _ _)
    · -- the frame of this call is not one of an outstanding descriptor
      have hother : ∀ d ∈ s.socket.outstanding, d.call % txFrames ≠ s.socket.calls % txFrames := by
        intro d hd heq
        have hlt := (hi.holds d hd).1
        exact hcond hfits d hd ((Nat.modEq_iff_dvd' (Nat.le_of_lt hlt)).mp heq)
      rw [buildPacket_fits hi.counter host dest hfits] at h
      simp only [Option.some.injEq] at h
      subst h
      -- the write is to this frame, so what is outstanding stays as submitted
      refine ⟨rfl, ?_, ?_, ?_, hi.owned.transmitted⟩
      · intro d hd
        rcases hi.holds d hd with ⟨hlt, haddr, hframe⟩
        refine ⟨Nat.lt_succ_of_lt hlt, haddr, ?_⟩
        simp only [Function.update_of_ne (hother d hd)]
        exact hframe
      · rintro desc call (hp | hp)
        · cases hp
          exact ⟨rfl, Nat.lt_succ_self _⟩
        · cases hp
      · intro w hw
        rcases List.mem_append.mp hw with hw | hw
        · exact hi.owned.writes w hw
        · rw [List.mem_singleton.mp hw]
          intro d hd
          rcases List.mem_map.mp hd with ⟨e, he, rfl⟩
          rw [(hi.holds e he).2.1]
          exact txAddr_ne (hother e he)
  · cases h

theorem reserve_inv {s s' : TxState} (hi : TxInv s) (h : txStep s .reserve = some s') :
    TxInv s' := by
  simp only [txStep] at h
  split at h
  · rename_i desc call hsender
    split at h
    · rw [Option.some.injEq] at h
      subst h
      exact ⟨hi.counter, hi.holds, fun _ _ hp => absurd hp (not_pending_idle _ _), hi.owned.writes, hi.owned.transmitted⟩
    · rw [Option.some.injEq] at h
      subst h
      refine ⟨hi.counter, hi.holds, ?_, hi.owned.writes, hi.owned.transmitted⟩
      rintro desc' call' (hp | hp)
      · cases hp
      · cases hp
        exact hi.pending desc call (.inl hsender)
  · cases h

theorem submit_inv {s s' : TxState} (hi : TxInv s) (h : txStep s .submit = some s') :
    TxInv s' := by
  simp only [txStep] at h
  split at h
  · rename_i desc call hsender
    rw [Option.some.injEq] at h
    subst h
    rcases hi.pending desc call (.inr hsender) with ⟨haddr, hlt⟩
    refine ⟨hi.counter, ?_, fun _ _ hp => absurd hp (not_pending_idle _ _), hi.owned.writes, hi.owned.transmitted⟩
    intro d hd
    simp only [TxSocket.outstanding, TxSocket.submit, List.mem_append, List.mem_singleton] at hd
    rcases hd with (hd | rfl) | hd
    · exact hi.holds d (List.mem_append_left _ hd)
    -- the new descriptor holds its frame as it is now
    · refine ⟨hlt, haddr, ?_⟩
      simp only [TxSocket.submit, haddr, txAddr_div]
    · exact hi.holds d (List.mem_append_right _ hd)
  · cases h

/-- The kernel only ends the descriptors of a socket. -/
theorem consume_frame {s s' : TxSocket} (h : s.consume = some s') :
    s'.umem = s.umem ∧ s'.prevUmemTxFrame = s.prevUmemTxFrame ∧ s'.calls = s.calls ∧
      ∀ d, d ∈ s'.outstanding ↔ d ∈ s.outstanding := by
  unfold TxSocket.consume at h
  split at h
  · cases h
  · rename_i d ring hring
    rw [Option.some.injEq] at h
    subst h
    refine ⟨rfl, rfl, rfl, ?_⟩
    intro e
    simp only [TxSocket.outstanding, hring, List.mem_append, List.mem_cons, List.not_mem_nil, or_false]
    tauto

theorem complete_frame {s s' : TxSocket} {i : Nat} (h : s.complete i = some s') :
    s'.umem = s.umem ∧ s'.prevUmemTxFrame = s.prevUmemTxFrame ∧ s'.calls = s.calls ∧
      ∀ d, d ∈ s'.outstanding → d ∈ s.outstanding := by
  unfold TxSocket.complete at h
  split at h
  · rw [Option.some.injEq] at h
    subst h
    refine ⟨rfl, rfl, rfl, ?_⟩
    intro d hd
    rcases List.mem_append.mp hd with hd | hd
    · exact List.mem_append_left _ hd
    · exact List.mem_append_right _ (List.mem_of_mem_eraseIdx hd)
  · cases h

/-- Fewer descriptors and the same frames. -/
theorem TxInv.of_socket {s : TxState} {socket : TxSocket} (hi : TxInv s)
    (humem : socket.umem = s.socket.umem)
    (hprev : socket.prevUmemTxFrame = s.socket.prevUmemTxFrame)
    (hcalls : socket.calls = s.socket.calls)
    (hout : ∀ d, d ∈ socket.outstanding → d ∈ s.socket.outstanding) :
    TxInv { s with socket := socket } where
  counter := by
    simp only [hprev, hcalls]
    exact hi.counter
  holds := by
    intro d hd
    rcases hi.holds d (hout d hd) with ⟨hlt, haddr, hframe⟩
    exact ⟨by simp only [hcalls]; exact hlt, haddr, by simp only [humem]; exact hframe⟩
  pending := by
    simp only [hcalls]
    exact hi.pending
  owned := ⟨hi.owned.writes, hi.owned.transmitted⟩

theorem transmit_inv {s s' : TxState} {i : Nat} (hi : TxInv s)
    (h : txStep s (.transmit i) = some s') : TxInv s' := by
  simp only [txStep] at h
  split at h
  · cases h
  · rename_i d hd
    rw [Option.some.injEq] at h
    subst h
    refine ⟨hi.counter, hi.holds, hi.pending, hi.owned.writes, ?_⟩
    intro t ht
    rcases List.mem_append.mp ht with ht | ht
    · exact hi.owned.transmitted t ht
    -- the kernel transmits what the frame holds now, which is what was submitted
    · rcases hi.holds d (List.mem_append_right _ (List.mem_of_getElem? hd)) with ⟨-, haddr, hframe⟩
      rw [List.mem_singleton.mp ht, haddr, txAddr_div]
      exact hframe

theorem txStep_inv {s s' : TxState} {l : TxLabel} (hi : TxInv s) (hcond : NotComeRound s l)
    (h : txStep s l = some s') : TxInv s' := by
  cases l with
  | send host dest data => exact send_inv hi h
  | build => exact build_inv hi hcond h
  | reserve => exact reserve_inv hi h
  | submit => exact submit_inv hi h
  | consume =>
    rcases Option.map_eq_some_iff.mp h with ⟨socket, hsocket, rfl⟩
    rcases consume_frame hsocket with ⟨humem, hprev, hcalls, hout⟩
    exact hi.of_socket humem hprev hcalls fun d => (hout d).mp
  | transmit i => exact transmit_inv hi h
  | complete i =>
    rcases Option.map_eq_some_iff.mp h with ⟨socket, hsocket, rfl⟩
    rcases complete_frame hsocket with ⟨humem, hprev, hcalls, hout⟩
    exact hi.of_socket humem hprev hcalls hout

/-- As long as no outstanding descriptor comes round, every frame is owned by one
side only. -/
theorem tx_frames_owned {umem : Nat → Frame} {ls : List TxLabel} {s : TxState}
    (hmeets : Run.Meets txStep NotComeRound (TxState.init umem) ls)
    (hrun : Run.exec txStep (TxState.init umem) ls = some s) : FramesOwned s :=
  (Run.invariant_of_meets (fun _ _ _ hi hc h => txStep_inv hi hc h) (txInv_init umem) hmeets
    hrun).owned

def zeroFrame : Frame := ⟨List.replicate 4096 0, List.length_replicate⟩

/-- A call that is not interrupted: `sendSinglePacketDirect` with one byte. -/
def sendOne : List TxLabel :=
  [.send sampleHost sampleDestination [7], .build, .reserve, .submit]

/-- Two packets are in flight at the same time. -/
def twoInFlight : List TxLabel :=
  sendOne ++ [.consume] ++ sendOne ++ [.transmit 0, .complete 0, .consume, .transmit 0]

theorem tx_frames_owned_two :
    ∃ s, Run.exec txStep (TxState.init fun _ => zeroFrame) twoInFlight = some s ∧
      s.transmitted.length = 2 ∧ FramesOwned s := by
  have hmeets : Run.Meets txStep NotComeRound (TxState.init fun _ => zeroFrame) twoInFlight := by
    decide +kernel
  have htwo : (Run.exec txStep (TxState.init fun _ => zeroFrame) twoInFlight).map
      (·.transmitted.length) = some 2 := by
    decide +kernel
  rcases Option.map_eq_some_iff.mp htwo with ⟨s, hs, hlen⟩
  exact ⟨s, hs, hlen, tx_frames_owned hmeets hs⟩

/-! ## Coming round -/

/-- After `k` calls with a kernel that does nothing: `k` frames are in the ring. -/
structure Queued (k : Nat) (s : TxState) : Prop where
  idle : s.sender = .idle
  counter : s.socket.prevUmemTxFrame = UInt32.ofNat s.socket.calls
  calls : s.socket.calls = k
  ring : s.socket.txRing.map (·.desc.addr) = (List.range k).map txAddr

/-- As long as the ring is not full, one more call is submitted. -/
theorem exec_sendOne {k : Nat} {s : TxState} (h : Queued k s) (hk : k < txFrames) :
    ∃ s', Run.exec txStep s sendOne = some s' ∧ Queued (k + 1) s' := by
  rcases pollTxCompletions_frame s.socket with ⟨cached, out, posted, peeked, hpoll⟩
  have hlen : s.socket.txRing.length = k := by
    have := congrArg List.length h.ring
    simpa using this
  have hfits : 42 + ([7] : Bytes).length ≤ frameSize := by decide
  have hbuild := @buildPacket_fits s.socket.pollTxCompletions (by simp only [hpoll]; exact h.counter)
    sampleHost sampleDestination [7] hfits
  have hroom : s.socket.txRing.length + 1 ≤ txFrames := by omega
  -- four steps of the sender in a row, with room in the ring
  simp only [hpoll] at hbuild
  simp only [sendOne, Run.exec, txStep, h.idle, hpoll, hbuild, TxSocket.reserveTxRing, if_pos hroom,
    ne_eq, not_true_eq_false, if_false]
  refine ⟨_, rfl, rfl, rfl, ?_, ?_⟩
  · simp only [TxSocket.submit, h.calls]
  · simp only [TxSocket.submit, List.map_append, h.ring, List.map_cons, List.map_nil, h.calls,
      List.range_succ]

theorem exec_sendOne_times {k : Nat} (umem : Nat → Frame) (hk : k ≤ txFrames) :
    ∃ s, Run.exec txStep (TxState.init umem) (List.replicate k sendOne).flatten = some s ∧
      Queued k s := by
  -- on the number of calls, the kernel standing still
  induction k with
  | zero => exact ⟨_, rfl, rfl, rfl, rfl, rfl⟩
  | succ k ih =>
    rcases ih (Nat.le_of_succ_le hk) with ⟨s, hs, hqueued⟩
    rcases exec_sendOne hqueued hk with ⟨s', hs', hqueued'⟩
    refine ⟨s', ?_, hqueued'⟩
    rw [List.replicate_succ', List.flatten_append, List.flatten_singleton, Run.exec_append hs, hs']

/-- The next packet is built whether or not there is room for its descriptor. -/
theorem exec_build {k : Nat} {s : TxState} (h : Queued k s) :
    ∃ s', Run.exec txStep s [.send sampleHost sampleDestination [7], .build] = some s' ∧
      s'.writes = s.writes ++ [⟨txAddr k, s.socket.outstanding.map (·.desc)⟩] := by
  rcases pollTxCompletions_frame s.socket with ⟨cached, out, posted, peeked, hpoll⟩
  have hfits : 42 + ([7] : Bytes).length ≤ frameSize := by decide
  have hbuild := @buildPacket_fits s.socket.pollTxCompletions (by simp only [hpoll]; exact h.counter)
    sampleHost sampleDestination [7] hfits
  simp only [hpoll] at hbuild
  simp only [Run.exec, txStep, h.idle, hpoll, hbuild]
  refine ⟨_, rfl, ?_⟩
  simp only [h.calls]
  rfl

/-- With 2048 packets in the ring the next one is built in the frame of the first. -/
theorem tx_frame_overwritten :
    ∃ ls s, Run.exec txStep (TxState.init fun _ => zeroFrame) ls = some s ∧ ¬ FramesOwned s := by
  rcases exec_sendOne_times (fun _ => zeroFrame) (Nat.le_refl txFrames) with ⟨s, hs, hqueued⟩
  rcases exec_build hqueued with ⟨s', hs', hwrites⟩
  refine ⟨_, s', (Run.exec_append hs).trans hs', ?_⟩
  intro howned
  -- call 2048 gets the frame of call 0, whose descriptor is still in the ring
  have hfirst : txAddr 0 ∈ s.socket.txRing.map (·.desc.addr) := by
    rw [hqueued.ring]
    exact List.mem_map_of_mem (List.mem_range.mpr (by decide))
  rcases List.mem_map.mp hfirst with ⟨d, hd, haddr⟩
  have hlast : ⟨txAddr txFrames, s.socket.outstanding.map (·.desc)⟩ ∈ s'.writes := by
    rw [hwrites]
    exact List.mem_append_right _ (List.mem_singleton_self _)
  apply howned.writes _ hlast d.desc (List.mem_map_of_mem (List.mem_append_left _ hd))
  rw [haddr]
  rfl

end TradingLatency.AfXdp
