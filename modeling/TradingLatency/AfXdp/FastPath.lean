import TradingLatency.AfXdp.Packet

/-!
# The fast payload extraction (`extractUdpPayloadFast`)

`extractUdpPayloadFast` is meant to be `extractUdpPayload` with cheaper
arithmetic. It makes the same checks up to the end of the headers, but it does
not look at the UDP length, so everything behind the headers is payload for it.
The two agree exactly on the frames that end where their datagram ends
(`extract_fast_iff`).
-/

namespace TradingLatency.AfXdp

open CText Bytes Inet

/-- `extractUdpPayloadFast`; `some none` when it returns `false`. -/
def extractUdpPayloadFast (packetData : Bytes) : Option (Option Payload) :=
  let packetLen := packetData.length
  if packetLen < 42 then some none
  else do
    if (← ethHProto packetData) ≠ htons ethPIp then return none
    if (← ipProtocol packetData) ≠ ipprotoUdp then return none
    let hdrLen := ((← ipIhl packetData) &&& 0x0f).toNat <<< 2
    if hdrLen < 20 then return none
    let headersLen := 14 + hdrLen + 8
    if packetLen < headersLen then return none
    -- the UDP length is not read: padding counts as payload
    return some ⟨headersLen, packetLen - headersLen⟩

/-- A frame that passes the checks of the headers ends where its datagram ends. -/
def EndsWithDatagram (p : Bytes) : Prop :=
  ∀ ihl, UdpFrame p ihl → ∀ u, udpLen p (ethHdrLen + ihl.toNat * 4) = some u →
    ethHdrLen + ihl.toNat * 4 + (htons u).toNat = p.length

/-- The mask is applied to a field of four bits. -/
theorem ipIhl_and {p : Bytes} {ihl : UInt8} (h : ipIhl p = some ihl) : ihl &&& 0x0f = ihl := by
  rcases Option.map_eq_some_iff.mp h with ⟨first, -, rfl⟩
  rw [UInt8.and_assoc]
  rfl

/-- Behind the common checks everything is payload. -/
theorem extractUdpPayloadFast_of_udpFrame {p : Bytes} {ihl : UInt8} (h : UdpFrame p ihl) :
    extractUdpPayloadFast p =
      some (some ⟨22 + 4 * ihl.toNat, p.length - (22 + 4 * ihl.toNat)⟩) := by
  have hlen := h.length_ge
  have hihl := h.ihl_ge
  have hsizes : ethHdrLen = 14 ∧ udpHdrLen = 8 := ⟨rfl, rfl⟩
  have hshift : ihl.toNat <<< 2 = ihl.toNat * 4 := Nat.shiftLeft_eq ihl.toNat 2
  have hoff : 14 + ihl.toNat * 4 + 8 = 22 + 4 * ihl.toNat := by omega
  simp only [extractUdpPayloadFast, h.proto, h.protocol, h.ihl_eq, ipIhl_and h.ihl_eq, hshift, hoff,
    Option.bind_eq_bind, Option.bind_some, ne_eq, not_true_eq_false, if_false]
  rw [if_neg (by omega), if_neg (by omega), if_neg (by omega)]
  rfl

/-- The two routines reject the same frames before the UDP length. -/
theorem extractUdpPayloadFast_cases (p : Bytes) :
    extractUdpPayloadFast p = some none ∨ ∃ ihl, UdpFrame p ihl := by
  by_cases hlen : p.length < 42
  · -- shorter than Ethernet, IP without options and UDP together
    left
    rw [extractUdpPayloadFast, if_pos hlen]
  have hsizes : ethHdrLen = 14 ∧ udpHdrLen = 8 := ⟨rfl, rfl⟩
  rcases exists_load16 (by omega : 12 + 2 ≤ p.length) with ⟨proto, hproto⟩
  rcases exists_load8 (by omega : 23 < p.length) with ⟨protocol, hprotocol⟩
  rcases exists_load8 (by omega : 14 < p.length) with ⟨first, hfirst⟩
  have hproto' : ethHProto p = some proto := hproto
  have hprotocol' : ipProtocol p = some protocol := hprotocol
  have hihl : ipIhl p = some (first &&& 0x0f) := by
    rw [ipIhl, ethHdrLen, hfirst]
    rfl
  have hshift : ∀ n : Nat, n <<< 2 = n * 4 := fun n => Nat.shiftLeft_eq n 2
  simp only [extractUdpPayloadFast, hproto', hprotocol', hihl, ipIhl_and hihl, hshift,
    Option.bind_eq_bind, Option.bind_some]
  rw [if_neg hlen]
  -- the checks in the order of the source, each of which returns "no payload"
  by_cases h1 : proto = htons ethPIp
  swap
  · left
    simp only [h1, ne_eq, not_false_eq_true, if_true]
    rfl
  by_cases h2 : protocol = ipprotoUdp
  swap
  · left
    simp only [h1, h2, ne_eq, not_true_eq_false, not_false_eq_true, if_false, if_true]
    rfl
  by_cases h3 : (first &&& 0x0f).toNat * 4 < 20
  · left
    simp only [h1, h2, h3, ne_eq, not_true_eq_false, if_false, if_true]
    rfl
  by_cases h4 : p.length < 14 + (first &&& 0x0f).toNat * 4 + 8
  · left
    simp only [h1, h2, h3, h4, ne_eq, not_true_eq_false, if_false, if_true]
    rfl
  · -- all of them passed, which is what `UdpFrame` says
    right
    exact ⟨first &&& 0x0f, by rw [hproto', h1], by rw [hprotocol', h2], hihl, by omega, by omega⟩

theorem UdpFrame.ihl_unique {p : Bytes} {ihl ihl' : UInt8} (h : UdpFrame p ihl)
    (h' : UdpFrame p ihl') : ihl = ihl' := by
  have heq := h.ihl_eq
  rw [h'.ihl_eq] at heq
  exact (Option.some.inj heq).symm

/-- On every byte string the fast extraction accepts exactly what the plain one
accepts, with the same payload, if and only if a frame that passes the checks of
the headers ends where its datagram ends. -/
theorem extract_fast_iff (p : Bytes) :
    extractUdpPayloadFast p = extractUdpPayload p ↔ EndsWithDatagram p := by
  by_cases hframe : ∃ ihl, UdpFrame p ihl
  swap
  · -- both reject
    have hfast := (extractUdpPayloadFast_cases p).resolve_right hframe
    have hplain := (extractUdpPayload_cases p).resolve_right hframe
    rw [hfast, hplain]
    refine iff_of_true rfl ?_
    intro ihl h
    exact absurd ⟨ihl, h⟩ hframe
  rcases hframe with ⟨ihl, h⟩
  rcases h.exists_udpLen with ⟨u, hu⟩
  have hlen := h.length_ge
  have hsizes : ethHdrLen = 14 ∧ udpHdrLen = 8 := ⟨rfl, rfl⟩
  have hends : EndsWithDatagram p ↔ 14 + ihl.toNat * 4 + (htons u).toNat = p.length := by
    constructor
    · intro hall
      exact hall ihl h u hu
    · intro heq ihl' h' u' hu'
      cases h.ihl_unique h'
      rw [hu] at hu'
      cases hu'
      exact heq
  rw [hends, extractUdpPayloadFast_of_udpFrame h, extractUdpPayload_of_udpFrame h hu,
    Option.some.injEq]
  by_cases hok : 8 ≤ (htons u).toNat ∧ (htons u).toNat ≤ p.length - 14 - 4 * ihl.toNat
  · rw [if_pos hok, Option.some.injEq, Payload.mk.injEq]
    constructor
    · intro heq
      have := heq.2
      omega
    · intro heq
      refine ⟨rfl, ?_⟩
      omega
  · rw [if_neg hok]
    refine iff_of_false nofun ?_
    intro heq
    exact hok ⟨by omega, by omega⟩

/-- A datagram with one byte of payload in a frame that is padded to 60 bytes. -/
def paddedFrame : Bytes :=
  [0x02, 0, 0, 0, 0, 2, 0x02, 0, 0, 0, 0, 1, 0x08, 0x00] ++
    [0x45, 0, 0, 29, 0x30, 0x39, 0, 0, 64, 17, 0x36, 0x95, 10, 0, 0, 1, 10, 0, 0, 2] ++
    [0x23, 0x28, 0x23, 0x29, 0, 9, 0, 0] ++ [7] ++ List.replicate 17 0

/-- The fast extraction returns the padding as payload. -/
theorem extract_fast_padding :
    extractUdpPayload paddedFrame = some (some ⟨42, 1⟩) ∧
      extractUdpPayloadFast paddedFrame = some (some ⟨42, 18⟩) ∧
      extractUdpPayloadFast paddedFrame ≠ extractUdpPayload paddedFrame := by
  decide +kernel

end TradingLatency.AfXdp
