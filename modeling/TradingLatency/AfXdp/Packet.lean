import TradingLatency.Lib.Inet
import TradingLatency.Lib.OnesComplement

/-!
# Packets of the replicator (`PacketReplicator.cpp`, `unicast_filter.c`)

Three pieces of code know the layout of a UDP packet: `createUdpPacket` builds
it in a frame, `extractUdpPayload` takes the payload out of a received frame,
and the XDP program `unicast_filter` decides which frames reach the replicator.

A frame is a list of bytes. The two readers are in `Option`: `none` is a read
outside of the frame. Sizes are `Nat`, because no frame or payload in memory is
so long that `size_t` would wrap.
-/

namespace TradingLatency.AfXdp

open CText Bytes Inet

/-! ## Layout -/

/-- `sizeof(struct ethhdr)`. -/
def ethHdrLen : Nat := 14

/-- `sizeof(struct iphdr)`. -/
def ipHdrLen : Nat := 20

/-- `sizeof(struct udphdr)`. -/
def udpHdrLen : Nat := 8

/-- `ETH_P_IP`. -/
def ethPIp : UInt16 := 0x0800

/-- `IPPROTO_UDP`. -/
def ipprotoUdp : UInt8 := 17

/-- `eth->h_proto`. -/
def ethHProto (p : Bytes) : Option UInt16 := p.load16 12

/-- `ip->ihl`, the low half of the first byte of the IP header. -/
def ipIhl (p : Bytes) : Option UInt8 := (p.load8 ethHdrLen).map (· &&& 0x0f)

/-- `ip->tot_len`. -/
def ipTotLen (p : Bytes) : Option UInt16 := p.load16 (ethHdrLen + 2)

/-- `ip->protocol`. -/
def ipProtocol (p : Bytes) : Option UInt8 := p.load8 (ethHdrLen + 9)

/-- `ip->daddr`. -/
def ipDaddr (p : Bytes) : Option UInt32 := p.load32 (ethHdrLen + 16)

/-- `udp->dest`, of a UDP header at `udp`. -/
def udpDest (p : Bytes) (udp : Nat) : Option UInt16 := p.load16 (udp + 2)

/-- `udp->len`, of a UDP header at `udp`. -/
def udpLen (p : Bytes) (udp : Nat) : Option UInt16 := p.load16 (udp + 4)

/-! ## Destinations -/

/-- `Destination`. The constructor throws unless `inet_aton` takes the text, so
`sin_addr` is always the address of the text. -/
structure Destination where
  ipAddress : Text
  port : UInt16
  sinAddr : UInt32
  valid : inetAton ipAddress = some sinAddr

/-- `addr.sin_port`. -/
def Destination.sinPort (dest : Destination) : UInt16 := htons dest.port

/-- The constructor of `Destination`. -/
def Destination.make (ip : Text) (port : UInt16) : Option Destination :=
  match h : inetAton ip with
  | none => none
  | some addr => some ⟨ip, port, addr, h⟩

/-! ## Building -/

/-- A hardware address. -/
structure Mac where
  bytes : Bytes
  length_eq : bytes.length = 6

/-- What `createUdpPacket` finds out about the host: the results of
`getDestinationMac`, `getInterfaceMac` and `getInterfaceIp`, and the address it
listens on. -/
structure Host where
  destinationMac : Text → Option Mac
  interfaceMac : Option Mac
  interfaceIp : Option Text
  listenIp : Text
  listenPort : UInt16

/-- `memset(eth->h_dest, 0xFF, ETH_ALEN)`. -/
def broadcastMac : Mac := ⟨[0xff, 0xff, 0xff, 0xff, 0xff, 0xff], rfl⟩

def defaultMac : Mac := ⟨[0x02, 0x00, 0x00, 0x00, 0x00, 0x01], rfl⟩

def Host.dstMac (host : Host) (dest : Destination) : Mac :=
  (host.destinationMac dest.ipAddress).getD broadcastMac

def Host.srcMac (host : Host) : Mac := host.interfaceMac.getD defaultMac

/-- `ip->saddr`: `inet_aton` of the interface's address, else of the address
listened on, into a field that is zero before. -/
def Host.saddr (host : Host) : UInt32 :=
  (inetAton (host.interfaceIp.getD host.listenIp)).getD 0

/-- The Ethernet header. -/
def writeEthHeader (host : Host) (dest : Destination) (buffer : Bytes) : Bytes :=
  let buffer := buffer.store 0 (host.dstMac dest).bytes
  let buffer := buffer.store 6 host.srcMac.bytes
  buffer.store 12 (image16 (htons ethPIp))

/-- `ip->version = v`, the high half of the first byte of the IP header. -/
def setIpVersion (v : UInt8) (buffer : Bytes) : Bytes :=
  buffer.store ethHdrLen [((buffer.load8 ethHdrLen).getD 0 &&& (0x0f : UInt8)) ||| v <<< 4]

/-- `ip->ihl = n`. -/
def setIpIhl (n : UInt8) (buffer : Bytes) : Bytes :=
  buffer.store ethHdrLen [((buffer.load8 ethHdrLen).getD 0 &&& (0xf0 : UInt8)) ||| n]

/-- The IP header, with a checksum of zero. -/
def writeIpHeader (host : Host) (dest : Destination) (payloadLen : Nat) (buffer : Bytes) : Bytes :=
  -- two bit fields of one byte, set one after the other
  let buffer := setIpVersion 4 buffer
  let buffer := setIpIhl 5 buffer
  let buffer := buffer.store (ethHdrLen + 1) [0]
  let buffer := buffer.store (ethHdrLen + 2)
    (image16 (htons (UInt16.ofNat (ipHdrLen + udpHdrLen + payloadLen))))
  let buffer := buffer.store (ethHdrLen + 4) (image16 (htons 12345))
  let buffer := buffer.store (ethHdrLen + 6) (image16 0)
  let buffer := buffer.store (ethHdrLen + 8) [64]
  let buffer := buffer.store (ethHdrLen + 9) [ipprotoUdp]
  let buffer := buffer.store (ethHdrLen + 10) (image16 0)
  let buffer := buffer.store (ethHdrLen + 12) (image32 host.saddr)
  buffer.store (ethHdrLen + 16) (image32 dest.sinAddr)

/-- `ip_words[i]`. -/
def ipWord (buffer : Bytes) (i : Nat) : UInt16 := (buffer.load16 (ethHdrLen + 2 * i)).getD 0

/-- The loop that adds the words of the IP header. -/
def ipSum (buffer : Bytes) : UInt32 :=
  (List.range 10).foldl (fun sum i => sum + (ipWord buffer i).toUInt32) 0

theorem toNat_carry (sum : UInt32) :
    ((sum &&& (0xffff : UInt32)) + (sum >>> 16)).toNat = sum.toNat % 2 ^ 16 + sum.toNat / 2 ^ 16 := by
  have hlt := sum.toNat_lt
  have hlow : (sum &&& (0xffff : UInt32)).toNat = sum.toNat % 2 ^ 16 := Nat.and_two_pow_sub_one_eq_mod _ 16
  have hhigh : (sum >>> 16).toNat = sum.toNat / 2 ^ 16 := Nat.shiftRight_eq_div_pow _ 16
  rw [UInt32.toNat_add, hlow, hhigh]
  omega

theorem shiftRight_ne_zero_iff (sum : UInt32) : sum >>> 16 ≠ 0 ↔ 2 ^ 16 ≤ sum.toNat := by
  have hhigh : (sum >>> 16).toNat = sum.toNat / 2 ^ 16 := Nat.shiftRight_eq_div_pow _ 16
  rw [ne_eq, ← UInt32.toNat_inj, hhigh]
  show ¬ sum.toNat / 2 ^ 16 = 0 ↔ _
  omega

/-- `while (sum >> 16) sum = (sum & 0xFFFF) + (sum >> 16)`. -/
def foldCarries (sum : UInt32) : UInt32 :=
  if sum >>> 16 ≠ 0 then foldCarries ((sum &&& (0xffff : UInt32)) + (sum >>> 16)) else sum
termination_by sum.toNat
decreasing_by
  rw [toNat_carry]
  exact OnesComplement.carry_lt (by decide) ((shiftRight_ne_zero_iff sum).mp (by assumption))

/-- `ip->check`. -/
def writeIpChecksum (buffer : Bytes) : Bytes :=
  buffer.store (ethHdrLen + 10) (image16 (~~~(foldCarries (ipSum buffer)).toUInt16))

/-- The UDP header. -/
def writeUdpHeader (host : Host) (dest : Destination) (payloadLen : Nat) (buffer : Bytes) : Bytes :=
  let udp := ethHdrLen + ipHdrLen
  let buffer := buffer.store udp (image16 (htons host.listenPort))
  -- `sin_port` is in network byte order already
  let buffer := buffer.store (udp + 2) (image16 dest.sinPort)
  let buffer := buffer.store (udp + 4) (image16 (htons (UInt16.ofNat (udpHdrLen + payloadLen))))
  buffer.store (udp + 6) (image16 0)

/-- `createUdpPacket`, in a buffer of `bufferSize` bytes. -/
def createUdpPacket (host : Host) (dest : Destination) (payload buffer : Bytes) : Nat × Bytes :=
  let totalLen := ethHdrLen + ipHdrLen + udpHdrLen + payload.length
  if buffer.length < totalLen then (0, buffer)
  else
    -- the packet is zeroed first, so no byte of an older packet is left
    let buffer := buffer.store 0 (List.replicate totalLen 0)
    let buffer := writeEthHeader host dest buffer
    let buffer := writeIpHeader host dest payload.length buffer
    let buffer := writeIpChecksum buffer
    let buffer := writeUdpHeader host dest payload.length buffer
    (totalLen, buffer.store (ethHdrLen + ipHdrLen + udpHdrLen) payload)

/-! ## Reading -/

/-- A payload: where it starts in the frame, and its length. -/
structure Payload where
  offset : Nat
  len : Nat
deriving DecidableEq

/-- The bytes of a payload. -/
def Payload.bytes (payload : Payload) (packetData : Bytes) : Bytes :=
  (packetData.drop payload.offset).take payload.len

/-- `extractUdpPayload`; `some none` when it returns `false`. -/
def extractUdpPayload (packetData : Bytes) : Option (Option Payload) :=
  let packetLen := packetData.length
  if packetLen < ethHdrLen + ipHdrLen + udpHdrLen then some none
  else do
    if htons (← ethHProto packetData) ≠ ethPIp then return none
    if (← ipProtocol packetData) ≠ ipprotoUdp then return none
    let hdrLen := (← ipIhl packetData).toNat * 4
    -- an IP header with options moves the UDP header back
    if hdrLen < 20 then return none
    let headersLen := ethHdrLen + hdrLen + udpHdrLen
    if packetLen < headersLen then return none
    let udpLen := (htons (← udpLen packetData (ethHdrLen + hdrLen))).toNat
    if udpLen < udpHdrLen ∨ packetLen - headersLen + udpHdrLen < udpLen then return none
    return some ⟨headersLen, udpLen - udpHdrLen⟩

/-- `struct unicast_config`, in network byte order. -/
structure UnicastConfig where
  targetIp : UInt32
  targetPort : UInt16
deriving DecidableEq

/-- What the XDP program returns. -/
inductive XdpAction where
  | pass
  | drop
  | redirect (queueIdx : UInt32)
deriving DecidableEq

/-- The maps of the XDP program: the entry of `config_map`, and the file
descriptors of `xsks_map`. -/
structure XdpMaps where
  config : Option UnicastConfig
  xsks : UInt32 → Option Int

/-- `bpf_redirect_map(&xsks_map, queue_idx, XDP_DROP)`. -/
def XdpMaps.redirectMap (maps : XdpMaps) (queueIdx : UInt32) : XdpAction :=
  if (maps.xsks queueIdx).isSome then .redirect queueIdx else .drop

/-- `unicast_filter`. -/
def unicastFilter (maps : XdpMaps) (rxQueueIndex : UInt32) (data : Bytes) : Option XdpAction :=
  if data.length < ethHdrLen then some .pass
  else do
    if (← ethHProto data) ≠ htons ethPIp then return .pass
    if data.length < ethHdrLen + ipHdrLen then return .pass
    if (← ipProtocol data) ≠ ipprotoUdp then return .pass
    let ipHdrSize := (← ipIhl data).toNat * 4
    if ipHdrSize < 20 then return .pass
    let udpStart := ethHdrLen + ipHdrSize
    if data.length < udpStart + udpHdrLen then return .pass
    match maps.config with
    | none => return .pass
    | some config =>
        let dstPort ← udpDest data udpStart
        let dstIp ← ipDaddr data
        -- both sides are in network byte order, nothing is converted
        if dstIp ≠ config.targetIp ∨ dstPort ≠ config.targetPort then return .pass
        match maps.xsks rxQueueIndex with
        | none => return .pass
        | some _ => return maps.redirectMap rxQueueIndex

/-! ## The checks of both readers -/

/-- What the checks of both readers establish before they look at ports and
lengths: a UDP packet over IPv4 with room for all three headers. -/
structure UdpFrame (p : Bytes) (ihl : UInt8) : Prop where
  proto : ethHProto p = some (htons ethPIp)
  protocol : ipProtocol p = some ipprotoUdp
  ihl_eq : ipIhl p = some ihl
  ihl_ge : 5 ≤ ihl.toNat
  length_ge : ethHdrLen + ihl.toNat * 4 + udpHdrLen ≤ p.length

theorem UdpFrame.exists_udpLen {p : Bytes} {ihl : UInt8} (h : UdpFrame p ihl) :
    ∃ u, udpLen p (ethHdrLen + ihl.toNat * 4) = some u := by
  have := h.length_ge
  simp only [udpHdrLen] at this
  exact exists_load16 (by omega)

/-- Behind the common checks only the UDP length decides. -/
theorem extractUdpPayload_of_udpFrame {p : Bytes} {ihl : UInt8} {u : UInt16} (h : UdpFrame p ihl)
    (hu : udpLen p (ethHdrLen + ihl.toNat * 4) = some u) :
    extractUdpPayload p = some
      (if 8 ≤ (htons u).toNat ∧ (htons u).toNat ≤ p.length - 14 - 4 * ihl.toNat then
        some ⟨22 + 4 * ihl.toNat, (htons u).toNat - 8⟩
      else none) := by
  have hlen := h.length_ge
  have hihl := h.ihl_ge
  have hsizes : ethHdrLen = 14 ∧ ipHdrLen = 20 ∧ udpHdrLen = 8 := ⟨rfl, rfl, rfl⟩
  simp only [extractUdpPayload, h.proto, h.protocol, h.ihl_eq, hu, htons_htons, Option.bind_eq_bind,
    Option.bind_some, ne_eq, not_true_eq_false, if_false]
  rw [if_neg (by omega), if_neg (by omega), if_neg (by omega)]
  -- the last check of the source: the UDP length against its header and the frame
  by_cases hok : 8 ≤ (htons u).toNat ∧ (htons u).toNat ≤ p.length - 14 - 4 * ihl.toNat
  · have hoff : ethHdrLen + ihl.toNat * 4 + udpHdrLen = 22 + 4 * ihl.toNat := by omega
    rw [if_neg (by omega), if_pos hok, hoff]
    rfl
  · rw [if_pos (by omega), if_neg hok]
    rfl

/-- On no bytes at all does `extractUdpPayload` read out of range: it rejects
them, or the common checks have passed. -/
theorem extractUdpPayload_cases (p : Bytes) :
    extractUdpPayload p = some none ∨ ∃ ihl, UdpFrame p ihl := by
  by_cases hlen : p.length < ethHdrLen + ipHdrLen + udpHdrLen
  · left
    rw [extractUdpPayload, if_pos hlen]
  have hsizes : ethHdrLen = 14 ∧ ipHdrLen = 20 ∧ udpHdrLen = 8 := ⟨rfl, rfl, rfl⟩
  rcases exists_load16 (by omega : 12 + 2 ≤ p.length) with ⟨proto, hproto⟩
  rcases exists_load8 (by omega : 23 < p.length) with ⟨protocol, hprotocol⟩
  rcases exists_load8 (by omega : 14 < p.length) with ⟨first, hfirst⟩
  have hproto' : ethHProto p = some proto := hproto
  have hprotocol' : ipProtocol p = some protocol := hprotocol
  have hihl : ipIhl p = some (first &&& 0x0f) := by
    rw [ipIhl, ethHdrLen, hfirst]
    rfl
  simp only [extractUdpPayload, hproto', hprotocol', hihl, Option.bind_eq_bind, Option.bind_some]
  rw [if_neg hlen]
  -- the checks in the order of the source
  by_cases h1 : htons proto = ethPIp
  · by_cases h2 : protocol = ipprotoUdp
    · by_cases h3 : (first &&& 0x0f).toNat * 4 < 20
      · left
        simp only [h1, h2, h3, ne_eq, not_true_eq_false, if_false, if_true]
        rfl
      · by_cases h4 : p.length < ethHdrLen + (first &&& 0x0f).toNat * 4 + udpHdrLen
        · left
          simp only [h1, h2, h3, h4, ne_eq, not_true_eq_false, if_false, if_true]
          rfl
        · right
          refine ⟨first &&& 0x0f, ?_, ?_, hihl, by omega, by omega⟩
          · rw [hproto', ← h1, htons_htons]
          · rw [hprotocol', h2]
    · left
      simp only [h1, h2, ne_eq, not_true_eq_false, not_false_eq_true, if_false, if_true]
      rfl
  · left
    simp only [h1, ne_eq, not_false_eq_true, if_true]
    rfl

theorem extractUdpPayload_total (p : Bytes) : ∃ r, extractUdpPayload p = some r := by
  rcases extractUdpPayload_cases p with hreject | ⟨ihl, hframe⟩
  · exact ⟨none, hreject⟩
  · rcases hframe.exists_udpLen with ⟨u, hu⟩
    exact ⟨_, extractUdpPayload_of_udpFrame hframe hu⟩

/-- The filter on a frame that passes the common checks. -/
theorem unicastFilter_of_udpFrame {maps : XdpMaps} {q : UInt32} {p : Bytes} {ihl : UInt8}
    {dstPort : UInt16} {dstIp : UInt32} (h : UdpFrame p ihl)
    (hport : udpDest p (ethHdrLen + ihl.toNat * 4) = some dstPort) (hip : ipDaddr p = some dstIp) :
    unicastFilter maps q p = some
      (if maps.config = some ⟨dstIp, dstPort⟩ ∧ (maps.xsks q).isSome then .redirect q else .pass) := by
  have hlen := h.length_ge
  have hihl := h.ihl_ge
  have hsizes : ethHdrLen = 14 ∧ ipHdrLen = 20 ∧ udpHdrLen = 8 := ⟨rfl, rfl, rfl⟩
  simp only [unicastFilter, h.proto, h.protocol, h.ihl_eq, hport, hip, Option.bind_eq_bind,
    Option.bind_some, ne_eq, not_true_eq_false, if_false]
  rw [if_neg (by omega), if_neg (by omega), if_neg (by omega), if_neg (by omega)]
  -- a program without a configuration passes everything
  cases hconfig : maps.config with
  | none => simp
  | some config =>
    by_cases hmatch : dstIp = config.targetIp ∧ dstPort = config.targetPort
    · rcases hmatch with ⟨rfl, rfl⟩
      cases hxsk : maps.xsks q with
      | none => simp
      | some fd => simp [XdpMaps.redirectMap, hxsk]
    · -- one of the two differs, so the whole configuration does
      have hne : config ≠ ⟨dstIp, dstPort⟩ := by
        rintro rfl
        exact hmatch ⟨rfl, rfl⟩
      have hout : ¬ dstIp = config.targetIp ∨ ¬ dstPort = config.targetPort := by
        rwa [← not_and_or]
      simp [hout, hne]

/-- The filter passes what fails the common checks on to the network stack. -/
theorem unicastFilter_cases (maps : XdpMaps) (q : UInt32) (p : Bytes) :
    unicastFilter maps q p = some .pass ∨ ∃ ihl, UdpFrame p ihl := by
  by_cases hlen : p.length < ethHdrLen
  · left
    rw [unicastFilter, if_pos hlen]
  have hsizes : ethHdrLen = 14 ∧ ipHdrLen = 20 ∧ udpHdrLen = 8 := ⟨rfl, rfl, rfl⟩
  rcases exists_load16 (by omega : 12 + 2 ≤ p.length) with ⟨proto, hproto⟩
  have hproto' : ethHProto p = some proto := hproto
  simp only [unicastFilter, hproto', Option.bind_eq_bind, Option.bind_some]
  rw [if_neg hlen]
  by_cases h1 : proto = htons ethPIp
  swap
  · left
    simp only [h1, ne_eq, not_false_eq_true, if_true]
    rfl
  by_cases h2 : p.length < ethHdrLen + ipHdrLen
  · left
    simp only [h1, h2, ne_eq, not_true_eq_false, if_false, if_true]
    rfl
  -- from here on the IP header may be read
  rcases exists_load8 (by omega : 23 < p.length) with ⟨protocol, hprotocol⟩
  rcases exists_load8 (by omega : 14 < p.length) with ⟨first, hfirst⟩
  have hprotocol' : ipProtocol p = some protocol := hprotocol
  have hihl : ipIhl p = some (first &&& 0x0f) := by
    rw [ipIhl, ethHdrLen, hfirst]
    rfl
  simp only [hprotocol', hihl, Option.bind_some]
  by_cases h3 : protocol = ipprotoUdp
  swap
  · left
    simp only [h1, h2, h3, ne_eq, not_true_eq_false, not_false_eq_true, if_false, if_true]
    rfl
  by_cases h4 : (first &&& 0x0f).toNat * 4 < 20
  · left
    simp only [h1, h2, h3, h4, ne_eq, not_true_eq_false, if_false, if_true]
    rfl
  by_cases h5 : p.length < ethHdrLen + (first &&& 0x0f).toNat * 4 + udpHdrLen
  · left
    simp only [h1, h2, h3, h4, h5, ne_eq, not_true_eq_false, if_false, if_true]
    rfl
  · right
    exact ⟨first &&& 0x0f, by rw [hproto', h1], by rw [hprotocol', h3], hihl, by omega, by omega⟩

/-- Every frame that the filter redirects has passed the common checks. -/
theorem UdpFrame.of_redirect {maps : XdpMaps} {q q' : UInt32} {p : Bytes}
    (h : unicastFilter maps q p = some (.redirect q')) : ∃ ihl, UdpFrame p ihl := by
  rcases unicastFilter_cases maps q p with hpass | hframe
  · rw [hpass] at h
    cases h
  · exact hframe

/-- The filter and the parser agree: a redirected frame is only read in range,
its UDP length alone decides, and an accepted payload lies inside the frame. -/
theorem filter_parser_agree (maps : XdpMaps) (q : UInt32) (p : Bytes) :
    ((∃ q', unicastFilter maps q p = some (.redirect q')) →
      ∃ ihl u r, ipIhl p = some ihl ∧ udpLen p (14 + 4 * ihl.toNat) = some u ∧
        extractUdpPayload p = some r ∧
        (r.isSome ↔ 8 ≤ (htons u).toNat ∧ (htons u).toNat ≤ p.length - 14 - 4 * ihl.toNat) ∧
        ∀ payload, r = some payload →
          payload.offset = 22 + 4 * ihl.toNat ∧
          payload.offset + payload.len = 14 + 4 * ihl.toNat + (htons u).toNat) ∧
    (∀ payload, extractUdpPayload p = some (some payload) →
      payload.offset + payload.len ≤ p.length) := by
  constructor
  · -- a redirected packet has passed every check the parser makes before the UDP length
    rintro ⟨q', hredirect⟩
    rcases UdpFrame.of_redirect hredirect with ⟨ihl, hframe⟩
    rcases hframe.exists_udpLen with ⟨u, hu⟩
    refine ⟨ihl, u, _, hframe.ihl_eq, ?_, extractUdpPayload_of_udpFrame hframe hu, ?_, ?_⟩
    · rw [Nat.mul_comm 4]
      exact hu
    · split <;> simp_all
    · intro payload hpayload
      split at hpayload
      · rename_i hok
        cases hpayload
        exact ⟨rfl, by simp only; omega⟩
      · cases hpayload
  · -- an accepted packet has its whole UDP datagram inside the frame
    intro payload haccept
    rcases extractUdpPayload_cases p with hreject | ⟨ihl, hframe⟩
    · rw [hreject] at haccept
      cases haccept
    rcases hframe.exists_udpLen with ⟨u, hu⟩
    rw [extractUdpPayload_of_udpFrame hframe hu] at haccept
    split at haccept
    · rename_i hok
      cases haccept
      simp only
      omega
    · cases haccept

/-- A frame to 10.0.0.2:9000 with one byte of payload. -/
def sampleFrame : Bytes :=
  [0xff, 0xff, 0xff, 0xff, 0xff, 0xff, 0x02, 0x00, 0x00, 0x00, 0x00, 0x01, 0x08, 0x00,
    0x45, 0x00, 0x00, 0x1d, 0x30, 0x39, 0x00, 0x00, 0x40, 0x11, 0x36, 0x95,
    10, 0, 0, 1, 10, 0, 0, 2, 0x23, 0x28, 0x23, 0x28, 0x00, 0x09, 0x00, 0x00, 0x07]

def sampleMaps : XdpMaps := ⟨some ⟨word32 10 0 0 2, word16 0x23 0x28⟩, fun _ => some 3⟩

theorem filter_parser_agree_sample :
    unicastFilter sampleMaps 0 sampleFrame = some (.redirect 0) ∧
      ∃ r, extractUdpPayload sampleFrame = some (some r) ∧ r.offset = 42 ∧ r.offset + r.len = 43 := by
  have hredirect : unicastFilter sampleMaps 0 sampleFrame = some (.redirect 0) := by decide
  rcases (filter_parser_agree sampleMaps 0 sampleFrame).1 ⟨0, hredirect⟩ with
    ⟨ihl, u, r, hihl, hu, hextract, haccept, hrange⟩
  have hihl' : ihl = 5 := (Option.some.inj hihl).symm
  subst hihl'
  have hu' : u = htons 9 := by
    apply (Option.some.inj _).symm
    rw [← hu]
    decide
  subst hu'
  rcases Option.isSome_iff_exists.mp (haccept.mpr (by decide)) with ⟨payload, rfl⟩
  exact ⟨hredirect, payload, hextract, hrange payload rfl⟩

end TradingLatency.AfXdp
