import TradingLatency.AfXdp.Packet
import Mathlib.Algebra.Order.BigOperators.Group.List
import Mathlib.Algebra.Order.Ring.Nat

/-!
# The packet round trip

What `createUdpPacket` leaves in the frame, byte for byte, and what follows from
it: the packet is one that the filter redirects to its destination and that the
parser takes apart again, its lengths are those of the payload, and its IP
header has a correct checksum (`packet_round_trip`).
-/

namespace TradingLatency.AfXdp

open CText Bytes Inet

variable (host : Host) (dest : Destination)

/-! ## The bytes of a packet -/

def ethHeader : Bytes :=
  (host.dstMac dest).bytes ++ host.srcMac.bytes ++ image16 (htons ethPIp)

/-- The IP header in front of a payload of `n` bytes, with the checksum `check`. -/
def ipHeader (n : Nat) (check : UInt16) : Bytes :=
  [0x45, 0] ++ image16 (htons (UInt16.ofNat (28 + n))) ++ image16 (htons 12345) ++ image16 0 ++
    [64, 17] ++ image16 check ++ image32 host.saddr ++ image32 dest.sinAddr

def udpHeader (n : Nat) : Bytes :=
  image16 (htons host.listenPort) ++ image16 dest.sinPort ++
    image16 (htons (UInt16.ofNat (8 + n))) ++ image16 0

/-- The words of an IP header, from its bytes. -/
def headerWords : Bytes → List UInt16
  | a :: b :: rest => word16 a b :: headerWords rest
  | _ => []

def sumWords (ws : List UInt16) : UInt32 := ws.foldl (fun sum w => sum + w.toUInt32) 0

/-- The checksum of the IP header. -/
def ipChecksum (n : Nat) : UInt16 :=
  ~~~(foldCarries (sumWords (headerWords (ipHeader host dest n 0)))).toUInt16

theorem writeEthHeader_eq (r : Bytes) :
    writeEthHeader host dest (List.replicate 42 0 ++ r) =
      ethHeader host dest ++ (List.replicate 28 0 ++ r) := by
  unfold writeEthHeader ethHeader
  rcases host.dstMac dest with ⟨dst, hdst⟩
  rcases host.srcMac with ⟨src, hsrc⟩
  match dst, hdst, src, hsrc with
  | [_, _, _, _, _, _], _, [_, _, _, _, _, _], _ => rfl

theorem length_ethHeader : (ethHeader host dest).length = 14 := by
  simp [ethHeader, (host.dstMac dest).length_eq, host.srcMac.length_eq, image16]

theorem writeIpHeader_eq (n : Nat) (r : Bytes) :
    writeIpHeader host dest n (ethHeader host dest ++ (List.replicate 28 0 ++ r)) =
      ethHeader host dest ++ (ipHeader host dest n 0 ++ (List.replicate 8 0 ++ r)) := by
  have hlen : (ethHeader host dest).length = ethHdrLen := length_ethHeader host dest
  have hfirst : ∀ m bytes, Bytes.store (ethHeader host dest ++ m) ethHdrLen bytes =
      ethHeader host dest ++ m.store 0 bytes := fun m bytes => store_append_left hlen m bytes 0
  have hload : ∀ x m, Bytes.load8 (ethHeader host dest ++ x :: m) ethHdrLen = some x :=
    fun x m => load8_append_left hlen (x :: m) 0
  have hzeros : ∀ k, List.replicate (k + 1) (0 : UInt8) = 0 :: List.replicate k 0 := fun k => rfl
  -- every field is a store at a fixed offset behind the Ethernet header
  simp only [writeIpHeader, setIpVersion, setIpIhl, hfirst, hload, store_append_left hlen, hzeros,
    List.cons_append, store_cons_zero, store_cons_succ, store_nil, image16, image32]
  rfl

theorem ipSum_eq (n : Nat) (r : Bytes) :
    ipSum (ethHeader host dest ++ (ipHeader host dest n 0 ++ r)) =
      sumWords (headerWords (ipHeader host dest n 0)) := by
  have hlen : (ethHeader host dest).length = ethHdrLen := length_ethHeader host dest
  -- the ten words are read from the header only
  simp only [ipSum, ipWord, load16_append_left hlen]
  rfl

theorem writeIpChecksum_eq (n : Nat) (r : Bytes) :
    writeIpChecksum (ethHeader host dest ++ (ipHeader host dest n 0 ++ r)) =
      ethHeader host dest ++ (ipHeader host dest n (ipChecksum host dest n) ++ r) := by
  have hlen : (ethHeader host dest).length = ethHdrLen := length_ethHeader host dest
  rw [writeIpChecksum, ipSum_eq, store_append_left hlen, ← ipChecksum]
  simp only [ipHeader, image16, image32, List.cons_append, List.nil_append, store_cons_zero,
    store_cons_succ, store_nil]

theorem writeUdpHeader_eq (n : Nat) {l : Bytes} (hl : l.length = 34) (r : Bytes) :
    writeUdpHeader host dest n (l ++ (List.replicate 8 0 ++ r)) =
      l ++ (udpHeader host dest n ++ r) := by
  have hlen : l.length = ethHdrLen + ipHdrLen := hl
  have hfirst : ∀ m bytes, Bytes.store (l ++ m) (ethHdrLen + ipHdrLen) bytes =
      l ++ m.store 0 bytes := fun m bytes => store_append_left hlen m bytes 0
  have hzeros : ∀ k, List.replicate (k + 1) (0 : UInt8) = 0 :: List.replicate k 0 := fun k => rfl
  simp only [writeUdpHeader, hfirst, store_append_left hlen, hzeros, List.cons_append,
    store_cons_zero, store_cons_succ, store_nil, image16]
  rfl

/-- The headers of a packet with a payload of `n` bytes. -/
def packetHeaders (n : Nat) : Bytes :=
  ethHeader host dest ++ ipHeader host dest n (ipChecksum host dest n) ++ udpHeader host dest n

theorem length_packetHeaders (n : Nat) : (packetHeaders host dest n).length = 42 := by
  rw [packetHeaders, List.length_append, List.length_append, length_ethHeader]
  rfl

/-- What `createUdpPacket` returns and leaves in the buffer. -/
theorem createUdpPacket_eq {payload buffer : Bytes} (h : 42 + payload.length ≤ buffer.length) :
    createUdpPacket host dest payload buffer =
      (42 + payload.length, packetHeaders host dest payload.length ++
        (payload ++ buffer.drop (42 + payload.length))) := by
  have hsizes : ethHdrLen + ipHdrLen + udpHdrLen = 42 := rfl
  have hmemset : buffer.store 0 (List.replicate (42 + payload.length) 0) =
      List.replicate 42 0 ++ (List.replicate payload.length 0 ++ buffer.drop (42 + payload.length)) := by
    rw [store, List.take_zero, List.nil_append, Nat.zero_add, List.length_replicate,
      ← List.replicate_append_replicate, List.append_assoc]
  have hip : (ethHeader host dest ++
      ipHeader host dest payload.length (ipChecksum host dest payload.length)).length = 34 := by
    rw [List.length_append, length_ethHeader]
    rfl
  simp only [createUdpPacket, hsizes]
  -- each write of the source replaces the zeros of the next header by its bytes
  rw [if_neg (by omega), hmemset, writeEthHeader_eq, writeIpHeader_eq, writeIpChecksum_eq,
    ← List.append_assoc, writeUdpHeader_eq _ _ _ hip, ← List.append_assoc, ← packetHeaders]
  have hpayload := store_append (packetHeaders host dest payload.length)
    (List.replicate payload.length 0) payload (buffer.drop (42 + payload.length))
    List.length_replicate
  rw [length_packetHeaders] at hpayload
  rw [hpayload]

/-- A payload that does not fit leaves the buffer alone. -/
theorem createUdpPacket_too_large {payload buffer : Bytes}
    (h : buffer.length < 42 + payload.length) :
    createUdpPacket host dest payload buffer = (0, buffer) := by
  have hsizes : ethHdrLen + ipHdrLen + udpHdrLen = 42 := rfl
  simp only [createUdpPacket, hsizes]
  rw [if_pos h]

/-! ## The fields of a packet -/

variable {host dest}

theorem ethHProto_packet (n : Nat) (payload : Bytes) :
    ethHProto (packetHeaders host dest n ++ payload) = some (htons ethPIp) := by
  have hmacs : ((host.dstMac dest).bytes ++ host.srcMac.bytes).length = 12 := by
    rw [List.length_append, (host.dstMac dest).length_eq, host.srcMac.length_eq]
  rw [packetHeaders, ethHeader, List.append_assoc, List.append_assoc, List.append_assoc]
  exact load16_append_left hmacs _ 0

/-- The bytes behind the Ethernet header. -/
theorem packetHeaders_append (n : Nat) (payload : Bytes) :
    packetHeaders host dest n ++ payload = ethHeader host dest ++
      (ipHeader host dest n (ipChecksum host dest n) ++ (udpHeader host dest n ++ payload)) := by
  rw [packetHeaders, List.append_assoc, List.append_assoc]

theorem udpFrame_packet (n : Nat) (payload : Bytes) :
    UdpFrame (packetHeaders host dest n ++ payload) 5 where
  proto := ethHProto_packet n payload
  protocol := by
    rw [packetHeaders_append]
    exact load8_append_left (length_ethHeader host dest) _ 9
  ihl_eq := by
    rw [packetHeaders_append]
    exact congrArg (Option.map (· &&& 0x0f)) (load8_append_left (length_ethHeader host dest) _ 0)
  ihl_ge := by decide
  length_ge := by
    rw [List.length_append, length_packetHeaders]
    exact Nat.le_add_right _ _

theorem ipTotLen_packet (n : Nat) (payload : Bytes) :
    ipTotLen (packetHeaders host dest n ++ payload) = some (htons (UInt16.ofNat (28 + n))) := by
  rw [packetHeaders_append]
  refine (load16_append_left (length_ethHeader host dest) _ 2).trans ?_
  exact congrArg some (word16_bytes _)

theorem ipDaddr_packet (n : Nat) (payload : Bytes) :
    ipDaddr (packetHeaders host dest n ++ payload) = some dest.sinAddr := by
  rw [packetHeaders_append]
  refine (load32_append_left (length_ethHeader host dest) _ 16).trans ?_
  exact congrArg some (word32_bytes _)

theorem udpDest_packet (n : Nat) (payload : Bytes) :
    udpDest (packetHeaders host dest n ++ payload) 34 = some dest.sinPort := by
  rw [packetHeaders_append]
  refine (load16_append_left (length_ethHeader host dest) _ 22).trans ?_
  exact congrArg some (word16_bytes _)

theorem udpLen_packet (n : Nat) (payload : Bytes) :
    udpLen (packetHeaders host dest n ++ payload) 34 = some (htons (UInt16.ofNat (8 + n))) := by
  rw [packetHeaders_append]
  refine (load16_append_left (length_ethHeader host dest) _ 24).trans ?_
  exact congrArg some (word16_bytes _)

/-- The parser takes the payload out of a packet. -/
theorem extractUdpPayload_packet {payload : Bytes} (h : 42 + payload.length ≤ 4096) :
    ∃ extracted, extractUdpPayload (packetHeaders host dest payload.length ++ payload) =
        some (some extracted) ∧
      extracted.bytes (packetHeaders host dest payload.length ++ payload) = payload := by
  have hheaders := length_packetHeaders host dest payload.length
  have hudp : (UInt16.ofNat (8 + payload.length)).toNat = 8 + payload.length :=
    UInt16.toNat_ofNat_of_lt' (by show _ < 65536; omega)
  have hfive : (5 : UInt8).toNat = 5 := rfl
  refine ⟨⟨42, payload.length⟩, ?_, ?_⟩
  · rw [extractUdpPayload_of_udpFrame (udpFrame_packet _ _) (udpLen_packet _ _), htons_htons, hudp,
      List.length_append, hheaders, hfive, if_pos (by omega), Nat.add_sub_cancel_left]
  · rw [Payload.bytes, ← hheaders, List.drop_left, List.take_length]

/-! ## The checksum -/

theorem foldCarries_spec (sum : UInt32) :
    (foldCarries sum).toNat ≡ sum.toNat [MOD 2 ^ 16 - 1] ∧ (foldCarries sum).toNat < 2 ^ 16 := by
  -- a carry keeps the residue, and the loop ends below 2^16
  induction sum using foldCarries.induct with
  | case1 sum hcarry ih =>
    rw [foldCarries, if_pos hcarry]
    refine ⟨ih.1.trans ?_, ih.2⟩
    rw [toNat_carry]
    exact OnesComplement.carry_modEq 16 sum.toNat
  | case2 sum hdone =>
    rw [foldCarries, if_neg hdone]
    rw [shiftRight_ne_zero_iff] at hdone
    exact ⟨Nat.ModEq.rfl, by omega⟩

theorem toNat_foldl_add (ws : List UInt16) (acc : UInt32)
    (h : acc.toNat + (ws.map UInt16.toNat).sum < 2 ^ 32) :
    (ws.foldl (fun sum w => sum + w.toUInt32) acc).toNat =
      acc.toNat + (ws.map UInt16.toNat).sum := by
  -- on the words, with what has been added so far
  induction ws generalizing acc with
  | nil => rfl
  | cons w ws ih =>
    rw [List.map_cons, List.sum_cons] at h ⊢
    have hacc : (acc + w.toUInt32).toNat = acc.toNat + w.toNat := by
      rw [UInt32.toNat_add, UInt16.toNat_toUInt32]
      exact Nat.mod_eq_of_lt (by omega)
    rw [List.foldl_cons, ih (acc + w.toUInt32) (by omega), hacc, Nat.add_assoc]

/-- The sum of the words does not overflow. -/
theorem toNat_sumWords {ws : List UInt16} (h : ws.length ≤ 2 ^ 16) :
    (sumWords ws).toNat = (ws.map UInt16.toNat).sum := by
  have hle : (ws.map UInt16.toNat).sum ≤ ws.length * (2 ^ 16 - 1) := by
    have hword : ∀ x ∈ ws.map UInt16.toNat, x ≤ 2 ^ 16 - 1 := by
      intro x hx
      rcases List.mem_map.mp hx with ⟨w, -, rfl⟩
      exact Nat.le_sub_one_of_lt w.toNat_lt
    simpa using List.sum_le_card_nsmul _ _ hword
  have hzero : (0 : UInt32).toNat = 0 := rfl
  rw [sumWords, toNat_foldl_add ws 0 (by omega), hzero, Nat.zero_add]

theorem headerWords_ipHeader (n : Nat) (check : UInt16) :
    headerWords (ipHeader host dest n check) =
      [0x0045, htons (UInt16.ofNat (28 + n)), htons 12345, 0, 0x1140] ++
        check :: headerWords (image32 host.saddr ++ image32 dest.sinAddr) := by
  have hver : word16 0x45 0 = 0x0045 := rfl
  have hproto : word16 64 17 = 0x1140 := rfl
  simp only [ipHeader, image16, image32, List.cons_append, List.nil_append, headerWords,
    word16_bytes, hver, hproto]

/-- With its checksum the words of the IP header sum to a multiple of 65535. -/
theorem dvd_sum_headerWords (n : Nat) :
    2 ^ 16 - 1 ∣ ((headerWords (ipHeader host dest n (ipChecksum host dest n))).map
      UInt16.toNat).sum := by
  have hsum : ∀ check, ((headerWords (ipHeader host dest n check)).map UInt16.toNat).sum =
      ((headerWords (ipHeader host dest n 0)).map UInt16.toNat).sum + check.toNat := by
    intro check
    have hzero : (0 : UInt16).toNat = 0 := rfl
    simp only [headerWords_ipHeader, List.map_append, List.map_cons, List.sum_append,
      List.sum_cons, hzero]
    omega
  have hlen : (headerWords (ipHeader host dest n 0)).length ≤ 2 ^ 16 := by
    have hten : (headerWords (ipHeader host dest n 0)).length = 10 := by
      rw [headerWords_ipHeader]
      rfl
    omega
  rcases foldCarries_spec (sumWords (headerWords (ipHeader host dest n 0))) with ⟨hmod, hlt⟩
  rw [toNat_sumWords hlen] at hmod
  -- the complement of a 16-bit word is its distance from 65535
  have hcheck : (ipChecksum host dest n).toNat =
      2 ^ 16 - 1 - (foldCarries (sumWords (headerWords (ipHeader host dest n 0)))).toNat := by
    rw [ipChecksum, UInt16.toNat_not, UInt32.toNat_toUInt16, Nat.mod_eq_of_lt hlt]
    rfl
  rw [hsum, hcheck]
  exact OnesComplement.dvd_add_complement hmod hlt

/-- Changing the byte order of a word multiplies it by 256. -/
theorem toNat_htons_modEq (x : UInt16) : (htons x).toNat ≡ 256 * x.toNat [MOD 2 ^ 16 - 1] := by
  rw [← word16_bytes x, htons_word16, toNat_word16, toNat_word16, Nat.add_comm]
  exact OnesComplement.swap_modEq 8 _ _

theorem sum_map_htons_modEq (ws : List UInt16) :
    (ws.map fun w => (htons w).toNat).sum ≡ 256 * (ws.map UInt16.toNat).sum [MOD 2 ^ 16 - 1] := by
  induction ws with
  | nil => exact Nat.ModEq.rfl
  | cons w ws ih =>
    rw [List.map_cons, List.sum_cons, List.map_cons, List.sum_cons, Nat.mul_add]
    exact (toNat_htons_modEq w).add ih

/-- The words of the IP header, in the byte order `order`, sum to all ones. -/
theorem sum_headerWords (n : Nat) {order : UInt16 → UInt16} (horder : order = id ∨ order = htons) :
    OnesComplement.sum 16 ((headerWords (ipHeader host dest n (ipChecksum host dest n))).map
      fun w => (order w).toNat) = 0xffff := by
  have hdvd : 2 ^ 16 - 1 ∣ ((headerWords (ipHeader host dest n (ipChecksum host dest n))).map
      fun w => (order w).toNat).sum := by
    rcases horder with rfl | rfl
    · exact dvd_sum_headerWords n
    · rw [(sum_map_htons_modEq _).dvd_iff (Nat.dvd_refl _)]
      exact Nat.dvd_mul_left_of_dvd (dvd_sum_headerWords n) 256
  apply OnesComplement.sum_eq_ones _ hdvd
  · -- the version makes the first word something else than zero
    have hver : (order 0x0045).toNat ≠ 0 := by
      rcases horder with rfl | rfl <;> decide
    rw [headerWords_ipHeader, List.map_append, List.map_cons, List.sum_append, List.sum_cons]
    omega
  · intro x hx
    rcases List.mem_map.mp hx with ⟨w, -, rfl⟩
    exact (order w).toNat_lt

/-! ## Round trip -/

/-- A packet is taken apart into what it was made of. -/
theorem packet_round_trip (host : Host) (dest : Destination) (payload buffer : Bytes)
    (hbuffer : buffer.length = 4096) :
    (42 + payload.length ≤ 4096 →
      ∃ packet, (createUdpPacket host dest payload buffer).1 = 42 + payload.length ∧
        packet = (createUdpPacket host dest payload buffer).2.take (42 + payload.length) ∧
        packet.length = 42 + payload.length ∧
        (∃ extracted, extractUdpPayload packet = some (some extracted) ∧
          extracted.bytes packet = payload) ∧
        (∀ maps q, maps.config = some ⟨dest.sinAddr, dest.sinPort⟩ → (maps.xsks q).isSome →
          unicastFilter maps q packet = some (.redirect q)) ∧
        (headerWords ((packet.drop 14).take 20)).length = 10 ∧
        (∀ order, order = id ∨ order = htons →
          OnesComplement.sum 16 ((headerWords ((packet.drop 14).take 20)).map
            fun w => (order w).toNat) = 0xffff) ∧
        (∃ totLen, ipTotLen packet = some totLen ∧ (htons totLen).toNat = 28 + payload.length) ∧
        ∃ len, udpLen packet 34 = some len ∧ (htons len).toNat = 8 + payload.length) ∧
    (4096 < 42 + payload.length → createUdpPacket host dest payload buffer = (0, buffer)) := by
  refine ⟨fun hfits => ?_, fun hlarge => createUdpPacket_too_large host dest (by omega)⟩
  have heq := @createUdpPacket_eq host dest payload buffer (by omega)
  have hheaders := length_packetHeaders host dest payload.length
  have hlen : (packetHeaders host dest payload.length ++ payload).length = 42 + payload.length := by
    rw [List.length_append, hheaders]
  have htake : (createUdpPacket host dest payload buffer).2.take (42 + payload.length) =
      packetHeaders host dest payload.length ++ payload := by
    rw [heq, ← List.append_assoc, ← hlen, List.take_left]
  have hframe := @udpFrame_packet host dest payload.length payload
  have htot : (UInt16.ofNat (28 + payload.length)).toNat = 28 + payload.length :=
    UInt16.toNat_ofNat_of_lt' (by show _ < 65536; omega)
  have hudp : (UInt16.ofNat (8 + payload.length)).toNat = 8 + payload.length :=
    UInt16.toNat_ofNat_of_lt' (by show _ < 65536; omega)
  have hip : ((packetHeaders host dest payload.length ++ payload).drop 14).take 20 =
      ipHeader host dest payload.length (ipChecksum host dest payload.length) := by
    rw [packetHeaders_append, ← length_ethHeader host dest, List.drop_left]
    rfl
  refine ⟨_, by rw [heq], htake.symm, hlen, ?_, ?_, ?_, ?_, ?_, ?_⟩
  · exact extractUdpPayload_packet hfits
  · intro maps q hconfig hxsk
    rw [unicastFilter_of_udpFrame hframe (udpDest_packet _ _) (ipDaddr_packet _ _),
      if_pos ⟨hconfig, hxsk⟩]
  · rw [hip, headerWords_ipHeader]
    rfl
  · intro order horder
    rw [hip]
    exact sum_headerWords payload.length horder
  · exact ⟨_, ipTotLen_packet _ _, by rw [htons_htons, htot]⟩
  · exact ⟨_, udpLen_packet _ _, by rw [htons_htons, hudp]⟩

/-- A host that knows no hardware address and listens on 10.0.0.1:9000. -/
def sampleHost : Host := ⟨fun _ => none, none, none, inetNtoa (word32 10 0 0 1), 9000⟩

/-- The destination 10.0.0.2:9000. -/
def sampleDestination : Destination :=
  ⟨inetNtoa (word32 10 0 0 2), 9000, word32 10 0 0 2, inetAton_inetNtoa _⟩

theorem packet_round_trip_three :
    ∃ packet, (createUdpPacket sampleHost sampleDestination [1, 2, 3]
        (List.replicate 4096 0)).2.take 45 = packet ∧
      ∃ extracted, extractUdpPayload packet = some (some extracted) ∧
        extracted.bytes packet = [1, 2, 3] := by
  rcases (packet_round_trip sampleHost sampleDestination [1, 2, 3] (List.replicate 4096 0)
    List.length_replicate).1 (by decide) with ⟨packet, -, hpacket, -, hextract, -⟩
  exact ⟨packet, hpacket.symm, hextract⟩

end TradingLatency.AfXdp
