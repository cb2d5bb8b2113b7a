import TradingLatency.AfXdp.Control
import Mathlib.Data.Finset.Card
import Mathlib.Data.Finset.Range

/-!
# Listing the destinations

A `ControlClient` sends any sequence of additions and removals and then asks for
the list. The response has one record of six bytes for each destination, in the
order of the set. What the client prints is complete exactly when all records
arrive in its buffer (`listing_correct_iff`); with 171 destinations the last one
is missing (`listing_incomplete`).
-/

namespace TradingLatency.AfXdp

open CText Bytes Inet

/-! ## The calls of the client -/

/-- A call of `addDestination` or `removeDestination` of the client. -/
inductive ClientCall where
  | add (ip : Text) (port : UInt16)
  | remove (ip : Text) (port : UInt16)

/-- The datagram that a call sends. -/
def ClientCall.message : ClientCall → Option Bytes
  | .add ip port => addMessage ip port
  | .remove ip port => removeMessage ip port

/-- What a call should do to the set of destinations: nothing if the text is no
address. -/
def ClientCall.apply (pairs : Finset Pair) : ClientCall → Finset Pair
  | .add ip port =>
      match inetAton ip with
      | none => pairs
      | some addr => insert (addr, port) pairs
  | .remove ip port =>
      match inetAton ip with
      | none => pairs
      | some addr => pairs.erase (addr, port)

/-- The destinations that were added and not removed since. -/
def activePairs (calls : List ClientCall) : Finset Pair := calls.foldl ClientCall.apply ∅

theorem changeOf_changeMessage (command : UInt8) (addr : UInt32) (port : UInt16) :
    changeOf (command :: (image32 addr ++ image16 (htons port))) =
      if command = ctrlAddDestination then some (.add (addr, port))
      else if command = ctrlRemoveDestination then some (.remove (addr, port))
      else none := by
  simp only [image32, image16, List.cons_append, List.nil_append, changeOf, word32_bytes,
    word16_bytes, htons_htons]

/-- The datagram of a call does to the set what the call should. -/
theorem applyMessage_message (call : ClientCall) (pairs : Finset Pair) :
    (call.message.map (applyMessage pairs)).getD pairs = call.apply pairs := by
  cases call with
  | add ip port =>
    simp only [ClientCall.message, addMessage, changeMessage, ClientCall.apply]
    cases inetAton ip with
    | none => rfl
    | some addr =>
      show applyMessage pairs (ctrlAddDestination :: (image32 addr ++ image16 (htons port))) = _
      rw [applyMessage, changeOf_changeMessage, if_pos rfl]
      rfl
  | remove ip port =>
    simp only [ClientCall.message, removeMessage, changeMessage, ClientCall.apply]
    cases inetAton ip with
    | none => rfl
    | some addr =>
      show applyMessage pairs (ctrlRemoveDestination :: (image32 addr ++ image16 (htons port))) = _
      rw [applyMessage, changeOf_changeMessage, if_neg (by decide), if_pos rfl]
      rfl

theorem foldl_applyMessage (calls : List ClientCall) (pairs : Finset Pair) :
    (calls.filterMap ClientCall.message).foldl applyMessage pairs =
      calls.foldl ClientCall.apply pairs := by
  induction calls generalizing pairs with
  | nil => rfl
  | cons call calls ih =>
    have hcall := applyMessage_message call pairs
    rw [List.foldl_cons, List.filterMap_cons]
    -- an address that is no address is refused before anything is sent
    cases hmessage : call.message with
    | none =>
      rw [hmessage] at hcall
      rw [← hcall]
      exact ih pairs
    | some message =>
      rw [hmessage] at hcall
      rw [← hcall]
      exact ih (applyMessage pairs message)

/-- The replicator behind the calls of a client. -/
theorem runControl_calls (calls : List ClientCall) :
    ∃ dests, runControl SortedSet.empty (calls.filterMap ClientCall.message) = some dests ∧
      Represents dests (activePairs calls) := by
  have h := runControl_represents represents_empty (calls.filterMap ClientCall.message)
  rwa [foldl_applyMessage] at h

/-! ## The response -/

/-- An entry as it is printed. -/
def Listing.entryOf (p : Pair) : Text × UInt16 := (inetNtoa p.1, p.2)

theorem Listing.entryOf_injective : Function.Injective Listing.entryOf := by
  intro p q h
  have haddr : p.1 = q.1 := inetNtoa_inj.mp (congrArg (fun e : Text × UInt16 => e.1) h)
  have hport : p.2 = q.2 := congrArg (fun e : Text × UInt16 => e.2) h
  exact Prod.ext haddr hport

/-- The listing has an entry for each pair and for nothing else, no entry twice,
and the count is right. -/
structure Listing.Shows (listing : Listing) (pairs : Finset Pair) : Prop where
  nodup : listing.entries.Nodup
  mem : ∀ e, e ∈ listing.entries ↔ ∃ p ∈ pairs, e = Listing.entryOf p
  count : listing.count.toNat = pairs.card

theorem length_readEntries (count : Nat) (bytes : Bytes) :
    6 * (readEntries count bytes).length ≤ bytes.length := by
  -- on the count, each entry taking six bytes of what is left
  induction count generalizing bytes with
  | zero => simp [readEntries]
  | succ count ih =>
    unfold readEntries
    split
    · rename_i rest
      have := ih rest
      simp only [List.length_cons]
      omega
    · simp

/-- The records of a list of destinations. -/
def listRecords (ps : List Pair) : Bytes :=
  ((ps.map Destination.ofPair).map fun d => image32 d.sinAddr ++ image16 (htons d.port)).flatten

theorem length_listRecords (ps : List Pair) : (listRecords ps).length = 6 * ps.length := by
  unfold listRecords
  induction ps with
  | nil => rfl
  | cons p ps ih =>
    simp only [List.map_cons, List.flatten_cons, List.length_append, ih, List.length_cons]
    simp only [image32, image16, List.length_cons, List.length_nil]
    omega

/-- Reading all records back. -/
theorem readEntries_listRecords (ps : List Pair) :
    readEntries ps.length (listRecords ps) = ps.map Listing.entryOf := by
  unfold listRecords
  induction ps with
  | nil => rfl
  | cons p ps ih =>
    have hrecord : ∀ rest : Bytes, readEntries (ps.length + 1)
        (image32 p.1 ++ image16 (htons p.2) ++ rest) =
        Listing.entryOf p :: readEntries ps.length rest := by
      intro rest
      simp only [image32, image16, List.cons_append, List.nil_append, readEntries, word32_bytes,
        word16_bytes, htons_htons, Listing.entryOf]
    rw [List.map_cons, List.map_cons, List.flatten_cons, List.length_cons]
    exact (hrecord _).trans (congrArg _ ih)

/-- The response is read back completely if and only if there are at most 170
destinations. -/
theorem shows_iff {dests : Destinations} {pairs : Finset Pair} (h : Represents dests pairs) :
    ∃ listing, readListing (listResponse dests) = some listing ∧
      (listing.Shows pairs ↔ pairs.card ≤ 170) := by
  rcases h.exists_list with ⟨ps, helems, hnodup, hmem⟩
  -- the records are in the order of the texts, the set has no order
  have hcard : pairs.card = ps.length := by
    have hset : ps.toFinset = pairs := by
      ext p
      rw [List.mem_toFinset]
      exact hmem p
    rw [← hset, List.toFinset_card_of_nodup hnodup]
  have hlen := length_listRecords ps
  have hresponse : listResponse dests = UInt8.ofNat ps.length :: listRecords ps := by
    rw [listResponse, helems, List.length_map]
    rfl
  have htake : (UInt8.ofNat ps.length :: listRecords ps).take controlBufferSize =
      UInt8.ofNat ps.length :: (listRecords ps).take 1023 := rfl
  refine ⟨⟨UInt8.ofNat ps.length,
    readEntries (UInt8.ofNat ps.length).toNat ((listRecords ps).take 1023)⟩, ?_, ?_⟩
  · rw [readListing, hresponse, htake]
  constructor
  · -- 170 records and the count fill the buffer
    intro hshows
    have hsix := length_readEntries (UInt8.ofNat ps.length).toNat ((listRecords ps).take 1023)
    have hentries : (readEntries (UInt8.ofNat ps.length).toNat
        ((listRecords ps).take 1023)).length = pairs.card := by
      rw [← List.toFinset_card_of_nodup hshows.nodup,
        ← Finset.card_image_of_injective pairs Listing.entryOf_injective]
      congr 1
      ext e
      rw [List.mem_toFinset, Finset.mem_image, hshows.mem e]
      simp only [eq_comm]
    rw [List.length_take] at hsix
    omega
  -- 170 records of six bytes and the count are 1021 bytes
  · intro hle
    have hcount : (UInt8.ofNat ps.length).toNat = ps.length :=
      UInt8.toNat_ofNat_of_lt' (by show ps.length < 256; omega)
    have hall : (listRecords ps).take 1023 = listRecords ps := List.take_of_length_le (by omega)
    rw [hcount, hall, readEntries_listRecords]
    refine ⟨hnodup.map Listing.entryOf_injective, ?_, ?_⟩
    · intro e
      rw [List.mem_map]
      constructor
      · rintro ⟨p, hp, rfl⟩
        exact ⟨p, (hmem p).mp hp, rfl⟩
      · rintro ⟨p, hp, rfl⟩
        exact ⟨p, (hmem p).mpr hp, rfl⟩
    · rw [hcount, hcard]

/-- The listing shows the destinations that were added and not removed since, if
and only if there are at most 170. -/
theorem listing_correct_iff (calls : List ClientCall) :
    ∃ dests response listing,
      runControl SortedSet.empty (calls.filterMap ClientCall.message) = some dests ∧
      handleControlMessage dests [ctrlListDestinations] = some (response, dests) ∧
      readListing response = some listing ∧
      (listing.Shows (activePairs calls) ↔ (activePairs calls).card ≤ 170) := by
  rcases runControl_calls calls with ⟨dests, hrun, hrep⟩
  rcases shows_iff hrep with ⟨listing, hread, hiff⟩
  exact ⟨dests, listResponse dests, listing, hrun, processControlMessage_list dests [], hread, hiff⟩

/-- Additions of 10.0.0.1 with the ports below `n`. -/
def addPorts (n : Nat) : List ClientCall :=
  (List.range n).map fun i => .add (inetNtoa (word32 10 0 0 1)) (UInt16.ofNat i)

theorem activePairs_addPorts (n : Nat) :
    activePairs (addPorts n) =
      (Finset.range n).image fun i => (word32 10 0 0 1, UInt16.ofNat i) := by
  induction n with
  | zero => rfl
  | succ n ih =>
    have hcalls : addPorts (n + 1) =
        addPorts n ++ [.add (inetNtoa (word32 10 0 0 1)) (UInt16.ofNat n)] := by
      rw [addPorts, List.range_succ, List.map_append]
      rfl
    rw [hcalls, activePairs, List.foldl_append, List.foldl_cons, List.foldl_nil]
    rw [← activePairs, ih, Finset.range_add_one, Finset.image_insert]
    simp only [ClientCall.apply, inetAton_inetNtoa]

theorem card_activePairs_addPorts {n : Nat} (hn : n ≤ 65536) :
    (activePairs (addPorts n)).card = n := by
  rw [activePairs_addPorts, Finset.card_image_of_injOn, Finset.card_range]
  intro i hi j hj heq
  have hi' : i < n := Finset.mem_range.mp hi
  have hj' : j < n := Finset.mem_range.mp hj
  have hport : UInt16.ofNat i = UInt16.ofNat j := congrArg Prod.snd heq
  have hnat := congrArg UInt16.toNat hport
  rw [UInt16.toNat_ofNat', UInt16.toNat_ofNat'] at hnat
  rwa [Nat.mod_eq_of_lt (by omega), Nat.mod_eq_of_lt (by omega)] at hnat

/-- Of 171 destinations one is not listed. -/
theorem listing_incomplete :
    ∃ dests response listing,
      runControl SortedSet.empty ((addPorts 171).filterMap ClientCall.message) = some dests ∧
      handleControlMessage dests [ctrlListDestinations] = some (response, dests) ∧
      readListing response = some listing ∧ ¬ listing.Shows (activePairs (addPorts 171)) := by
  rcases runControl_calls (addPorts 171) with ⟨dests, hrun, hrep⟩
  rcases shows_iff hrep with ⟨listing, hread, hiff⟩
  refine ⟨dests, listResponse dests, listing, hrun, processControlMessage_list dests [], hread, ?_⟩
  rw [hiff, card_activePairs_addPorts (by decide)]
  decide

end TradingLatency.AfXdp
