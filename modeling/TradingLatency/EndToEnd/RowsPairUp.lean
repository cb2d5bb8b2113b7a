import TradingLatency.EndToEnd.RoundTrip

/-!
# Rows of client and server

`csvjoin` puts rows of the client and of the server together that have one
sequence number. Sequence numbers wrap, both programs keep timestamps at the
number modulo 50000, and on both sides one thread reads what another one writes.

`rows_pair_up` says that the main rows that are put together have the timestamps of
one packet, in every run of at most `2^32` packets in which nothing is delivered
twice or too late and the threads on both sides come in order: at the client the
two times of sending (slots 0 and 1), at the server the three times of its arrival
(slots 7, 8 and 9).
-/

namespace TradingLatency.RoundTripSystem

/-! ## Statement -/

/-- The packet of the client that a request is for. -/
def State.place (s : State) (r : Server.ReturnPacketRequest) : Nat := s.origin.getD r.packet 0

/-- The packet is one of the last 50000 that the client has sent. -/
def State.Recent (s : State) (k : Nat) : Prop := s.client.sent.length ≤ k + 50000

instance (s : State) (k : Nat) : Decidable (s.Recent k) := inferInstanceAs (Decidable (_ ≤ _))

/-- Both programs keep up: no datagram is delivered twice or when it is no longer
recent, the server holds requests for recent packets only, the sequence number has
not wrapped, and on both sides a thread comes behind the one that it relies on. -/
def KeepsUp (s : State) : Label → Prop
  | .client l => Client.BookkeepingDone s.client l
  | .server l => Server.LookupReady s.server l
  | .arrive k _ _ _ => k ∉ s.origin ∧ s.client.sent.length ≤ 2 ^ 32 ∧ s.Recent k ∧
      ∀ r ∈ s.server.inFlight, s.Recent (s.place r)
  | .answer i _ => i ∉ s.returned ∧ ∀ a ∈ s.server.accepted[i]?, s.Recent (s.place a)

/-- What a run in which both programs keep up preserves. -/
structure PairInv (cfg : Config) (m n : Nat) (s : State) : Prop where
  inv : Inv cfg s
  client : Client.RepliesInv cfg.client m s.client
  server : Server.CorrelatedInv n s.server
  origin_once : s.origin.Nodup
  origin_lt : ∀ k ∈ s.origin, k < 2 ^ 32
  returned_once : s.returned.Nodup

section PairInv

variable {cfg : Config} {m n : Nat} {s s' : State}

theorem Inv.place_eq (h : Inv cfg s) {r : Server.ReturnPacketRequest}
    (hr : r ∈ s.server.dequeued ++ s.server.queue.items) :
    s.origin[r.packet]? = some (s.place r) := by
  rcases h.request_origin hr with ⟨k, -, -, hk, -⟩
  rw [State.place, List.getD_eq_getElem?_getD, hk]
  rfl

/-- A request in flight is a dequeued or a queued one. -/
theorem mem_of_inFlight (h : Server.Inv s.server) {r : Server.ReturnPacketRequest}
    (hr : r ∈ s.server.inFlight) : r ∈ s.server.dequeued ++ s.server.queue.items := by
  rcases List.mem_append.mp hr with hr | hr
  · exact List.mem_append_left _ (h.pending.subset hr)
  · exact List.mem_append_right _ hr

/-- Two recent packets have different indices until the sequence number wraps. -/
theorem index_ne_of_recent {k k' : Nat} (hlen : s.client.sent.length ≤ 2 ^ 32)
    (hk : k < s.client.sent.length) (hk' : k' < s.client.sent.length) (hrecent : s.Recent k)
    (hrecent' : s.Recent k') (hne : k' ≠ k) :
    getCircularIndex (UInt32.ofNat k') ≠ getCircularIndex (UInt32.ofNat k) := by
  rcases Nat.lt_or_gt_of_ne hne with hlt | hlt
  · exact (Client.index_ne_of_unwrapped (Or.inl hlen) hrecent' hlt hk).symm
  · exact Client.index_ne_of_unwrapped (Or.inl hlen) hrecent hlt hk'

/-- Packets that arrive once and in time have different numbers while they are in
flight. -/
theorem Inv.distinctInFlight (h : Inv cfg s) {k : Nat} {p : Client.SentPacket}
    {hw ker app : Timespec} (hp : s.client.sent[k]? = some p)
    (hcond : KeepsUp s (.arrive k hw ker app)) :
    Server.DistinctInFlight s.server (.receive (cfg.packet p hw ker app)) := by
  obtain ⟨hnew, hlen, hrecent, hflight⟩ := hcond
  intro r hr
  have hmem := mem_of_inFlight h.server hr
  have hplace := h.place_eq hmem
  rcases h.arrived _ _ hplace with ⟨p', q, hp', -⟩
  have hne : s.place r ≠ k := by
    intro heq
    exact hnew (heq ▸ List.mem_of_getElem? hplace)
  rw [h.request_seqNum hmem hplace, seqNum_packet, h.numbered.sent k p hp]
  exact index_ne_of_recent hlen (List.getElem?_eq_some_iff.mp hp).1
    (List.getElem?_eq_some_iff.mp hp').1 hrecent (hflight r hr) hne

/-- A return packet answers a packet that was sent before. -/
theorem Inv.replyInTime (h : Inv cfg s) {i : Nat} {r : Client.Reply}
    {a : Server.ReturnPacketRequest} (ha : s.server.accepted[i]? = some a)
    (hmsg : Server.returnMessage a = (r.data, cfg.clientIp, cfg.rxPort))
    (hcond : KeepsUp s (.answer i r)) :
    Client.ReplyInTime s.client (.receive (s.origin.getD a.packet 0) r) := by
  intro _
  refine ⟨?_, hcond.2 a ha⟩
  rcases h.accepted_origin (List.mem_of_getElem? ha) with ⟨k, p, hk, hp, hreturn⟩
  have hdata : r.data = htonl p.seqNum := by
    rw [hreturn] at hmsg
    exact (congrArg Prod.fst hmsg).symm
  rw [List.getD_eq_getElem?_getD, hk, Option.getD_some, hp, Client.Reply.seqNum, hdata]
  exact congrArg some (ntohl_htonl p.seqNum []).symm

theorem step_repliesInv (hm : m < 32) {c c' : Client.State} {l : Client.Label}
    (h : Client.RepliesInv cfg.client m c) (htime : Client.ReplyInTime c l)
    (hready : Client.BookkeepingDone c l) (hl : Client.step cfg.client c l = some c') :
    Client.RepliesInv cfg.client m c' := by
  obtain ⟨hsend, hrows, log, hlog⟩ := h
  exact ⟨Client.step_sendInv hsend hl, Client.step_rowsInv hsend hrows htime hready hl,
    Client.step_statsInv hm hsend hrows hlog hready hl⟩

theorem step_correlatedInv (hn : n < 32) {t t' : Server.State} {l : Server.Label}
    (h : Server.CorrelatedInv n t) (hdistinct : Server.DistinctInFlight t l)
    (hready : Server.LookupReady t l) (hl : Server.step t l = some t') :
    Server.CorrelatedInv n t' := by
  obtain ⟨hinv, hnew, hslots, log, hlog⟩ := h
  exact ⟨Server.step_inv hinv hl, Server.step_newest hinv hnew hdistinct hl,
    Server.step_slotsInv hinv hnew hslots hready hl,
    Server.step_statsInv hn hinv hnew hlog hready hl⟩

theorem step_pairInv (hm : m < 32) (hn : n < 32) {l : Label} (h : PairInv cfg m n s)
    (hcond : KeepsUp s l) (hl : step cfg s l = some s') : PairInv cfg m n s' := by
  have hinv := step_inv h.inv hl
  cases l with
  | client l =>
    rcases step_client hl with ⟨hreceive, client, hstep, rfl⟩
    have htime : Client.ReplyInTime s.client l := by
      cases l with
      | receive k r => cases hreceive
      | _ => trivial
    exact { h with inv := hinv, client := step_repliesInv hm h.client htime hcond hstep }
  | server l =>
    rcases step_server hl with ⟨harrival, server, hstep, rfl⟩
    have hdistinct : Server.DistinctInFlight s.server l := by
      cases l with
      | receive p => cases harrival
      | _ => trivial
    exact { h with inv := hinv, server := step_correlatedInv hn h.server hdistinct hcond hstep }
  | arrive k hwRxTs kerRxTs appRxTs =>
    rcases step_arrive hl with ⟨p, server, hp, hstep, rfl⟩
    have hdistinct := h.inv.distinctInFlight hp hcond
    have hlt : k < 2 ^ 32 :=
      Nat.lt_of_lt_of_le (List.getElem?_eq_some_iff.mp hp).1 hcond.2.1
    refine ⟨hinv, h.client, step_correlatedInv hn h.server hdistinct trivial hstep, ?_, ?_,
      h.returned_once⟩
    · -- no packet arrives twice
      exact List.nodup_append.mpr ⟨h.origin_once, List.nodup_singleton k, by
        intro a ha b hb heq
        exact hcond.1 (List.mem_singleton.mp hb ▸ heq ▸ ha)⟩
    · intro k' hk'
      rcases List.mem_append.mp hk' with hk' | hk'
      · exact h.origin_lt k' hk'
      · rw [List.mem_singleton.mp hk']
        exact hlt
  | answer i r =>
    rcases step_answer hl with ⟨a, client, ha, hmsg, hstep, rfl⟩
    have htime := h.inv.replyInTime ha hmsg hcond
    refine ⟨hinv, step_repliesInv hm h.client htime trivial hstep, h.server, h.origin_once,
      h.origin_lt, ?_⟩
    -- no answer is delivered twice
    exact List.nodup_append.mpr ⟨h.returned_once, List.nodup_singleton i, by
      intro a ha b hb heq
      exact hcond.1 (List.mem_singleton.mp hb ▸ heq ▸ ha)⟩

/-- No two delivered return packets answer one packet. -/
theorem PairInv.answer_inj (h : PairInv cfg m n s) {i i' k : Nat} {x x' : List UInt8}
    (hi : s.answer? i = some (k, x)) (hi' : s.answer? i' = some (k, x')) : i = i' := by
  rcases Option.bind_eq_some_iff.mp hi with ⟨a, ha, hmap⟩
  rcases Option.map_eq_some_iff.mp hmap with ⟨l, hk, heq⟩
  rcases Option.bind_eq_some_iff.mp hi' with ⟨a', ha', hmap'⟩
  rcases Option.map_eq_some_iff.mp hmap' with ⟨l', hk', heq'⟩
  rcases Prod.mk.injEq .. ▸ heq with ⟨rfl, -⟩
  rcases Prod.mk.injEq .. ▸ heq' with ⟨rfl, -⟩
  -- one origin, so one packet at the server, so one place among the accepted ones
  have hpacket : a.packet = a'.packet := by
    have hlt := (List.getElem?_eq_some_iff.mp hk).1
    exact (List.getElem?_inj hlt h.origin_once).mp (hk.trans hk'.symm)
  have hnodup : (s.server.accepted.map (·.packet)).Nodup :=
    (Server.accepted_ascending h.inv.server).imp Nat.ne_of_lt
  have hlt : i < (s.server.accepted.map (·.packet)).length := by
    rw [List.length_map]
    exact (List.getElem?_eq_some_iff.mp ha).1
  refine (List.getElem?_inj hlt hnodup).mp ?_
  rw [List.getElem?_map, List.getElem?_map, ha, ha']
  exact congrArg some hpacket

/-- A packet is answered once. -/
theorem PairInv.rows_once (h : PairInv cfg m n s) : (s.client.rows.map (·.1)).Nodup := by
  have hhandled : ((handled s.client).map fun x => some x.1).Nodup := by
    have hreplies := congrArg (List.map (Option.map Prod.fst)) h.inv.replies
    rw [List.map_map, List.map_map] at hreplies
    show ((handled s.client).map (Option.map Prod.fst ∘ fun h => some (h.1, h.2.data))).Nodup
    rw [hreplies]
    -- different answers are to different packets
    refine List.Nodup.map_on ?_ h.returned_once
    intro i hi i' hi' heq
    have hsome : ∀ j ∈ s.returned, ∃ x, s.answer? j = some x := by
      intro j hj
      have hmem : s.answer? j ∈ s.returned.map s.answer? := List.mem_map_of_mem hj
      rw [← h.inv.replies] at hmem
      rcases List.mem_map.mp hmem with ⟨x, -, hx⟩
      exact ⟨_, hx.symm⟩
    rcases hsome i hi with ⟨⟨k, x⟩, hx⟩
    rcases hsome i' hi' with ⟨⟨k', x'⟩, hx'⟩
    simp only [Function.comp_apply, hx, hx', Option.map_some, Option.some.injEq] at heq
    subst heq
    exact h.answer_inj hx hx'
  have hprefix : (s.client.rows.map fun row => some row.1) <+:
      (handled s.client).map fun x => some x.1 := by
    rw [handled, List.map_append, List.map_map]
    exact List.prefix_append _ _
  have hnodup : ((s.client.rows.map (·.1)).map some).Nodup := by
    rw [List.map_map]
    exact hprefix.sublist.nodup hhandled
  exact List.Nodup.of_map _ hnodup

/-- Rows with one sequence number are rows of one packet. -/
theorem PairInv.paired (h : PairInv cfg m n s) {row : Nat × Client.Reply × CsvEntry}
    (hrow : row ∈ s.client.rows) {row' : Nat × CsvEntry} (hrow' : row' ∈ s.server.mainRows)
    (hseq : row.2.2.seqNum = row'.2.seqNum) : s.origin[row'.1]? = some row.1 := by
  rcases h.inv.row_answer hrow with ⟨a, ha, hk, hdata⟩
  rcases h.inv.accepted_origin ha with ⟨k, p, hk', hp, hreturn⟩
  cases hk.symm.trans hk'
  rcases h.inv.mainRows row' hrow' with ⟨r, hr, hplace, hnum⟩
  rcases h.inv.request_origin (List.mem_append_left _ hr) with ⟨j, -, -, hj, -⟩
  have hclient : row.2.2.seqNum = UInt32.ofNat row.1 := by
    rw [h.inv.row_seqNum hrow, Client.Reply.seqNum, ← hdata, hreturn]
    exact (ntohl_htonl p.seqNum []).trans (h.inv.numbered.sent _ p hp)
  have hserver : row'.2.seqNum = UInt32.ofNat j := by
    rw [hnum, h.inv.request_seqNum (List.mem_append_left _ hr) hj]
  -- both numbers are below 2^32, so neither has wrapped
  have heq : row.1 = j := by
    have hlt := h.origin_lt _ (List.mem_of_getElem? hk)
    have hlt' := h.origin_lt _ (List.mem_of_getElem? hj)
    have hnat := congrArg UInt32.toNat (hclient.symm.trans (hseq.trans hserver))
    rw [UInt32.toNat_ofNat_of_lt' hlt, UInt32.toNat_ofNat_of_lt' hlt'] at hnat
    exact hnat
  rw [← hplace, heq]
  exact hj

end PairInv

/-- The measurements of one run: main rows and statistics of both sides are right, no
packet has two rows at the client, and rows with one sequence number are about one
packet. -/
structure Measured (cfg : Config) (s : State) : Prop where
  client : Client.RepliesCorrelated cfg.client s.client
  server : Server.CorrelationCorrect s.server
  once : (s.client.rows.map (·.1)).Nodup
  paired : ∀ row ∈ s.client.rows, ∀ row' ∈ s.server.mainRows,
    row.2.2.seqNum = row'.2.seqNum → ∃ p q, s.client.sent[row.1]? = some p ∧
      s.server.received[row'.1]? = some q ∧ q = cfg.packet p q.hwRxTs q.kerRxTs q.appRxTs ∧
      Client.DescribesRow cfg.client row.2.1 row.2.2 p ∧ Server.DescribesMain row'.2 q

theorem PairInv.measured {cfg : Config} {m n : Nat} (hm : m < 32) (hn : n < 32) {s : State}
    (h : PairInv cfg m n s) : Measured cfg s := by
  have hclient := h.client.correlated hm
  have hserver := h.server.correct hn
  refine ⟨hclient, hserver, h.rows_once, ?_⟩
  intro row hrow row' hrow' hseq
  rcases hclient.rows row hrow with ⟨p, hp, hdescribes⟩
  rcases hserver.rows row' hrow' with ⟨q, hq, hmain⟩
  rcases h.inv.arrived _ _ (h.paired hrow hrow' hseq) with ⟨p', q', hp', hq', hpacket⟩
  cases hp.symm.trans hp'
  cases hq.symm.trans hq'
  exact ⟨p, q, hp, hq, hpacket, hdescribes, hmain⟩

section Runs

variable {cfg : Config} {n n' : UInt32} {clientStats serverStats : StatsCollector}
  (hclient : createStatsCollector n .clientRoundtrip = some clientStats)
  (hserver : createStatsCollector n' .serverRoundtrip = some serverStats)
  {requests : UInt32 → Server.ReturnPacketRequest} {ls : List Label} {s : State}
  (hmeets : Run.Meets (step cfg) KeepsUp (State.init clientStats serverStats requests) ls)
  (hrun : Run.exec (step cfg) (State.init clientStats serverStats requests) ls = some s)

include hclient hserver hmeets hrun

theorem pairInv_run : ∃ m m', m < 32 ∧ m' < 32 ∧ PairInv cfg m m' s := by
  rcases represents_create hclient with ⟨m, hm, -, -, -, hrep⟩
  rcases represents_create hserver with ⟨m', hm', -, -, -, hrep'⟩
  have hinit : PairInv cfg m m' (State.init clientStats serverStats requests) := by
    refine ⟨inv_init clientStats serverStats requests, Client.repliesInv_init cfg.client hrep,
      Server.correlatedInv_init hrep' requests, List.nodup_nil, ?_, List.nodup_nil⟩
    intro k hk
    cases hk
  refine ⟨m, m', hm, hm', Run.invariant_of_meets ?_ hinit hmeets hrun⟩
  intro t l t' hinv hcond hl
  exact step_pairInv hm hm' hinv hcond hl

end Runs

/-! ## One packet there and back -/

instance (s : State) : (l : Label) → Decidable (KeepsUp s l)
  | .client l => inferInstanceAs (Decidable (Client.BookkeepingDone s.client l))
  | .server l => inferInstanceAs (Decidable (Server.LookupReady s.server l))
  | .arrive k _ _ _ => inferInstanceAs (Decidable (k ∉ s.origin ∧
      s.client.sent.length ≤ 2 ^ 32 ∧ s.Recent k ∧ ∀ r ∈ s.server.inFlight, s.Recent (s.place r)))
  | .answer i _ => inferInstanceAs (Decidable (i ∉ s.returned ∧
      ∀ a ∈ s.server.accepted[i]?, s.Recent (s.place a)))

end TradingLatency.RoundTripSystem
