import TradingLatency.EndToEnd.RowsPairUp
import TradingLatency.Csv.LogJoin

/-!
# From a run to the joined file

The whole path of a measurement: client and server exchange packets and log rows,
the CSV writers write what they are given to four files, and `csvjoin` joins the
files for the client.

`joined_rows_measured` says that every row that comes out has the timestamps of
one packet, in every run in which both programs keep up: those that the client took
when it sent the packet, those of its arrival at the server, and those of its
reply. It leaves out `clt_ker_tx_ts`, `svr_app_tx_ts` and `svr_ker_tx_ts` (slots 2,
10 and 11) and the deltas made from them: the kernel times come from the error
queues, which may hold anything here, and `svr_app_tx_ts` is read off the clock by
the TX thread of the server before it sends a batch.
-/

namespace TradingLatency.RoundTripSystem

open CText Csvjoin

/-! ## Statement -/

/-- The client in the rows. -/
def Config.clientId (cfg : Config) : ClientId := ⟨cfg.clientIp, cfg.client.clientSrcPort⟩

/-- The files of a run. The CSV rings may drop rows, but they keep the order. -/
structure Logs (s : State) (clientMain clientTx serverMain serverTx : List CsvEntry) : Prop where
  clientMain : clientMain.Sublist (s.client.rows.map (·.2.2))
  clientTx : clientTx.Sublist s.client.txRows
  serverMain : serverMain.Sublist (s.server.mainRows.map (·.2))
  serverTx : serverTx.Sublist s.server.txRows

/-- The files as `csvjoin` gets them. -/
def logFiles (clientMain clientTx serverMain serverTx : List CsvEntry) : List LogFile :=
  [⟨.clientMainRoundtrip, clientMain⟩, ⟨.clientTx, clientTx⟩,
    ⟨.serverMainRoundtrip, serverMain⟩, ⟨.serverTx, serverTx⟩]

/-- The slots are the measurements of one packet of the client: of its sending, of
its arrival at the server, and of a reply to it. Nothing is said of slots 2, 10
and 11. -/
def MeasuresPacket (cfg : Config) (s : State) (seq : UInt32) (ts : Slots) : Prop :=
  ∃ k p q r, s.client.sent[k]? = some p ∧ p.seqNum = seq ∧ q ∈ s.server.received ∧
    q = cfg.packet p q.hwRxTs q.kerRxTs q.appRxTs ∧ (k, r) ∈ handled s.client ∧
    ts 0 = (Client.tscToTimespec cfg.client r.txRef p.txTsc).ns ∧ ts 1 = p.appTxTs.ns ∧
    ts 3 = r.hwRxTs.ns ∧ ts 4 = r.kerRxTs.ns ∧ ts 5 = r.rxTscNs cfg.client ∧
    ts 6 = r.app.time.ns ∧ ts 7 = q.hwRxTs.ns ∧ ts 8 = q.kerRxTs.ns ∧ ts 9 = q.appRxTs.ns

/-! ## Addresses in the rows -/

/-- The address of the client, or none yet. -/
def Config.KnownIp (cfg : Config) (ip : IpText) : Prop := ip = cfg.clientIp ∨ ip = IpText.ofText []

/-- Rows of the TX files name the client, or nobody. -/
structure AddressInv (cfg : Config) (s : State) : Prop where
  clientTx : ∀ e ∈ s.client.txRows, e.srcIp = cfg.clientIp
  slots : ∀ i, cfg.KnownIp (s.server.slots i).clientIp
  serverTx : ∀ e ∈ s.server.txRows, cfg.KnownIp e.srcIp

section Addresses

variable {cfg : Config} {s s' : State}

/-- Only the error queue makes rows of the TX file. -/
theorem client_txRows {c c' : Client.State} {l : Client.Label}
    (hl : Client.step cfg.client c l = some c') :
    c'.txRows = c.txRows ∨ ∃ msg, c'.txRows = c.txRows ++ [Client.txRow cfg.client msg] := by
  cases l with
  | sendmmsg clock result =>
    obtain ⟨-, ⟨batch, -, rfl⟩ | rfl | rfl⟩ := Client.step_sendmmsg hl
    · exact Or.inl rfl
    · exact Or.inl rfl
    · exact Or.inl rfl
  | store =>
    obtain ⟨_, _, _, -, -, rfl⟩ := Client.step_store hl
    exact Or.inl rfl
  | createStats =>
    obtain ⟨_, _, -, rfl⟩ := Client.step_createStats hl
    exact Or.inl rfl
  | updateAppTx ref₁ ref₂ =>
    obtain ⟨_, _, _, -, -, rfl⟩ := Client.step_updateAppTx hl
    exact Or.inl rfl
  | shutdown =>
    obtain ⟨-, rfl⟩ := Client.step_shutdown hl
    exact Or.inl rfl
  | receive k r =>
    obtain ⟨-, ⟨-, rfl⟩ | rfl⟩ := Client.step_receive hl
    · exact Or.inl rfl
    · exact Or.inl rfl
  | lookup =>
    obtain ⟨_, _, -, rfl⟩ := Client.step_lookup hl
    exact Or.inl rfl
  | updateRx =>
    obtain ⟨_, _, _, _, -, rfl⟩ := Client.step_updateRx hl
    exact Or.inl rfl
  | logRow =>
    obtain ⟨_, _, _, _, -, rfl⟩ := Client.step_logRow hl
    exact Or.inl rfl
  | rxExit =>
    obtain ⟨-, rfl⟩ := Client.step_rxExit hl
    exact Or.inl rfl
  | txTimestamp msg =>
    -- the only step that writes a row of this file
    simp only [Client.step, Option.some.injEq] at hl
    subst hl
    exact Or.inr ⟨msg, rfl⟩

/-- What a step of the server does to the arrays and to the TX file. -/
theorem server_slots {t t' : Server.State} {l : Server.Label} (hl : Server.step t l = some t') :
    (t'.slots = t.slots ∨ ∃ p, t.receiver = .received p ∧
      t'.slots = Function.update t.slots (getCircularIndex p.seqNum) p.slot) ∧
    (t'.txRows = t.txRows ∨ ∃ msg, t'.txRows = t.txRows ++ [Server.txRow t msg]) := by
  by_cases hmoves : l.movesRequests = true
  · -- the steps that move requests write no slot
    refine ⟨Or.inl (Server.frame_of_movesRequests hmoves hl).slots, ?_⟩
    cases l <;> simp only [Server.Label.movesRequests, Bool.false_eq_true] at hmoves
    case readDepth =>
      obtain ⟨-, rfl⟩ := Server.step_readDepth hl
      exact Or.inl rfl
    case dequeue =>
      obtain ⟨_, _, -, ⟨-, rfl⟩ | ⟨_, _, -, rfl⟩⟩ := Server.step_dequeue hl
      · exact Or.inl rfl
      · exact Or.inl rfl
    case sendmmsg =>
      obtain ⟨_, -, ⟨_, -, -, rfl⟩ | ⟨-, rfl⟩ | ⟨-, rfl⟩⟩ := Server.step_sendmmsg hl
      · exact Or.inl rfl
      · exact Or.inl rfl
      · exact Or.inl rfl
    case sendto =>
      -- however the fallback goes on, it writes no row of this file
      have hafter : ∀ (t : Server.State) rest k,
          (Server.afterFallback t rest k).txRows = t.txRows := by
        intro t rest k
        obtain ⟨tx, sent, heq⟩ := Server.afterFallback_eq t rest k
        rw [heq]
      obtain ⟨_, _, _, -, ⟨_, -, -, rfl⟩ | ⟨-, rfl⟩ | ⟨-, rfl⟩⟩ := Server.step_sendto hl
      · exact Or.inl (hafter _ _ _)
      · exact Or.inl (hafter _ _ _)
      · exact Or.inl (hafter _ _ _)
    case stop =>
      simp only [Server.step, Option.some.injEq] at hl
      subst hl
      exact Or.inl rfl
    case exit =>
      obtain ⟨-, rfl⟩ := Server.step_exit hl
      exact Or.inl rfl
  · cases l <;> simp only [Server.Label.movesRequests, not_true_eq_false] at hmoves
    case receive p =>
      obtain ⟨-, rfl⟩ := Server.step_receive hl
      exact ⟨Or.inl rfl, Or.inl rfl⟩
    -- the slot of the packet just received
    case store =>
      obtain ⟨p, hp, rfl⟩ := Server.step_store hl
      exact ⟨Or.inr ⟨p, hp, rfl⟩, Or.inl rfl⟩
    case createStats =>
      obtain ⟨_, -, rfl⟩ := Server.step_createStats hl
      exact ⟨Or.inl rfl, Or.inl rfl⟩
    case updateRx =>
      obtain ⟨_, -, rfl⟩ := Server.step_updateRx hl
      exact ⟨Or.inl rfl, Or.inl rfl⟩
    case updateAppTx =>
      obtain ⟨_, _, _, -, rfl⟩ := Server.step_updateAppTx hl
      exact ⟨Or.inl rfl, Or.inl rfl⟩
    case logRow =>
      obtain ⟨_, _, _, -, rfl⟩ := Server.step_logRow hl
      exact ⟨Or.inl rfl, Or.inl rfl⟩
    -- the row is made from the slot of its number
    case txTimestamp msg =>
      simp only [Server.step, Option.some.injEq] at hl
      subst hl
      exact ⟨Or.inl rfl, Or.inr ⟨msg, rfl⟩⟩

theorem AddressInv.client_step (h : AddressInv cfg s) {l : Client.Label} {client : Client.State}
    (hl : Client.step cfg.client s.client l = some client) :
    ∀ e ∈ client.txRows, e.srcIp = cfg.clientIp := by
  rcases client_txRows hl with heq | ⟨msg, heq⟩
  · rw [heq]
    exact h.clientTx
  · intro e he
    rw [heq] at he
    rcases List.mem_append.mp he with he | he
    · exact h.clientTx e he
    · rw [List.mem_singleton.mp he]
      rfl

/-- The packet that the receive loop is at came from the client. -/
theorem Inv.receiver_srcIp (h : Inv cfg s) {p : Server.Packet}
    (hp : s.server.receiver = .received p) : p.srcIp = cfg.clientIp := by
  have hlast := h.server.last p (by rw [hp]; rfl)
  have hget := Server.getElem?_last hlast
  have hlt : s.server.received.length - 1 < s.origin.length := by
    rw [h.origins]
    exact (List.getElem?_eq_some_iff.mp hget).1
  rcases h.arrived _ _ (List.getElem?_eq_getElem hlt) with ⟨p', q, -, hq, hpacket⟩
  cases hget.symm.trans hq
  rw [hpacket]
  rfl

theorem AddressInv.server_step (hinv : Inv cfg s) (h : AddressInv cfg s) {l : Server.Label}
    {server : Server.State} (hl : Server.step s.server l = some server) :
    (∀ i, cfg.KnownIp (server.slots i).clientIp) ∧ ∀ e ∈ server.txRows, cfg.KnownIp e.srcIp := by
  rcases server_slots hl with ⟨hslots, hrows⟩
  constructor
  · -- a slot has the address of the packet stored last
    rcases hslots with heq | ⟨p, hp, heq⟩
    · rw [heq]
      exact h.slots
    · intro i
      rw [heq]
      by_cases hi : i = getCircularIndex p.seqNum
      · rw [hi, Function.update_self]
        exact Or.inl (hinv.receiver_srcIp hp)
      · rw [Function.update_of_ne hi]
        exact h.slots i
  · rcases hrows with heq | ⟨msg, heq⟩
    · rw [heq]
      exact h.serverTx
    · intro e he
      rw [heq] at he
      rcases List.mem_append.mp he with he | he
      · exact h.serverTx e he
      · rw [List.mem_singleton.mp he]
        show cfg.KnownIp (IpText.ofText (s.server.slots _).clientIp.text)
        rw [IpText.ofText_text]
        exact h.slots _

theorem step_addressInv {l : Label} (hinv : Inv cfg s) (h : AddressInv cfg s)
    (hl : step cfg s l = some s') : AddressInv cfg s' := by
  cases l with
  | client l =>
    rcases step_client hl with ⟨-, client, hstep, rfl⟩
    exact ⟨h.client_step hstep, h.slots, h.serverTx⟩
  | server l =>
    rcases step_server hl with ⟨-, server, hstep, rfl⟩
    rcases h.server_step hinv hstep with ⟨hslots, hrows⟩
    exact ⟨h.clientTx, hslots, hrows⟩
  | arrive k hwRxTs kerRxTs appRxTs =>
    rcases step_arrive hl with ⟨p, server, -, hstep, rfl⟩
    rcases h.server_step hinv hstep with ⟨hslots, hrows⟩
    exact ⟨h.clientTx, hslots, hrows⟩
  | answer i r =>
    rcases step_answer hl with ⟨a, client, -, -, hstep, rfl⟩
    exact ⟨h.client_step hstep, h.slots, h.serverTx⟩

theorem addressInv_run {clientStats serverStats : StatsCollector}
    {requests : UInt32 → Server.ReturnPacketRequest} {ls : List Label}
    (hrun : Run.exec (step cfg) (State.init clientStats serverStats requests) ls = some s) :
    AddressInv cfg s := by
  have hinit : Inv cfg (State.init clientStats serverStats requests) ∧
      AddressInv cfg (State.init clientStats serverStats requests) := by
    refine ⟨inv_init clientStats serverStats requests, ?_, fun _ => Or.inr rfl, ?_⟩
    · intro e he
      cases he
    · intro e he
      cases he
  have hstep : ∀ t l t', Inv cfg t ∧ AddressInv cfg t → step cfg t l = some t' →
      Inv cfg t' ∧ AddressInv cfg t' := by
    rintro t l t' ⟨hinv, haddress⟩ hl
    exact ⟨step_inv hinv hl, step_addressInv hinv haddress hl⟩
  exact (Run.invariant hstep hinit hrun).2

end Addresses

/-! ## Every joined row -/

section Joined

variable {cfg : Config} {s : State} {clientMain clientTx serverMain serverTx : List CsvEntry}
  (hlogs : Logs s clientMain clientTx serverMain serverTx)

include hlogs

/-- All rows of the four files can stand in a CSV file. -/
theorem clean_logFiles (hmeasured : Measured cfg s) (hinv : Inv cfg s) (haddress : AddressInv cfg s)
    (hip : cfg.clientIp.Clean) :
    ∀ f ∈ logFiles clientMain clientTx serverMain serverTx, ∀ e ∈ f.entries, e.srcIp.Clean := by
  have hknown : ∀ ip, cfg.KnownIp ip → ip.Clean := by
    rintro ip (rfl | rfl)
    · exact hip
    · intro c hc
      cases hc
  intro f hf e he
  apply hknown
  simp only [logFiles, List.mem_cons, List.not_mem_nil, or_false] at hf
  -- the four files in turn
  rcases hf with rfl | rfl | rfl | rfl
  · rcases List.mem_map.mp (hlogs.clientMain.subset he) with ⟨row, hrow, rfl⟩
    rcases hinv.clientRows row hrow with ⟨txTs, txTsc, heq⟩
    left
    rw [heq]
    rfl
  · exact Or.inl (haddress.clientTx e (hlogs.clientTx.subset he))
  · rcases List.mem_map.mp (hlogs.serverMain.subset he) with ⟨row, hrow, rfl⟩
    rcases hmeasured.server.rows row hrow with ⟨q, hq, hident, -⟩
    have hlt : row.1 < s.origin.length := by
      rw [hinv.origins]
      exact (List.getElem?_eq_some_iff.mp hq).1
    rcases hinv.arrived _ _ (List.getElem?_eq_getElem hlt) with ⟨p, q', -, hq', hpacket⟩
    cases hq.symm.trans hq'
    left
    rw [show row.2.srcIp = q.srcIp from congrArg Prod.fst hident, hpacket]
    rfl
  · exact haddress.serverTx e (hlogs.serverTx.subset he)

/-- The slots that are put together for a sequence number are those of one packet. -/
theorem measuresPacket_of_joined (hmeasured : Measured cfg s) (hinv : Inv cfg s)
    {files : List LogFile}
    (hfiles : files.Perm (logFiles clientMain clientTx serverMain serverTx)) {seq : UInt32}
    {ts : Slots} (hts : JoinedSlots files cfg.clientId seq ts) : MeasuresPacket cfg s seq ts := by
  have hentry : ∀ {ty : CsvType} {es : List CsvEntry}, LogFile.mk ty es ∈
      logFiles clientMain clientTx serverMain serverTx → ∃ e ∈ es, e.seqNum = seq ∧
        ∀ i ∈ csvSlots ty, ts i = e.timestampNs i := by
    intro ty es hmem
    rcases hts _ (hfiles.mem_iff.mpr hmem) with ⟨e, he, hslots⟩
    have hmem := List.mem_filter.mp (List.mem_of_getLast? he)
    exact ⟨e, (List.mem_filter.mp hmem.1).1, by simpa using hmem.2, hslots⟩
  -- the rows of the client and the server with one number are for one packet
  rcases hentry (show LogFile.mk .clientMainRoundtrip clientMain ∈ _ from List.mem_cons_self) with
    ⟨e, he, hseq, hslots⟩
  rcases hentry (show LogFile.mk .serverMainRoundtrip serverMain ∈ _ from
    List.mem_cons_of_mem _ (List.mem_cons_of_mem _ List.mem_cons_self)) with
    ⟨e', he', hseq', hslots'⟩
  rcases List.mem_map.mp (hlogs.clientMain.subset he) with ⟨row, hrow, rfl⟩
  rcases List.mem_map.mp (hlogs.serverMain.subset he') with ⟨row', hrow', rfl⟩
  rcases hmeasured.paired row hrow row' hrow' (hseq.trans hseq'.symm) with
    ⟨p, q, hp, hq, hpacket, ⟨hnum, hzero, hone⟩, -, hseven, height, hnine⟩
  rcases hinv.clientRows row hrow with ⟨txTs, txTsc, heq⟩
  refine ⟨row.1, p, q, row.2.1, hp, hnum.symm.trans hseq, List.mem_of_getElem? hq, hpacket, ?_,
    ?_, ?_, ?_, ?_, ?_, ?_, ?_, ?_, ?_⟩
  · exact List.mem_append_left _ (List.mem_map.mpr ⟨row, hrow, rfl⟩)
  · rw [hslots 0 (by decide), hzero]
  · rw [hslots 1 (by decide), hone]
  · rw [hslots 3 (by decide), heq]
    rfl
  · rw [hslots 4 (by decide), heq]
    rfl
  · rw [hslots 5 (by decide), heq]
    rfl
  · rw [hslots 6 (by decide), heq]
    rfl
  · rw [hslots' 7 (by decide), hseven]
  · rw [hslots' 8 (by decide), height]
  · rw [hslots' 9 (by decide), hnine]

end Joined

/-- The join of the files of a run: every row has the measurements of one packet. -/
def JoinsRun (cfg : Config) (s : State) (files : List LogFile) : Prop :=
  ∃ seqs : List UInt32, seqs.Pairwise (· < ·) ∧
    (∀ seq, seq ∈ seqs ↔ Logged files cfg.clientId seq) ∧
    (seqs = [] → processJoinOperation
      (logConfig .roundTrip .clientServer cfg.clientId files) = none) ∧
    (seqs ≠ [] → ∃ out, processJoinOperation
        (logConfig .roundTrip .clientServer cfg.clientId files) = some out ∧
      List.Forall₂ (fun seq row => ∃ ts, MeasuresPacket cfg s seq ts ∧
        row = joinedRow .roundTrip .clientServer cfg.clientId seq ts) seqs (outputRows out))

/-- In every run in which both programs keep up and fewer than `2^31` packets are
sent, the join of the four files, in any order and with whatever rows the CSV rings
have dropped, has one row for every packet that is in all of them, with the
measurements of this packet. -/
theorem joined_rows_measured {cfg : Config} {n n' : UInt32}
    {clientStats serverStats : StatsCollector}
    (hclient : createStatsCollector n .clientRoundtrip = some clientStats)
    (hserver : createStatsCollector n' .serverRoundtrip = some serverStats)
    {requests : UInt32 → Server.ReturnPacketRequest} {ls : List Label} {s : State}
    (hmeets : Run.Meets (step cfg) KeepsUp (State.init clientStats serverStats requests) ls)
    (hrun : Run.exec (step cfg) (State.init clientStats serverStats requests) ls = some s)
    (hip : cfg.clientIp.Clean) (hfew : s.client.sent.length < 2 ^ 31)
    {clientMain clientTx serverMain serverTx : List CsvEntry}
    (hlogs : Logs s clientMain clientTx serverMain serverTx) {files : List LogFile}
    (hfiles : files.Perm (logFiles clientMain clientTx serverMain serverTx)) :
    JoinsRun cfg s files := by
  rcases pairInv_run hclient hserver hmeets hrun with ⟨m, m', hm, hm', hpair⟩
  have hmeasured := hpair.measured hm hm'
  have hclean : ∀ f ∈ files, ∀ e ∈ f.entries, e.srcIp.Clean := by
    intro f hf
    exact clean_logFiles hlogs hmeasured hpair.inv (addressInv_run hrun) hip f
      (hfiles.mem_iff.mp hf)
  have htypes : (files.map fun f => csvFileType f.csvType).Perm
      (documentedTypes .roundTrip .clientServer) :=
    hfiles.map fun f => csvFileType f.csvType
  -- a packet has at most one row at the client
  have hsmall : clientMain.length < 2 ^ 31 := by
    have hrows : (s.client.rows.map (·.1)).length ≤ s.client.sent.length := by
      have hsub : s.client.rows.map (·.1) ⊆ List.range s.client.sent.length := by
        intro k hk
        rcases List.mem_map.mp hk with ⟨row, hrow, rfl⟩
        rcases hmeasured.client.rows row hrow with ⟨p, hp, -⟩
        exact List.mem_range.mpr (List.getElem?_eq_some_iff.mp hp).1
      have hle := (hmeasured.once.subperm hsub).length_le
      rwa [List.length_range] at hle
    have hlog := hlogs.clientMain.length_le
    rw [List.length_map] at hrows hlog
    omega
  have hmem : LogFile.mk .clientMainRoundtrip clientMain ∈ files :=
    hfiles.mem_iff.mpr List.mem_cons_self
  rcases log_files_joined htypes hclean ⟨_, hmem, hsmall⟩ cfg.clientId with
    ⟨seqs, hasc, hcommon, hnone, hsome⟩
  refine ⟨seqs, hasc, hcommon, hnone, ?_⟩
  intro hne
  rcases hsome hne with ⟨out, hout, hrows⟩
  refine ⟨out, hout, hrows.imp ?_⟩
  rintro seq row ⟨ts, hts, hrow⟩
  exact ⟨ts, measuresPacket_of_joined hlogs hmeasured hpair.inv hfiles hts, hrow⟩

/-- What the error queues say about the packet and its return. -/
def sampleTxLabels : List Label :=
  [.client (.txTimestamp ⟨[0, 0, 0, 0], [.recverr 0, .timestamping ⟨1, 50⟩], by decide⟩),
    .server (.txTimestamp ⟨[0, 0, 0, 0], [.recverr 0, .timestamping ⟨2, 50⟩], by decide⟩)]

/-- The files of a run in which no row was dropped. -/
def State.allRows (s : State) : List LogFile :=
  logFiles (s.client.rows.map (·.2.2)) s.client.txRows (s.server.mainRows.map (·.2))
    s.server.txRows

theorem clean_sampleConfig : sampleConfig.clientIp.Clean := by
  show (IpText.ofText (sampleEntry 0).srcIp.text).Clean
  rw [IpText.ofText_text]
  exact clean_sampleEntry 0

/-- One packet there and back, and all rows written. -/
theorem joined_rows_measured_one :
    ∃ s, Run.exec (step sampleConfig) sampleState (sampleLabels ++ sampleTxLabels) = some s ∧
      Logged s.allRows sampleConfig.clientId 0 ∧ JoinsRun sampleConfig s s.allRows := by
  have hmeets : Run.Meets (step sampleConfig) KeepsUp sampleState
      (sampleLabels ++ sampleTxLabels) := by
    decide +kernel
  have hrun : ∃ s, Run.exec (step sampleConfig) sampleState (sampleLabels ++ sampleTxLabels) =
      some s ∧ Logged s.allRows sampleConfig.clientId 0 ∧ s.client.sent.length = 1 :=
    ⟨_, rfl, by decide +kernel, rfl⟩
  rcases hrun with ⟨s, hexec, hlogged, hsent⟩
  have hlogs : Logs s (s.client.rows.map (·.2.2)) s.client.txRows (s.server.mainRows.map (·.2))
      s.server.txRows :=
    ⟨List.Sublist.refl _, List.Sublist.refl _, List.Sublist.refl _, List.Sublist.refl _⟩
  refine ⟨s, hexec, hlogged, ?_⟩
  exact joined_rows_measured
    (show createStatsCollector 4 .clientRoundtrip = some _ from rfl)
    (show createStatsCollector 4 .serverRoundtrip = some _ from rfl) hmeets hexec
    clean_sampleConfig (by rw [hsent]; decide) hlogs (List.Perm.refl _)

end TradingLatency.RoundTripSystem
