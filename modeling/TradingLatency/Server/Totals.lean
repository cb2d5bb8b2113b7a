import TradingLatency.Server.Correlated
import TradingLatency.Server.Fallback
import TradingLatency.Stats.Options

/-!
# The totals of the round-trip server (`timestamp_server.c`, `timestamp_common.c`)

The receive loop counts the datagrams in `total_packets_received`. The TX thread
counts the return packets in `local_packets_sent`, over both of its send paths,
and returns the number to `pthread_join`. At the end of the run both totals are
printed twice: by `display_analysis_results`, if there are statistics, and as
execution details.

The two counters are right in every interleaving (`counts_of_exec`). But
`run_server_roundtrip` passes them to `display_analysis_results` in the order
"received, sent", where the function, like its other callers, has "sent,
received": `totals_printed_iff`.
-/

namespace TradingLatency.Server

/-! ## The report -/

/-- A line of the report: a text and a number. -/
structure TotalLine where
  text : String
  total : UInt64
deriving DecidableEq

/-- The totals that `display_analysis_results` prints. The blocks of the deltas
come behind them. -/
def displayAnalysisResults (result : AnalysisResult) (packetsSent packetsReceived : UInt64) :
    List TotalLine :=
  match result.mode with
  | .clientOneway => [⟨"Total packets sent", packetsSent⟩]
  | .clientRoundtrip =>
      [⟨"Total packets sent", packetsSent⟩, ⟨"Total return packets received", packetsReceived⟩]
  | .serverOneway => [⟨"Total packets received", packetsReceived⟩]
  | .serverRoundtrip =>
      [⟨"Total packets received", packetsReceived⟩, ⟨"Total return packets sent", packetsSent⟩]

/-- `buffer_has_data`. -/
def bufferHasData (stats : StatsCollector) : Bool := 0 < getBufferCount stats

/-- The end of `run_server_roundtrip` where the statistics are displayed; nothing
is printed if they are not enabled, empty, or cannot be analysed. -/
def displayStats (enabled : Bool) (config : StatsConfig) (stats : StatsCollector)
    (totalPacketsReceived totalPacketsSent : UInt64) : List TotalLine :=
  if enabled && bufferHasData stats then
    match initializeAnalysisResult stats.programMode config with
    | none => []
    | some result =>
        displayAnalysisResults (processBufferForAnalysis stats result) totalPacketsReceived
          totalPacketsSent
  else []

/-- The totals under `EXECUTION DETAILS`. -/
def executionDetails (totalPacketsReceived totalPacketsSent : UInt64) : List TotalLine :=
  [⟨"Total packets received", totalPacketsReceived⟩,
    ⟨"Total return packets sent", totalPacketsSent⟩]

/-- The server with `total_packets_received`, which the receive loop owns. -/
structure RunServerRoundtrip where
  server : State
  totalPacketsReceived : UInt64

/-- The beginning of the receive loop. -/
def RunServerRoundtrip.init (stats : StatsCollector) (requests : UInt32 → ReturnPacketRequest) :
    RunServerRoundtrip where
  server := .init stats requests
  totalPacketsReceived := 0

/-- The receive loop counts each datagram. -/
def countReceived (total : UInt64) : Label → UInt64
  | .receive _ => total + 1
  | _ => total

/-- One call of one activity, with the counter of the receive loop. -/
def RunServerRoundtrip.step (s : RunServerRoundtrip) (l : Label) : Option RunServerRoundtrip :=
  match Server.step s.server l with
  | none => none
  | some server =>
      some { server := server, totalPacketsReceived := countReceived s.totalPacketsReceived l }

/-- `pthread_join` on the TX thread: what it returns once it has ended. -/
def joinTxThread (s : State) : Option UInt64 :=
  match s.tx with
  | .done => some s.localPacketsSent
  | _ => none

/-- `stats_config.enabled`: the option was given. -/
def statsEnabled (optargs : List (Option CText.Text)) : Bool := !optargs.isEmpty

/-- The totals that are printed at the end, by `display_analysis_results` and
under `EXECUTION DETAILS`. -/
structure Report where
  analysis : List TotalLine
  details : List TotalLine

/-- The report behind the join of the TX thread. -/
def RunServerRoundtrip.report (s : RunServerRoundtrip) (enabled : Bool) (config : StatsConfig)
    (totalPacketsSent : UInt64) : Report where
  analysis := displayStats enabled config s.server.stats s.totalPacketsReceived totalPacketsSent
  details := executionDetails s.totalPacketsReceived totalPacketsSent

/-! ## Statement -/

/-- The datagrams that a call receives. -/
def Label.received : Label → Nat
  | .receive _ => 1
  | _ => 0

/-- The return packets that the kernel accepts in a call. -/
def Label.accepted : Label → Nat
  | .sendmmsg _ (.sent n) => n
  | .sendto (.sent n) => n
  | _ => 0

/-- The datagrams that were received in a run. -/
def datagramsReceived (ls : List Label) : Nat := (ls.map Label.received).sum

/-- The return packets that the kernel accepted in a run. -/
def packetsAccepted (ls : List Label) : Nat := (ls.map Label.accepted).sum

/-- What `display_analysis_results` prints as the packets received and the return
packets sent are the two numbers, and the same lines are under
`EXECUTION DETAILS`. -/
def TotalsRight (report : Report) (received sent : Nat) : Prop :=
  ∀ line ∈ report.analysis,
    (line.text = "Total packets received" → line.total.toNat = received) ∧
      (line.text = "Total return packets sent" → line.total.toNat = sent) ∧
        line ∈ report.details

/-! ## The counters -/

theorem step_server {s s' : RunServerRoundtrip} {l : Label}
    (h : RunServerRoundtrip.step s l = some s') :
    step s.server l = some s'.server ∧
      s'.totalPacketsReceived = countReceived s.totalPacketsReceived l := by
  unfold RunServerRoundtrip.step at h
  split at h
  · cases h
  · rename_i server hserver
    cases h
    exact ⟨hserver, rfl⟩

theorem countReceived_eq (total : UInt64) (l : Label) :
    countReceived total l = total + UInt64.ofNat l.received := by
  cases l with
  | receive p => rfl
  | _ => exact (UInt64.add_zero total).symm

/-- A reception adds one packet. -/
theorem length_received_step {s s' : State} {l : Label} (h : step s l = some s') :
    s'.received.length = s.received.length + l.received := by
  cases l with
  | receive p =>
    rcases step_receive h with ⟨-, rfl⟩
    exact List.length_append
  | _ =>
    rcases received_step h with hsame | ⟨p, hl, -⟩
    · exact congrArg List.length hsame
    · cases hl

/-- The packets that the TX thread has sent, counted or in the loop that sends one
by one. -/
def State.sentTotal (s : State) : UInt64 := s.localPacketsSent + UInt64.ofNat s.tx.uncounted

@[simp] theorem uncounted_afterDequeue (batch : List ReturnPacketRequest) :
    (afterDequeue batch).uncounted = 0 := by
  cases batch <;> rfl

@[simp] theorem uncounted_afterCorrelate (rest : List (ReturnPacketRequest × UInt64)) :
    (afterCorrelate rest).uncounted = 0 := by
  cases rest <;> rfl

theorem sentTotal_afterFallback (s : State) (rest : List ReturnPacketRequest) (n : Nat) :
    (afterFallback s rest n).sentTotal = s.localPacketsSent + UInt64.ofNat n := by
  cases rest with
  | nil => exact UInt64.add_zero _
  | cons r rest => rfl

/-- One step counts what the kernel has accepted in it. -/
structure CountsSent (s s' : State) (n : Nat) : Prop where
  accepted : s'.accepted.length = s.accepted.length + n
  total : s'.sentTotal = s.sentTotal + UInt64.ofNat n

theorem CountsSent.of_same {s s' : State} (haccepted : s'.accepted = s.accepted)
    (hsent : s'.localPacketsSent = s.localPacketsSent)
    (htx : s'.tx.uncounted = s.tx.uncounted) : CountsSent s s' 0 := by
  constructor
  · rw [haccepted]
    rfl
  · unfold State.sentTotal
    rw [hsent, htx]
    exact (UInt64.add_zero _).symm

theorem sendmmsg_countsSent {s s' : State} {clock : Nat → Timespec} {result : SendResult}
    (h : step s (.sendmmsg clock result) = some s') :
    CountsSent s s' (Label.sendmmsg clock result).accepted := by
  rcases step_sendmmsg h with ⟨batch, htx, ⟨n, rfl, hn, rfl⟩ | ⟨rfl, rfl⟩ | ⟨rfl, rfl⟩⟩
  · -- `n` packets of the batch are in the total at once
    have huncounted : s.tx.uncounted = 0 := by
      rw [htx]
      rfl
    constructor
    · show (s.accepted ++ batch.take n).length = s.accepted.length + n
      rw [List.length_append, List.length_take, Nat.min_eq_left hn]
    · unfold State.sentTotal
      rw [huncounted, uncounted_afterCorrelate]
      exact (UInt64.add_zero _).trans (congrArg (· + UInt64.ofNat n) (UInt64.add_zero _).symm)
  · -- `EAGAIN` and errors count nothing
    exact .of_same rfl rfl (by rw [htx]; rfl)
  · exact .of_same rfl rfl (by rw [htx]; rfl)

/-- One packet of the loop that sends one by one. -/
theorem CountsSent.fallback {s t : State} {r : ReturnPacketRequest}
    {rest : List ReturnPacketRequest} {n k : Nat} (htx : s.tx = .fallback (r :: rest) n)
    (haccepted : t.accepted.length = s.accepted.length + k)
    (hsent : t.localPacketsSent = s.localPacketsSent) :
    CountsSent s (afterFallback t rest (n + k)) k := by
  constructor
  · obtain ⟨tx, sent, heq⟩ := afterFallback_eq t rest (n + k)
    rw [heq]
    exact haccepted
  · -- the packets of a fallback are counted when its loop is done
    have htotal : s.sentTotal = s.localPacketsSent + UInt64.ofNat n := by
      unfold State.sentTotal
      rw [htx]
      rfl
    rw [sentTotal_afterFallback, htotal, hsent, UInt64.ofNat_add, UInt64.add_assoc]

theorem sendto_countsSent {s s' : State} {result : SendResult}
    (h : step s (.sendto result) = some s') :
    CountsSent s s' (Label.sendto result).accepted := by
  rcases step_sendto h with ⟨r, rest, n, htx, ⟨k, rfl, hk, rfl⟩ | ⟨rfl, rfl⟩ | ⟨rfl, rfl⟩⟩
  · refine .fallback htx ?_ rfl
    show (s.accepted ++ [r].take k).length = s.accepted.length + k
    rw [List.length_append, List.length_take, List.length_singleton, Nat.min_eq_left hk]
  · exact CountsSent.fallback (k := 0) htx rfl rfl
  · exact CountsSent.fallback (k := 0) htx rfl rfl

/-- A step counts what the kernel accepts in it, at once or in the loop that sends
one by one. -/
theorem step_countsSent {s s' : State} {l : Label} (h : step s l = some s') :
    CountsSent s s' l.accepted := by
  cases hl : l.ofTxThread with
  | false =>
    -- the other threads send nothing
    have hsame := step_other h hl
    have hnone : l.accepted = 0 := by
      cases l <;> first | rfl | cases hl
    rw [hnone]
    exact .of_same hsame.accepted hsame.sent (by rw [hsame.tx])
  | true =>
    cases l with
    | readDepth =>
      rcases step_readDepth h with ⟨htx, rfl⟩
      exact .of_same rfl rfl (by rw [htx]; rfl)
    | dequeue =>
      rcases step_dequeue h with ⟨target, batch, htx, ⟨-, rfl⟩ | ⟨r, queue, -, rfl⟩⟩
      · -- the last request of a batch, or an empty queue
        refine .of_same rfl rfl ?_
        rw [htx]
        exact uncounted_afterDequeue batch
      · -- one more request
        refine .of_same rfl rfl ?_
        rw [htx]
        show (if _ then _ else _ : TxThread).uncounted = 0
        split <;> rfl
    | sendmmsg clock result => exact sendmmsg_countsSent h
    | updateAppTx =>
      rcases step_updateAppTx h with ⟨r, time, rest, htx, rfl⟩
      exact .of_same rfl rfl (by rw [htx]; rfl)
    | logRow =>
      rcases step_logRow h with ⟨r, time, rest, htx, rfl⟩
      refine .of_same rfl rfl ?_
      rw [htx]
      exact uncounted_afterCorrelate rest
    | sendto result => exact sendto_countsSent h
    | exit =>
      rcases step_exit h with ⟨htx, rfl⟩
      exact .of_same rfl rfl (by rw [htx]; rfl)
    | receive _ | store | createStats | updateRx | txTimestamp _ | stop => cases hl

/-- The counters of both threads, with the packets that they count. -/
structure Counts (s : RunServerRoundtrip) : Prop where
  received : s.totalPacketsReceived = UInt64.ofNat s.server.received.length
  sent : s.server.sentTotal = UInt64.ofNat s.server.accepted.length

theorem step_counts {s s' : RunServerRoundtrip} {l : Label} (hcounts : Counts s)
    (h : RunServerRoundtrip.step s l = some s') : Counts s' := by
  rcases step_server h with ⟨hserver, htotal⟩
  have hsent := step_countsSent hserver
  constructor
  · rw [htotal, countReceived_eq, length_received_step hserver, UInt64.ofNat_add, hcounts.received]
  · rw [hsent.total, hsent.accepted, UInt64.ofNat_add, hcounts.sent]

/-- In every interleaving the counters of both threads are right, up to what
`uint64_t` can hold. -/
theorem counts_of_exec {stats : StatsCollector} {requests : UInt32 → ReturnPacketRequest}
    {ls : List Label} {s : RunServerRoundtrip}
    (hrun : Run.exec RunServerRoundtrip.step (.init stats requests) ls = some s) : Counts s :=
  Run.invariant (fun _ _ _ hcounts h => step_counts hcounts h) ⟨rfl, rfl⟩ hrun

/-! ## The collector -/

/-- The collector is that of the mode and has an entry for each packet that the
receive loop is done with. -/
structure HasEntries (m : Nat) (s : State) : Prop where
  entries : ∃ log, Records m s.stats s.createdNums log
  mode : s.stats.programMode = .serverRoundtrip

theorem HasEntries.update {m : Nat} (hm : m < 32) {s s' : State} {u : StatsUpdate}
    (h : HasEntries m s) (hstats : s'.stats = applyUpdate s.stats u)
    (hnums : s'.createdNums = s.createdNums) : HasEntries m s' := by
  rcases h with ⟨⟨log, hrecords⟩, hmode⟩
  refine ⟨⟨logUpdate (2 ^ m) log u, ?_⟩, ?_⟩
  · rw [hstats, hnums]
    exact hrecords.update hm u
  · rw [hstats, programMode_applyUpdate, hmode]

theorem step_hasEntries {m : Nat} (hm : m < 32) {s s' : State} {l : Label} (hinv : Inv s)
    (h : HasEntries m s) (hl : step s l = some s') : HasEntries m s' := by
  -- no update, a new entry, an update of the receiver, or one of the TX thread
  rcases stats_step hinv hl with ⟨hstats, hnums, -⟩ | ⟨seq, port, hstats, hnums, -⟩ |
    ⟨u, -, hstats, hnums, -⟩ | ⟨-, hnums, r, time, hstats⟩
  · constructor
    · rw [hstats, hnums]
      exact h.entries
    · rw [hstats, h.mode]
  · rcases h with ⟨⟨log, hrecords⟩, hmode⟩
    refine ⟨⟨log ++ [minimalStatsEntry seq port .serverRoundtrip], ?_⟩, ?_⟩
    · rw [hstats, hnums]
      exact hrecords.create hm seq port .serverRoundtrip
    · rw [hstats, createMinimalStatsEntry, programMode_statsEnqueue, hmode]
  · exact h.update hm hstats hnums
  · exact h.update hm hstats hnums

theorem hasEntries_of_exec {n : UInt32} {stats : StatsCollector}
    (hcreate : createStatsCollector n .serverRoundtrip = some stats)
    {requests : UInt32 → ReturnPacketRequest} {ls : List Label} {s : State}
    (hrun : Run.exec step (.init stats requests) ls = some s) :
    ∃ m < 32, n.toNat ≤ 2 ^ m ∧ HasEntries m s := by
  rcases represents_create hcreate with ⟨m, hm, -, hn, -, hrep⟩
  refine ⟨m, hm, hn, ?_⟩
  have hinit : Inv (.init stats requests) ∧ HasEntries m (.init stats requests) :=
    ⟨inv_init stats requests, ⟨[], hrep, rfl⟩, programMode_create hcreate⟩
  have hkeep : ∀ t l t', Inv t ∧ HasEntries m t → step t l = some t' →
      Inv t' ∧ HasEntries m t' := by
    rintro t l t' ⟨hinv, hentries⟩ hl
    exact ⟨step_inv hinv hl, step_hasEntries hm hinv hentries hl⟩
  exact (Run.invariant hkeep hinit hrun).2

/-- At the end there are statistics if a datagram was received. -/
theorem bufferHasData_iff {n : UInt32} {stats : StatsCollector} (hn : 2 ≤ n.toNat)
    (hcreate : createStatsCollector n .serverRoundtrip = some stats)
    {requests : UInt32 → ReturnPacketRequest} {ls : List Label} {s : State}
    (hrun : Run.exec step (.init stats requests) ls = some s) (hidle : s.receiver = .idle) :
    bufferHasData s.stats = true ↔ 0 < s.received.length := by
  rcases hasEntries_of_exec hcreate hrun with ⟨m, hm, hcap, ⟨log, hrecords⟩, -⟩
  -- every packet received has made an entry
  have hlen : log.length = s.received.length := by
    rw [hrecords.length, length_createdNums, State.createdCount, hidle]
  have hcount := toNat_getBufferCount hm hrecords.represents
  rw [length_live, hlen] at hcount
  unfold bufferHasData
  rw [decide_eq_true_iff, UInt32.lt_iff_toNat_lt, hcount]
  show 0 < _ ↔ _
  omega

/-! ## The lines -/

/-- What is displayed at the end of a run with statistics and at least one
datagram: the totals, exchanged. -/
theorem displayStats_eq {config : StatsConfig} (hconfig : AcceptedStats config)
    {stats : StatsCollector} (hmode : stats.programMode = .serverRoundtrip)
    (hdata : bufferHasData stats = true) (totalPacketsReceived totalPacketsSent : UInt64) :
    displayStats true config stats totalPacketsReceived totalPacketsSent =
      [⟨"Total packets received", totalPacketsSent⟩,
        ⟨"Total return packets sent", totalPacketsReceived⟩] := by
  rcases initializeAnalysisResult_accepted hconfig .serverRoundtrip with ⟨result, hinit, hresult⟩
  have hprocessed : (processBufferForAnalysis stats result).mode = .serverRoundtrip :=
    (mode_processBufferForAnalysis stats result).trans hresult
  unfold displayStats
  rw [hdata, hmode, hinit]
  show displayAnalysisResults _ _ _ = _
  unfold displayAnalysisResults
  rw [hprocessed]

/-- The exchanged totals are right only where they are the same number. -/
theorem totalsRight_exchanged (received sent : Nat) :
    TotalsRight
        ⟨[⟨"Total packets received", UInt64.ofNat sent⟩,
            ⟨"Total return packets sent", UInt64.ofNat received⟩],
          executionDetails (UInt64.ofNat received) (UInt64.ofNat sent)⟩ received sent ↔
      received = sent ∧ received < 2 ^ 64 := by
  constructor
  · -- each line is one of the two totals, so both numbers are equal
    intro h
    have hreceived := (h _ List.mem_cons_self).1 rfl
    have hsent := (h _ (List.mem_cons_of_mem _ List.mem_cons_self)).2.1 rfl
    simp only [UInt64.toNat_ofNat'] at hreceived hsent
    omega
  · rintro ⟨rfl, hlt⟩ line hline
    have htotal : (UInt64.ofNat received).toNat = received := by
      rw [UInt64.toNat_ofNat']
      exact Nat.mod_eq_of_lt hlt
    have heq : line.total = UInt64.ofNat received := by
      rcases List.mem_cons.mp hline with rfl | hline
      · rfl
      · rw [List.mem_singleton.mp hline]
    refine ⟨?_, ?_, hline⟩
    · intro _
      rw [heq, htotal]
    · intro _
      rw [heq, htotal]

/-! ## Whole runs -/

/-- The thread has ended, and all it has sent is counted. -/
theorem joinTxThread_spec {s : State} {totalPacketsSent : UInt64}
    (h : joinTxThread s = some totalPacketsSent) : s.sentTotal = totalPacketsSent := by
  unfold joinTxThread at h
  split at h
  · rename_i htx
    cases h
    unfold State.sentTotal
    rw [htx]
    exact UInt64.add_zero _
  · cases h

/-- What the labels of a run say, the histories of the server have. -/
theorem histories_of_exec {stats : StatsCollector} {requests : UInt32 → ReturnPacketRequest}
    {ls : List Label} {s : State} (hrun : Run.exec step (.init stats requests) ls = some s) :
    s.received.length = datagramsReceived ls ∧ s.accepted.length = packetsAccepted ls := by
  constructor
  · rw [Run.exec_sum (fun _ _ _ h => length_received_step h) hrun]
    exact Nat.zero_add _
  · have hstep : ∀ t l t', step t l = some t' →
        t'.accepted.length = t.accepted.length + l.accepted := by
      intro t l t' h
      exact (step_countsSent h).accepted
    rw [Run.exec_sum hstep hrun]
    exact Nat.zero_add _

/-- Without a datagram there is no return packet. -/
theorem accepted_of_no_received {s : State} (hinv : Inv s) (hnone : s.received.length = 0) :
    s.accepted.length = 0 := by
  rw [List.length_eq_zero_iff]
  apply List.eq_nil_iff_forall_not_mem.mpr
  intro r hr
  have hdequeued : r ∈ s.dequeued := hinv.offered.subset (List.mem_append_left _ hr)
  rcases hinv.origin r (List.mem_append_left _ hdequeued) with ⟨p, hp, -⟩
  rw [List.length_eq_zero_iff.mp hnone] at hp
  cases hp

/-- For every run of the server with a normal join of the TX thread: the totals
that `display_analysis_results` prints are the numbers of datagrams received and of
return packets accepted, and those of the execution details, if and only if there
are no statistics or the two numbers are the same. -/
theorem totals_printed_iff {optargs : List (Option CText.Text)} {config : StatsConfig}
    (hconfig : statsOptions optargs = .ok config) {stats : StatsCollector}
    (hstats : createStatsCollector config.bufferSize .serverRoundtrip = some stats)
    {requests : UInt32 → ReturnPacketRequest} {ls : List Label} {s : RunServerRoundtrip}
    (hrun : Run.exec RunServerRoundtrip.step (.init stats requests) ls = some s)
    (hidle : s.server.receiver = .idle) {totalPacketsSent : UInt64}
    (hjoin : joinTxThread s.server = some totalPacketsSent) :
    TotalsRight (s.report (statsEnabled optargs) config totalPacketsSent) (datagramsReceived ls)
        (packetsAccepted ls) ↔
      optargs = [] ∨ datagramsReceived ls = packetsAccepted ls ∧ datagramsReceived ls < 2 ^ 64 := by
  have haccepted := acceptedStats_of_options hconfig
  have hserver : Run.exec step (.init stats requests) ls = some s.server :=
    Run.exec_project (fun _ _ _ h => (step_server h).1) hrun
  rcases histories_of_exec hserver with ⟨hreceived, hsent⟩
  have hcounts := counts_of_exec hrun
  have htotal : totalPacketsSent = UInt64.ofNat (packetsAccepted ls) := by
    rw [← joinTxThread_spec hjoin, hcounts.sent, hsent]
  have hdata := bufferHasData_iff (by have := haccepted.bufferSize; omega) hstats hserver hidle
  rw [hreceived] at hdata
  rcases optargs with _ | ⟨optarg, optargs⟩
  · refine iff_of_true ?_ (Or.inl rfl)
    intro line hline
    cases hline
  rw [or_iff_right (List.cons_ne_nil _ _)]
  rcases Nat.eq_zero_or_pos (datagramsReceived ls) with hzero | hpos
  · -- nothing was received: nothing is displayed, and nothing was returned
    have hnone := accepted_of_no_received (inv_of_exec hserver) (hreceived.trans hzero)
    rw [hsent] at hnone
    refine iff_of_true ?_ ⟨hzero.trans hnone.symm, by omega⟩
    have hempty : bufferHasData s.server.stats = false := by
      rw [← Bool.not_eq_true, hdata]
      omega
    intro line hline
    simp only [RunServerRoundtrip.report, displayStats, hempty, Bool.and_false] at hline
    cases hline
  · rcases hasEntries_of_exec hstats hserver with ⟨m, -, -, hentries⟩
    have hlines := displayStats_eq haccepted hentries.mode (hdata.mpr hpos)
      s.totalPacketsReceived totalPacketsSent
    rw [← totalsRight_exchanged (datagramsReceived ls) (packetsAccepted ls), ← htotal, ← hreceived,
      ← hcounts.received, ← hlines]
    rfl

/-! ## Runs with one datagram -/

/-- The collector with `--stats=10K`. -/
def sampleStats : StatsCollector := (createStatsCollector 10000 .serverRoundtrip).get rfl

/-- A server with this collector. -/
def sampleRun : RunServerRoundtrip :=
  .init sampleStats fun _ => (samplePacket 0 "10.0.0.1" 40000).request 0

/-- A datagram is received, its request is dequeued and sent, and the server ends. -/
def oneDatagram (sending : List Label) : List Label :=
  receiveLabels (samplePacket 0 "10.0.0.1" 40000) ++ [.readDepth, .dequeue] ++ sending ++
    [.stop, .exit]

/-- The datagram is returned: both totals are one. -/
theorem totals_printed_returned :
    statsOptions [some "10K".toList] = .ok ⟨10000, 10, 1000⟩ ∧
      ∃ s n, Run.exec RunServerRoundtrip.step sampleRun (oneDatagram sendmmsgLabels) = some s ∧
        s.server.receiver = .idle ∧ joinTxThread s.server = some n ∧
        (s.report true ⟨10000, 10, 1000⟩ n).analysis =
          [⟨"Total packets received", 1⟩, ⟨"Total return packets sent", 1⟩] ∧
        TotalsRight (s.report true ⟨10000, 10, 1000⟩ n) 1 1 := by
  have hconfig : statsOptions [some "10K".toList] = .ok ⟨10000, 10, 1000⟩ := by decide
  have hstats : createStatsCollector 10000 .serverRoundtrip = some sampleStats := rfl
  rcases hrun : Run.exec RunServerRoundtrip.step sampleRun (oneDatagram sendmmsgLabels) with _ | s
  · exact absurd hrun nofun
  have hend : s.server.receiver = .idle ∧ joinTxThread s.server = some 1 ∧
      (s.report true ⟨10000, 10, 1000⟩ 1).analysis =
        [⟨"Total packets received", 1⟩, ⟨"Total return packets sent", 1⟩] := by
    cases hrun
    exact ⟨rfl, rfl, rfl⟩
  refine ⟨hconfig, s, 1, rfl, hend.1, hend.2.1, hend.2.2, ?_⟩
  exact (totals_printed_iff hconfig hstats hrun hend.1 hend.2.1).mpr (Or.inr ⟨rfl, by decide⟩)

/-- The kernel answers `EAGAIN` and the request is dropped. One datagram was
received and no packet returned, and the report says the reverse. -/
theorem totals_exchanged :
    ∃ s n, Run.exec RunServerRoundtrip.step sampleRun
        (oneDatagram [.sendmmsg (fun _ => ⟨2, 0⟩) .again]) = some s ∧
      s.server.receiver = .idle ∧ joinTxThread s.server = some n ∧
      datagramsReceived (oneDatagram [.sendmmsg (fun _ => ⟨2, 0⟩) .again]) = 1 ∧
      packetsAccepted (oneDatagram [.sendmmsg (fun _ => ⟨2, 0⟩) .again]) = 0 ∧
      (s.report true ⟨10000, 10, 1000⟩ n).analysis =
        [⟨"Total packets received", 0⟩, ⟨"Total return packets sent", 1⟩] ∧
      ¬ TotalsRight (s.report true ⟨10000, 10, 1000⟩ n) 1 0 := by
  refine ⟨_, _, rfl, rfl, rfl, rfl, rfl, rfl, ?_⟩
  intro h
  have hreceived := (h _ List.mem_cons_self).1 rfl
  cases hreceived

end TradingLatency.Server
