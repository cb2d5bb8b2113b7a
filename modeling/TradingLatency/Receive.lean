import TradingLatency.Correlation
import TradingLatency.Lib.Recvmsg
import TradingLatency.Lib.Run

/-!
# The receive loops (`timestamp_server.c`, `timestamp_client.c`)

`run_server_oneway`, `run_server_roundtrip` and `rx_thread_func` receive with one
`struct msghdr` that is set up before the loop. None of them sets
`msg_controllen` again, so the first datagram without a control message leaves no
capacity for any later one. The first and the last clear their packet data for
every datagram; the round-trip server does not, and a datagram without
timestamps keeps those of an earlier one.

`inv_run` says what the header is left with after a run. From it follow the
timestamps of every record: `records_own_iff` (a datagram is recorded with its
own timestamps) and `same_timestamps_iff` (the round-trip handler records what
the one-way handler logs).
-/

namespace TradingLatency.Receive

open Recvmsg

/-! ## Datagrams -/

/-- `struct scm_timestamping64`. -/
structure ScmTimestamping where
  ts : Fin 3 → Timespec

/-- `CMSG_SPACE(sizeof(struct scm_timestamping64))`. -/
def scmTimestampingLen (_ : ScmTimestamping) : Nat := 64

/-- `CMSG_BUFFER_SIZE`. -/
def cmsgBufferSize : Nat := 1024

inductive Errno where
  | eagain
  | eintr
  | other
deriving DecidableEq, Repr

/-- A datagram: the bytes that `recvmsg` stores, its control message, the value
of `errno` and the clock behind the call. `errno` is not set by a call that
succeeds. -/
structure Datagram where
  data : List UInt8
  control : Option ScmTimestamping
  errno : Errno
  appRxTs : Timespec

/-- What a call of `recvmsg` returns. -/
inductive RecvResult where
  | failed (errno : Errno)
  | received (d : Datagram)

/-- The datagrams of a sequence of calls. -/
def datagrams (results : List RecvResult) : List Datagram :=
  results.filterMap fun
    | .failed _ => none
    | .received d => some d

/-- Hardware and kernel RX timestamp. -/
structure RxTimestamps where
  hwRxTs : Timespec
  kerRxTs : Timespec
deriving DecidableEq

def RxTimestamps.zero : RxTimestamps := ⟨⟨0, 0⟩, ⟨0, 0⟩⟩

/-- The timestamps that a control message carries. -/
def ScmTimestamping.rx (tss : ScmTimestamping) : RxTimestamps := ⟨tss.ts 2, tss.ts 0⟩

/-- The timestamps of the datagram's own control message. -/
def Datagram.own (d : Datagram) : Option RxTimestamps := d.control.map ScmTimestamping.rx

/-! ## The loops -/

/-- What a handler makes of a datagram: the sequence number and the timestamps
that it stores, logs and puts in the statistics. -/
structure RxRecord where
  seqNum : UInt32
  rxTs : RxTimestamps
  appRxTs : Timespec

/-- A receive loop: `msg.msg_controllen`, the RX timestamps of the packet data
that is used again, and the history of received datagrams with their records. -/
structure State where
  controllen : Nat
  pktData : RxTimestamps
  running : Bool
  handled : List (Datagram × Option RxRecord)

/-- Before the loop. The packet data is not initialised. -/
def State.init (pktData : RxTimestamps) : State where
  controllen := cmsgBufferSize
  pktData := pktData
  running := true
  handled := []

/-- `extract_rx_timestamps`: the timestamps behind the two pointers. -/
def extractRxTimestamps (control : List ScmTimestamping) (ts : RxTimestamps) : RxTimestamps :=
  match control with
  | [] => ts
  | tss :: _ => tss.rx

/-- `pkt_data.seq_num`. -/
def readSeqNum (data : List UInt8) : UInt32 :=
  if 4 ≤ data.length then ntohl data else 0xFFFFFFFF

/-- The loop of `run_server_oneway`. -/
def runServerOneway (s : State) : RecvResult → State
  | .failed errno => if errno = .eagain then s else { s with running := false }
  | .received d =>
      let r := receive scmTimestampingLen s.controllen d.control.toList
      -- memset(&pkt_data, 0, sizeof(pkt_data))
      let ts := extractRxTimestamps r.1 .zero
      { s with
        controllen := r.2
        pktData := ts
        handled := s.handled ++ [(d, some ⟨readSeqNum d.data, ts, d.appRxTs⟩)] }

/-- The loop of `run_server_roundtrip`. -/
def runServerRoundtrip (s : State) : RecvResult → State
  | .failed errno => if errno = .eagain then s else { s with running := false }
  | .received d =>
      let r := receive scmTimestampingLen s.controllen d.control.toList
      let ts := extractRxTimestamps r.1 s.pktData
      { s with
        controllen := r.2
        pktData := ts
        handled := s.handled ++ [(d, some ⟨readSeqNum d.data, ts, d.appRxTs⟩)] }

/-- The loop of `rx_thread_func`. An empty datagram counts as an error, and only
packets with a sequence number are recorded. -/
def rxThreadFunc (s : State) : RecvResult → State
  | .failed errno => if errno = .eagain ∨ errno = .eintr then s else { s with running := false }
  | .received d =>
      let r := receive scmTimestampingLen s.controllen d.control.toList
      if d.data.length = 0 then
        { s with
          controllen := r.2
          running := d.errno = .eagain ∨ d.errno = .eintr
          handled := s.handled ++ [(d, none)] }
      else
        -- memset(&rt_data, 0, sizeof(rt_data))
        let ts := extractRxTimestamps r.1 .zero
        { s with
          controllen := r.2
          pktData := ts
          handled := s.handled ++
            [(d, if 4 ≤ d.data.length then some ⟨ntohl d.data, ts, d.appRxTs⟩ else none)] }

inductive Loop where
  | serverOneway
  | serverRoundtrip
  | rxThread
deriving DecidableEq, Repr

def Loop.iteration : Loop → State → RecvResult → State
  | .serverOneway => runServerOneway
  | .serverRoundtrip => runServerRoundtrip
  | .rxThread => rxThreadFunc

/-- One turn of the loop, as long as it has not been left. -/
def Loop.step (loop : Loop) (s : State) (result : RecvResult) : Option State :=
  if s.running then some (loop.iteration s result) else none

/-! ## What a run leaves behind -/

/-- The datagram came with timestamps. -/
def Datagram.stamped (d : Datagram) : Bool := d.own.isSome

/-- `msg_controllen` after receiving the datagrams. -/
def capacityAfter (ds : List Datagram) : Nat :=
  if ds.all Datagram.stamped then (if ds = [] then cmsgBufferSize else 64) else 0

/-- The timestamps that the packet data of the round-trip server is left with:
those of the last datagram before the first one without a control message. -/
def leftover (pktData : RxTimestamps) (ds : List Datagram) : RxTimestamps :=
  ((ds.takeWhile Datagram.stamped).getLast?.bind Datagram.own).getD pktData

/-- What the loop records for a datagram whose control message is not delivered. -/
def Loop.fallback (loop : Loop) (pktData : RxTimestamps) (ds : List Datagram) : RxTimestamps :=
  match loop with
  | .serverRoundtrip => leftover pktData ds
  | _ => .zero

/-- The timestamps that the loop finds for a datagram behind `ds`. -/
def Loop.found (loop : Loop) (pktData : RxTimestamps) (ds : List Datagram) (d : Datagram) :
    RxTimestamps :=
  if ds.all Datagram.stamped then d.own.getD (loop.fallback pktData ds)
  else loop.fallback pktData ds

/-- The loop makes a record of the datagram. -/
def Loop.records (loop : Loop) (d : Datagram) : Prop :=
  loop = .rxThread → 4 ≤ d.data.length

theorem own_eq_none_iff (d : Datagram) : d.own = none ↔ d.stamped = false := by
  cases h : d.own <;> simp [Datagram.stamped, h]

/-- One call of `recvmsg` behind the datagrams `ds`. -/
theorem receive_after (ds : List Datagram) (d : Datagram) :
    receive scmTimestampingLen (capacityAfter ds) d.control.toList =
      (if ds.all Datagram.stamped then d.control.toList else [], capacityAfter (ds ++ [d])) := by
  -- one datagram without timestamps and `msg_controllen` stays 0 from then on
  by_cases hall : ds.all Datagram.stamped = true
  · have hcap : 64 ≤ capacityAfter ds := by
      unfold capacityAfter
      rw [if_pos hall]
      split <;> decide
    rw [if_pos hall]
    cases hd : d.control with
    | none =>
      -- a datagram without a control message sets it to 0
      have hbare : d.stamped = false := by simp [Datagram.stamped, Datagram.own, hd]
      simp [receive, deliver, delivered, capacityAfter, List.all_append, hbare]
    | some tss =>
      -- the control message of 64 bytes fits, and sets it to 64
      have hstamped : d.stamped = true := by simp [Datagram.stamped, Datagram.own, hd]
      have hlen : delivered scmTimestampingLen (some tss).toList = 64 := rfl
      rw [receive_of_le (by omega), hlen, capacityAfter, List.all_append, hall]
      simp [hstamped]
  · -- nothing fits any more
    have hcap : capacityAfter ds = 0 := if_neg hall
    have hcap' : capacityAfter (ds ++ [d]) = 0 := by
      rw [capacityAfter, List.all_append, if_neg]
      rw [Bool.and_eq_true]
      exact fun h => hall h.1
    rw [if_neg hall, hcap, hcap']
    exact receive_of_lt fun c _ => Nat.zero_lt_succ 63

theorem extract_after (ds : List Datagram) (d : Datagram) (base : RxTimestamps) :
    extractRxTimestamps (if ds.all Datagram.stamped then d.control.toList else []) base =
      if ds.all Datagram.stamped then d.own.getD base else base := by
  split
  · cases hd : d.control <;> simp [extractRxTimestamps, Datagram.own, hd]
  · rfl

theorem leftover_concat (pktData : RxTimestamps) (ds : List Datagram) (d : Datagram) :
    leftover pktData (ds ++ [d]) =
      if ds.all Datagram.stamped then d.own.getD (leftover pktData ds)
      else leftover pktData ds := by
  -- the timestamps found last are those of the datagram before the first bare one
  by_cases hall : ds.all Datagram.stamped = true
  · have hds : ds.takeWhile Datagram.stamped = ds := by
      rw [List.takeWhile_eq_self_iff]
      simpa using hall
    rw [if_pos hall, leftover, leftover, List.takeWhile_append_of_pos (by simpa using hall), hds]
    cases hd : d.own with
    | none =>
      have hbare := (own_eq_none_iff d).mp hd
      simp [hbare]
    | some ts =>
      have hstamped : d.stamped = true := by simp [Datagram.stamped, hd]
      simp [hstamped, hd]
  · rw [if_neg hall, leftover, leftover, List.takeWhile_append, if_neg]
    intro hlen
    apply hall
    have hds := (List.takeWhile_prefix _).eq_of_length hlen
    rw [List.takeWhile_eq_self_iff] at hds
    simpa using hds

/-! ## The invariant -/

/-- The state of a loop behind the datagrams `ds`. -/
structure Inv (loop : Loop) (pktData : RxTimestamps) (ds : List Datagram) (s : State) : Prop where
  handled : s.handled.map (·.1) = ds
  capacity : s.controllen = capacityAfter ds
  packet : loop = .serverRoundtrip → s.pktData = leftover pktData ds
  recorded : ∀ (k : Nat) d o, s.handled[k]? = some (d, o) → loop.records d →
    ∃ r, o = some r ∧ r.rxTs = loop.found pktData (ds.take k) d
  skipped : ∀ (k : Nat) d o, s.handled[k]? = some (d, o) → ¬ loop.records d → o = none

/-- What a turn does with a datagram. -/
theorem iteration_received (loop : Loop) (s : State) (d : Datagram) :
    ∃ o, (loop.iteration s (.received d)).handled = s.handled ++ [(d, o)] ∧
      (loop.iteration s (.received d)).controllen =
        (receive scmTimestampingLen s.controllen d.control.toList).2 ∧
      (loop = .serverRoundtrip → (loop.iteration s (.received d)).pktData =
        extractRxTimestamps (receive scmTimestampingLen s.controllen d.control.toList).1
          s.pktData) ∧
      (loop.records d → ∃ r, o = some r ∧ r.rxTs =
        extractRxTimestamps (receive scmTimestampingLen s.controllen d.control.toList).1
          (if loop = .serverRoundtrip then s.pktData else .zero)) ∧
      (¬ loop.records d → o = none) := by
  cases loop with
  | serverOneway =>
    exact ⟨_, rfl, rfl, nofun, fun _ => ⟨_, rfl, rfl⟩, fun h => absurd nofun h⟩
  | serverRoundtrip =>
    exact ⟨_, rfl, rfl, fun _ => rfl, fun _ => ⟨_, rfl, rfl⟩, fun h => absurd nofun h⟩
  | rxThread =>
    -- this thread makes no record of a datagram that is too short for a sequence number
    simp only [Loop.iteration, rxThreadFunc, Loop.records, true_imp_iff]
    split
    · rename_i hempty
      refine ⟨none, rfl, rfl, nofun, fun h => ?_, fun _ => rfl⟩
      omega
    · refine ⟨_, rfl, rfl, nofun, fun h => ?_, fun h => if_neg h⟩
      rw [if_pos h]
      exact ⟨_, rfl, rfl⟩

theorem iteration_failed (loop : Loop) (s : State) (errno : Errno) :
    (loop.iteration s (.failed errno)).handled = s.handled ∧
      (loop.iteration s (.failed errno)).controllen = s.controllen ∧
      (loop.iteration s (.failed errno)).pktData = s.pktData := by
  cases loop <;> simp only [Loop.iteration, runServerOneway, runServerRoundtrip, rxThreadFunc] <;>
    split <;> exact ⟨rfl, rfl, rfl⟩

theorem inv_init (loop : Loop) (pktData : RxTimestamps) :
    Inv loop pktData [] (State.init pktData) where
  handled := rfl
  capacity := rfl
  packet _ := rfl
  recorded := by simp [State.init]
  skipped := by simp [State.init]

theorem getElem?_concat {α : Type} {l : List α} {a b : α} {k : Nat}
    (h : (l ++ [a])[k]? = some b) : l[k]? = some b ∨ k = l.length ∧ a = b := by
  rw [List.getElem?_append] at h
  split at h
  · exact Or.inl h
  · rename_i hk
    rcases List.getElem?_eq_some_iff.mp h with ⟨hlt, heq⟩
    rw [List.length_singleton] at hlt
    exact Or.inr ⟨by omega, by simpa using heq⟩

/-- What a loop records in place of timestamps that it does not find. -/
theorem Inv.fallback_eq {loop : Loop} {pktData : RxTimestamps} {ds : List Datagram} {s : State}
    (h : Inv loop pktData ds s) :
    (if loop = .serverRoundtrip then s.pktData else .zero) = loop.fallback pktData ds := by
  cases loop with
  | serverRoundtrip =>
    rw [if_pos rfl, h.packet rfl]
    rfl
  | serverOneway => rfl
  | rxThread => rfl

theorem inv_iteration {loop : Loop} {pktData : RxTimestamps} {ds : List Datagram} {s : State}
    (h : Inv loop pktData ds s) (result : RecvResult) :
    Inv loop pktData (ds ++ datagrams [result]) (loop.iteration s result) := by
  cases result with
  | failed errno =>
    -- a failed call leaves the lengths, the packet data and the records
    rcases iteration_failed loop s errno with ⟨hh, hc, hp⟩
    have hnone : ds ++ datagrams [.failed errno] = ds := List.append_nil ds
    rw [hnone]
    exact ⟨by rw [hh]; exact h.handled, by rw [hc]; exact h.capacity,
      fun hl => by rw [hp]; exact h.packet hl, by rw [hh]; exact h.recorded,
      by rw [hh]; exact h.skipped⟩
  | received d =>
    rcases iteration_received loop s d with ⟨o, hh, hc, hp, hr, hn⟩
    rw [h.capacity, receive_after] at hc hp hr
    simp only [extract_after] at hp hr
    have hlen : s.handled.length = ds.length := by rw [← h.handled, List.length_map]
    show Inv loop pktData (ds ++ [d]) _
    constructor
    · rw [hh, List.map_append, h.handled]
      rfl
    · exact hc
    · intro hl
      rw [hp hl, leftover_concat, h.packet hl]
    · intro k d' o' hk hrec
      rw [hh] at hk
      rcases getElem?_concat hk with hk | ⟨rfl, heq⟩
      · -- the datagrams before have their records already
        have hlt : k < ds.length := by
          rw [← hlen]
          exact (List.getElem?_eq_some_iff.mp hk).1
        rw [List.take_append_of_le_length (by omega)]
        exact h.recorded k d' o' hk hrec
      · -- the record of this one has what its call found
        cases heq
        rcases hr hrec with ⟨r, ho, hts⟩
        refine ⟨r, ho, ?_⟩
        rw [hlen, List.take_left, hts, Loop.found, h.fallback_eq]
    · intro k d' o' hk hrec
      rw [hh] at hk
      rcases getElem?_concat hk with hk | ⟨-, heq⟩
      · exact h.skipped k d' o' hk hrec
      · cases heq
        exact hn hrec

/-- The invariant at the end of a run. -/
theorem inv_run {loop : Loop} {pktData : RxTimestamps} {results : List RecvResult} {s : State}
    (hrun : Run.exec loop.step (State.init pktData) results = some s) :
    Inv loop pktData (datagrams results) s := by
  have hgen : ∀ (results : List RecvResult) (ds : List Datagram) (t : State),
      Inv loop pktData ds t → Run.exec loop.step t results = some s →
        Inv loop pktData (ds ++ datagrams results) s := by
    intro results
    -- over the calls from any state, for the datagrams received before it
    induction results with
    | nil =>
      intro ds t ht hrun
      cases hrun
      have hnil : ds ++ datagrams [] = ds := List.append_nil ds
      rw [hnil]
      exact ht
    | cons result results ih =>
      intro ds t ht hrun
      rcases Run.exec_cons hrun with ⟨t', hstep, hrest⟩
      have ht' : loop.iteration t result = t' := by
        unfold Loop.step at hstep
        split at hstep
        · exact Option.some.inj hstep
        · cases hstep
      have hcons : datagrams (result :: results) = datagrams [result] ++ datagrams results := by
        unfold datagrams
        rw [← List.filterMap_append]
        rfl
      rw [hcons, ← List.append_assoc]
      exact ih _ t' (ht' ▸ inv_iteration ht result) hrest
  exact hgen results [] _ (inv_init loop pktData) hrun

theorem Inv.getElem_handled {loop : Loop} {pktData : RxTimestamps} {ds : List Datagram}
    {s : State} (h : Inv loop pktData ds s) {k : Nat} {d : Datagram} (hd : ds[k]? = some d) :
    ∃ o, s.handled[k]? = some (d, o) := by
  rw [← h.handled, List.getElem?_map] at hd
  rcases Option.map_eq_some_iff.mp hd with ⟨⟨d', o⟩, ho, rfl⟩
  exact ⟨o, ho⟩

theorem Inv.getElem_received {loop : Loop} {pktData : RxTimestamps} {ds : List Datagram}
    {s : State} (h : Inv loop pktData ds s) {k : Nat} {d : Datagram} {o : Option RxRecord}
    (hk : s.handled[k]? = some (d, o)) : ds[k]? = some d := by
  rw [← h.handled, List.getElem?_map, hk]
  rfl

/-- Behind the first datagram without timestamps nothing changes any more. -/
theorem leftover_take {ds : List Datagram} {k : Nat}
    (h : ¬ (ds.take k).all Datagram.stamped = true) (pktData : RxTimestamps) :
    leftover pktData (ds.take k) = leftover pktData ds := by
  have htake : ds.takeWhile Datagram.stamped = (ds.take k).takeWhile Datagram.stamped := by
    conv_lhs => rw [← List.take_append_drop k ds]
    rw [List.takeWhile_append, if_neg]
    intro hlen
    apply h
    have hds := (List.takeWhile_prefix _).eq_of_length hlen
    rw [List.takeWhile_eq_self_iff] at hds
    simpa using hds
  rw [leftover, leftover, htake]

theorem fallback_take {ds : List Datagram} {k : Nat}
    (h : ¬ (ds.take k).all Datagram.stamped = true) (loop : Loop) (pktData : RxTimestamps) :
    loop.fallback pktData (ds.take k) = loop.fallback pktData ds := by
  cases loop with
  | serverRoundtrip => exact leftover_take h pktData
  | serverOneway => rfl
  | rxThread => rfl

/-- The timestamps that a loop finds: those of the datagram itself, or zero, as
long as it is not behind a datagram without, and its fallback from then on. -/
theorem found_take {ds : List Datagram} {k : Nat} {d : Datagram} (hd : ds[k]? = some d)
    (loop : Loop) (pktData : RxTimestamps) :
    loop.found pktData (ds.take k) d =
      if (ds.take (k + 1)).all Datagram.stamped then d.own.getD .zero
      else loop.fallback pktData ds := by
  have hsucc : ds.take (k + 1) = ds.take k ++ [d] := by
    rw [List.take_add_one, hd]
    rfl
  by_cases hall : (ds.take k).all Datagram.stamped = true
  · rw [Loop.found, if_pos hall]
    cases hown : d.own with
    | some ts =>
      have hstamped : d.stamped = true := by simp [Datagram.stamped, hown]
      rw [if_pos (by rw [hsucc, List.all_append, hall]; simp [hstamped])]
      rfl
    | none =>
      -- the first datagram without timestamps
      have hbare : d.stamped = false := (own_eq_none_iff d).mp hown
      have hnot : ¬ (ds.take (k + 1)).all Datagram.stamped = true := by
        rw [hsucc, List.all_append]
        simp [hbare]
      rw [if_neg hnot, ← fallback_take hnot, hsucc]
      cases loop with
      | serverRoundtrip =>
        show leftover pktData (ds.take k) = leftover pktData (ds.take k ++ [d])
        rw [leftover_concat, if_pos hall, hown]
        rfl
      | serverOneway => rfl
      | rxThread => rfl
  · have hnot : ¬ (ds.take (k + 1)).all Datagram.stamped = true := by
      rw [hsucc, List.all_append, Bool.and_eq_true]
      exact fun h => hall h.1
    rw [Loop.found, if_neg hall, if_neg hnot, fallback_take hall]

/-! ## A datagram is recorded with its own timestamps -/

/-- Every datagram that came with timestamps is recorded with them. -/
def RecordsOwn (s : State) : Prop :=
  ∀ d o, (d, o) ∈ s.handled → ∀ ts, d.own = some ts → ∃ r, o = some r ∧ r.rxTs = ts

/-- The loop can record a datagram that came with timestamps: all datagrams
before it came with timestamps as well, or its own are the ones that the loop
falls back on. -/
def OwnKept (loop : Loop) (pktData : RxTimestamps) (ds : List Datagram) : Prop :=
  ∀ (k : Nat) d ts, ds[k]? = some d → d.own = some ts →
    loop.records d ∧
      ((ds.take k).all Datagram.stamped = true ∨ ts = loop.fallback pktData ds)

/-- In every run of one of the loops, the datagrams that came with timestamps
are recorded with them if and only if no datagram without timestamps came before
(or the timestamps are by chance those that are recorded instead), and the RX
thread finds a sequence number in them. -/
theorem records_own_iff {loop : Loop} {pktData : RxTimestamps} {results : List RecvResult}
    {s : State} (hrun : Run.exec loop.step (State.init pktData) results = some s) :
    RecordsOwn s ↔ OwnKept loop pktData (datagrams results) := by
  have hinv := inv_run hrun
  constructor
  · intro h k d ts hd hown
    rcases hinv.getElem_handled hd with ⟨o, ho⟩
    rcases h d o (List.mem_of_getElem? ho) ts hown with ⟨r, rfl, hts⟩
    have hrec : loop.records d := by
      by_contra hno
      exact absurd (hinv.skipped k d _ ho hno) nofun
    refine ⟨hrec, ?_⟩
    -- either every datagram before was stamped, or what was left over are its own timestamps
    by_cases hall : ((datagrams results).take k).all Datagram.stamped = true
    · exact Or.inl hall
    · rcases hinv.recorded k d _ ho hrec with ⟨r', hr', hfound⟩
      cases hr'
      rw [Loop.found, if_neg hall, fallback_take hall] at hfound
      exact Or.inr (hts.symm.trans hfound)
  · intro h d o hmem ts hown
    rcases List.getElem?_of_mem hmem with ⟨k, hk⟩
    rcases h k d ts (hinv.getElem_received hk) hown with ⟨hrec, hkept⟩
    rcases hinv.recorded k d o hk hrec with ⟨r, rfl, hfound⟩
    refine ⟨r, rfl, ?_⟩
    rw [hfound, Loop.found]
    by_cases hall : ((datagrams results).take k).all Datagram.stamped = true
    · rw [if_pos hall, hown]
      rfl
    · -- behind a bare datagram the record has what was left over
      rw [if_neg hall, fallback_take hall]
      exact (hkept.resolve_left hall).symm

/-- A packet with the hardware timestamp `2 s` and the kernel timestamp `3 s`. -/
def stampedDatagram : Datagram :=
  ⟨[0, 0, 0, 7], some ⟨fun i => if i = 2 then ⟨2, 0⟩ else ⟨3, 0⟩⟩, .eagain, ⟨4, 0⟩⟩

/-- A packet without control message. -/
def bareDatagram : Datagram := ⟨[0, 0, 0, 8], none, .eagain, ⟨5, 0⟩⟩

/-- Datagrams with timestamps only are recorded by the RX thread as they came. -/
theorem records_own_stamped :
    ∃ s, Run.exec Loop.rxThread.step (State.init .zero)
        [.received stampedDatagram, .failed .eagain, .received stampedDatagram] = some s ∧
      RecordsOwn s := by
  rcases hexec : Run.exec Loop.rxThread.step (State.init .zero)
    [.received stampedDatagram, .failed .eagain, .received stampedDatagram] with _ | s
  · exact absurd hexec nofun
  refine ⟨s, rfl, (records_own_iff hexec).mpr ?_⟩
  have hall : datagrams [.received stampedDatagram, .failed .eagain, .received stampedDatagram] =
      [stampedDatagram, stampedDatagram] := rfl
  rw [hall]
  intro k d ts hd hown
  have hmem : d = stampedDatagram := by simpa using List.mem_of_getElem? hd
  refine ⟨fun _ => by rw [hmem]; decide, Or.inl ?_⟩
  rw [List.all_eq_true]
  intro e he
  have he' : e = stampedDatagram := by simpa using List.mem_of_mem_take he
  rw [he']
  rfl

/-- After one datagram without timestamps, all three loops lose those of the
next one. -/
theorem timestamps_lost :
    (∃ s, Run.exec Loop.serverOneway.step (State.init .zero)
        [.received bareDatagram, .received stampedDatagram] = some s ∧ ¬ RecordsOwn s) ∧
      (∃ s, Run.exec Loop.serverRoundtrip.step (State.init .zero)
        [.received bareDatagram, .received stampedDatagram] = some s ∧ ¬ RecordsOwn s) ∧
      ∃ s, Run.exec Loop.rxThread.step (State.init .zero)
        [.received bareDatagram, .received stampedDatagram] = some s ∧ ¬ RecordsOwn s := by
  -- the second datagram has timestamps, which its record is without
  have hlost : ∀ loop : Loop, ∃ s, Run.exec loop.step (State.init .zero)
      [.received bareDatagram, .received stampedDatagram] = some s ∧ ¬ RecordsOwn s := by
    intro loop
    have hfallback : stampedDatagram.own ≠
        some (loop.fallback .zero [bareDatagram, stampedDatagram]) := by
      cases loop <;> decide
    rcases hexec : Run.exec loop.step (State.init .zero)
      [.received bareDatagram, .received stampedDatagram] with _ | s
    · cases loop <;> exact absurd hexec nofun
    refine ⟨s, rfl, fun hown => ?_⟩
    have hkept := ((inv_run hexec).getElem_handled (k := 1) rfl)
    rcases hkept with ⟨o, ho⟩
    rcases hown _ o (List.mem_of_getElem? ho) _ rfl with ⟨r, rfl, hts⟩
    rcases (inv_run hexec).recorded 1 _ _ ho (fun _ => by decide) with ⟨r', hr', hfound⟩
    cases hr'
    apply hfallback
    rw [hts] at hfound
    exact congrArg some hfound
  exact ⟨hlost _, hlost _, hlost _⟩

/-! ## The round-trip handler and the one-way handler -/

/-- The round-trip handler records for every datagram what the one-way handler
logs: the timestamps of its own control message, or zero. -/
def SameTimestamps (ds : List Datagram) (oneway roundtrip : State) : Prop :=
  ∀ (k : Nat) d, ds[k]? = some d →
    ∃ r₁ r₂, oneway.handled[k]? = some (d, some r₁) ∧ roundtrip.handled[k]? = some (d, some r₂) ∧
      r₂.rxTs = r₁.rxTs ∧ r₂.rxTs = d.own.getD .zero

/-- Whether a datagram is behind the first one without timestamps. -/
theorem all_take_iff {ds : List Datagram} {k : Nat} (hk : k < ds.length) :
    (ds.take (k + 1)).all Datagram.stamped = true ↔ k < (ds.takeWhile Datagram.stamped).length := by
  induction ds generalizing k with
  | nil => cases hk
  | cons d ds ih =>
    rw [List.take_succ_cons, List.all_cons, Bool.and_eq_true]
    cases hd : d.stamped with
    | false => simp [hd]
    | true =>
      rw [List.takeWhile_cons_of_pos hd, List.length_cons]
      cases k with
      | zero => simp
      | succ k =>
        rw [ih (Nat.lt_of_succ_lt_succ hk), Nat.succ_lt_succ_iff]
        exact and_iff_right rfl

/-- The datagrams from the first one without timestamps on. -/
theorem getElem?_dropWhile {ds : List Datagram} (j : Nat) :
    (ds.dropWhile Datagram.stamped)[j]? = ds[(ds.takeWhile Datagram.stamped).length + j]? := by
  have hbehind : (ds.takeWhile Datagram.stamped ++ ds.dropWhile Datagram.stamped)[
      (ds.takeWhile Datagram.stamped).length + j]? = (ds.dropWhile Datagram.stamped)[j]? := by
    rw [List.getElem?_append_right (Nat.le_add_right _ _), Nat.add_sub_cancel_left]
  rw [List.takeWhile_append_dropWhile] at hbehind
  exact hbehind.symm

section SameTimestamps

variable {pktData₁ pktData₂ : RxTimestamps} {ds : List Datagram} {oneway roundtrip : State}
  (hinv₁ : Inv .serverOneway pktData₁ ds oneway)
  (hinv₂ : Inv .serverRoundtrip pktData₂ ds roundtrip)
include hinv₁ hinv₂

/-- The records of the two handlers for a datagram. -/
theorem exists_records {k : Nat} {d : Datagram} (hd : ds[k]? = some d) :
    ∃ r₁ r₂, oneway.handled[k]? = some (d, some r₁) ∧
      roundtrip.handled[k]? = some (d, some r₂) ∧
      r₁.rxTs = (if (ds.take (k + 1)).all Datagram.stamped then d.own.getD .zero else .zero) ∧
      r₂.rxTs = (if (ds.take (k + 1)).all Datagram.stamped then d.own.getD .zero
        else leftover pktData₂ ds) := by
  rcases hinv₁.getElem_handled hd with ⟨o₁, ho₁⟩
  rcases hinv₂.getElem_handled hd with ⟨o₂, ho₂⟩
  rcases hinv₁.recorded k d o₁ ho₁ nofun with ⟨r₁, rfl, h₁⟩
  rcases hinv₂.recorded k d o₂ ho₂ nofun with ⟨r₂, rfl, h₂⟩
  rw [found_take hd] at h₁ h₂
  exact ⟨r₁, r₂, ho₁, ho₂, h₁, h₂⟩

/-- Only the datagrams from the first one without timestamps on matter. -/
theorem sameTimestamps_iff_behind :
    SameTimestamps ds oneway roundtrip ↔
      ∀ d ∈ ds.dropWhile Datagram.stamped,
        leftover pktData₂ ds = .zero ∧ d.own.getD .zero = .zero := by
  constructor
  · intro h d hmem
    rcases List.getElem?_of_mem hmem with ⟨j, hj⟩
    rw [getElem?_dropWhile] at hj
    have hlt := (List.getElem?_eq_some_iff.mp hj).1
    rcases h _ d hj with ⟨r₁, r₂, ho₁, ho₂, hsame, hown⟩
    rcases exists_records hinv₁ hinv₂ hj with ⟨r₁', r₂', ho₁', ho₂', h₁, h₂⟩
    rw [ho₁] at ho₁'
    rw [ho₂] at ho₂'
    cases ho₁'
    cases ho₂'
    -- from the first bare datagram on, both handlers record what they fall back to
    rw [if_neg (by rw [all_take_iff hlt]; omega)] at h₁ h₂
    have hzero : leftover pktData₂ ds = .zero := h₂.symm.trans (hsame.trans h₁)
    exact ⟨hzero, by rw [← hown, h₂, hzero]⟩
  · intro h k d hd
    have hlt := (List.getElem?_eq_some_iff.mp hd).1
    rcases exists_records hinv₁ hinv₂ hd with ⟨r₁, r₂, ho₁, ho₂, h₁, h₂⟩
    refine ⟨r₁, r₂, ho₁, ho₂, ?_⟩
    by_cases hk : k < (ds.takeWhile Datagram.stamped).length
    · -- before it both record the datagram's own timestamps
      rw [if_pos ((all_take_iff hlt).mpr hk)] at h₁ h₂
      exact ⟨h₂.trans h₁.symm, h₂⟩
    · have hmem : d ∈ ds.dropWhile Datagram.stamped := by
        apply List.mem_of_getElem? (i := k - (ds.takeWhile Datagram.stamped).length)
        rw [getElem?_dropWhile, Nat.add_sub_cancel' (by omega), hd]
      rcases h d hmem with ⟨hzero, hown⟩
      rw [if_neg (by rw [all_take_iff hlt]; exact hk)] at h₁ h₂
      rw [h₁, h₂, hzero, hown]
      exact ⟨rfl, rfl⟩

end SameTimestamps

/-- In every run, the round-trip handler records what the one-way handler logs
if and only if every datagram came with timestamps, or else the packet data was
left with zeros and there are only zero timestamps behind the first datagram
without. -/
theorem same_timestamps_iff {pktData₁ pktData₂ : RxTimestamps} {results : List RecvResult}
    {oneway roundtrip : State}
    (hrun₁ : Run.exec Loop.serverOneway.step (State.init pktData₁) results = some oneway)
    (hrun₂ : Run.exec Loop.serverRoundtrip.step (State.init pktData₂) results = some roundtrip) :
    SameTimestamps (datagrams results) oneway roundtrip ↔
      (datagrams results).all Datagram.stamped = true ∨
        leftover pktData₂ (datagrams results) = .zero ∧
          ∀ d ∈ (datagrams results).dropWhile Datagram.stamped, d.own.getD .zero = .zero := by
  rw [sameTimestamps_iff_behind (inv_run hrun₁) (inv_run hrun₂)]
  constructor
  · intro h
    -- without a bare datagram nothing is left to compare
    cases hbehind : (datagrams results).dropWhile Datagram.stamped with
    | nil =>
      left
      rw [List.all_eq_true]
      exact List.dropWhile_eq_nil_iff.mp hbehind
    | cons d ds =>
      right
      rw [hbehind] at h
      exact ⟨(h d List.mem_cons_self).1, fun e he => (h e he).2⟩
  · rintro (hall | ⟨hzero, hrest⟩) d hmem
    · rw [List.dropWhile_eq_nil_iff.mpr (List.all_eq_true.mp hall)] at hmem
      cases hmem
    · exact ⟨hzero, hrest d hmem⟩

/-- With timestamps on every datagram the two handlers agree. -/
theorem same_timestamps_stamped :
    ∃ oneway roundtrip,
      Run.exec Loop.serverOneway.step (State.init .zero)
        [.received stampedDatagram, .received stampedDatagram] = some oneway ∧
      Run.exec Loop.serverRoundtrip.step (State.init .zero)
        [.received stampedDatagram, .received stampedDatagram] = some roundtrip ∧
      SameTimestamps [stampedDatagram, stampedDatagram] oneway roundtrip := by
  rcases hexec₁ : Run.exec Loop.serverOneway.step (State.init .zero)
    [.received stampedDatagram, .received stampedDatagram] with _ | oneway
  · exact absurd hexec₁ nofun
  rcases hexec₂ : Run.exec Loop.serverRoundtrip.step (State.init .zero)
    [.received stampedDatagram, .received stampedDatagram] with _ | roundtrip
  · exact absurd hexec₂ nofun
  exact ⟨oneway, roundtrip, rfl, rfl, (same_timestamps_iff hexec₁ hexec₂).mpr (Or.inl rfl)⟩

/-- The round-trip handler records the timestamps of the first datagram for the
second one, which has none. -/
theorem timestamps_leak :
    ∃ oneway roundtrip,
      Run.exec Loop.serverOneway.step (State.init .zero)
        [.received stampedDatagram, .received bareDatagram] = some oneway ∧
      Run.exec Loop.serverRoundtrip.step (State.init .zero)
        [.received stampedDatagram, .received bareDatagram] = some roundtrip ∧
      roundtrip.handled[1]? = some (bareDatagram, some ⟨8, ⟨⟨2, 0⟩, ⟨3, 0⟩⟩, ⟨5, 0⟩⟩) ∧
      ¬ SameTimestamps [stampedDatagram, bareDatagram] oneway roundtrip := by
  refine ⟨_, _, rfl, rfl, rfl, ?_⟩
  intro h
  rcases h 1 bareDatagram rfl with ⟨r₁, r₂, -, ho₂, -, hown⟩
  cases ho₂
  exact absurd hown (by decide)

end TradingLatency.Receive
