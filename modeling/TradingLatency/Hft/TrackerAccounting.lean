import TradingLatency.Hft.Tracker
import TradingLatency.Lib.History

/-!
# The accounts of the latency tracker (`tracker.rs`)

The five calls of the tracker come in any order and with any client ids.
`tracker_accounting` says what they return and what the tracker holds behind them:
a response is answered exactly when its client id was sent in the same map and not
answered since, the count is the number of these responses, each sending gives at
most one sample, and the histogram has the samples since the last `print_stats`.
-/

namespace TradingLatency.Hft

open History

/-! ## Calls -/

/-- The two maps of the tracker. -/
inductive Sent where
  | order
  | cancel
deriving DecidableEq

/-- A call of the tracker, with the time at which it reads the clock. -/
inductive TrackerCall where
  | sent (kind : Sent) (clientId : String) (now : Nat)
  | response (kind : Sent) (clientId : String) (now : Nat)
  | printStats

/-- The response to a client id in a map. -/
def TrackerCall.IsResponse (kind : Sent) (clientId : String) : TrackerCall → Prop
  | .response k i _ => k = kind ∧ i = clientId
  | _ => False

/-- The sending of a client id in a map, or the response to it. -/
def TrackerCall.About (kind : Sent) (clientId : String) : TrackerCall → Prop
  | .sent k i _ | .response k i _ => k = kind ∧ i = clientId
  | .printStats => False

namespace LatencyTracker

/-- The map of a kind. -/
def sentTimes (t : LatencyTracker) : Sent → SentTimes
  | .order => t.orderSentTimes
  | .cancel => t.cancelSentTimes

/-- What a call returns, and the tracker behind it. -/
def call (t : LatencyTracker) : TrackerCall → Option UInt64 × LatencyTracker
  | .sent .order clientId now => (none, t.recordOrderSent clientId now)
  | .sent .cancel clientId now => (none, t.recordCancelSent clientId now)
  | .response .order clientId now => t.recordOrderResponse clientId now
  | .response .cancel clientId now => t.recordCancelResponse clientId now
  | .printStats => (none, t.printStats)

/-- The tracker behind several calls. -/
def calls (t : LatencyTracker) (cs : List TrackerCall) : LatencyTracker :=
  cs.foldl (fun t c => (t.call c).2) t

/-- What the calls return. -/
def results (t : LatencyTracker) : List TrackerCall → List (Option UInt64)
  | [] => []
  | c :: cs => (t.call c).1 :: (t.call c).2.results cs

/-- The samples of the calls: the round trips that were returned, clamped. -/
def newSamples (t : LatencyTracker) (cs : List TrackerCall) : List UInt64 :=
  (t.results cs).filterMap fun r => r.map clamp

/-! ## One call -/

section Call

variable (t : LatencyTracker) (kind : Sent) (clientId : String) (now : Nat)

theorem sentTimes_recordResponse (sentTime : Option Nat) :
    (t.recordResponse sentTime now).2.sentTimes = t.sentTimes := by
  cases sentTime <;> rfl

theorem lookup_sent :
    ((t.call (.sent kind clientId now)).2.sentTimes kind).lookup clientId = some now := by
  cases kind <;> exact AList.lookup_insert _

/-- A response removes its entry, whether there was one or not. -/
theorem lookup_response :
    ((t.call (.response kind clientId now)).2.sentTimes kind).lookup clientId = none := by
  cases kind with
  | order =>
    rw [call, recordOrderResponse, sentTimes_recordResponse]
    exact AList.lookup_erase _ _
  | cancel =>
    rw [call, recordCancelResponse, sentTimes_recordResponse]
    exact AList.lookup_erase _ _

/-- A call about something else leaves the entry. -/
theorem lookup_of_not_about {c : TrackerCall} (hc : ¬ c.About kind clientId) :
    ((t.call c).2.sentTimes kind).lookup clientId = (t.sentTimes kind).lookup clientId := by
  cases c with
  | sent k i now =>
    -- the other map is not touched, and in the same map the client id is another one
    cases k <;> cases kind
    · exact AList.lookup_insert_ne fun h => hc ⟨rfl, h.symm⟩
    · rfl
    · rfl
    · exact AList.lookup_insert_ne fun h => hc ⟨rfl, h.symm⟩
  | response k i now =>
    cases k
    · rw [call, recordOrderResponse, sentTimes_recordResponse]
      cases kind
      · exact AList.lookup_erase_ne fun h => hc ⟨rfl, h.symm⟩
      · rfl
    · rw [call, recordCancelResponse, sentTimes_recordResponse]
      cases kind
      · rfl
      · exact AList.lookup_erase_ne fun h => hc ⟨rfl, h.symm⟩
  | printStats => cases kind <;> rfl

theorem recordResponse_fst (sentTime : Option Nat) :
    (t.recordResponse sentTime now).1 = sentTime.map fun sent => calculateRtt sent now := by
  cases sentTime <;> rfl

/-- A response returns the round trip since the time of its entry. -/
theorem call_response :
    (t.call (.response kind clientId now)).1 =
      ((t.sentTimes kind).lookup clientId).map fun sentTime => calculateRtt sentTime now := by
  cases kind <;> exact recordResponse_fst _ _ _

theorem responseCount_recordResponse (sentTime : Option Nat) :
    (t.recordResponse sentTime now).2.responseCount =
      t.responseCount + if (t.recordResponse sentTime now).1.isSome then 1 else 0 := by
  cases sentTime with
  | none => exact (UInt64.add_zero _).symm
  | some sentTime => rfl

/-- A call that returns a round trip is counted. -/
theorem responseCount_call (c : TrackerCall) :
    (t.call c).2.responseCount = t.responseCount + if (t.call c).1.isSome then 1 else 0 := by
  cases c with
  | sent k i now => cases k <;> exact (UInt64.add_zero _).symm
  | response k i now => cases k <;> exact responseCount_recordResponse _ _ _
  | printStats => exact (UInt64.add_zero _).symm

theorem histogram_recordResponse (sentTime : Option Nat) :
    (t.recordResponse sentTime now).2.histogram.values =
      t.histogram.values ++ ((t.recordResponse sentTime now).1.map clamp).toList := by
  cases sentTime with
  | none => exact (List.append_nil _).symm
  | some sentTime => exact recordLatency_histogram _ _

/-- Except for `print_stats`, a call adds what it returns to the histogram. -/
theorem histogram_call {c : TrackerCall} (hc : c ≠ .printStats) :
    (t.call c).2.histogram.values =
      t.histogram.values ++ ((t.call c).1.map clamp).toList := by
  cases c with
  | sent k i now => cases k <;> exact (List.append_nil _).symm
  | response k i now => cases k <;> exact histogram_recordResponse _ _ _
  | printStats => exact absurd rfl hc

end Call

/-! ## Several calls -/

section Calls

variable (t : LatencyTracker) (cs : List TrackerCall)

theorem calls_append (cs' : List TrackerCall) : t.calls (cs ++ cs') = (t.calls cs).calls cs' :=
  List.foldl_append

theorem calls_concat (c : TrackerCall) : t.calls (cs ++ [c]) = ((t.calls cs).call c).2 :=
  List.foldl_concat ..

/-- The count goes up by the number of responses that returned a round trip. -/
theorem responseCount_calls :
    (t.calls cs).responseCount =
      t.responseCount + UInt64.ofNat ((t.results cs).countP Option.isSome) := by
  induction cs generalizing t with
  | nil => exact (UInt64.add_zero _).symm
  | cons c cs ih =>
    rw [calls, List.foldl_cons, ← calls, ih, responseCount_call, results, List.countP_cons,
      UInt64.ofNat_add, UInt64.add_assoc, UInt64.add_comm (UInt64.ofNat _)]
    split <;> rfl

/-- Without `print_stats` among the calls, their samples are added to the histogram. -/
theorem histogram_calls (hcs : .printStats ∉ cs) :
    (t.calls cs).histogram.values = t.histogram.values ++ t.newSamples cs := by
  induction cs generalizing t with
  | nil => exact (List.append_nil _).symm
  | cons c cs ih =>
    have hc : c ≠ .printStats := fun h => hcs (by simp [h])
    rw [calls, List.foldl_cons, ← calls, ih _ fun h => hcs (List.mem_cons_of_mem _ h),
      histogram_call t hc, List.append_assoc, newSamples, newSamples, results]
    congr 1
    rcases (t.call c).1 with _ | rtt <;> rfl

end Calls

/-! ## Who waits for a response -/

section Waiting

variable (testSize : UInt64) (kind : Sent) (clientId : String)

/-- The entry of a client id is the time of its last sending, as long as no response
to it came behind that. -/
theorem lookup_calls (cs : List TrackerCall) (sentTime : Nat) :
    (((new testSize).calls cs).sentTimes kind).lookup clientId = some sentTime ↔
      LastIs (·.About kind clientId) (.sent kind clientId sentTime) cs := by
  -- induction from the last call, which is the one that counts if it is about the id
  induction cs using List.reverseRecOn with
  | nil =>
    refine iff_of_false ?_ (not_lastIs_nil _)
    cases kind <;> simp [calls, new, sentTimes]
  | append_singleton cs c ih =>
    rw [lastIs_concat, ← ih, calls_concat]
    by_cases habout : c.About kind clientId
    · cases c with
      | sent k i now =>
        rcases habout with ⟨rfl, rfl⟩
        rw [lookup_sent]
        simp [TrackerCall.About]
      | response k i now =>
        rcases habout with ⟨rfl, rfl⟩
        rw [lookup_response]
        simp [TrackerCall.About]
      | printStats => cases habout
    · -- a call about another id, or `print_stats`, leaves the entry
      have hne : c ≠ .sent kind clientId sentTime := by
        rintro rfl
        exact habout ⟨rfl, rfl⟩
      rw [lookup_of_not_about _ _ _ habout]
      simp [habout, hne]

/-- There is an entry exactly when the client id was sent and not answered since. -/
theorem isSome_lookup_calls (cs : List TrackerCall) :
    ((((new testSize).calls cs).sentTimes kind).lookup clientId).isSome ↔
      ∃ sentTime, LastIs (·.IsResponse kind clientId) (.sent kind clientId sentTime) cs := by
  induction cs using List.reverseRecOn with
  | nil =>
    refine iff_of_false ?_ ?_
    · cases kind <;> simp [calls, new, sentTimes]
    · rintro ⟨sentTime, hlast⟩
      exact not_lastIs_nil _ hlast
  | append_singleton cs c ih =>
    simp only [lastIs_concat, calls_concat]
    by_cases habout : c.About kind clientId
    · cases c with
      | sent k i now =>
        -- a new order for the id, or the response to it
        rcases habout with ⟨rfl, rfl⟩
        rw [lookup_sent]
        exact iff_of_true rfl ⟨now, Or.inl rfl⟩
      | response k i now =>
        rcases habout with ⟨rfl, rfl⟩
        rw [lookup_response]
        simp [TrackerCall.IsResponse]
      | printStats => cases habout
    · have hne : ∀ sentTime, c ≠ .sent kind clientId sentTime := by
        rintro sentTime rfl
        exact habout ⟨rfl, rfl⟩
      have hresponse : ¬ c.IsResponse kind clientId := by
        intro h
        cases c with
        | response k i now => exact habout h
        | sent k i now => cases h
        | printStats => cases h
      rw [lookup_of_not_about _ _ _ habout, ih]
      simp [hne, hresponse]

end Waiting

/-! ## The accounts -/

/-- A round trip of less than 64 bits, clamped. -/
theorem toNat_clamp_calculateRtt {sentTime now : Nat} (h : now - sentTime < 2 ^ 64) :
    (clamp (calculateRtt sentTime now)).toNat = max 1 (min 3600000000000 (now - sentTime)) := by
  have hrtt : (calculateRtt sentTime now).toNat = now - sentTime := UInt64.toNat_ofNat_of_lt' h
  have hmax : histogramMax.toNat = 3600000000000 := rfl
  have hone : (1 : UInt64).toNat = 1 := rfl
  unfold clamp
  simp only [UInt64.lt_iff_toNat_lt, hrtt, hmax, hone]
  split
  · omega
  · split <;> omega

/-- The histogram is empty at the start and behind `print_stats`. -/
theorem histogram_fresh (testSize : UInt64) {cs : List TrackerCall}
    (h : cs = [] ∨ cs.getLast? = some .printStats) :
    ((new testSize).calls cs).histogram.values = [] := by
  rcases h with rfl | hlast
  · rfl
  · rcases List.getLast?_eq_some_iff.mp hlast with ⟨before, rfl⟩
    rw [calls_concat]
    rfl

/-- For every sequence of calls on a new tracker:

* `response_count` is the number of calls that returned a round trip;
* a response returns one exactly when its client id was sent in the same map and
  not answered since, and it is the time since the last sending;
* no sending is the last one before two responses;
* the histogram has the samples since the last `print_stats`;
* a sample is the time since the sending, clamped. -/
theorem tracker_accounting (testSize : UInt64) (cs : List TrackerCall) :
    ((new testSize).calls cs).responseCount =
        UInt64.ofNat (((new testSize).results cs).countP Option.isSome) ∧
      (∀ before kind clientId now behind, cs = before ++ .response kind clientId now :: behind →
        ((((new testSize).calls before).call (.response kind clientId now)).1.isSome ↔
          ∃ sentTime, LastIs (·.IsResponse kind clientId) (.sent kind clientId sentTime) before) ∧
        ∀ rtt, (((new testSize).calls before).call (.response kind clientId now)).1 = some rtt →
          ∃ sentTime, LastIs (·.About kind clientId) (.sent kind clientId sentTime) before ∧
            rtt = calculateRtt sentTime now) ∧
      (∀ before kind clientId sentTime mid now behind mid' now' behind',
        cs = before ++ .sent kind clientId sentTime ::
          (mid ++ .response kind clientId now :: behind) →
        cs = before ++ .sent kind clientId sentTime ::
          (mid' ++ .response kind clientId now' :: behind') →
        (∀ c ∈ mid, ¬ c.About kind clientId) → (∀ c ∈ mid', ¬ c.About kind clientId) →
          mid = mid') ∧
      (∀ before behind, cs = before ++ behind →
        (before = [] ∨ before.getLast? = some .printStats) → .printStats ∉ behind →
          ((new testSize).calls cs).histogram.values =
            ((new testSize).calls before).newSamples behind) ∧
      ∀ sentTime now, now - sentTime < 2 ^ 64 →
        (clamp (calculateRtt sentTime now)).toNat =
          max 1 (min 3600000000000 (now - sentTime)) := by
  -- the parts of the statement one by one
  refine ⟨?_, ?_, ?_, ?_, fun _ _ h => toNat_clamp_calculateRtt h⟩
  · rw [responseCount_calls]
    exact UInt64.zero_add _
  · intro before kind clientId now behind _
    rw [call_response, Option.isSome_map, isSome_lookup_calls]
    refine ⟨Iff.rfl, ?_⟩
    intro rtt hrtt
    rcases Option.map_eq_some_iff.mp hrtt with ⟨sentTime, hlookup, rfl⟩
    exact ⟨sentTime, (lookup_calls testSize kind clientId before sentTime).mp hlookup, rfl⟩
  · intro before kind clientId sentTime mid now behind mid' now' behind' hcs hcs' hmid hmid'
    have heq := List.append_cancel_left (hcs.symm.trans hcs')
    rw [List.cons.injEq] at heq
    refine next_unique ?_ ?_ hmid hmid' heq.2
    · exact ⟨rfl, rfl⟩
    · exact ⟨rfl, rfl⟩
  · intro before behind hcs hfresh hbehind
    rw [hcs, calls_append, histogram_calls _ _ hbehind, histogram_fresh testSize hfresh,
      List.nil_append]

/-- An order that is sent twice under one client id, and answered twice. -/
def repeatedOrder : List TrackerCall :=
  [.sent .order "a" 5, .sent .order "a" 7, .response .order "a" 12, .response .order "a" 15]

/-- The first response is counted, with the time since the second sending; the second
response finds nothing. -/
theorem tracker_accounting_repeatedOrder :
    ((new 10).calls repeatedOrder).responseCount = 1 ∧
      ((new 10).calls repeatedOrder).histogram.values = [5] ∧
      (clamp (calculateRtt 7 12)).toNat = 5 := by
  rcases tracker_accounting 10 repeatedOrder with ⟨hcount, -, -, hhistogram, hsample⟩
  refine ⟨?_, ?_, ?_⟩
  · rw [hcount]
    rfl
  · rw [hhistogram [] repeatedOrder rfl (Or.inl rfl) (by simp [repeatedOrder])]
    rfl
  · exact hsample 7 12 (by decide)

end LatencyTracker

end TradingLatency.Hft
