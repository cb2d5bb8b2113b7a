import TradingLatency.Hft.CppClient

/-!
# The report of the C++ client (`ExchangeClientLatencyTestHandler.cpp`)

The handler runs against a server that answers every request, in order, and after
a positive time. `orderResponseCount` counts the messages that are sent, the first
order included, while the histogram has one sample for each answer. So the report
is printed one answer early: `report_covers_iff` says that it covers `TEST_SIZE`
answers only if `TEST_SIZE` is one.
-/

namespace TradingLatency.CppClient

open CText

/-! ## A server that answers in order -/

/-- The answer to a request. -/
def reply : Request → Message
  | .auth => .authenticated
  | .subscribe => .subscriptions
  | .buyOrder pair clientId => .booked (some clientId) (some pair)
  | .cancelOrder _ clientId => .done (some clientId)

/-- How the next request is answered: `delay + 1` nanoseconds behind its sending,
and `work` nanoseconds later the next message is sent. -/
structure Answer where
  delay : Nat
  work : Nat
  uuid : Uuid

/-- The round trip, which is positive. -/
def Answer.roundTrip (a : Answer) : Int := a.delay + 1

/-- The handler and its server: the time of the last sending, and the number of
requests that are answered. -/
structure Exchange where
  handler : Handler
  clock : Int
  answered : Nat

/-- The connection is open, and nothing is answered yet. -/
def Exchange.init : Exchange := ⟨.onOpen, 0, 0⟩

/-- The first request that is not answered yet is answered. -/
def exchangeStep (cfg : Config) (x : Exchange) (a : Answer) : Option Exchange :=
  match x.handler.sent[x.answered]? with
  | none => none
  | some request =>
      let eventReceiveTime := x.clock + a.roundTrip
      let sending : Sending := ⟨a.uuid, eventReceiveTime + a.work⟩
      (step cfg x.handler ⟨eventReceiveTime, reply request, sending⟩).map fun handler =>
        ⟨handler, sending.time, x.answered + 1⟩

/-- `hdrPrint` was called once, and the histogram had `TEST_SIZE` samples. -/
def ReportCovers (cfg : Config) (x : Exchange) : Prop :=
  x.handler.printed.length = 1 ∧
    ∀ report ∈ x.handler.printed, (report.length : Int) = cfg.testSize.toInt

/-- The last request waits for its answer: an order, or the cancel of one. -/
inductive Pending (x : Exchange) : Prop where
  | order (pair clientId : Text)
      (sent : x.handler.sent[x.answered]? = some (.buyOrder pair clientId))
      (orders : x.handler.orderSentTimeMap = .single clientId x.clock)
      (cancels : x.handler.cancelSentTimeMap = fun _ => none)
  | cancel (pair clientId : Text)
      (sent : x.handler.sent[x.answered]? = some (.cancelOrder pair clientId))
      (orders : x.handler.orderSentTimeMap = fun _ => none)
      (cancels : x.handler.cancelSentTimeMap = .single clientId x.clock)

/-- The round trips `rs` are over, and one more message than that was sent. -/
structure Serving (cfg : Config) (rs : List Int) (x : Exchange) : Prop where
  pending : Pending x
  sent : x.handler.sent.length = x.answered + 1
  count : x.handler.orderResponseCount = UInt64.ofNat (rs.length + 1)
  histogram : x.handler.histogram = rs.filter cfg.accepts
  printed : x.handler.printed = []
  closed : x.handler.closed = false

section Serving

variable {cfg : Config} {rs : List Int} {x : Exchange}

theorem record_filter (rs : List Int) (r : Int) :
    cfg.record (rs.filter cfg.accepts) r = (rs ++ [r]).filter cfg.accepts := by
  rw [Config.record, List.filter_append]
  split
  · rename_i h
    rw [List.filter_cons_of_pos h, List.filter_nil]
  · rename_i h
    rw [List.filter_cons_of_neg h, List.filter_nil, List.append_nil]

/-- One answer more: the handler comes to the end of the answer with one more
round trip, and with one more message sent. -/
theorem Serving.exists_response (hx : Serving cfg rs x) (a : Answer) :
    ∃ y, Serving cfg (rs ++ [a.roundTrip]) y ∧
      exchangeStep cfg x a = (y.handler.afterResponse cfg).map fun handler =>
        { y with handler } := by
  -- the clock goes on by what the round trip took
  have hlater : x.clock < x.clock + a.roundTrip := by
    unfold Answer.roundTrip
    omega
  have hround : x.clock + a.roundTrip - x.clock = a.roundTrip := by omega
  have hcount : x.handler.orderResponseCount + 1 =
      UInt64.ofNat ((rs ++ [a.roundTrip]).length + 1) := by
    rw [hx.count, List.length_append, List.length_singleton, UInt64.ofNat_add (rs.length + 1) 1]
    rfl
  have hhistogram : cfg.record x.handler.histogram a.roundTrip =
      (rs ++ [a.roundTrip]).filter cfg.accepts := by
    rw [hx.histogram, record_filter]
  have hlength : ∀ request, (x.handler.sent ++ [request]).length = x.answered + 1 + 1 := by
    intro request
    rw [List.length_append, hx.sent, List.length_singleton]
  have hlast : ∀ request, (x.handler.sent ++ [request])[x.answered + 1]? = some request := by
    intro request
    rw [← hx.sent, List.getElem?_concat_length]
  cases hx.pending with
  | order pair clientId hsent horders hcancels =>
    -- the order was accepted: its cancel is sent
    refine ⟨⟨{ x.handler with
        orderSentTimeMap := fun _ => none
        histogram := cfg.record x.handler.histogram a.roundTrip }.sendCancelOrder clientId pair
          ⟨a.uuid, x.clock + a.roundTrip + a.work⟩, x.clock + a.roundTrip + a.work,
            x.answered + 1⟩,
      ⟨.cancel pair clientId (hlast _) rfl ?_, hlength _, hcount, hhistogram, hx.printed,
        hx.closed⟩, ?_⟩
    · simp only [Handler.sendCancelOrder, hcancels, insert_empty]
    · simp only [exchangeStep, hsent, step, hx.closed, reply, Handler.onMessage,
        onBooked_single horders hlater, hround, Bool.false_eq_true, if_false]
  | cancel pair clientId hsent horders hcancels =>
    -- the order was cancelled: the next order is sent
    refine ⟨⟨{ x.handler with
        cancelSentTimeMap := fun _ => none
        histogram := cfg.record x.handler.histogram a.roundTrip }.sendOrder cfg
          ⟨a.uuid, x.clock + a.roundTrip + a.work⟩, x.clock + a.roundTrip + a.work,
            x.answered + 1⟩,
      ⟨.order _ _ (hlast _) ?_ rfl, hlength _, hcount, hhistogram, hx.printed, hx.closed⟩, ?_⟩
    · simp only [Handler.sendOrder, horders, insert_empty]
    · simp only [exchangeStep, hsent, step, hx.closed, reply, Handler.onMessage,
        onDone_single hcancels hlater, hround, Bool.false_eq_true, if_false]

/-- The end of an answer, for a `TEST_SIZE` of `t` and a count of `k` messages. -/
theorem afterResponse_eq {h : Handler} {t k : Nat} (ht : cfg.testSize.toInt = t) (hpos : 1 ≤ t)
    (hk : h.orderResponseCount = UInt64.ofNat k) (hmax : k < 2 ^ 64) :
    h.afterResponse cfg = some (if k % t = 0 then { h.hdrPrint with closed := true } else h) := by
  have hlt := Int32.toInt_lt cfg.testSize
  have htmax : t < 2 ^ 64 := by omega
  have hto : (UInt64.ofNat t).toNat = t := UInt64.toNat_ofNat_of_lt' htmax
  -- `TEST_SIZE` is positive, so that the remainder has a divisor
  have hzero : UInt64.ofNat t ≠ 0 := by
    intro h0
    rw [h0] at hto
    simp at hto
    omega
  have hmod : UInt64.ofNat k % UInt64.ofNat t = 0 ↔ k % t = 0 := by
    rw [← UInt64.toNat_inj, UInt64.toNat_mod, hto, UInt64.toNat_ofNat_of_lt' hmax]
    rfl
  simp only [Handler.afterResponse, ht, hk, uint64_ofInt_natCast, hzero, hmod, if_false]
  split <;> rfl

/-- As long as the count is no multiple of `TEST_SIZE`, the exchange goes on. -/
theorem Serving.exists_next {t : Nat} (ht : cfg.testSize.toInt = t) (hpos : 1 ≤ t)
    (hx : Serving cfg rs x) (hmax : rs.length + 2 < 2 ^ 64) (hmod : (rs.length + 2) % t ≠ 0)
    (a : Answer) :
    ∃ y, exchangeStep cfg x a = some y ∧ Serving cfg (rs ++ [a.roundTrip]) y := by
  rcases hx.exists_response a with ⟨y, hy, hstep⟩
  have hcount : (rs ++ [a.roundTrip]).length + 1 = rs.length + 2 := by
    rw [List.length_append, List.length_singleton]
  rw [afterResponse_eq ht hpos hy.count (by omega), hcount, if_neg hmod] at hstep
  exact ⟨y, hstep, hy⟩

/-- At the first multiple the histogram is printed, and the connection closed. -/
theorem Serving.exists_report {t : Nat} (ht : cfg.testSize.toInt = t) (hpos : 1 ≤ t)
    (hx : Serving cfg rs x) (hmax : rs.length + 2 < 2 ^ 64) (hmod : (rs.length + 2) % t = 0)
    (a : Answer) :
    ∃ y, exchangeStep cfg x a = some y ∧ y.handler.closed = true ∧
      y.handler.printed = [(rs ++ [a.roundTrip]).filter cfg.accepts] := by
  rcases hx.exists_response a with ⟨y, hy, hstep⟩
  have hcount : (rs ++ [a.roundTrip]).length + 1 = rs.length + 2 := by
    rw [List.length_append, List.length_singleton]
  rw [afterResponse_eq ht hpos hy.count (by omega), hcount, if_pos hmod] at hstep
  refine ⟨_, hstep, rfl, ?_⟩
  show y.handler.printed ++ [y.handler.histogram] = _
  rw [hy.printed, hy.histogram, List.nil_append]

end Serving

/-! ## The report -/

section Report

variable {cfg : Config} (answers : Nat → Answer)

/-- The first `n` answers. -/
def answersUpTo (n : Nat) : List Answer := (List.range n).map answers

/-- The round trips of the first `k` orders and cancels. The first two answers are
those to the login and to the subscription. -/
def roundTrips (k : Nat) : List Int := (List.range k).map fun i => (answers (i + 2)).roundTrip

theorem exec_answersUpTo_succ {n : Nat} {x y : Exchange}
    (hrun : Run.exec (exchangeStep cfg) .init (answersUpTo answers n) = some x)
    (hstep : exchangeStep cfg x (answers n) = some y) :
    Run.exec (exchangeStep cfg) .init (answersUpTo answers (n + 1)) = some y := by
  rw [answersUpTo, List.range_succ, List.map_append, ← answersUpTo, Run.exec_append hrun,
    List.map_singleton, Run.exec, hstep]
  rfl

theorem roundTrips_succ (k : Nat) :
    roundTrips answers (k + 1) = roundTrips answers k ++ [(answers (k + 2)).roundTrip] := by
  rw [roundTrips, List.range_succ, List.map_append, ← roundTrips, List.map_singleton]

@[simp] theorem length_roundTrips (k : Nat) : (roundTrips answers k).length = k := by
  rw [roundTrips, List.length_map, List.length_range]

/-- The login and the subscription are answered, and the first order is sent. -/
theorem exists_subscribed_exchange (cfg : Config) :
    ∃ x, Run.exec (exchangeStep cfg) .init (answersUpTo answers 2) = some x ∧
      Serving cfg (roundTrips answers 0) x :=
  ⟨_, rfl, .order _ _ rfl rfl rfl, rfl, rfl, rfl, rfl, rfl⟩

/-- As long as no count up to here is a multiple of `TEST_SIZE`, the handler waits
for the next answer. -/
theorem exists_serving {t : Nat} (ht : cfg.testSize.toInt = t) (hpos : 1 ≤ t) (k : Nat)
    (hmax : k + 1 < 2 ^ 64) (hmod : ∀ j, 1 ≤ j → j ≤ k → (j + 1) % t ≠ 0) :
    ∃ x, Run.exec (exchangeStep cfg) .init (answersUpTo answers (k + 2)) = some x ∧
      Serving cfg (roundTrips answers k) x := by
  induction k with
  | zero => exact exists_subscribed_exchange answers cfg
  | succ k ih =>
    rcases ih (by omega) (fun j hj hle => hmod j hj (by omega)) with ⟨x, hrun, hx⟩
    rcases hx.exists_next ht hpos (by rw [length_roundTrips]; omega)
      (by rw [length_roundTrips]; exact hmod (k + 1) (by omega) (by omega)) (answers (k + 2))
      with ⟨y, hstep, hy⟩
    rw [← roundTrips_succ] at hy
    exact ⟨y, exec_answersUpTo_succ answers hrun hstep, hy⟩

/-- The number of answers that are recorded when the histogram is printed: the first
order counts as a message, but only behind its answer the count is looked at. -/
def reportedAnswers (t : Nat) : Nat := if t = 1 then 1 else t - 1

/-- The run ends with one report, of the round trips that the histogram accepted. -/
theorem exists_closed (cfg : Config) {t : Nat} (ht : cfg.testSize.toInt = t) (hpos : 1 ≤ t) :
    ∃ x, Run.exec (exchangeStep cfg) .init (answersUpTo answers (reportedAnswers t + 2)) = some x ∧
      x.handler.closed = true ∧
      x.handler.printed = [(roundTrips answers (reportedAnswers t)).filter cfg.accepts] := by
  have hlt := Int32.toInt_lt cfg.testSize
  obtain ⟨k, hk⟩ : ∃ k, reportedAnswers t = k + 1 := by
    refine ⟨reportedAnswers t - 1, ?_⟩
    unfold reportedAnswers
    split <;> omega
  -- a test of one message needs two answers, any other as many as its size
  have hkt : t = 1 ∧ k = 0 ∨ t = k + 2 := by
    unfold reportedAnswers at hk
    split at hk <;> omega
  -- no multiple of `TEST_SIZE` before the last answer
  have hmod : ∀ j, 1 ≤ j → j ≤ k → (j + 1) % t ≠ 0 := by
    intro j hj hle
    rw [Nat.mod_eq_of_lt (by omega)]
    omega
  have hlast : (k + 2) % t = 0 := by
    rcases hkt with ⟨hone, -⟩ | htwo
    · rw [hone, Nat.mod_one]
    · rw [htwo, Nat.mod_self]
  rcases exists_serving answers ht hpos k (by omega) hmod with ⟨x, hrun, hx⟩
  rcases hx.exists_report ht hpos (by rw [length_roundTrips]; omega)
    (by rw [length_roundTrips]; exact hlast) (answers (k + 2)) with ⟨y, hstep, hclosed, hprinted⟩
  rw [hk]
  refine ⟨y, exec_answersUpTo_succ answers hrun hstep, hclosed, ?_⟩
  rw [hprinted, roundTrips_succ]

end Report

/-- For every `TEST_SIZE` of at least one and all answers with a positive round trip:
the exchange comes to its end with the connection closed, and the histogram was
printed once and with `TEST_SIZE` samples if and only if `TEST_SIZE` is one and the
histogram accepts the first round trip. -/
theorem report_covers_iff (cfg : Config) (hsize : 1 ≤ cfg.testSize.toInt)
    (answers : Nat → Answer) :
    ∃ n x, Run.exec (exchangeStep cfg) .init ((List.range n).map answers) = some x ∧
      x.handler.closed = true ∧ (∀ a, exchangeStep cfg x a = none) ∧
      (ReportCovers cfg x ↔
        cfg.testSize.toInt = 1 ∧ cfg.accepts (answers 2).roundTrip = true) := by
  obtain ⟨t, ht⟩ : ∃ t : Nat, cfg.testSize.toInt = t := ⟨_, (Int.toNat_of_nonneg (by omega)).symm⟩
  rcases exists_closed answers cfg ht (by omega) with ⟨x, hrun, hclosed, hprinted⟩
  refine ⟨_, x, hrun, hclosed, ?_, ?_⟩
  · intro a
    simp only [exchangeStep, step, hclosed, if_true]
    split <;> rfl
  · have hlen := List.length_filter_le cfg.accepts (roundTrips answers (reportedAnswers t))
    rw [length_roundTrips] at hlen
    simp only [ReportCovers, hprinted, List.length_singleton, List.mem_singleton, forall_eq,
      true_and, ht]
    rcases Nat.lt_or_ge 1 t with hmany | hone
    · -- the first order is counted and has no sample
      have hreported : reportedAnswers t = t - 1 := if_neg (by omega)
      constructor
      · intro hcovers
        omega
      · rintro ⟨hone, -⟩
        omega
    · have hone : t = 1 := by omega
      subst hone
      have hfirst : roundTrips answers (reportedAnswers 1) = [(answers 2).roundTrip] := rfl
      rw [hfirst]
      rcases haccepts : cfg.accepts (answers 2).roundTrip with _ | _
      · simp [haccepts]
      · simp [haccepts]

/-- A configuration with the default coin pair and a histogram that accepts every
value. -/
def plainConfig (testSize : Int32) : Config := .ofFile [] testSize fun _ => true

/-- With a `TEST_SIZE` of one the report has its one sample. -/
theorem report_covers_one :
    ∃ n x, Run.exec (exchangeStep (plainConfig 1)) .init
        ((List.range n).map fun _ => ⟨0, 0, zeroUuid⟩) = some x ∧
      x.handler.closed = true ∧ ReportCovers (plainConfig 1) x := by
  rcases report_covers_iff (plainConfig 1) (by decide) (fun _ => ⟨0, 0, zeroUuid⟩)
    with ⟨n, x, hrun, hclosed, -, hcovers⟩
  exact ⟨n, x, hrun, hclosed, hcovers.mpr ⟨rfl, rfl⟩⟩

/-- With a `TEST_SIZE` of two the connection is closed behind the first answer, with
one sample in the histogram. -/
theorem report_misses_one :
    ∃ x, Run.exec (exchangeStep (plainConfig 2)) .init
        ((List.range 3).map fun _ => ⟨0, 0, zeroUuid⟩) = some x ∧
      x.handler.closed = true ∧ x.handler.printed = [[1]] ∧
      ¬ ReportCovers (plainConfig 2) x := by
  rcases exists_closed (fun _ => ⟨0, 0, zeroUuid⟩) (plainConfig 2) rfl (by decide)
    with ⟨x, hrun, hclosed, hprinted⟩
  refine ⟨x, hrun, hclosed, hprinted, ?_⟩
  rintro ⟨-, hlength⟩
  exact absurd (hlength [1] (by rw [hprinted]; exact List.mem_singleton_self _)) (by decide)

end TradingLatency.CppClient
