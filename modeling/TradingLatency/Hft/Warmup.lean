import TradingLatency.Hft.JavaClient

/-!
# The warm-up of the Java client (`RoundTripLatencyTester.java`)

As long as `MESSAGE_COUNTER` is below `WARMUP_COUNT * TEST_SIZE`, `printResults`
reports nothing. But it leaves the values in the recorder of the caller, and the
first call behind the warm-up moves them to `HISTOGRAM` together with the others.

`warmup_excluded_iff` says for which configurations no run logs a sample of the
warm-up: those without a warm-up, those that never send an order, and those that
never log a report, because no multiple of `REPORT_SIZE` lies between the end of
the warm-up and `Long.MAX_VALUE`.
-/

namespace TradingLatency.JavaClient

/-- No sample was recorded during the warm-up. -/
def ExcludesWarmup (samples : List Sample) : Prop := ∀ x ∈ samples, x.duringWarmup = false

/-- No logged histogram has a sample that was recorded during the warm-up. -/
def WarmupExcluded (s : State) : Prop := ∀ histogram ∈ s.logged, ExcludesWarmup histogram

/-- The largest multiple of `REPORT_SIZE` that is a `long`. -/
def Config.lastReport (cfg : Config) : Int :=
  cfg.reportSize.toInt * ((2 ^ 63 - 1) / cfg.reportSize.toInt)

/-! ## Arithmetic -/

/-- A `long` divided by an `int` without remainder. -/
theorem mod_eq_zero_iff_dvd (x : Int64) (y : Int32) : x % y.toInt64 = 0 ↔ y.toInt ∣ x.toInt := by
  rw [← Int64.toInt_inj, Int64.toInt_mod, Int32.toInt_toInt64]
  exact (Int.dvd_iff_tmod_eq_zero).symm

section Sizes

variable {cfg : Config} (hcount : 1 ≤ cfg.exchangeClientCount)
  (hsize : cfg.exchangeClientCount ≤ cfg.testSize)
include hcount

theorem one_le_toInt_count : 1 ≤ cfg.exchangeClientCount.toInt :=
  Int32.le_iff_toInt_le.mp hcount

theorem toInt_handlerTestSize :
    cfg.handlerTestSize.toInt = cfg.testSize.toInt.tdiv cfg.exchangeClientCount.toInt := by
  have hpos := one_le_toInt_count hcount
  apply Int32.toInt_div_of_ne_right
  rintro hneg
  rw [hneg] at hpos
  exact absurd hpos (by decide)

include hsize

/-- The share of a handler, as a natural number. -/
theorem exists_handlerTestSize :
    ∃ t : Nat, 1 ≤ t ∧ cfg.handlerTestSize.toInt = t ∧
      cfg.exchangeClientCount.toInt * t ≤ cfg.testSize.toInt := by
  have hpos := one_le_toInt_count hcount
  have hle := Int32.le_iff_toInt_le.mp hsize
  have hdiv := toInt_handlerTestSize hcount
  rw [Int.tdiv_eq_ediv_of_nonneg (by omega)] at hdiv
  have hone : 1 ≤ cfg.testSize.toInt / cfg.exchangeClientCount.toInt :=
    Int.le_ediv_of_mul_le (by omega) (by omega)
  refine ⟨cfg.handlerTestSize.toInt.toNat, by omega, by omega, ?_⟩
  rw [Int.toNat_of_nonneg (by omega), hdiv]
  exact Int.mul_ediv_self_le (by omega)

theorem toInt_reportSize :
    cfg.reportSize.toInt = cfg.exchangeClientCount.toInt * cfg.handlerTestSize.toInt := by
  rcases exists_handlerTestSize hcount hsize with ⟨t, ht, hshare, hle⟩
  have hpos := one_le_toInt_count hcount
  have hmax := Int32.toInt_lt cfg.testSize
  have hprod : 0 ≤ cfg.exchangeClientCount.toInt * t := Int.mul_nonneg (by omega) (by omega)
  show (cfg.exchangeClientCount * cfg.handlerTestSize).toInt = _
  rw [Int32.toInt_mul, hshare]
  exact Int.bmod_eq_of_le (by omega) (by omega)

theorem reportSize_pos : 0 < cfg.reportSize.toInt := by
  rcases exists_handlerTestSize hcount hsize with ⟨t, ht, hshare, -⟩
  rw [toInt_reportSize hcount hsize, hshare]
  exact Int.mul_pos (one_le_toInt_count hcount) (by omega)

end Sizes

/-! ## What a frame records -/

section Frame

variable {cfg : Config} {warmedUp : Bool} {h h' : Handler} {eventReceiveTime : Int64}

/-- A frame records one sample or none. -/
def Records (warmedUp : Bool) (h h' : Handler) : Prop :=
  h'.recorder = h.recorder ∨
    ∃ roundTripTime, h'.recorder = h.recorder ++ [⟨roundTripTime, !warmedUp⟩]

theorem records_calculateRoundTrip {sentTime : Option Int64}
    (hround : h.calculateRoundTrip warmedUp eventReceiveTime sentTime = some h') :
    Records warmedUp h h' := by
  cases sentTime with
  | none => cases hround
  | some sentTime =>
    simp only [Handler.calculateRoundTrip] at hround
    split at hround
    · cases hround
    · split at hround
      · cases hround
        exact Or.inr ⟨_, rfl⟩
      · cases hround
        exact Or.inl rfl

theorem records_onTextWebSocketFrame (cfg : Config) (warmedUp : Bool) (h : Handler)
    (eventReceiveTime : Int64) (sending : Sending) (m : Message) :
    Records warmedUp h (h.onTextWebSocketFrame cfg warmedUp eventReceiveTime sending m) := by
  cases m with
  | booked clientId instrumentCode =>
    cases clientId with
    | none => exact Or.inl rfl
    | some clientId =>
      -- a client id that does not wait records nothing
      simp only [Handler.onTextWebSocketFrame, Handler.onBooked]
      split
      · exact Or.inl rfl
      · rename_i recorded hround
        have hrecords := records_calculateRoundTrip hround
        split
        · exact hrecords
        · exact hrecords
  | done clientId =>
    cases clientId with
    | none => exact Or.inl rfl
    | some clientId =>
      simp only [Handler.onTextWebSocketFrame, Handler.onDone]
      split
      · exact Or.inl rfl
      · rename_i recorded hround
        have hrecords := records_calculateRoundTrip hround
        unfold Handler.sendOrder
        split
        · exact hrecords
        · rename_i sent hsent
          split at hsent
          · cases hsent
          · cases hsent
            exact hrecords
  | subscriptions =>
    simp only [Handler.onTextWebSocketFrame, Handler.sendOrder]
    split <;> exact Or.inl rfl
  | authenticated => exact Or.inl rfl
  | other => exact Or.inl rfl

end Frame

/-! ## Without a warm-up -/

section Forward

variable {cfg : Config} {s s' : State} {l : Label}

theorem ExcludesWarmup.append {xs ys : List Sample} (hxs : ExcludesWarmup xs)
    (hys : ExcludesWarmup ys) : ExcludesWarmup (xs ++ ys) := by
  intro x hx
  rcases List.mem_append.mp hx with hx | hx
  · exact hxs x hx
  · exact hys x hx

theorem excludesWarmup_nil : ExcludesWarmup [] := by
  intro x hx
  cases hx

/-- The warm-up is over, and no sample is of the warm-up. -/
structure NoWarmup (s : State) : Prop where
  warmedUp : s.warmedUp = true
  recorders : ∀ i, ExcludesWarmup (s.handlers i).recorder
  histogram : ExcludesWarmup s.histogram
  logged : WarmupExcluded s

theorem noWarmup_init (h : cfg.warmupCount.toInt * cfg.testSize.toInt ≤ 0) :
    NoWarmup (State.init cfg) := by
  refine ⟨decide_eq_true h, fun _ => excludesWarmup_nil, excludesWarmup_nil, ?_⟩
  intro histogram hmem
  cases hmem

/-- Only the recorder of one handler changes. -/
theorem NoWarmup.update (h : NoWarmup s) (i : Nat) {handler : Handler}
    (hhandler : ExcludesWarmup handler.recorder) (j : Nat) :
    ExcludesWarmup (Function.update s.handlers i handler j).recorder :=
  (Function.forall_update_iff s.handlers fun _ handler => ExcludesWarmup handler.recorder).mpr
    ⟨hhandler, fun j _ => h.recorders j⟩ j

theorem step_noWarmup (h : NoWarmup s) (hl : step cfg s l = some s') : NoWarmup s' := by
  cases l with
  | message i eventReceiveTime m sending =>
    rcases step_message hl with ⟨-, rfl⟩
    refine ⟨h.warmedUp, h.update i ?_, h.histogram, h.logged⟩
    -- once warmed up, every sample is marked so
    rcases records_onTextWebSocketFrame cfg s.warmedUp (s.handlers i) eventReceiveTime sending m
      with hsame | ⟨roundTripTime, hone⟩
    · rw [hsame]
      exact h.recorders i
    · rw [hone, h.warmedUp]
      refine (h.recorders i).append ?_
      intro x hx
      rw [List.mem_singleton.mp hx]
      rfl
  | printResults i =>
    rcases step_printResults hl with ⟨-, rfl⟩
    have hover : (s.warmedUp || cfg.reached (s.messageCounter + cfg.handlerTestSize.toInt64)) =
        true := by
      rw [h.warmedUp, Bool.true_or]
    have hmoved := h.histogram.append (h.recorders i)
    simp only [printResults]
    split
    · -- still in the warm-up: the samples stay in the recorder
      exact ⟨hover, h.update i (h.recorders i), h.histogram, h.logged⟩
    · split
      · -- a report takes what the histogram has, and what was just moved to it
        refine ⟨hover, h.update i excludesWarmup_nil, excludesWarmup_nil, ?_⟩
        intro histogram hmem
        rcases List.mem_append.mp hmem with hmem | hmem
        · exact h.logged histogram hmem
        · rw [List.mem_singleton.mp hmem]
          exact hmoved
      · exact ⟨hover, h.update i excludesWarmup_nil, hmoved, h.logged⟩

/-! ## Without a report -/

/-- Behind the last multiple of `REPORT_SIZE` nothing is logged. -/
theorem step_logged_nil (hreport : 0 < cfg.reportSize.toInt)
    (hlast : cfg.lastReport < cfg.warmupMessages.toInt) (h : s.logged = [])
    (hl : step cfg s l = some s') : s'.logged = [] := by
  cases l with
  | message i eventReceiveTime m sending =>
    rcases step_message hl with ⟨-, rfl⟩
    exact h
  | printResults i =>
    rcases step_printResults hl with ⟨-, rfl⟩
    simp only [printResults]
    split
    · exact h
    · rename_i hreached
      split
      · -- the counter would have to pass the last multiple of the report size below 2^63
        rename_i hdvd
        rw [Int64.lt_iff_toInt_lt] at hreached
        rcases (mod_eq_zero_iff_dvd _ _).mp hdvd with ⟨q, hq⟩
        have hmax := Int64.toInt_lt (s.messageCounter + cfg.handlerTestSize.toInt64)
        have hle : q ≤ (2 ^ 63 - 1) / cfg.reportSize.toInt := by
          apply Int.le_ediv_of_mul_le hreport
          rw [Int.mul_comm, ← hq]
          omega
        have hlast' := Int.mul_le_mul_of_nonneg_left hle (Int.le_of_lt hreport)
        unfold Config.lastReport at hlast
        omega
      · exact h

/-! ## Without an order -/

/-- The handler has nothing outstanding. -/
structure Handler.Idle (h : Handler) : Prop where
  orders : h.orderSentTimeMap = fun _ => none
  cancels : h.cancelSentTimeMap = fun _ => none
  printing : h.printing = false

/-- Without a coin pair a handler stays idle. -/
theorem Handler.Idle.onTextWebSocketFrame {h : Handler} (hidle : h.Idle)
    (hpairs : cfg.coinPairs = []) (warmedUp : Bool) (eventReceiveTime : Int64) (sending : Sending)
    (m : Message) : (h.onTextWebSocketFrame cfg warmedUp eventReceiveTime sending m).Idle := by
  -- no order was ever sent, so there is none to be answered
  have hupdate : ∀ clientId : String,
      Function.update (fun _ => none : SentTimeMap) clientId none = fun _ => none :=
    fun clientId => Function.update_eq_self clientId _
  cases m with
  | booked clientId instrumentCode =>
    cases clientId with
    | none => exact hidle
    | some clientId =>
      simp only [Handler.onTextWebSocketFrame, Handler.onBooked, hidle.orders,
        Handler.calculateRoundTrip]
      exact ⟨hupdate clientId, hidle.cancels, hidle.printing⟩
  | done clientId =>
    cases clientId with
    | none => exact hidle
    | some clientId =>
      simp only [Handler.onTextWebSocketFrame, Handler.onDone, hidle.cancels,
        Handler.calculateRoundTrip]
      exact ⟨hidle.orders, hupdate clientId, hidle.printing⟩
  | subscriptions =>
    simp only [Handler.onTextWebSocketFrame, Handler.sendOrder, hpairs]
    exact hidle
  | authenticated => exact hidle
  | other => exact hidle

/-- No order was sent, and nothing was logged. -/
structure NoOrder (s : State) : Prop where
  idle : ∀ i, (s.handlers i).Idle
  logged : s.logged = []

theorem step_noOrder (hpairs : cfg.coinPairs = []) (h : NoOrder s)
    (hl : step cfg s l = some s') : NoOrder s' := by
  cases l with
  | message i eventReceiveTime m sending =>
    rcases step_message hl with ⟨-, rfl⟩
    refine ⟨?_, h.logged⟩
    exact (Function.forall_update_iff s.handlers fun _ handler => handler.Idle).mpr
      ⟨(h.idle i).onTextWebSocketFrame hpairs _ _ _ _, fun j _ => h.idle j⟩
  | printResults i =>
    rcases step_printResults hl with ⟨hprinting, -⟩
    rw [(h.idle i).printing] at hprinting
    cases hprinting

end Forward

/-! ## A run that logs the warm-up -/

section Backward

variable {cfg : Config} {s : State}

/-- The first handler waits for the answer to its order or to its cancel, which
were sent at time zero. -/
def Handler.Waits (h : Handler) : Prop :=
  h.orderSentTimeMap "a" = some 0 ∨ h.cancelSentTimeMap "a" = some 0

/-- The answer has arrived at time one. -/
structure Answered (cfg : Config) (warmedUp : Bool) (h h' : Handler) : Prop where
  waits : h'.Waits
  count : h'.orderResponseCount = h.orderResponseCount + 1
  recorder : h'.recorder = h.recorder ++ [⟨1, !warmedUp⟩]
  printing : h'.printing = (h'.orderResponseCount % cfg.handlerTestSize.toInt64 == 0)

theorem exists_answer (hpairs : cfg.coinPairs ≠ []) (warmedUp : Bool) {h : Handler}
    (hwaits : h.Waits) :
    ∃ m, Answered cfg warmedUp h (h.onTextWebSocketFrame cfg warmedUp 1 ⟨"a", 0⟩ m) := by
  have hsend : cfg.coinPairs.isEmpty = false := by simpa using hpairs
  have hround : ∀ h : Handler, h.calculateRoundTrip warmedUp 1 (some 0) =
      some { h with recorder := h.recorder ++ [⟨1, !warmedUp⟩] } := fun _ => rfl
  rcases hwaits with horder | hcancel
  · refine ⟨.booked (some "a") (some "a"), ?_⟩
    simp only [Handler.onTextWebSocketFrame, Handler.onBooked, horder, hround, Option.isSome_some,
      if_true]
    exact ⟨Or.inr (by simp [Handler.sendCancelOrder, Handler.afterResponse]), rfl, rfl, rfl⟩
  · refine ⟨.done (some "a"), ?_⟩
    simp only [Handler.onTextWebSocketFrame, Handler.onDone, hcancel, hround, Handler.sendOrder,
      hsend, Bool.false_eq_true, if_false]
    exact ⟨Or.inl (by simp [Handler.afterResponse]), rfl, rfl, rfl⟩

/-- The first handler sends its first order. -/
theorem exists_subscribed (hcount : 1 ≤ cfg.exchangeClientCount) (hpairs : cfg.coinPairs ≠ []) :
    ∃ l s, step cfg (State.init cfg) l = some s ∧ (s.handlers 0).Waits ∧
      (s.handlers 0).orderResponseCount = 1 ∧ (s.handlers 0).printing = false ∧
      s.messageCounter = 0 ∧ s.warmedUp = cfg.reached 0 := by
  have hsend : cfg.coinPairs.isEmpty = false := by simpa using hpairs
  refine ⟨.message 0 0 .subscriptions ⟨"a", 0⟩, _, if_pos ⟨one_le_toInt_count hcount, rfl⟩, ?_, ?_,
    ?_, rfl, rfl⟩
  · left
    simp [Handler.onTextWebSocketFrame, Handler.sendOrder, hsend]
  · simp [Handler.onTextWebSocketFrame, Handler.sendOrder, hsend, State.init, Handler.new]
  · simp [Handler.onTextWebSocketFrame, Handler.sendOrder, hsend, State.init, Handler.new]

/-- The sample is in the recorder of the first handler, in `HISTOGRAM` or in a
logged histogram. -/
def Kept (x : Sample) (s : State) : Prop :=
  x ∈ (s.handlers 0).recorder ∨ x ∈ s.histogram ∨ ∃ histogram ∈ s.logged, x ∈ histogram

/-- The step of the answer. -/
theorem exists_answered (hcount : 1 ≤ cfg.exchangeClientCount) (hpairs : cfg.coinPairs ≠ [])
    (hwaits : (s.handlers 0).Waits) (hprinting : (s.handlers 0).printing = false) :
    ∃ l s', step cfg s l = some s' ∧ Answered cfg s.warmedUp (s.handlers 0) (s'.handlers 0) ∧
      s'.messageCounter = s.messageCounter ∧ ∀ x, Kept x s → Kept x s' := by
  rcases exists_answer hpairs s.warmedUp hwaits with ⟨m, hanswer⟩
  obtain ⟨h, hh⟩ : ∃ h, (s.handlers 0).onTextWebSocketFrame cfg s.warmedUp 1 ⟨"a", 0⟩ m = h :=
    ⟨_, rfl⟩
  rw [hh] at hanswer
  have hself : Function.update s.handlers 0 h 0 = h := Function.update_self 0 h s.handlers
  refine ⟨.message 0 1 m ⟨"a", 0⟩, { s with handlers := Function.update s.handlers 0 h }, ?_, ?_,
    rfl, ?_⟩
  · rw [← hh]
    exact if_pos ⟨one_le_toInt_count hcount, hprinting⟩
  · show Answered cfg s.warmedUp (s.handlers 0) (Function.update s.handlers 0 h 0)
    rw [hself]
    exact hanswer
  · rintro x (hx | hx)
    · left
      show x ∈ (Function.update s.handlers 0 h 0).recorder
      rw [hself, hanswer.recorder]
      exact List.mem_append_left _ hx
    · exact Or.inr hx

/-- `printResults` loses no sample of the caller. -/
theorem Kept.printResults {x : Sample} (h : Kept x s) (cfg : Config) :
    Kept x (printResults cfg s 0) := by
  have hmoved : x ∈ (s.handlers 0).recorder ∨ x ∈ s.histogram →
      x ∈ s.histogram ++ (s.handlers 0).recorder := by
    intro hx
    exact List.mem_append.mpr hx.symm
  simp only [JavaClient.printResults]
  -- in the warm-up the sample stays in the recorder, later it is moved on
  split
  · rcases h with hx | hx
    · left
      show x ∈ (Function.update s.handlers 0 _ 0).recorder
      rw [Function.update_self]
      exact hx
    · exact Or.inr hx
  · split
    · right
      right
      rcases h with hx | hx | ⟨histogram, hmem, hx⟩
      · exact ⟨_, List.mem_append_right _ (List.mem_singleton_self _), hmoved (Or.inl hx)⟩
      · exact ⟨_, List.mem_append_right _ (List.mem_singleton_self _), hmoved (Or.inr hx)⟩
      · exact ⟨histogram, List.mem_append_left _ hmem, hx⟩
    · right
      rcases h with hx | hx | hx
      · exact Or.inl (hmoved (Or.inl hx))
      · exact Or.inl (hmoved (Or.inr hx))
      · exact Or.inr hx

/-- A report of the caller logs all its samples. -/
theorem logged_of_report {x : Sample} (h : Kept x s)
    (hreached : ¬ s.messageCounter + cfg.handlerTestSize.toInt64 < cfg.warmupMessages)
    (hreport : (s.messageCounter + cfg.handlerTestSize.toInt64) % cfg.reportSize.toInt64 = 0) :
    ∃ histogram ∈ (printResults cfg s 0).logged, x ∈ histogram := by
  rcases h.printResults cfg with hx | hx | hx
  · simp only [JavaClient.printResults, if_neg hreached, if_pos hreport] at hx
    simp at hx
  · simp only [JavaClient.printResults, if_neg hreached, if_pos hreport] at hx
    simp at hx
  · exact hx

/-- The first handler has sent `n` orders and cancels, and all calls of
`printResults` were its own. -/
structure Busy (cfg : Config) (t n : Nat) (s : State) : Prop where
  waits : (s.handlers 0).Waits
  count : (s.handlers 0).orderResponseCount = Int64.ofNat n
  printing : (s.handlers 0).printing = decide (t ∣ n)
  counter : ∃ calls, s.messageCounter = Int64.ofNat (t * calls) ∧ calls + 1 / t = (n - 1) / t
  kept : Kept ⟨1, true⟩ s

theorem printResults_counter (cfg : Config) (s : State) (i : Nat) :
    (printResults cfg s i).messageCounter = s.messageCounter + cfg.handlerTestSize.toInt64 := by
  simp only [JavaClient.printResults]
  split
  · rfl
  · split <;> rfl

/-- The caller goes on with its maps and its count. -/
theorem printResults_handler (cfg : Config) (s : State) (i : Nat) :
    ∃ recorder, (printResults cfg s i).handlers i =
      { s.handlers i with recorder := recorder, printing := false } := by
  simp only [JavaClient.printResults]
  split
  · exact ⟨_, Function.update_self i _ _⟩
  · split <;> exact ⟨[], Function.update_self i _ _⟩

section Run

variable {t : Nat} (hcount : 1 ≤ cfg.exchangeClientCount) (hpairs : cfg.coinPairs ≠ [])
  (hshare : cfg.handlerTestSize.toInt = t)
include hshare

/-- The handler calls `printResults` behind every `t`-th answer, as long as its
count does not wrap around. -/
theorem printing_eq {n : Nat} (hn : n < 2 ^ 63 ∨ t = 1) :
    (Int64.ofNat n % cfg.handlerTestSize.toInt64 == 0) = decide (t ∣ n) := by
  rw [Bool.eq_iff_iff, beq_iff_eq, decide_eq_true_iff, mod_eq_zero_iff_dvd, hshare]
  rcases hn with hn | rfl
  · rw [Int64.toInt_ofNat_of_lt hn, Int.natCast_dvd_natCast]
  · exact iff_of_true (Int.one_dvd _) (Nat.one_dvd _)

/-- The count of a call of `printResults`. -/
theorem toInt64_handlerTestSize : cfg.handlerTestSize.toInt64 = Int64.ofNat t := by
  rw [← Int64.toInt_inj, Int32.toInt_toInt64, hshare]
  have hmax := Int32.toInt_lt cfg.handlerTestSize
  exact (Int64.toInt_ofNat_of_lt (by omega)).symm

include hcount

/-- The call of `printResults`, if it is due. -/
theorem Busy.exists_settled {n : Nat} (hn : 2 ≤ n) (hbusy : Busy cfg t n s) :
    ∃ ls s', Run.exec (step cfg) s ls = some s' ∧ (s'.handlers 0).Waits ∧
      (s'.handlers 0).orderResponseCount = Int64.ofNat n ∧ (s'.handlers 0).printing = false ∧
      (∃ calls, s'.messageCounter = Int64.ofNat (t * calls) ∧ calls + 1 / t = n / t) ∧
      Kept ⟨1, true⟩ s' := by
  rcases hbusy.counter with ⟨calls, hcounter, hcalls⟩
  obtain ⟨m, rfl⟩ : ∃ m, n = m + 1 := ⟨n - 1, by omega⟩
  have hdiv : (m + 1) / t = m / t + if t ∣ m + 1 then 1 else 0 := Nat.succ_div
  -- a due report is printed first
  by_cases hdue : t ∣ m + 1
  · have hprinting : (s.handlers 0).printing = true := by
      rw [hbusy.printing, decide_eq_true hdue]
    have hstep : step cfg s (.printResults 0) = some (printResults cfg s 0) :=
      if_pos ⟨one_le_toInt_count hcount, hprinting⟩
    rcases printResults_handler cfg s 0 with ⟨recorder, hhandler⟩
    refine ⟨[.printResults 0], printResults cfg s 0, ?_, ?_, ?_, ?_, ⟨calls + 1, ?_, ?_⟩,
      hbusy.kept.printResults cfg⟩
    · rw [Run.exec, hstep]
      rfl
    · rw [hhandler]
      exact hbusy.waits
    · rw [hhandler]
      exact hbusy.count
    · rw [hhandler]
    · rw [printResults_counter, hcounter, toInt64_handlerTestSize hshare, ← Int64.ofNat_add,
        Nat.mul_add, Nat.mul_one]
    · rw [if_pos hdue] at hdiv
      rw [hdiv, ← Nat.add_sub_cancel m 1, ← hcalls]
      omega
  · refine ⟨[], s, rfl, hbusy.waits, hbusy.count, ?_, ⟨calls, hcounter, ?_⟩, hbusy.kept⟩
    · rw [hbusy.printing, decide_eq_false hdue]
    · rw [if_neg hdue] at hdiv
      rw [hdiv, hcalls]
      rfl

include hpairs

/-- One more answer, behind the call of `printResults` if it is due. -/
theorem Busy.exists_succ {n : Nat} (hn : 2 ≤ n) (hmax : n + 1 < 2 ^ 63 ∨ t = 1)
    (hbusy : Busy cfg t n s) :
    ∃ ls s', Run.exec (step cfg) s ls = some s' ∧ Busy cfg t (n + 1) s' := by
  rcases hbusy.exists_settled hcount hshare hn with
    ⟨ls, s₁, hexec, hwaits, hresponses, hprinting, hcounter, hkept⟩
  rcases exists_answered hcount hpairs hwaits hprinting with
    ⟨l, s₂, hstep, hanswer, hsame, hkeeps⟩
  have hcount' : (s₂.handlers 0).orderResponseCount = Int64.ofNat (n + 1) := by
    rw [hanswer.count, hresponses, Int64.ofNat_add]
    rfl
  refine ⟨ls ++ [l], s₂, ?_, hanswer.waits, hcount', ?_, ?_, hkeeps _ hkept⟩
  · rw [Run.exec_append hexec, Run.exec, hstep]
    rfl
  · rw [hanswer.printing, hcount', printing_eq hshare hmax]
  · rw [hsame]
    exact hcounter

/-- The first handler can send any number of orders and cancels. -/
theorem exists_busy (hwarmup : cfg.reached 0 = false) {n : Nat} (hn : 2 ≤ n)
    (hmax : n < 2 ^ 63 ∨ t = 1) :
    ∃ ls s, Run.exec (step cfg) (State.init cfg) ls = some s ∧ Busy cfg t n s := by
  induction hn with
  | refl =>
    -- the acknowledgement and one answer
    rcases exists_subscribed hcount hpairs with
      ⟨l, s₁, hstep, hwaits, hresponses, hprinting, hcounter, hover⟩
    rcases exists_answered hcount hpairs hwaits hprinting with
      ⟨l', s₂, hstep', hanswer, hsame, -⟩
    have hcount' : (s₂.handlers 0).orderResponseCount = Int64.ofNat 2 := by
      rw [hanswer.count, hresponses]
      rfl
    refine ⟨[l, l'], s₂, ?_, hanswer.waits, hcount', ?_, ⟨0, ?_, ?_⟩, Or.inl ?_⟩
    · rw [Run.exec, hstep]
      show Run.exec (step cfg) s₁ [l'] = some s₂
      rw [Run.exec, hstep']
      rfl
    · rw [hanswer.printing, hcount', printing_eq hshare hmax]
    · rw [hsame, hcounter]
      rfl
    · rw [Nat.zero_add]
    · rw [hanswer.recorder, hover, hwarmup]
      exact List.mem_append_right _ (List.mem_singleton_self _)
  | step hn ih =>
    -- one answer more, with a report before it where one is due
    rcases ih (by omega) with ⟨ls, s, hexec, hbusy⟩
    rcases hbusy.exists_succ hcount hpairs hshare hn hmax with ⟨ls', s', hexec', hbusy'⟩
    exact ⟨ls ++ ls', s', (Run.exec_append hexec).trans hexec', hbusy'⟩

end Run

/-- The count of the last report is a multiple of the share of a handler. -/
theorem exists_lastReport {t : Nat} (hcount : 1 ≤ cfg.exchangeClientCount)
    (hsize : cfg.exchangeClientCount ≤ cfg.testSize) (hshare : cfg.handlerTestSize.toInt = t) :
    ∃ calls : Nat, 1 ≤ calls ∧ cfg.lastReport = (t * calls : Nat) ∧ t * calls < 2 ^ 63 := by
  have hpos := reportSize_pos hcount hsize
  have hmax := Int32.toInt_lt cfg.reportSize
  have hclients := one_le_toInt_count hcount
  -- the last report is a multiple of the handlers' size too
  have hreport := toInt_reportSize hcount hsize
  obtain ⟨k, hk⟩ : ∃ k, k = (2 ^ 63 - 1) / cfg.reportSize.toInt := ⟨_, rfl⟩
  have hone : 1 ≤ k := by
    rw [hk]
    exact Int.le_ediv_of_mul_le hpos (by omega)
  have hle : cfg.reportSize.toInt * k ≤ 2 ^ 63 - 1 := by
    rw [hk]
    exact Int.mul_ediv_self_le (by omega)
  have hcalls : cfg.exchangeClientCount.toInt * k = (cfg.exchangeClientCount.toInt * k).toNat :=
    (Int.toNat_of_nonneg (Int.mul_nonneg (by omega) (by omega))).symm
  have hlast : cfg.lastReport = t * (cfg.exchangeClientCount.toInt * k) := by
    rw [Config.lastReport, ← hk, hreport, hshare, Int.mul_comm cfg.exchangeClientCount.toInt,
      Int.mul_assoc]
  refine ⟨(cfg.exchangeClientCount.toInt * k).toNat, ?_, ?_, ?_⟩
  · have hprod := Int.mul_le_mul hclients hone (by omega) (by omega)
    omega
  · rw [hlast, Int.natCast_mul, ← hcalls]
  · have hcast : ((t * (cfg.exchangeClientCount.toInt * k).toNat : Nat) : Int) =
        cfg.reportSize.toInt * k := by
      rw [Int.natCast_mul, ← hcalls, ← hlast, Config.lastReport, ← hk]
    omega

/-- If the report that is the last one possible is behind the warm-up, it logs the
first sample of the first handler. -/
theorem exists_warmup_logged (hcount : 1 ≤ cfg.exchangeClientCount)
    (hsize : cfg.exchangeClientCount ≤ cfg.testSize) (hpairs : cfg.coinPairs ≠ [])
    (hwarmup : cfg.reached 0 = false) (hlast : cfg.warmupMessages.toInt ≤ cfg.lastReport) :
    ∃ ls s, Run.exec (step cfg) (State.init cfg) ls = some s ∧ ¬ WarmupExcluded s := by
  rcases exists_handlerTestSize hcount hsize with ⟨t, ht, hshare, -⟩
  rcases exists_lastReport hcount hsize hshare with ⟨calls, hcalls, hreport, hmax⟩
  -- with a share of one the first order makes a call less
  have hfit : 2 ≤ t * (calls + 1 / t) ∧ (t * (calls + 1 / t) < 2 ^ 63 ∨ t = 1) := by
    rcases Nat.lt_or_ge 1 t with hone | hone
    · have hprod := Nat.mul_le_mul hone hcalls
      rw [Nat.div_eq_of_lt hone, Nat.add_zero]
      exact ⟨hprod, Or.inl hmax⟩
    · have hone : t = 1 := Nat.le_antisymm hone ht
      subst hone
      exact ⟨by omega, Or.inr rfl⟩
  rcases exists_busy hcount hpairs hshare hwarmup hfit.1 hfit.2 with ⟨ls, s, hexec, hbusy⟩
  rcases hbusy.counter with ⟨calls', hcounter, hcalls'⟩
  have hprinting : (s.handlers 0).printing = true := by
    rw [hbusy.printing, decide_eq_true (Nat.dvd_mul_right t _)]
  have hmessages : s.messageCounter + cfg.handlerTestSize.toInt64 = Int64.ofNat (t * calls) := by
    have hdiv := Nat.mul_div_cancel_left (calls + 1 / t) ht
    have hsucc := Nat.succ_div_of_dvd (a := t * (calls + 1 / t) - 1) (b := t)
      (by rw [Nat.sub_add_cancel (by omega)]; exact Nat.dvd_mul_right t _)
    rw [Nat.sub_add_cancel (by omega), hdiv, ← hcalls'] at hsucc
    rw [hcounter, toInt64_handlerTestSize hshare, ← Int64.ofNat_add,
      show calls = calls' + 1 by omega, Nat.mul_add, Nat.mul_one]
  have htotal : (Int64.ofNat (t * calls)).toInt = cfg.lastReport := by
    rw [Int64.toInt_ofNat_of_lt hmax, hreport]
  have hlogged : ∃ histogram ∈ (printResults cfg s 0).logged, ⟨1, true⟩ ∈ histogram := by
    apply logged_of_report hbusy.kept
    · rw [hmessages, Int64.lt_iff_toInt_lt, htotal]
      omega
    · rw [hmessages, mod_eq_zero_iff_dvd, htotal]
      exact Int.dvd_mul_right _ _
  rcases hlogged with ⟨histogram, hmem, hx⟩
  refine ⟨ls ++ [.printResults 0], printResults cfg s 0, ?_, ?_⟩
  · rw [Run.exec_append hexec, Run.exec,
      show step cfg s (.printResults 0) = some (printResults cfg s 0) from
        if_pos ⟨one_le_toInt_count hcount, hprinting⟩]
    rfl
  · intro hexcluded
    cases hexcluded histogram hmem _ hx

end Backward

/-- For every configuration with at least one client and one message for each, no
run logs a sample of the warm-up if and only if there is no warm-up, the warm-up is
longer than the last report possible, or there is no coin pair to trade. -/
theorem warmup_excluded_iff (cfg : Config) (hcount : 1 ≤ cfg.exchangeClientCount)
    (hsize : cfg.exchangeClientCount ≤ cfg.testSize) :
    (∀ ls s, Run.exec (step cfg) (State.init cfg) ls = some s → WarmupExcluded s) ↔
      cfg.warmupCount ≤ 0 ∨ cfg.lastReport < cfg.warmupMessages.toInt ∨ cfg.coinPairs = [] := by
  have hsize' := Int32.le_iff_toInt_le.mp hsize
  have hclients := one_le_toInt_count hcount
  constructor
  · intro hall
    by_contra hcond
    -- such a run logs a sample of the warm-up
    rw [not_or, not_or, Int.not_lt] at hcond
    rcases hcond with ⟨hwarmup, hlast, hpairs⟩
    have hreached : cfg.reached 0 = false := by
      rw [Int64.le_iff_toInt_le, Int.not_le] at hwarmup
      have hprod := Int.mul_pos hwarmup (show 0 < cfg.testSize.toInt by omega)
      exact decide_eq_false (Int.not_le.mpr hprod)
    rcases exists_warmup_logged hcount hsize hpairs hreached hlast with ⟨ls, s, hexec, hlogged⟩
    exact hlogged (hall ls s hexec)
  · -- no warm-up, no report, or no order
    rintro (hwarmup | hlast | hpairs) ls s hexec
    · have hprod : cfg.warmupCount.toInt * cfg.testSize.toInt ≤ 0 :=
        Int.mul_nonpos_of_nonpos_of_nonneg (Int64.le_iff_toInt_le.mp hwarmup) (by omega)
      exact (Run.invariant (fun _ _ _ h hl => step_noWarmup h hl) (noWarmup_init hprod)
        hexec).logged
    · have hnil : (fun s : State => s.logged = []) s := Run.invariant
        (fun _ _ _ h hl => step_logged_nil (reportSize_pos hcount hsize) hlast h hl) rfl hexec
      intro histogram hmem
      rw [hnil] at hmem
      cases hmem
    · have hnil := (Run.invariant (fun _ _ _ h hl => step_noOrder hpairs h hl)
        (show NoOrder (State.init cfg) from ⟨fun _ => ⟨rfl, rfl, rfl⟩, rfl⟩) hexec).logged
      intro histogram hmem
      rw [hnil] at hmem
      cases hmem

/-! ## Configurations -/

/-- Two clients, and no warm-up. -/
def coldConfig : Config := ⟨["BTC_USDT"], 1000, 2, 0⟩

/-- Without a warm-up there is no sample to exclude. -/
theorem warmup_excluded_cold :
    coldConfig.handlerTestSize = 500 ∧
      ∀ ls s, Run.exec (step coldConfig) (State.init coldConfig) ls = some s → WarmupExcluded s :=
  ⟨by decide, (warmup_excluded_iff coldConfig (by decide) (by decide)).mpr (Or.inl (by decide))⟩

/-- One client, a test of two messages, and a warm-up of one test. -/
def warmConfig : Config := ⟨["BTC_USDT"], 2, 1, 1⟩

/-- The order is booked one nanosecond behind its sending, while the counter is
zero. The handler has two messages then, the counter reaches the end of the
warm-up, and the sample is logged. -/
theorem warmup_logged :
    ∃ s, Run.exec (step warmConfig) (State.init warmConfig)
        [.message 0 0 .subscriptions ⟨"a", 0⟩,
          .message 0 1 (.booked (some "a") (some "BTC_USDT")) ⟨"a", 1⟩, .printResults 0] = some s ∧
      s.logged = [[⟨1, true⟩]] ∧ ¬ WarmupExcluded s := by
  refine ⟨_, rfl, rfl, ?_⟩
  intro hexcluded
  cases hexcluded _ (List.mem_singleton_self _) _ (List.mem_singleton_self _)

end TradingLatency.JavaClient
