import TradingLatency.Lib.JavaText
import TradingLatency.Hft.Warmup

/-!
# The configuration of the Java client (`Config.java`)

The static initializer of `Config` reads the properties of `config.properties`,
with a default for each, and `validateConfiguration` checks the host, the ports and
the key store. Neither looks at `TEST_SIZE` and `EXCHANGE_CLIENT_COUNT`, from which
`RoundTripLatencyTester` and the handlers compute the divisors of their quotients
and remainders.

`arithmeticSafe_iff` says for which accepted configurations no divisor is zero.
The properties are the map that `Properties.load` returns, and an exception is its
message.
-/

namespace TradingLatency.JavaConfig

open CText JavaText

/-! ## Properties -/

/-- The loaded `config.properties`. -/
abbrev Properties := String → Option Text

section Properties

variable (table : DigitTable) (cfg : Properties) (key : String) (defaultValue : Text)

/-- `getProperty`. -/
def getProperty : Text := (cfg key).getD defaultValue

/-- The items of a list: split at the commas, trimmed, and without the empty ones. -/
def getListProperty : List Text :=
  ((split ',' (getProperty cfg key defaultValue)).map trim).filter fun s => !s.isEmpty

/-- `getIntegerProperty`. -/
def getIntegerProperty : Except String Int32 :=
  match parseInt table (getProperty cfg key defaultValue) with
  | some n => .ok n
  | none => .error ("Invalid integer value for " ++ key)

/-- `getLongProperty`. -/
def getLongProperty : Except String Int64 :=
  match parseLong table (getProperty cfg key defaultValue) with
  | some n => .ok n
  | none => .error ("Invalid long value for " ++ key)

/-- `getBooleanProperty`. -/
def getBooleanProperty : Bool := parseBoolean (getProperty cfg key defaultValue)

/-- `getIntegerListProperty`. -/
def getIntegerListProperty : Except String (List Int32) :=
  (getListProperty cfg key defaultValue).mapM fun s =>
    match parseInt table s with
    | some n => .ok n
    | none => .error ("Invalid integer value in list for " ++ key ++ ": " ++ String.ofList s)

end Properties

/-! ## The static initializer -/

/-- The static fields of `Config`. -/
structure Settings where
  coinPairs : List Text
  host : Text
  httpPort : Int32
  websocketPort : Int32
  apiToken : Int32
  testSize : Int32
  useIouring : Bool
  exchangeClientCount : Int32
  warmupCount : Int64
  useSsl : Bool
  keyStorePath : Text
  keyStorePassword : Text
  ciphers : Text
  pingInterval : Int64
  histogramSignificantFigures : Int32
  payloadSizes : List Int32

/-- A text that `validateConfiguration` takes for missing. -/
def blank (s : Text) : Bool := (trim s).isEmpty

/-- The check of a port. -/
def validatePort (name : String) (port : Int32) : Except String Unit :=
  if port ≤ 0 ∨ port > 65535 then .error ("Invalid " ++ name ++ ": " ++ toString port.toInt)
  else .ok ()

/-- `validateConfiguration`. That the key store exists is only logged. -/
def validateConfiguration (s : Settings) : Except String Unit := do
  if blank s.host then throw "HOST is required but not specified in configuration"
  validatePort "HTTP_PORT" s.httpPort
  validatePort "WEBSOCKET_PORT" s.websocketPort
  if s.useSsl then
    if blank s.keyStorePath then throw "KEY_STORE_PATH is required when USE_SSL is true"
    if blank s.keyStorePassword then throw "KEY_STORE_PASSWORD is required when USE_SSL is true"

/-- The static initializer; `none` is a missing file. -/
def initializer (table : DigitTable) : Option Properties → Except String Settings
  | none => .error "Configuration file not found: config.properties"
  | some cfg => do
      let coinPairs := getListProperty cfg "COINPAIRS" "BTC_USDT".toList
      let host := getProperty cfg "HOST" "localhost".toList
      let httpPort ← getIntegerProperty table cfg "HTTP_PORT" "8888".toList
      let websocketPort ← getIntegerProperty table cfg "WEBSOCKET_PORT" "8888".toList
      let apiToken ← getIntegerProperty table cfg "API_TOKEN" "3002".toList
      let testSize ← getIntegerProperty table cfg "TEST_SIZE" "1000".toList
      let useIouring := getBooleanProperty cfg "USE_IOURING" "false".toList
      let exchangeClientCount ←
        getIntegerProperty table cfg "EXCHANGE_CLIENT_COUNT" "16".toList
      let warmupCount ← getLongProperty table cfg "WARMUP_COUNT" "5".toList
      let useSsl := getBooleanProperty cfg "USE_SSL" "false".toList
      let keyStorePath := getProperty cfg "KEY_STORE_PATH" "keystore.p12".toList
      let keyStorePassword := getProperty cfg "KEY_STORE_PASSWORD" "123456".toList
      let ciphers := getProperty cfg "CIPHERS" "AES256-GCM-SHA384".toList
      let pingInterval ← getLongProperty table cfg "PING_INTERVAL" "1000".toList
      let histogramSignificantFigures ←
        getIntegerProperty table cfg "HISTOGRAM_SIGNIFICANT_FIGURES" "5".toList
      let payloadSizes ←
        getIntegerListProperty table cfg "PAYLOAD_SIZES" "0,64,256,512,1024,1400,2048".toList
      let settings : Settings := ⟨coinPairs, host, httpPort, websocketPort, apiToken, testSize,
        useIouring, exchangeClientCount, warmupCount, useSsl, keyStorePath, keyStorePassword,
        ciphers, pingInterval, histogramSignificantFigures, payloadSizes⟩
      validateConfiguration settings
      return settings

/-- What the handlers and `RoundTripLatencyTester` use of it. -/
def Settings.client (s : Settings) : JavaClient.Config :=
  ⟨s.coinPairs.map String.ofList, s.testSize, s.exchangeClientCount, s.warmupCount⟩

end TradingLatency.JavaConfig

/-! ## Divisors -/

namespace TradingLatency.JavaClient

/-- A frame that comes to `orderResponseCount % test_size`: an answer that is not
dropped, and behind which the cancel or the next order does not throw. -/
def Handler.reachesRemainder (cfg : Config) (warmedUp : Bool) (h : Handler)
    (eventReceiveTime : Int64) : Message → Bool
  | .booked (some clientId) instrumentCode =>
      (h.calculateRoundTrip warmedUp eventReceiveTime (h.orderSentTimeMap clientId)).isSome &&
        instrumentCode.isSome
  | .done (some clientId) =>
      (h.calculateRoundTrip warmedUp eventReceiveTime (h.cancelSentTimeMap clientId)).isSome &&
        !cfg.coinPairs.isEmpty
  | _ => false

/-- The divisors of the remainders that a step takes: `test_size` in a handler, and
`REPORT_SIZE` in `printResults`, behind the warm-up. -/
def divisors (cfg : Config) (s : State) : Label → List Int64
  | .message i eventReceiveTime m _ =>
      if (s.handlers i).reachesRemainder cfg s.warmedUp eventReceiveTime m then
        [cfg.handlerTestSize.toInt64]
      else []
  | .printResults _ =>
      if s.messageCounter + cfg.handlerTestSize.toInt64 < cfg.warmupMessages then []
      else [cfg.reportSize.toInt64]

/-- No step of any run takes a remainder by zero. -/
def RemaindersSafe (cfg : Config) : Prop :=
  ∀ ls s, Run.exec (step cfg) (State.init cfg) ls = some s →
    ∀ l, (step cfg s l).isSome → ∀ d ∈ divisors cfg s l, d ≠ 0

section Divisors

variable {cfg : Config} {s : State} {l : Label}

/-- Whether an answer is dropped does not depend on the handler. -/
theorem Handler.isSome_calculateRoundTrip (h h' : Handler) (warmedUp : Bool)
    (eventReceiveTime : Int64) (sentTime : Option Int64) :
    (h.calculateRoundTrip warmedUp eventReceiveTime sentTime).isSome =
      (h'.calculateRoundTrip warmedUp eventReceiveTime sentTime).isSome := by
  cases sentTime with
  | none => rfl
  | some sentTime =>
    simp only [Handler.calculateRoundTrip]
    split
    · rfl
    · split <;> rfl

theorem Handler.printing_calculateRoundTrip {h h' : Handler} {warmedUp : Bool}
    {eventReceiveTime : Int64} {sentTime : Option Int64}
    (hround : h.calculateRoundTrip warmedUp eventReceiveTime sentTime = some h') :
    h'.printing = h.printing := by
  cases sentTime with
  | none => cases hround
  | some sentTime =>
    simp only [Handler.calculateRoundTrip] at hround
    split at hround
    · cases hround
    · split at hround <;> cases hround <;> rfl

/-- The handler that has forgotten the request answers as the handler before it. -/
theorem Handler.calculateRoundTrip_cases (h removed : Handler)
    (hprinting : removed.printing = h.printing) (warmedUp : Bool) (eventReceiveTime : Int64)
    (sentTime : Option Int64) :
    removed.calculateRoundTrip warmedUp eventReceiveTime sentTime = none ∧
        (h.calculateRoundTrip warmedUp eventReceiveTime sentTime).isSome = false ∨
      ∃ recorded, removed.calculateRoundTrip warmedUp eventReceiveTime sentTime = some recorded ∧
        (h.calculateRoundTrip warmedUp eventReceiveTime sentTime).isSome = true ∧
        recorded.printing = h.printing := by
  rw [Handler.isSome_calculateRoundTrip h removed]
  rcases hround : removed.calculateRoundTrip warmedUp eventReceiveTime sentTime with _ | recorded
  · exact Or.inl ⟨rfl, rfl⟩
  · exact Or.inr ⟨recorded, rfl, rfl,
      (Handler.printing_calculateRoundTrip hround).trans hprinting⟩

/-- A frame either ends with the remainder, or does not change whether `printResults`
is called. -/
theorem Handler.printing_onTextWebSocketFrame (cfg : Config) (warmedUp : Bool) (h : Handler)
    (eventReceiveTime : Int64) (sending : Sending) (m : Message) :
    (h.onTextWebSocketFrame cfg warmedUp eventReceiveTime sending m).printing =
      if h.reachesRemainder cfg warmedUp eventReceiveTime m then
        (h.onTextWebSocketFrame cfg warmedUp eventReceiveTime sending m).orderResponseCount %
          cfg.handlerTestSize.toInt64 == 0
      else h.printing := by
  cases m with
  | booked clientId instrumentCode =>
    cases clientId with
    | none => rfl
    | some clientId =>
      simp only [Handler.onTextWebSocketFrame, Handler.onBooked]
      rcases Handler.calculateRoundTrip_cases h
        { h with orderSentTimeMap := Function.update h.orderSentTimeMap clientId none } rfl
        warmedUp eventReceiveTime (h.orderSentTimeMap clientId)
        with ⟨hround, hdropped⟩ | ⟨recorded, hround, hanswered, hkept⟩
      · -- the answer is dropped
        rw [hround]
        simp [Handler.reachesRemainder, hdropped]
      · rw [hround]
        -- without an instrument code the handler stops here
        cases instrumentCode with
        | none => simp [Handler.reachesRemainder, hkept]
        | some code => simp [Handler.reachesRemainder, hanswered, Handler.afterResponse]
  | done clientId =>
    cases clientId with
    | none => rfl
    | some clientId =>
      simp only [Handler.onTextWebSocketFrame, Handler.onDone]
      rcases Handler.calculateRoundTrip_cases h
        { h with cancelSentTimeMap := Function.update h.cancelSentTimeMap clientId none } rfl
        warmedUp eventReceiveTime (h.cancelSentTimeMap clientId)
        with ⟨hround, hdropped⟩ | ⟨recorded, hround, hanswered, hkept⟩
      · rw [hround]
        simp [Handler.reachesRemainder, hdropped]
      · rw [hround]
        -- without coin pairs no order goes out, and the count is not looked at
        rcases hpairs : cfg.coinPairs.isEmpty
        · simp [Handler.reachesRemainder, hanswered, Handler.sendOrder, hpairs,
            Handler.afterResponse]
        · simp [Handler.reachesRemainder, Handler.sendOrder, hpairs, hkept]
  | subscriptions =>
    simp only [Handler.onTextWebSocketFrame, Handler.sendOrder, Handler.reachesRemainder]
    split <;> rfl
  | authenticated => rfl
  | other => rfl

theorem toInt64_ne_zero {x : Int32} (h : x ≠ 0) : x.toInt64 ≠ 0 := by
  intro hzero
  apply h
  rw [← Int32.toInt_inj, ← Int32.toInt_toInt64, hzero]
  rfl

/-- With a share of at least one message, up to its sign, `REPORT_SIZE` is not zero. -/
theorem reportSize_ne_zero (hcount : 0 < cfg.exchangeClientCount)
    (hsize : cfg.handlerTestSize ≠ 0) : cfg.reportSize ≠ 0 := by
  have hone : 1 ≤ cfg.exchangeClientCount := by
    rw [Int32.lt_iff_toInt_lt] at hcount
    rw [Int32.le_iff_toInt_le]
    exact hcount
  have hpos := one_le_toInt_count hone
  have hshare := toInt_handlerTestSize hone
  intro hzero
  have hbmod : (cfg.exchangeClientCount.toInt * cfg.handlerTestSize.toInt).bmod (2 ^ 32) = 0 := by
    rw [← Int32.toInt_mul]
    exact congrArg Int32.toInt hzero
  -- the product is at most `TEST_SIZE`, so that it does not wrap around to zero
  have hdvd := Int.natAbs_dvd_natAbs.mpr (Int.dvd_of_bmod_eq_zero hbmod)
  have hle : (cfg.exchangeClientCount.toInt * cfg.handlerTestSize.toInt).natAbs ≤
      cfg.testSize.toInt.natAbs := by
    rw [Int.natAbs_mul, hshare, Int.natAbs_tdiv]
    exact Nat.mul_div_le _ _
  have hlow := Int32.le_toInt cfg.testSize
  have hhigh := Int32.toInt_lt cfg.testSize
  have hprod := Nat.eq_zero_of_dvd_of_lt hdvd (by simp; omega)
  rw [Int.natAbs_eq_zero, Int.mul_eq_zero] at hprod
  rcases hprod with hprod | hprod
  · omega
  · exact hsize (Int32.toInt_inj.mp hprod)

theorem divisors_ne_zero (hcount : 0 < cfg.exchangeClientCount)
    (hsize : cfg.handlerTestSize ≠ 0) : ∀ d ∈ divisors cfg s l, d ≠ 0 := by
  intro d hd
  cases l with
  | message i eventReceiveTime m sending =>
    simp only [divisors] at hd
    -- a message that reaches the remainder divides by the size of its handler
    split at hd
    · rw [List.mem_singleton.mp hd]
      exact toInt64_ne_zero hsize
    · cases hd
  | printResults i =>
    simp only [divisors] at hd
    split at hd
    · cases hd
    · -- the report divides by the size for all clients
      rw [List.mem_singleton.mp hd]
      exact toInt64_ne_zero (reportSize_ne_zero hcount hsize)

/-- A handler with nothing outstanding drops every answer. -/
theorem Handler.Idle.reachesRemainder {h : Handler} (hidle : h.Idle) (warmedUp : Bool)
    (eventReceiveTime : Int64) (m : Message) :
    h.reachesRemainder cfg warmedUp eventReceiveTime m = false := by
  unfold Handler.reachesRemainder
  rw [hidle.orders, hidle.cancels]
  split <;> rfl

theorem divisors_of_idle (hidle : ∀ i, (s.handlers i).Idle) (henabled : (step cfg s l).isSome) :
    divisors cfg s l = [] := by
  cases l with
  | message i eventReceiveTime m sending =>
    rw [divisors, (hidle i).reachesRemainder]
    rfl
  | printResults i =>
    rcases Option.isSome_iff_exists.mp henabled with ⟨s', hs'⟩
    cases (step_printResults hs').1.symm.trans (hidle i).printing

theorem step_eq_none_of_count (hcount : cfg.exchangeClientCount ≤ 0) : step cfg s l = none := by
  have hle : cfg.exchangeClientCount.toInt ≤ 0 := Int32.le_iff_toInt_le.mp hcount
  cases l with
  | message i eventReceiveTime m sending => exact if_neg fun h => absurd h.1 (by omega)
  | printResults i => exact if_neg fun h => absurd h.1 (by omega)

/-- The first answer comes to the remainder. -/
theorem exists_remainder (hcount : 0 < cfg.exchangeClientCount) (hpairs : cfg.coinPairs ≠ []) :
    ∃ ls s l, Run.exec (step cfg) (State.init cfg) ls = some s ∧ (step cfg s l).isSome ∧
      cfg.handlerTestSize.toInt64 ∈ divisors cfg s l := by
  have hsend : cfg.coinPairs.isEmpty = false := by simpa using hpairs
  have hfirst : ((0 : Nat) : Int) < cfg.exchangeClientCount.toInt := Int32.lt_iff_toInt_lt.mp hcount
  obtain ⟨s, hs⟩ : ∃ s, step cfg (State.init cfg) (.message 0 0 .subscriptions ⟨"a", 0⟩) = some s :=
    ⟨_, if_pos ⟨hfirst, rfl⟩⟩
  -- an order is sent on the acknowledgement, and booked by the next message
  have hstate := (step_message hs).2
  have horder : (s.handlers 0).orderSentTimeMap "a" = some 0 := by
    rw [hstate]
    simp [Handler.onTextWebSocketFrame, Handler.sendOrder, hsend]
  have hprinting : (s.handlers 0).printing = false := by
    rw [hstate]
    simp [Handler.onTextWebSocketFrame, Handler.sendOrder, hsend, State.init, Handler.new]
  refine ⟨[_], s, .message 0 1 (.booked (some "a") (some "")) ⟨"", 0⟩, by rw [Run.exec, hs]; rfl,
    ?_, ?_⟩
  · rw [step, if_pos ⟨hfirst, hprinting⟩]
    rfl
  · simp only [divisors, Handler.reachesRemainder, horder, Handler.calculateRoundTrip]
    simp

/-- No remainder is taken by zero if and only if there is no handler, no order, or
a share of the messages for each handler. -/
theorem remaindersSafe_iff :
    RemaindersSafe cfg ↔
      cfg.exchangeClientCount ≤ 0 ∨ cfg.coinPairs = [] ∨ cfg.handlerTestSize ≠ 0 := by
  constructor
  · intro hsafe
    by_contra hcond
    rw [not_or, not_or, not_not, Int32.not_le] at hcond
    rcases hcond with ⟨hcount, hpairs, hsize⟩
    rcases exists_remainder hcount hpairs with ⟨ls, s, l, hrun, henabled, hmem⟩
    apply hsafe ls s hrun l henabled _ hmem
    rw [hsize]
    rfl
  · intro hcond ls s hrun l henabled d hd
    rcases Int32.lt_or_le 0 cfg.exchangeClientCount with hcount | hcount
    · rcases hcond with hnone | hpairs | hsize
      · exact absurd hcount (Int32.not_lt.mpr hnone)
      · have hidle := (Run.invariant (fun _ _ _ h hl => step_noOrder hpairs h hl)
          (show NoOrder (State.init cfg) from ⟨fun _ => ⟨rfl, rfl, rfl⟩, rfl⟩) hrun).idle
        rw [divisors_of_idle hidle henabled] at hd
        cases hd
      · exact divisors_ne_zero hcount hsize d hd
    · -- there is no handler that could take the step
      rw [step_eq_none_of_count hcount] at henabled
      cases henabled

end Divisors

end TradingLatency.JavaClient

namespace TradingLatency.JavaConfig

/-- No divisor is zero: neither `EXCHANGE_CLIENT_COUNT`, by which `REPORT_SIZE` and
the share of a handler are quotients, nor, where the rest of the set-up succeeds,
the divisor of a remainder in any run. -/
def ArithmeticSafe (started : Settings → Prop) (s : Settings) : Prop :=
  s.exchangeClientCount ≠ 0 ∧ (started s → JavaClient.RemaindersSafe s.client)

/-- The quotient by a positive number is zero exactly if that number is larger than
the other one without its sign. -/
theorem div_ne_zero_iff {a b : Int32} (hb : 0 < b) : a / b ≠ 0 ↔ b.toInt ≤ a.toInt.natAbs := by
  have hpos : 0 < b.toInt := Int32.lt_iff_toInt_lt.mp hb
  -- a positive divisor is not `-1`, so that the quotient does not overflow
  have hne : b ≠ -1 := by
    rintro rfl
    revert hpos
    decide
  rw [Ne, ← Int32.toInt_inj, Int32.toInt_div_of_ne_right _ _ hne, Int32.toInt_zero,
    ← Int.natAbs_eq_zero, Int.natAbs_tdiv]
  refine Nat.div_ne_zero_iff.trans ?_
  omega

/-- For every accepted configuration, no divisor is zero if and only if
`EXCHANGE_CLIENT_COUNT` is not zero and, where the rest of the set-up succeeds, the
number of clients is negative, there is no coin pair, or the number of clients is at
most `TEST_SIZE` without its sign. -/
theorem arithmeticSafe_iff (table : JavaText.DigitTable) (started : Settings → Prop)
    (file : Option Properties) (s : Settings) (_ : initializer table file = .ok s) :
    ArithmeticSafe started s ↔
      s.exchangeClientCount ≠ 0 ∧
        (started s → s.exchangeClientCount < 0 ∨ s.coinPairs = [] ∨
          s.exchangeClientCount.toInt ≤ s.testSize.toInt.natAbs) := by
  unfold ArithmeticSafe
  apply and_congr_right
  intro hcount
  apply imp_congr_right
  intro _
  rw [JavaClient.remaindersSafe_iff]
  have hneg : s.client.exchangeClientCount ≤ 0 ↔ s.exchangeClientCount < 0 :=
    ⟨fun hle => Int32.lt_of_le_of_ne hle hcount, fun hlt => Int32.le_of_lt hlt⟩
  have hpairs : s.client.coinPairs = [] ↔ s.coinPairs = [] := List.map_eq_nil_iff
  rw [hneg, hpairs]
  rcases Int32.lt_or_le s.exchangeClientCount 0 with hlt | hle
  · exact iff_of_true (.inl hlt) (.inl hlt)
  · -- only a positive number of clients has shares
    have hpos : 0 < s.exchangeClientCount := Int32.lt_of_le_of_ne hle hcount.symm
    have hshare : s.client.handlerTestSize ≠ 0 ↔
        s.exchangeClientCount.toInt ≤ s.testSize.toInt.natAbs := div_ne_zero_iff hpos
    rw [hshare]

/-! ## Configurations -/

/-- A file that sets one property. -/
def singleProperty (key : String) (value : CText.Text) : Properties :=
  fun k => if k = key then some value else none

theorem exists_settings (file : Properties) {α : Type} (f : Settings → α) {v : α}
    (h : (initializer .ascii (some file)).toOption.map f = some v) :
    ∃ s, initializer .ascii (some file) = .ok s ∧ f s = v := by
  rcases hinit : initializer .ascii (some file) with e | s
  · rw [hinit] at h
    cases h
  · rw [hinit] at h
    exact ⟨s, rfl, Option.some.inj h⟩

set_option maxRecDepth 4000 in
/-- With the defaults, sixteen clients share a thousand messages. -/
theorem arithmeticSafe_defaults :
    ∃ s, initializer .ascii (some fun _ => none) = .ok s ∧ ArithmeticSafe (fun _ => True) s := by
  rcases exists_settings (fun _ => none) (fun s => (s.testSize, s.exchangeClientCount))
    (v := (1000, 16)) (by decide) with ⟨s, hinit, hsizes⟩
  rcases Prod.mk.inj hsizes with ⟨htest, hclients⟩
  refine ⟨s, hinit, (arithmeticSafe_iff .ascii (fun _ => True) _ s hinit).mpr ?_⟩
  rw [htest, hclients]
  exact ⟨by decide, fun _ => Or.inr (Or.inr (by decide))⟩

set_option maxRecDepth 4000 in
/-- Both files are accepted. Without a client `REPORT_SIZE` is divided by zero; with
fewer messages than clients the share of a handler is zero, and its first answer
divides by it. -/
theorem arithmetic_divides_by_zero :
    (∃ s, initializer .ascii (some (singleProperty "EXCHANGE_CLIENT_COUNT" ['0'])) = .ok s ∧
      ¬ ArithmeticSafe (fun _ => True) s) ∧
    ∃ s, initializer .ascii (some (singleProperty "TEST_SIZE" ['8'])) = .ok s ∧
      ¬ ArithmeticSafe (fun _ => True) s := by
  constructor
  · rcases exists_settings (singleProperty "EXCHANGE_CLIENT_COUNT" ['0'])
      Settings.exchangeClientCount (v := 0) (by decide) with ⟨s, hinit, hclients⟩
    refine ⟨s, hinit, ?_⟩
    rintro ⟨hcount, -⟩
    exact hcount hclients
  · rcases exists_settings (singleProperty "TEST_SIZE" ['8'])
      (fun s => (s.testSize, s.exchangeClientCount, s.coinPairs.isEmpty))
      (v := (8, 16, false)) (by decide) with ⟨s, hinit, hsizes⟩
    obtain ⟨htest, hclients, hpairs⟩ : s.testSize = 8 ∧ s.exchangeClientCount = 16 ∧
        s.coinPairs.isEmpty = false := by simpa using hsizes
    refine ⟨s, hinit, ?_⟩
    rintro ⟨-, hsafe⟩
    -- each of the three ways to be safe fails
    rcases JavaClient.remaindersSafe_iff.mp (hsafe trivial) with hcount | hnone | hshare
    · simp only [Settings.client, hclients] at hcount
      exact absurd hcount (by decide)
    · simp only [Settings.client, List.map_eq_nil_iff] at hnone
      rw [hnone] at hpairs
      cases hpairs
    · simp only [Settings.client, JavaClient.Config.handlerTestSize, htest, hclients] at hshare
      exact absurd rfl hshare

end TradingLatency.JavaConfig
