import TradingLatency.Lib.Run
import Mathlib.Algebra.Group.Int.Defs
import Mathlib.Algebra.Group.Nat.Defs
import Mathlib.Logic.Function.Basic

/-!
# The Java client (`ExchangeClientLatencyTestHandler.java`, `RoundTripLatencyTester.java`)

Each of `EXCHANGE_CLIENT_COUNT` handlers sends an order, cancels it when it is
booked, and sends the next one when the cancel is done. It keeps the times of
sending, and records the round trip of each answer in a recorder of its own.
Whenever its number of answers is a multiple of its share of `TEST_SIZE`, it calls
`printResults`, which all handlers share: it counts the answers, and behind the
warm-up it moves the values of the caller's recorder to `HISTOGRAM` and logs it.

A step is one frame that a handler receives, up to the call of `printResults`, or
one call of `printResults`, which is `synchronized`. The steps of the handlers
interleave in any order. `int` and `long` wrap around. The recorders are lists of
the recorded values; `getIntervalHistogram` returns what was recorded since its
last call or `reset`, and clears it.
-/

namespace TradingLatency.JavaClient

/-! ## Data model -/

/-- What the client uses of `Config`. -/
structure Config where
  coinPairs : List String
  testSize : Int32
  exchangeClientCount : Int32
  warmupCount : Int64

/-- `test_size` of a handler, `TEST_SIZE / exchangeClients.length`. -/
def Config.handlerTestSize (cfg : Config) : Int32 := cfg.testSize / cfg.exchangeClientCount

/-- `REPORT_SIZE`. -/
def Config.reportSize (cfg : Config) : Int32 :=
  cfg.exchangeClientCount * (cfg.testSize / cfg.exchangeClientCount)

/-- `WARMUP_COUNT * TEST_SIZE`, a `long`. -/
def Config.warmupMessages (cfg : Config) : Int64 := cfg.warmupCount * cfg.testSize.toInt64

/-- A recorded round trip. Whether `MESSAGE_COUNTER` had not yet reached the end of
the warm-up is history. -/
structure Sample where
  roundTripTime : Int64
  duringWarmup : Bool
deriving DecidableEq

/-- A `ConcurrentHashMap` from client ids to the time of sending. -/
abbrev SentTimeMap := String → Option Int64

/-- A handler. It is `printing` when it stands before the call of `printResults`. -/
structure Handler where
  orderSentTimeMap : SentTimeMap
  cancelSentTimeMap : SentTimeMap
  orderResponseCount : Int64
  recorder : List Sample
  printing : Bool

/-- A new handler. -/
def Handler.new : Handler := ⟨fun _ => none, fun _ => none, 0, [], false⟩

/-- The client. The histograms that were logged are history, and so is `warmedUp`:
`MESSAGE_COUNTER` has reached `WARMUP_COUNT * TEST_SIZE`. -/
structure State where
  handlers : Nat → Handler
  messageCounter : Int64
  histogram : List Sample
  logged : List (List Sample)
  warmedUp : Bool

/-- The number of messages has reached the end of the warm-up. The product is the
one of the integers, not of the `long`s. -/
def Config.reached (cfg : Config) (messageCount : Int64) : Bool :=
  decide (cfg.warmupCount.toInt * cfg.testSize.toInt ≤ messageCount.toInt)

/-- The client behind its set-up. -/
def State.init (cfg : Config) : State where
  handlers := fun _ => .new
  messageCounter := 0
  histogram := []
  logged := []
  warmedUp := cfg.reached 0

/-- A text frame, by the fields that are read; a field may be missing. -/
inductive Message where
  | booked (clientId instrumentCode : Option String)
  | done (clientId : Option String)
  | authenticated
  | subscriptions
  | other

/-- What a handler sends: the random id of a new order, and the time behind the
write. -/
structure Sending where
  uuid : String
  time : Int64

/-! ## Handlers -/

namespace Handler

/-- `sendCancelOrder`. -/
def sendCancelOrder (h : Handler) (clientId : String) (sending : Sending) : Handler :=
  { h with
    cancelSentTimeMap := Function.update h.cancelSentTimeMap clientId (some sending.time)
    orderResponseCount := h.orderResponseCount + 1 }

/-- `sendOrder`; without a coin pair the choice of one throws. -/
def sendOrder (cfg : Config) (h : Handler) (sending : Sending) : Option Handler :=
  if cfg.coinPairs.isEmpty then none
  else some { h with
    orderSentTimeMap := Function.update h.orderSentTimeMap sending.uuid (some sending.time)
    orderResponseCount := h.orderResponseCount + 1 }

/-- `calculateRoundTrip`, behind the removal of the time of sending; `none` when
the answer is dropped. -/
def calculateRoundTrip (warmedUp : Bool) (h : Handler) (eventReceiveTime : Int64) :
    Option Int64 → Option Handler
  | none => none
  | some sentTime =>
      if eventReceiveTime < sentTime then none
      else
        let roundTripTime := eventReceiveTime - sentTime
        if 0 < roundTripTime then
          some { h with recorder := h.recorder ++ [⟨roundTripTime, !warmedUp⟩] }
        else some h

/-- The end of an answer: the handler calls `printResults` or not. -/
def afterResponse (cfg : Config) (h : Handler) : Handler :=
  { h with printing := h.orderResponseCount % cfg.handlerTestSize.toInt64 == 0 }

/-- A `BOOKED` message. Without a client id the removal throws, and without an
instrument code the cancel does. -/
def onBooked (cfg : Config) (warmedUp : Bool) (h : Handler) (eventReceiveTime : Int64)
    (sending : Sending) (clientId instrumentCode : Option String) : Handler :=
  match clientId with
  | none => h
  | some clientId =>
      let removed := { h with
        orderSentTimeMap := Function.update h.orderSentTimeMap clientId none }
      match removed.calculateRoundTrip warmedUp eventReceiveTime (h.orderSentTimeMap clientId) with
      | none => removed
      | some recorded =>
          if instrumentCode.isSome then
            (recorded.sendCancelOrder clientId sending).afterResponse cfg
          else recorded

/-- A `DONE` message. -/
def onDone (cfg : Config) (warmedUp : Bool) (h : Handler) (eventReceiveTime : Int64)
    (sending : Sending) (clientId : Option String) : Handler :=
  match clientId with
  | none => h
  | some clientId =>
      let removed := { h with
        cancelSentTimeMap := Function.update h.cancelSentTimeMap clientId none }
      match removed.calculateRoundTrip warmedUp eventReceiveTime (h.cancelSentTimeMap clientId) with
      | none => removed
      | some recorded =>
          match recorded.sendOrder cfg sending with
          | none => recorded
          | some sent => sent.afterResponse cfg

/-- `onTextWebSocketFrame`, up to the call of `printResults`. An exception leaves
the handler as it is at that point. -/
def onTextWebSocketFrame (cfg : Config) (warmedUp : Bool) (h : Handler) (eventReceiveTime : Int64)
    (sending : Sending) : Message → Handler
  | .booked clientId instrumentCode =>
      h.onBooked cfg warmedUp eventReceiveTime sending clientId instrumentCode
  | .done clientId => h.onDone cfg warmedUp eventReceiveTime sending clientId
  | .subscriptions => (h.sendOrder cfg sending).getD h
  | .authenticated | .other => h

end Handler

/-! ## Steps -/

/-- A frame for a handler, or its call of `printResults`. -/
inductive Label where
  | message (i : Nat) (eventReceiveTime : Int64) (m : Message) (sending : Sending)
  | printResults (i : Nat)

/-- `printResults`, called by the `i`-th handler. -/
def printResults (cfg : Config) (s : State) (i : Nat) : State :=
  let h := s.handlers i
  let messageCount := s.messageCounter + cfg.handlerTestSize.toInt64
  let s := { s with
    messageCounter := messageCount
    warmedUp := s.warmedUp || cfg.reached messageCount }
  if messageCount < cfg.warmupMessages then
    { s with handlers := Function.update s.handlers i { h with printing := false } }
  else
    let histogram := s.histogram ++ h.recorder
    let handlers := Function.update s.handlers i { h with recorder := [], printing := false }
    if messageCount % cfg.reportSize.toInt64 = 0 then
      { s with handlers := handlers, histogram := [], logged := s.logged ++ [histogram] }
    else { s with handlers := handlers, histogram := histogram }

/-- One step of one handler. -/
def step (cfg : Config) (s : State) : Label → Option State
  | .message i eventReceiveTime m sending =>
      let h := s.handlers i
      if (i : Int) < cfg.exchangeClientCount.toInt ∧ h.printing = false then
        some { s with
          handlers := Function.update s.handlers i
            (h.onTextWebSocketFrame cfg s.warmedUp eventReceiveTime sending m) }
      else none
  | .printResults i =>
      if (i : Int) < cfg.exchangeClientCount.toInt ∧ (s.handlers i).printing = true then
        some (printResults cfg s i)
      else none

/-! ## What a step does -/

section Inversion

variable {cfg : Config} {s s' : State}

theorem step_message {i : Nat} {eventReceiveTime : Int64} {m : Message} {sending : Sending}
    (h : step cfg s (.message i eventReceiveTime m sending) = some s') :
    (s.handlers i).printing = false ∧ s' = { s with
      handlers := Function.update s.handlers i
        ((s.handlers i).onTextWebSocketFrame cfg s.warmedUp eventReceiveTime sending m) } := by
  simp only [step] at h
  split at h
  · rename_i hguard
    exact ⟨hguard.2, (Option.some.inj h).symm⟩
  · simp at h

theorem step_printResults {i : Nat} (h : step cfg s (.printResults i) = some s') :
    (s.handlers i).printing = true ∧ s' = printResults cfg s i := by
  simp only [step] at h
  split at h
  · rename_i hguard
    exact ⟨hguard.2, (Option.some.inj h).symm⟩
  · simp at h

end Inversion

end TradingLatency.JavaClient
