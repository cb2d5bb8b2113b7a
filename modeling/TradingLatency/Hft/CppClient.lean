import TradingLatency.Hft.CppProtocol
import TradingLatency.Hft.Properties
import TradingLatency.Lib.Run

/-!
# The C++ client (`ExchangeClientLatencyTestHandler.cpp`)

The handler sends an order, cancels it when it is booked, and sends the next one
when the cancel is done. It keeps the times of sending in two maps, and records the
round trip of each answer in a histogram. `orderResponseCount` counts the messages
that were sent; when it is a multiple of `TEST_SIZE` behind an answer, the handler
prints the histogram and closes the connection.

`orderBuffers_fit_iff` says which coin pairs and instrument codes fit into the
buffers of the messages, in any run.

A step is one message that arrives. Times are nanoseconds of the steady clock. The
histogram is the list of the values that it accepted. An exception leaves the
handler for good, and so does the close: both are `none`, the one for the step and
the other for every later one.
-/

namespace TradingLatency.CppClient

open CText

/-! ## Data model -/

/-- What the handler uses of `Config`, and of its histogram: the values that
`hdr_record_value` accepts. -/
structure Config where
  coinPairs : List Text
  testSize : Int32
  accepts : Int → Bool
  coinPairs_ne_nil : coinPairs ≠ []

/-- `unordered_map<string, time_point>`. -/
abbrev SentTimeMap := Text → Option Int

/-- `insert`: an entry that exists is kept. -/
def SentTimeMap.insert (map : SentTimeMap) (key : Text) (time : Int) : SentTimeMap :=
  if (map key).isSome then map else Function.update map key (some time)

/-- A message that the handler sends, by the arguments of `createBuyOrder` and
`createCancelOrder`. -/
inductive Request where
  | auth
  | subscribe
  | buyOrder (pair clientId : Text)
  | cancelOrder (pair clientId : Text)

/-- A message that arrives, by the fields that are read. A field may be missing or
of another type; `malformed` is no JSON object with a type. -/
inductive Message where
  | booked (clientId instrumentCode : Option Text)
  | done (clientId : Option Text)
  | authenticated
  | subscriptions
  | other
  | malformed

/-- The handler. What was sent and the histograms that were printed are history. -/
structure Handler where
  orderSentTimeMap : SentTimeMap
  cancelSentTimeMap : SentTimeMap
  orderResponseCount : UInt64
  histogram : List Int
  printed : List (List Int)
  sent : List Request
  closed : Bool

/-- What is drawn and read while a message is sent: the random bytes of a new
client id, and the time behind the call of `send`. -/
structure Sending where
  uuid : Uuid
  time : Int

/-! ## The handler -/

namespace Handler

/-- A new handler, behind `on_open`. -/
def onOpen : Handler := ⟨fun _ => none, fun _ => none, 0, [], [], [.auth], false⟩

/-- `sendOrder`. -/
def sendOrder (cfg : Config) (h : Handler) (sending : Sending) : Handler :=
  let pair := cfg.coinPairs.head cfg.coinPairs_ne_nil
  let clientId := uuidV4Gen sending.uuid
  { h with
    sent := h.sent ++ [.buyOrder pair clientId]
    orderSentTimeMap := h.orderSentTimeMap.insert clientId sending.time
    orderResponseCount := h.orderResponseCount + 1 }

/-- `sendCancelOrder`. -/
def sendCancelOrder (h : Handler) (clientId pair : Text) (sending : Sending) : Handler :=
  { h with
    sent := h.sent ++ [.cancelOrder pair clientId]
    cancelSentTimeMap := h.cancelSentTimeMap.insert clientId sending.time
    orderResponseCount := h.orderResponseCount + 1 }

/-- `calculateRoundTrip`: the map and the histogram behind it, `none` when the answer
is dropped. -/
def calculateRoundTrip (cfg : Config) (eventReceiveTime : Int) (clientId : Text)
    (sentTimeMap : SentTimeMap) (histogram : List Int) : Option (SentTimeMap × List Int) :=
  match sentTimeMap clientId with
  | none => none
  | some sentTime =>
      if eventReceiveTime < sentTime then none
      else
        let roundTripTime := eventReceiveTime - sentTime
        some (Function.update sentTimeMap clientId none,
          if 0 < roundTripTime ∧ cfg.accepts roundTripTime then histogram ++ [roundTripTime]
          else histogram)

/-- `hdrPrint`. -/
def hdrPrint (h : Handler) : Handler :=
  { h with printed := h.printed ++ [h.histogram], histogram := [] }

/-- The end of an answer. `TEST_SIZE` is converted to `uint64_t`, and a remainder by
zero ends the program. -/
def afterResponse (cfg : Config) (h : Handler) : Option Handler :=
  let testSize := UInt64.ofInt cfg.testSize.toInt
  if testSize = 0 then none
  else if h.orderResponseCount % testSize = 0 then some { h.hdrPrint with closed := true }
  else some h

/-- A `BOOKED` message. -/
def onBooked (cfg : Config) (h : Handler) (eventReceiveTime : Int) (sending : Sending)
    (clientId : Text) (instrumentCode : Option Text) : Option Handler :=
  match calculateRoundTrip cfg eventReceiveTime clientId h.orderSentTimeMap h.histogram with
  | none => some h
  | some (orderSentTimeMap, histogram) =>
      match instrumentCode with
      | none => none
      | some pair =>
          ({ h with orderSentTimeMap, histogram }.sendCancelOrder clientId pair
            sending).afterResponse cfg

/-- A `DONE` message. -/
def onDone (cfg : Config) (h : Handler) (eventReceiveTime : Int) (sending : Sending)
    (clientId : Text) : Option Handler :=
  match calculateRoundTrip cfg eventReceiveTime clientId h.cancelSentTimeMap h.histogram with
  | none => some h
  | some (cancelSentTimeMap, histogram) =>
      ({ h with cancelSentTimeMap, histogram }.sendOrder cfg sending).afterResponse cfg

/-- `on_message`; the access to a field that is missing throws. -/
def onMessage (cfg : Config) (h : Handler) (eventReceiveTime : Int) (sending : Sending) :
    Message → Option Handler
  | .booked (some clientId) instrumentCode =>
      h.onBooked cfg eventReceiveTime sending clientId instrumentCode
  | .done (some clientId) => h.onDone cfg eventReceiveTime sending clientId
  | .booked none _ | .done none | .malformed => none
  | .authenticated => some { h with sent := h.sent ++ [.subscribe] }
  | .subscriptions => some (h.sendOrder cfg sending)
  | .other => some h

end Handler

/-- A message arrives at the handler. -/
structure Event where
  eventReceiveTime : Int
  message : Message
  sending : Sending

/-- One message, as long as the connection is open. -/
def step (cfg : Config) (h : Handler) (e : Event) : Option Handler :=
  if h.closed then none else h.onMessage cfg e.eventReceiveTime e.sending e.message

/-! ## What a message does -/

section Inversion

variable {cfg : Config} {h h' : Handler}

/-- An answer that is not dropped was waited for, and is not waited for any more. -/
theorem calculateRoundTrip_some {eventReceiveTime : Int} {clientId : Text}
    {sentTimeMap sentTimeMap' : SentTimeMap} {histogram histogram' : List Int}
    (hround : Handler.calculateRoundTrip cfg eventReceiveTime clientId sentTimeMap histogram =
      some (sentTimeMap', histogram')) :
    (sentTimeMap clientId).isSome ∧ sentTimeMap' = Function.update sentTimeMap clientId none := by
  unfold Handler.calculateRoundTrip at hround
  split at hround
  · cases hround
  · rename_i sentTime hsent
    split at hround
    · cases hround
    · cases hround
      exact ⟨by rw [hsent]; rfl, rfl⟩

/-- The end of an answer leaves the maps and what was sent. -/
theorem afterResponse_some (hafter : h.afterResponse cfg = some h') :
    h'.orderSentTimeMap = h.orderSentTimeMap ∧ h'.sent = h.sent := by
  simp only [Handler.afterResponse] at hafter
  split at hafter
  · cases hafter
  · split at hafter <;> cases hafter <;> exact ⟨rfl, rfl⟩

end Inversion

/-! ## The client ids of the orders -/

/-- The client ids that wait for an answer to their order have 36 characters, and so
have the client ids of all cancels that were sent. -/
structure IdsOk (h : Handler) : Prop where
  orders : ∀ clientId, (h.orderSentTimeMap clientId).isSome → clientId.length = 36
  cancels : ∀ pair clientId, Request.cancelOrder pair clientId ∈ h.sent → clientId.length = 36

section Ids

variable {cfg : Config} {h h' : Handler}

theorem idsOk_onOpen : IdsOk .onOpen := by
  constructor
  · intro clientId hsome
    cases hsome
  · intro pair clientId hmem
    rcases List.mem_singleton.mp hmem with ⟨⟩

theorem IdsOk.sendOrder (hids : IdsOk h) (cfg : Config) (sending : Sending) :
    IdsOk (h.sendOrder cfg sending) := by
  constructor
  · intro clientId hsome
    simp only [Handler.sendOrder, SentTimeMap.insert] at hsome
    split at hsome
    · exact hids.orders clientId hsome
    · rcases eq_or_ne clientId (uuidV4Gen sending.uuid) with heq | hne
      · rw [heq, length_uuidV4Gen]
      · rw [Function.update_of_ne hne] at hsome
        exact hids.orders clientId hsome
  · intro pair clientId hmem
    rcases List.mem_append.mp hmem with hmem | hmem
    · exact hids.cancels pair clientId hmem
    · rcases List.mem_singleton.mp hmem with ⟨⟩

theorem IdsOk.sendCancelOrder (hids : IdsOk h) {clientId : Text} (hlen : clientId.length = 36)
    (pair : Text) (sending : Sending) : IdsOk (h.sendCancelOrder clientId pair sending) := by
  refine ⟨hids.orders, ?_⟩
  intro pair' clientId' hmem
  rcases List.mem_append.mp hmem with hmem | hmem
  · exact hids.cancels pair' clientId' hmem
  · rcases List.mem_singleton.mp hmem with ⟨⟩
    exact hlen

theorem IdsOk.afterResponse (hids : IdsOk h) (hafter : h.afterResponse cfg = some h') :
    IdsOk h' := by
  rcases afterResponse_some hafter with ⟨horders, hsent⟩
  exact ⟨horders ▸ hids.orders, hsent ▸ hids.cancels⟩

/-- A cancel goes out only for a client id that an order of the handler waits with. -/
theorem IdsOk.onMessage (hids : IdsOk h) {eventReceiveTime : Int} {sending : Sending}
    {m : Message} (hmessage : h.onMessage cfg eventReceiveTime sending m = some h') :
    IdsOk h' := by
  unfold Handler.onMessage at hmessage
  split at hmessage
  · -- `BOOKED`: a cancel goes out for an order that waits in the map
    rename_i clientId instrumentCode
    unfold Handler.onBooked at hmessage
    split at hmessage
    · cases hmessage
      exact hids
    · rename_i orderSentTimeMap histogram hround
      -- the order that was answered leaves the map
      rcases calculateRoundTrip_some hround with ⟨hwaits, hmap⟩
      have hids' : IdsOk { h with orderSentTimeMap, histogram } := by
        refine ⟨?_, hids.cancels⟩
        intro id hsome
        simp only [hmap] at hsome
        rcases eq_or_ne id clientId with heq | hne
        · rw [heq]
          exact hids.orders clientId hwaits
        · rw [Function.update_of_ne hne] at hsome
          exact hids.orders id hsome
      split at hmessage
      · cases hmessage
      · exact (hids'.sendCancelOrder (hids.orders clientId hwaits) _ _).afterResponse hmessage
  · -- `DONE`: the next order goes out
    unfold Handler.onDone at hmessage
    split at hmessage
    · cases hmessage
      exact hids
    · have hids' : ∀ cancelSentTimeMap histogram,
          IdsOk { h with cancelSentTimeMap, histogram } :=
        fun _ _ => ⟨hids.orders, hids.cancels⟩
      exact ((hids' _ _).sendOrder cfg sending).afterResponse hmessage
  · cases hmessage
  · cases hmessage
  · cases hmessage
  · cases hmessage
    -- `AUTHENTICATED`: only a subscription is sent
    refine ⟨hids.orders, ?_⟩
    intro pair clientId hmem
    rcases List.mem_append.mp hmem with hmem | hmem
    · exact hids.cancels pair clientId hmem
    · rcases List.mem_singleton.mp hmem with ⟨⟩
  · cases hmessage
    exact hids.sendOrder cfg sending
  · cases hmessage
    exact hids

theorem step_idsOk {e : Event} (hids : IdsOk h) (hstep : step cfg h e = some h') : IdsOk h' := by
  unfold step at hstep
  split at hstep
  · cases hstep
  · exact hids.onMessage hstep

end Ids

/-! ## Answers that are waited for -/

/-- The map in which one client id waits. -/
def SentTimeMap.single (clientId : Text) (time : Int) : SentTimeMap :=
  Function.update (fun _ => none) clientId (some time)

@[simp] theorem insert_empty (clientId : Text) (time : Int) :
    SentTimeMap.insert (fun _ => none) clientId time = .single clientId time := rfl

/-- The histogram behind a round trip. -/
def Config.record (cfg : Config) (histogram : List Int) (roundTripTime : Int) : List Int :=
  if cfg.accepts roundTripTime then histogram ++ [roundTripTime] else histogram

section Waiting

variable {cfg : Config} {h : Handler} {clientId : Text} {sentTime eventReceiveTime : Int}

theorem calculateRoundTrip_single (hlater : sentTime < eventReceiveTime) (histogram : List Int) :
    Handler.calculateRoundTrip cfg eventReceiveTime clientId (.single clientId sentTime) histogram =
      some (fun _ => none, cfg.record histogram (eventReceiveTime - sentTime)) := by
  have hpos : 0 < eventReceiveTime - sentTime := by omega
  have hempty : Function.update (SentTimeMap.single clientId sentTime) clientId none =
      fun _ => none := by
    rw [SentTimeMap.single, Function.update_idem, Function.update_eq_self_iff]
  have hnot : ¬ eventReceiveTime < sentTime := by omega
  simp only [Handler.calculateRoundTrip, hempty, Config.record]
  rw [SentTimeMap.single, Function.update_self]
  simp only [if_neg hnot, hpos, true_and]

/-- The order is booked: its round trip is recorded, and the cancel goes out. -/
theorem onBooked_single (horder : h.orderSentTimeMap = .single clientId sentTime)
    (hlater : sentTime < eventReceiveTime) (sending : Sending) (pair : Text) :
    h.onBooked cfg eventReceiveTime sending clientId (some pair) =
      ({ h with
        orderSentTimeMap := fun _ => none
        histogram := cfg.record h.histogram (eventReceiveTime - sentTime) }.sendCancelOrder clientId
          pair sending).afterResponse cfg := by
  rw [Handler.onBooked, horder, calculateRoundTrip_single hlater]

/-- The cancel is done: its round trip is recorded, and the next order goes out. -/
theorem onDone_single (hcancel : h.cancelSentTimeMap = .single clientId sentTime)
    (hlater : sentTime < eventReceiveTime) (sending : Sending) :
    h.onDone cfg eventReceiveTime sending clientId =
      ({ h with
        cancelSentTimeMap := fun _ => none
        histogram := cfg.record h.histogram (eventReceiveTime - sentTime) }.sendOrder cfg
          sending).afterResponse cfg := by
  rw [Handler.onDone, hcancel, calculateRoundTrip_single hlater]

end Waiting

/-! ## The buffers of the messages -/

/-- `COIN_PAIRS`, for the text of the configuration file. -/
def coinPairs (content : Text) : List Text :=
  Properties.getListProperty content "COINPAIRS".toList "BTC_EUR".toList

theorem coinPairs_ne_nil (content : Text) : coinPairs content ≠ [] := by
  unfold coinPairs Properties.getListProperty
  rw [ne_eq, Lines.getlines_eq_nil_iff]
  -- an empty value is replaced by the default
  simp only [Properties.getProperty, Properties.configProperty]
  split
  · decide
  · rename_i hvalue
    simpa using hvalue

/-- The configuration of the handler, for the text of the file. -/
def Config.ofFile (content : Text) (testSize : Int32) (accepts : Int → Bool) : Config :=
  ⟨CppClient.coinPairs content, testSize, accepts, CppClient.coinPairs_ne_nil content⟩

/-- For every coin pair of a configuration file and every client id of 36 characters,
and for every instrument code and client id that a message carries into
`sendCancelOrder` in any run, the copies stay in their buffers if and only if the
coin pair has at most 60 bytes and the instrument code at most 33. -/
theorem orderBuffers_fit_iff (content : Text) (testSize : Int32) (accepts : Int → Bool)
    {pair clientId : Text} (_ : pair ∈ coinPairs content) (hid : clientId.length = 36)
    {es : List Event} {h : Handler}
    (hrun : Run.exec (step (.ofFile content testSize accepts)) .onOpen es = some h)
    {instrumentCode cancelId : Text} (hcancel : .cancelOrder instrumentCode cancelId ∈ h.sent) :
    (createBuyOrder pair clientId).isSome ∧ (createCancelOrder instrumentCode cancelId).isSome ↔
      pair.length ≤ 60 ∧ instrumentCode.length ≤ 33 := by
  have hids := Run.invariant (fun _ _ _ hids hstep => step_idsOk hids hstep) idsOk_onOpen hrun
  have hlen := hids.cancels instrumentCode cancelId hcancel
  rw [isSome_createBuyOrder, isSome_createCancelOrder]
  omega

/-- A server can make the handler send a cancel with any instrument code. -/
theorem exists_cancel (cfg : Config) (hsize : cfg.testSize = 3) (uuid : Uuid)
    (instrumentCode : Text) :
    ∃ es h, Run.exec (step cfg) .onOpen es = some h ∧
      .cancelOrder instrumentCode (uuidV4Gen uuid) ∈ h.sent := by
  have hthree : UInt64.ofInt cfg.testSize.toInt = 3 := by
    rw [hsize]
    rfl
  obtain ⟨subscribed, hsubscribed⟩ : ∃ h, h = Handler.onOpen.sendOrder cfg ⟨uuid, 0⟩ := ⟨_, rfl⟩
  have horder : subscribed.orderSentTimeMap = .single (uuidV4Gen uuid) 0 := by
    rw [hsubscribed]
    rfl
  have hcount : subscribed.orderResponseCount = 1 := by
    rw [hsubscribed]
    rfl
  have hopen : subscribed.closed = false := by
    rw [hsubscribed]
    rfl
  obtain ⟨h, hh⟩ : ∃ h, h = { subscribed with
      orderSentTimeMap := fun _ => none
      histogram := cfg.record subscribed.histogram (1 - 0) }.sendCancelOrder (uuidV4Gen uuid)
        instrumentCode ⟨uuid, 1⟩ := ⟨_, rfl⟩
  have hafter : h.afterResponse cfg = some h := by
    have hcount' : h.orderResponseCount = 2 := by
      rw [hh, Handler.sendCancelOrder, hcount]
      rfl
    rw [Handler.afterResponse, hthree, hcount']
    rfl
  -- the acknowledgement makes the handler send an order, which is then booked
  refine ⟨[⟨0, .subscriptions, ⟨uuid, 0⟩⟩,
    ⟨1, .booked (some (uuidV4Gen uuid)) (some instrumentCode), ⟨uuid, 1⟩⟩], h, ?_, ?_⟩
  · have hfirst : step cfg .onOpen ⟨0, .subscriptions, ⟨uuid, 0⟩⟩ = some subscribed := by
      rw [hsubscribed]
      rfl
    have hsecond : step cfg subscribed ⟨1, .booked (some (uuidV4Gen uuid)) (some instrumentCode),
        ⟨uuid, 1⟩⟩ = some h := by
      rw [step, hopen]
      show subscribed.onBooked cfg 1 ⟨uuid, 1⟩ (uuidV4Gen uuid) (some instrumentCode) = some h
      rw [onBooked_single horder (by decide), ← hh, hafter]
    rw [Run.exec, hfirst]
    simp only [Run.exec, hsecond]
  · rw [hh]
    exact List.mem_append_right _ (List.mem_singleton_self _)

/-- All random bytes zero. -/
def zeroUuid : Uuid := ⟨0, 0, 0, 0, 0, fun _ => 0⟩

/-- The default coin pair, and an answer with it. -/
theorem orderBuffers_fit_default :
    ∃ es h cancelId, Run.exec (step (.ofFile [] 3 fun _ => true)) .onOpen es = some h ∧
      .cancelOrder "BTC_EUR".toList cancelId ∈ h.sent ∧
      (createBuyOrder "BTC_EUR".toList (uuidV4Gen zeroUuid)).isSome ∧
      (createCancelOrder "BTC_EUR".toList cancelId).isSome := by
  rcases exists_cancel (.ofFile [] 3 fun _ => true) rfl zeroUuid "BTC_EUR".toList
    with ⟨es, h, hrun, hcancel⟩
  have hpair : "BTC_EUR".toList ∈ coinPairs [] := by decide
  refine ⟨es, h, uuidV4Gen zeroUuid, hrun, hcancel, ?_⟩
  exact (orderBuffers_fit_iff [] 3 (fun _ => true) hpair (length_uuidV4Gen zeroUuid) hrun
    hcancel).mpr (by decide)

/-- A file with a coin pair of 61 bytes, and a server that books an order under an
instrument code of 34: neither message fits. -/
theorem orderBuffers_overflow :
    (∃ pair ∈ coinPairs ("COINPAIRS=".toList ++ List.replicate 61 'A'),
      (createBuyOrder pair (uuidV4Gen zeroUuid)).isSome = false) ∧
    ∃ es h cancelId, Run.exec (step (.ofFile [] 3 fun _ => true)) .onOpen es = some h ∧
      .cancelOrder (List.replicate 34 'A') cancelId ∈ h.sent ∧
      (createCancelOrder (List.replicate 34 'A') cancelId).isSome = false := by
  constructor
  · refine ⟨List.replicate 61 'A', by decide, ?_⟩
    rw [← Bool.not_eq_true, isSome_createBuyOrder, length_uuidV4Gen]
    decide
  · rcases exists_cancel (.ofFile [] 3 fun _ => true) rfl zeroUuid (List.replicate 34 'A')
      with ⟨es, h, hrun, hcancel⟩
    refine ⟨es, h, uuidV4Gen zeroUuid, hrun, hcancel, ?_⟩
    rw [← Bool.not_eq_true, isSome_createCancelOrder, length_uuidV4Gen]
    decide

end TradingLatency.CppClient
