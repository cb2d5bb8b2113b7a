import TradingLatency.Hft.CppWire
import TradingLatency.Lib.Duplex

/-!
# The C++ client and the mock server

One handler of the C++ client, one `WebSocketActor`, and the two directions of their
connection. What the client sends goes through its texts: the server gets what its
reader makes of them. The client measures with a clock that does not go back.

As long as the client has not closed the connection, one text is on its way, and the
client waits for exactly its answer (`Phase`). With its last message the client sends
the close, and what arrives behind that is dropped by the library.

`mockServer_exchange_orderly` holds for every run in which the clock of the server is
not before 1970: the server does not panic, the client does not throw, and the requests
follow the script of the test up to its end.
-/

namespace TradingLatency.CppClient

open CText Duplex

/-! ## The client as a party -/

/-- What one call of `on_message` reads from its surroundings: the nanoseconds up to
the call, and up to the sending, and random bytes. -/
structure Reading where
  wait : Nat
  work : Nat
  uuid : Uuid

/-- The handler, and the last reading of its clock. -/
structure Party where
  handler : Handler
  clock : Int

def Party.onOpen : Party := ⟨.onOpen, 0⟩

/-- A text that arrives; `json::parse` throws where it is no JSON. -/
def Message.ofText : Hft.Text → Message
  | none => .malformed
  | some v => .ofJson v

/-- What the requests that were sent since `h` are at the other end; `none` when one of
them leaves its buffer. -/
def newTexts (apiToken : Int32) (h h' : Handler) : Option (List Hft.Message) :=
  ((h'.sent.drop h.sent.length).mapM (requestText apiToken)).map fun texts =>
    texts.map fun text => .text (readText text)

/-- One message from the server; `none` when the handler throws. No server here sends a
binary message, and it is not modelled. -/
def Party.receive (cfg : Config) (apiToken : Int32) (p : Party) (i : Reading) :
    Hft.Message → Option (Party × List Hft.Message)
  | .text text =>
      -- behind its own close the library drops what arrives
      if p.handler.closed then some (p, [])
      else
        let eventReceiveTime := p.clock + i.wait
        let sending : Sending := ⟨i.uuid, eventReceiveTime + i.work⟩
        match step cfg p.handler ⟨eventReceiveTime, .ofText text, sending⟩ with
        | none => none
        | some h => (newTexts apiToken p.handler h).map fun out =>
            (⟨h, sending.time⟩, out ++ if h.closed then [.close] else [])
  | .close => some (p, [])
  | .ping data => some (p, [.pong data])
  | .pong _ => some (p, [])
  | .binary _ => none

/-- The connection is open, and the first request is on its way. -/
def startExchange (apiToken : Int32) : Duplex Party Hft.Server Hft.Message where
  left := .onOpen
  right := .start
  toLeft := []
  toRight := [.text (readText (authMessage apiToken))]

/-! ## What the client waits for -/

def Config.pair (cfg : Config) : Text := cfg.coinPairs.head cfg.coinPairs_ne_nil

/-- The orders that wait for an answer, when `r` was sent last. -/
def Request.orders (time : Int) : Request → SentTimeMap
  | .buyOrder _ clientId => .single clientId time
  | _ => fun _ => none

/-- The cancels that wait for an answer, when `r` was sent last. -/
def Request.cancels (time : Int) : Request → SentTimeMap
  | .cancelOrder _ clientId => .single clientId time
  | _ => fun _ => none

/-- The requests of a test: each order is cancelled before the next one. -/
def script (pair : Text) (ids : List Text) : List Request :=
  [.auth, .subscribe] ++ ids.flatMap fun id => [.buyOrder pair id, .cancelOrder pair id]

/-- The script up to the request `r`. -/
inductive Scripted (pair : Text) : List Request → Request → Prop where
  | auth : Scripted pair [.auth] .auth
  | subscribe : Scripted pair [.auth, .subscribe] .subscribe
  | order (ids : List Text) (uuid : Uuid) :
      Scripted pair (script pair ids ++ [.buyOrder pair (uuidV4Gen uuid)])
        (.buyOrder pair (uuidV4Gen uuid))
  | cancel (ids : List Text) (uuid : Uuid) :
      Scripted pair (script pair (ids ++ [uuidV4Gen uuid])) (.cancelOrder pair (uuidV4Gen uuid))

/-- The number of orders and cancels that were sent. -/
def Handler.asked (h : Handler) : Nat := h.sent.length - 2

/-- The last request is `r`, and the client has its time. -/
structure Asks (pair : Text) (p : Party) (r : Request) : Prop where
  open_ : p.handler.closed = false
  unprinted : p.handler.printed = []
  scripted : Scripted pair p.handler.sent r
  orders : p.handler.orderSentTimeMap = r.orders p.clock
  cancels : p.handler.cancelSentTimeMap = r.cancels p.clock
  count : p.handler.orderResponseCount = UInt64.ofNat p.handler.asked

/-- The client waits for the answer to `r`. -/
structure Waits (cfg : Config) (t : Nat) (p : Party) (r : Request) : Prop
    extends Asks cfg.pair p r where
  asked_lt : p.handler.asked < max t 2

/-- The client has closed the connection. -/
structure Closed (cfg : Config) (t : Nat) (p : Party) : Prop where
  closed : p.handler.closed = true
  printed : p.handler.printed.length = 1
  scripted : ∃ r, Scripted cfg.pair p.handler.sent r
  asked : p.handler.asked = max t 2

section Script

variable {pair : Text} {sent : List Request} {r : Request}

theorem script_append (ids : List Text) (id : Text) :
    script pair (ids ++ [id]) = script pair ids ++ [.buyOrder pair id, .cancelOrder pair id] := by
  rw [script, List.flatMap_append, ← List.append_assoc, ← script, List.flatMap_singleton]

theorem two_le_script (ids : List Text) : 2 ≤ (script pair ids).length := by
  rw [script, List.length_append]
  exact Nat.le_add_right 2 _

theorem Scripted.getLast? (h : Scripted pair sent r) : sent.getLast? = some r := by
  cases h with
  | auth => rfl
  | subscribe => rfl
  | order ids uuid => rw [List.getLast?_append, List.getLast?_singleton]; rfl
  | cancel ids uuid => rw [script_append, List.getLast?_append]; rfl

theorem Scripted.isPrefix (h : Scripted pair sent r) : ∃ ids, sent <+: script pair ids := by
  cases h with
  | auth => exact ⟨[], [.subscribe], rfl⟩
  | subscribe => exact ⟨[], [], rfl⟩
  | order ids uuid =>
    refine ⟨ids ++ [uuidV4Gen uuid], [.cancelOrder pair (uuidV4Gen uuid)], ?_⟩
    rw [script_append, List.append_assoc]
    rfl
  | cancel ids uuid => exact ⟨ids ++ [uuidV4Gen uuid], List.prefix_rfl⟩

theorem Scripted.subscribe_next (h : Scripted pair sent r) (hr : r = .auth) :
    Scripted pair (sent ++ [.subscribe]) .subscribe := by
  cases h with
  | auth => exact .subscribe
  | subscribe => cases hr
  | order ids uuid => cases hr
  | cancel ids uuid => cases hr

/-- Behind an order comes its cancel. -/
theorem Scripted.cancel_next {id : Text} (h : Scripted pair sent r) (hr : r = .buyOrder pair id) :
    Scripted pair (sent ++ [.cancelOrder pair id]) (.cancelOrder pair id) := by
  cases h with
  | auth => cases hr
  | subscribe => cases hr
  | order ids uuid =>
    cases hr
    have hsent : script pair ids ++ [.buyOrder pair (uuidV4Gen uuid)] ++
        [.cancelOrder pair (uuidV4Gen uuid)] = script pair (ids ++ [uuidV4Gen uuid]) := by
      rw [script_append, List.append_assoc]
      rfl
    rw [hsent]
    exact .cancel ids uuid
  | cancel ids uuid => cases hr

/-- Behind a cancel, and behind the subscription, comes a new order. -/
theorem Scripted.order_next (h : Scripted pair sent r) (hauth : r ≠ .auth)
    (horder : ∀ id, r ≠ .buyOrder pair id) (uuid : Uuid) :
    Scripted pair (sent ++ [.buyOrder pair (uuidV4Gen uuid)])
      (.buyOrder pair (uuidV4Gen uuid)) := by
  cases h with
  | auth => exact absurd rfl hauth
  | subscribe => exact .order [] uuid
  | order ids uuid' => exact absurd rfl (horder _)
  | cancel ids uuid' => exact .order _ uuid

theorem Scripted.two_le (h : Scripted pair sent r) (hauth : r ≠ .auth) : 2 ≤ sent.length := by
  cases h with
  | auth => exact absurd rfl hauth
  | subscribe => exact Nat.le_refl 2
  | order ids uuid =>
    rw [List.length_append]
    exact Nat.le_add_right_of_le (two_le_script ids)
  | cancel ids uuid => exact two_le_script _

theorem Scripted.shape (h : Scripted pair sent r) :
    (r = .auth ∧ sent.length = 1) ∨ (r = .subscribe ∧ sent.length = 2) ∨
      (3 ≤ sent.length ∧ ∃ id, r = .buyOrder pair id ∨ r = .cancelOrder pair id) := by
  cases h with
  | auth => exact .inl ⟨rfl, rfl⟩
  | subscribe => exact .inr (.inl ⟨rfl, rfl⟩)
  | order ids uuid =>
    -- behind authentication and subscription
    refine .inr (.inr ⟨?_, _, .inl rfl⟩)
    have hids : 2 ≤ (script pair ids).length := two_le_script ids
    rw [List.length_append, List.length_singleton]
    omega
  | cancel ids uuid =>
    refine .inr (.inr ⟨?_, _, .inr rfl⟩)
    have hids : 2 ≤ (script pair ids).length := two_le_script ids
    rw [script_append, List.length_append]
    simp only [List.length_cons, List.length_nil]
    omega

theorem Scripted.readable (h : Scripted pair sent r) (hpair : Readable pair) : r.Readable := by
  cases h with
  | auth => trivial
  | subscribe => trivial
  | order ids uuid => exact ⟨hpair, (printable_uuidV4Gen uuid).readable⟩
  | cancel ids uuid => exact ⟨hpair, (printable_uuidV4Gen uuid).readable⟩

/-- A pair of at most 33 bytes fits into both messages. -/
theorem Scripted.fits (h : Scripted pair sent r) (hlen : pair.length ≤ 33) (apiToken : Int32) :
    ∃ text, requestText apiToken r = some text := by
  cases h with
  | auth => exact ⟨_, rfl⟩
  | subscribe => exact ⟨_, rfl⟩
  | order ids uuid =>
    apply Option.isSome_iff_exists.mp
    rw [requestText, isSome_createBuyOrder, length_uuidV4Gen]
    omega
  | cancel ids uuid =>
    apply Option.isSome_iff_exists.mp
    rw [requestText, isSome_createCancelOrder, length_uuidV4Gen]
    omega

end Script

/-! ## What the client makes of an answer -/

section Answer

variable {cfg : Config} {p : Party} {r : Request} {t : Nat}

/-- The answer that is waited for is not dropped. -/
theorem calculateRoundTrip_pending (cfg : Config) {clientId : Text} {sentTime eventReceiveTime : Int}
    (hle : sentTime ≤ eventReceiveTime) (histogram : List Int) :
    ∃ histogram', Handler.calculateRoundTrip cfg eventReceiveTime clientId
      (.single clientId sentTime) histogram = some (fun _ => none, histogram') := by
  have hempty : Function.update (SentTimeMap.single clientId sentTime) clientId none =
      fun _ => none := by
    rw [SentTimeMap.single, Function.update_idem, Function.update_eq_self_iff]
  have hnot : ¬ eventReceiveTime < sentTime := by omega
  simp only [Handler.calculateRoundTrip, hempty]
  rw [SentTimeMap.single, Function.update_self]
  simp only [if_neg hnot]
  exact ⟨_, rfl⟩

theorem onBooked_pending (cfg : Config) {h : Handler} {clientId : Text} {sentTime eventReceiveTime : Int}
    (horders : h.orderSentTimeMap = .single clientId sentTime) (hle : sentTime ≤ eventReceiveTime)
    (sending : Sending) (pair : Text) :
    ∃ histogram, h.onBooked cfg eventReceiveTime sending clientId (some pair) =
      ({ h with orderSentTimeMap := fun _ => none, histogram }.sendCancelOrder clientId pair
        sending).afterResponse cfg := by
  rcases calculateRoundTrip_pending cfg hle h.histogram with ⟨histogram, hround⟩
  refine ⟨histogram, ?_⟩
  rw [Handler.onBooked, horders, hround]

theorem onDone_pending (cfg : Config) {h : Handler} {clientId : Text} {sentTime eventReceiveTime : Int}
    (hcancels : h.cancelSentTimeMap = .single clientId sentTime)
    (hle : sentTime ≤ eventReceiveTime) (sending : Sending) :
    ∃ histogram, h.onDone cfg eventReceiveTime sending clientId =
      ({ h with cancelSentTimeMap := fun _ => none, histogram }.sendOrder cfg
        sending).afterResponse cfg := by
  rcases calculateRoundTrip_pending cfg hle h.histogram with ⟨histogram, hround⟩
  refine ⟨histogram, ?_⟩
  rw [Handler.onDone, hcancels, hround]

/-- One more order or cancel is counted. -/
theorem count_append {h : Handler} (hcount : h.orderResponseCount = UInt64.ofNat h.asked)
    (hlong : 2 ≤ h.sent.length) (r : Request) :
    h.orderResponseCount + 1 = UInt64.ofNat ((h.sent ++ [r]).length - 2) := by
  have hasked : (h.sent ++ [r]).length - 2 = h.asked + 1 := by
    rw [Handler.asked, List.length_append, List.length_singleton]
    omega
  rw [hasked, hcount, UInt64.ofNat_add]
  rfl

/-- The order is booked, and its cancel goes out. -/
theorem Asks.booked {pair id : Text} (h : Asks pair p (.buyOrder pair id)) (i : Reading) :
    ∃ h', Asks pair ⟨h', p.clock + i.wait + i.work⟩ (.cancelOrder pair id) ∧
      h'.sent = p.handler.sent ++ [.cancelOrder pair id] ∧
      p.handler.onMessage cfg (p.clock + i.wait) ⟨i.uuid, p.clock + i.wait + i.work⟩
        (reply (.buyOrder pair id)) = h'.afterResponse cfg := by
  have hle : p.clock ≤ p.clock + i.wait := by omega
  rcases onBooked_pending cfg h.orders hle ⟨i.uuid, p.clock + i.wait + i.work⟩ pair
    with ⟨histogram, hbooked⟩
  refine ⟨_, ?_, ?_, hbooked⟩
  · refine ⟨h.open_, h.unprinted, h.scripted.cancel_next rfl, rfl, ?_, ?_⟩
    · show p.handler.cancelSentTimeMap.insert id _ = _
      rw [h.cancels]
      rfl
    · exact count_append h.count (h.scripted.two_le nofun) _
  · rfl

/-- The cancel is done, and the next order goes out. -/
theorem Asks.done {id : Text} (h : Asks cfg.pair p (.cancelOrder cfg.pair id)) (i : Reading) :
    ∃ h', Asks cfg.pair ⟨h', p.clock + i.wait + i.work⟩ (.buyOrder cfg.pair (uuidV4Gen i.uuid)) ∧
      h'.sent = p.handler.sent ++ [.buyOrder cfg.pair (uuidV4Gen i.uuid)] ∧
      p.handler.onMessage cfg (p.clock + i.wait) ⟨i.uuid, p.clock + i.wait + i.work⟩
        (reply (.cancelOrder cfg.pair id)) = h'.afterResponse cfg := by
  have hle : p.clock ≤ p.clock + i.wait := by omega
  rcases onDone_pending cfg h.cancels hle ⟨i.uuid, p.clock + i.wait + i.work⟩
    with ⟨histogram, hdone⟩
  refine ⟨_, ?_, ?_, hdone⟩
  · refine ⟨h.open_, h.unprinted, h.scripted.order_next nofun nofun _, ?_, rfl, ?_⟩
    · show p.handler.orderSentTimeMap.insert _ _ = _
      rw [h.orders]
      rfl
    · exact count_append h.count (h.scripted.two_le nofun) _
  · rfl

/-- The subscription is answered, and the first order goes out. -/
theorem Asks.subscribed (h : Asks cfg.pair p .subscribe) (i : Reading) :
    ∃ h', Asks cfg.pair ⟨h', p.clock + i.wait + i.work⟩ (.buyOrder cfg.pair (uuidV4Gen i.uuid)) ∧
      h'.sent = p.handler.sent ++ [.buyOrder cfg.pair (uuidV4Gen i.uuid)] ∧
      p.handler.onMessage cfg (p.clock + i.wait) ⟨i.uuid, p.clock + i.wait + i.work⟩
        (reply .subscribe) = some h' := by
  refine ⟨p.handler.sendOrder cfg ⟨i.uuid, p.clock + i.wait + i.work⟩, ?_, rfl, rfl⟩
  refine ⟨h.open_, h.unprinted, h.scripted.order_next nofun nofun _, ?_, h.cancels, ?_⟩
  · show p.handler.orderSentTimeMap.insert _ _ = _
    rw [h.orders]
    rfl
  · exact count_append h.count (h.scripted.two_le nofun) _

/-- The end of an answer: the count is looked at. -/
theorem Asks.afterResponse (ht : cfg.testSize.toInt = t) (hpos : 1 ≤ t) {h : Handler} {clock : Int}
    (hasks : Asks cfg.pair ⟨h, clock⟩ r) (htwo : 2 ≤ h.asked) (hle : h.asked ≤ max t 2) :
    ∃ h', h.afterResponse cfg = some h' ∧ h'.sent = h.sent ∧
      ((h'.closed = false ∧ Waits cfg t ⟨h', clock⟩ r) ∨
        (h'.closed = true ∧ Closed cfg t ⟨h', clock⟩)) := by
  have hsize := Int32.toInt_lt cfg.testSize
  have hcount : h.orderResponseCount = UInt64.ofNat h.asked := hasks.count
  rw [afterResponse_eq ht hpos hcount (by omega)]
  split
  · rename_i hmod
    -- the first count from 2 on that `TEST_SIZE` divides is the end of the test
    have hasked : h.asked = max t 2 := by
      rcases Nat.lt_or_ge t 2 with hsmall | hlarge
      · omega
      · have hge : t ≤ h.asked := Nat.le_of_dvd (by omega) (Nat.dvd_of_mod_eq_zero hmod)
        omega
    refine ⟨{ h.hdrPrint with closed := true }, rfl, rfl, .inr ⟨rfl, rfl, ?_, ⟨r, hasks.scripted⟩,
      hasked⟩⟩
    have hunprinted : h.printed = [] := hasks.unprinted
    show (h.printed ++ [h.histogram]).length = 1
    rw [hunprinted]
    rfl
  · rename_i hmod
    have hne : h.asked ≠ t := fun heq => hmod (by rw [heq, Nat.mod_self])
    have hone : t ≠ 1 := fun heq => hmod (by rw [heq, Nat.mod_one])
    refine ⟨h, rfl, rfl, .inl ⟨hasks.open_, hasks, ?_⟩⟩
    show h.asked < max t 2
    omega

/-- Behind an answer the client has asked for one thing more, and closes the
connection when it has asked for `max t 2` orders and cancels. -/
theorem Waits.answered (ht : cfg.testSize.toInt = t) (hpos : 1 ≤ t) (h : Waits cfg t p r)
    (i : Reading) :
    ∃ h' r', Scripted cfg.pair h'.sent r' ∧ h'.sent = p.handler.sent ++ [r'] ∧
      p.handler.onMessage cfg (p.clock + i.wait) ⟨i.uuid, p.clock + i.wait + i.work⟩ (reply r) =
        some h' ∧
      ((h'.closed = false ∧ Waits cfg t ⟨h', p.clock + i.wait + i.work⟩ r') ∨
        (h'.closed = true ∧ Closed cfg t ⟨h', p.clock + i.wait + i.work⟩)) := by
  have hsize := Int32.toInt_lt cfg.testSize
  have hlt := h.asked_lt
  rcases h.scripted.shape with ⟨rfl, hlen⟩ | ⟨rfl, hlen⟩ | ⟨hlen, hshape⟩
  · have hasked : ∀ xs : List Request, xs = p.handler.sent ++ [.subscribe] → xs.length - 2 = 0 := by
      rintro xs rfl
      rw [List.length_append, hlen]
      rfl
    have hcount : p.handler.orderResponseCount = UInt64.ofNat 0 := by
      rw [h.count, Handler.asked, hlen]
    refine ⟨{ p.handler with sent := p.handler.sent ++ [.subscribe] }, .subscribe,
      h.scripted.subscribe_next rfl, rfl, rfl, .inl ⟨h.open_, ⟨h.open_, h.unprinted,
        h.scripted.subscribe_next rfl, h.orders, h.cancels, ?_⟩, ?_⟩⟩
    · rw [Handler.asked, hasked _ rfl]
      exact hcount
    · rw [Handler.asked, hasked _ rfl]
      omega
  · rcases h.toAsks.subscribed i with ⟨h', hasks, hsent, hmessage⟩
    refine ⟨h', _, hasks.scripted, hsent, hmessage, .inl ⟨hasks.open_, hasks, ?_⟩⟩
    rw [Handler.asked, hsent, List.length_append, hlen, List.length_singleton]
    omega
  · -- an order or a cancel is answered, and the count is looked at
    obtain ⟨h', r', hasks, hsent, hmessage⟩ : ∃ h' r',
        Asks cfg.pair ⟨h', p.clock + i.wait + i.work⟩ r' ∧ h'.sent = p.handler.sent ++ [r'] ∧
        p.handler.onMessage cfg (p.clock + i.wait) ⟨i.uuid, p.clock + i.wait + i.work⟩ (reply r) =
          h'.afterResponse cfg := by
      rcases hshape with ⟨id, rfl | rfl⟩
      · rcases h.toAsks.booked i with ⟨h', hnext⟩
        exact ⟨h', _, hnext⟩
      · rcases h.toAsks.done i with ⟨h', hnext⟩
        exact ⟨h', _, hnext⟩
    have hasked : h'.asked = p.handler.asked + 1 := by
      rw [Handler.asked, Handler.asked, hsent, List.length_append, List.length_singleton]
      omega
    have hone : 1 ≤ p.handler.asked := by
      rw [Handler.asked]
      omega
    rcases hasks.afterResponse ht hpos (by show 2 ≤ h'.asked; omega) (by show h'.asked ≤ _; omega)
      with ⟨h'', hafter, hsent', hnext⟩
    refine ⟨h'', r', ?_, hsent'.trans hsent, hmessage.trans hafter, hnext⟩
    rw [hsent']
    exact hasks.scripted

theorem newTexts_of_append {apiToken : Int32} {h h' : Handler} {text : Text}
    (hsent : h'.sent = h.sent ++ [r]) (htext : requestText apiToken r = some text)
    (hreadable : r.Readable) :
    newTexts apiToken h h' = some [.text (some (requestJson apiToken r))] := by
  rw [newTexts, hsent, List.drop_left, List.mapM_cons, htext, List.mapM_nil]
  show some [Hft.Message.text (readText text)] = _
  rw [readText_requestText hreadable htext]

/-- The client takes the answer, and sends the next request of the script. Where the
test is complete, the close follows it. -/
theorem Waits.receive (ht : cfg.testSize.toInt = t) (hpos : 1 ≤ t) (hpair : Readable cfg.pair)
    (hlen : cfg.pair.length ≤ 33) (h : Waits cfg t p r) {v : Json} (hv : Message.ofJson v = reply r)
    (apiToken : Int32) (i : Reading) :
    ∃ p' r', r'.Readable ∧ p'.handler.sent = p.handler.sent ++ [r'] ∧
      ((Waits cfg t p' r' ∧ p.receive cfg apiToken i (.text (some v)) =
          some (p', [.text (some (requestJson apiToken r'))])) ∨
        (Closed cfg t p' ∧ p.receive cfg apiToken i (.text (some v)) =
          some (p', [.text (some (requestJson apiToken r')), .close]))) := by
  rcases h.answered ht hpos i with ⟨h', r', hscripted, hsent, hmessage, hnext⟩
  have hreadable := hscripted.readable hpair
  rcases hscripted.fits hlen apiToken with ⟨text, htext⟩
  have hstep : step cfg p.handler ⟨p.clock + i.wait, .ofText (some v),
      ⟨i.uuid, p.clock + i.wait + i.work⟩⟩ = some h' := by
    rw [step, h.open_]
    show p.handler.onMessage cfg _ _ (Message.ofJson v) = _
    rw [hv, hmessage]
  have hreceive : p.receive cfg apiToken i (.text (some v)) =
      some (⟨h', p.clock + i.wait + i.work⟩,
        [.text (some (requestJson apiToken r'))] ++ if h'.closed then [.close] else []) := by
    simp only [Party.receive, h.open_, hstep, newTexts_of_append hsent htext hreadable]
    rfl
  refine ⟨⟨h', p.clock + i.wait + i.work⟩, r', hreadable, hsent, ?_⟩
  -- the next request goes out, and the last one together with the closing frame
  rcases hnext with ⟨hclosed, hwaits⟩ | ⟨hclosed, hend⟩
  · rw [hclosed] at hreceive
    exact .inl ⟨hwaits, hreceive⟩
  · rw [hclosed] at hreceive
    exact .inr ⟨hend, hreceive⟩

end Answer

/-! ## Every run -/

/-- The messages to the server behind the end of the test. -/
inductive Closing (apiToken : Int32) (server : Hft.Server) : List Hft.Message → Prop where
  | last (r : Request) (readable : r.Readable) (running : server.status = .running)
      (known : server.actor.userId.isSome) :
      Closing apiToken server [.text (some (requestJson apiToken r)), .close]
  | close (running : server.status = .running) : Closing apiToken server [.close]
  | stopped (alive : server.status ≠ .panicked) : Closing apiToken server []

/-- A request is on its way, or its answer is, or the test is over. -/
inductive Phase (cfg : Config) (apiToken : Int32) (t : Nat) :
    Duplex Party Hft.Server Hft.Message → Prop where
  | asked {p : Party} {server : Hft.Server} (r : Request) (waits : Waits cfg t p r)
      (running : server.status = .running) (known : r = .auth ∨ server.actor.userId.isSome) :
      Phase cfg apiToken t ⟨p, server, [], [.text (some (requestJson apiToken r))]⟩
  | answered {p : Party} {server : Hft.Server} (r : Request) (v : Json) (waits : Waits cfg t p r)
      (answers : Message.ofJson v = reply r) (running : server.status = .running)
      (known : server.actor.userId.isSome) :
      Phase cfg apiToken t ⟨p, server, [.text (some v)], []⟩
  | closed {p : Party} {server : Hft.Server} {toLeft toRight : List Hft.Message}
      (ended : Closed cfg t p)
      (replies : ∀ m ∈ toLeft, m = .close ∨ ∃ v, m = .text v)
      (closing : Closing apiToken server toRight) :
      Phase cfg apiToken t ⟨p, server, toLeft, toRight⟩

/-- The server reads its clock at a time since 1970. -/
def ClockOk : Label Reading Hft.ServerMoment → Prop
  | .left _ => True
  | .right e => e.ClockOk

section Exchange

variable {cfg : Config} {apiToken : Int32} {t : Nat}

theorem waits_start : Waits cfg t .onOpen .auth :=
  ⟨⟨rfl, rfl, .auth, rfl, rfl, rfl⟩, by show 0 < max t 2; omega⟩

theorem phase_start : Phase cfg apiToken t (startExchange apiToken) := by
  rw [startExchange, readText_authMessage]
  exact .asked .auth (waits_start) rfl (.inl rfl)

/-- The server answers the request that the client waits for. -/
theorem handle_request {server server' : Hft.Server} {e : Hft.ServerMoment} {r : Request}
    {out : List Hft.Message} (hclock : e.ClockOk) (hreadable : r.Readable)
    (hrunning : server.status = .running) (hknown : r = .auth ∨ server.actor.userId.isSome)
    (hhandle : server.handle e (.text (some (requestJson apiToken r))) = some (server', out)) :
    ∃ v, out = [.text (some v)] ∧ Message.ofJson v = reply r ∧ server'.status = .running ∧
      server'.actor.userId.isSome := by
  rcases handleText_request apiToken hreadable hclock hknown with ⟨a', v, htext, hanswers, huser⟩
  simp only [Hft.Server.handle, hrunning, htext] at hhandle
  cases hhandle
  exact ⟨v, rfl, hanswers, rfl, huser⟩

/-- The server handles what is left behind the end of the test. -/
theorem Closing.handle {server server' : Hft.Server} {e : Hft.ServerMoment}
    {m : Hft.Message} {rest out : List Hft.Message} (h : Closing apiToken server (m :: rest))
    (hclock : e.ClockOk) (hhandle : server.handle e m = some (server', out)) :
    (∀ m ∈ out, m = .close ∨ ∃ v, m = .text v) ∧ Closing apiToken server' rest := by
  cases h with
  | last r hreadable hrunning hknown =>
    -- the request in front of the closing frame is still answered
    rcases handle_request hclock hreadable hrunning (.inr hknown) hhandle
      with ⟨v, rfl, -, hrunning', -⟩
    refine ⟨?_, .close hrunning'⟩
    intro m hm
    exact .inr ⟨_, List.mem_singleton.mp hm⟩
  | close hrunning =>
    -- the closing frame is answered by one, and nothing is behind it
    simp only [Hft.Server.handle, hrunning] at hhandle
    cases hhandle
    refine ⟨?_, .stopped nofun⟩
    intro m hm
    exact .inl (List.mem_singleton.mp hm)

/-- Behind the end of the test the client sends nothing. -/
theorem Closed.receive {p p' : Party} (h : Closed cfg t p) {i : Reading} {m : Hft.Message}
    (hm : m = .close ∨ ∃ v, m = .text v) {out : List Hft.Message}
    (hreceive : p.receive cfg apiToken i m = some (p', out)) : p' = p ∧ out = [] := by
  rcases hm with rfl | ⟨v, rfl⟩
  · cases hreceive
    exact ⟨rfl, rfl⟩
  · rw [Party.receive, if_pos h.closed] at hreceive
    cases hreceive
    exact ⟨rfl, rfl⟩

theorem step_phase (ht : cfg.testSize.toInt = t) (hpos : 1 ≤ t) (hpair : Readable cfg.pair)
    (hlen : cfg.pair.length ≤ 33) {s s' : Duplex Party Hft.Server Hft.Message}
    {l : Label Reading Hft.ServerMoment} (h : Phase cfg apiToken t s) (hclock : ClockOk l)
    (hstep : Duplex.step (Party.receive cfg apiToken) Hft.Server.handle s l = some s') :
    Phase cfg apiToken t s' := by
  cases h with
  | asked r hwaits hrunning hknown =>
    -- the request is on its way to the server
    cases l with
    | left i => cases hstep
    | right e =>
      rcases Option.map_eq_some_iff.mp hstep with ⟨⟨server', out⟩, hhandle, rfl⟩
      rcases handle_request hclock (hwaits.scripted.readable hpair) hrunning hknown hhandle
        with ⟨v, rfl, hanswers, hrunning', hknown'⟩
      exact .answered r v hwaits hanswers hrunning' hknown'
  | answered r v hwaits hanswers hrunning hknown =>
    -- the answer is on its way to the client
    cases l with
    | left i =>
      rcases Option.map_eq_some_iff.mp hstep with ⟨⟨p', out⟩, hreceive, rfl⟩
      rcases hwaits.receive ht hpos hpair hlen hanswers apiToken i
        with ⟨p'', r', hreadable, -, ⟨hwaits', heq⟩ | ⟨hclosed, heq⟩⟩
      · cases hreceive.symm.trans heq
        exact .asked r' hwaits' hrunning (.inr hknown)
      · cases hreceive.symm.trans heq
        exact .closed hclosed nofun (.last r' hreadable hrunning hknown)
    | right e => cases hstep
  | @closed p server toLeft toRight hclosed hreplies hclosing =>
    -- the client has closed the connection, and drops what arrives
    cases l with
    | left i =>
      rcases toLeft with _ | ⟨m, rest⟩
      · cases hstep
      · rcases Option.map_eq_some_iff.mp hstep with ⟨⟨p', out⟩, hreceive, rfl⟩
        rcases hclosed.receive (hreplies m List.mem_cons_self) hreceive with ⟨rfl, rfl⟩
        rw [List.append_nil]
        exact .closed hclosed (fun m hm => hreplies m (List.mem_cons_of_mem _ hm)) hclosing
    | right e =>
      rcases toRight with _ | ⟨m, rest⟩
      · cases hstep
      · rcases Option.map_eq_some_iff.mp hstep with ⟨⟨server', out⟩, hhandle, rfl⟩
        rcases hclosing.handle hclock hhandle with ⟨hout, hclosing'⟩
        refine .closed hclosed ?_ hclosing'
        intro m hm
        rcases List.mem_append.mp hm with hm | hm
        · exact hreplies m hm
        · exact hout m hm

/-- The request `r` is on its way, or its answer is. -/
def InFlight (apiToken : Int32) (r : Request) (s : Duplex Party Hft.Server Hft.Message) : Prop :=
  (s.toRight = [.text (some (requestJson apiToken r))] ∧ s.toLeft = []) ∨
    (s.toRight = [] ∧ ∃ v, s.toLeft = [.text (some v)] ∧ Message.ofJson v = reply r)

/-- The exchange is in order. -/
structure Orderly (cfg : Config) (apiToken : Int32) (t : Nat)
    (s : Duplex Party Hft.Server Hft.Message) : Prop where
  alive : s.right.status ≠ .panicked
  served : s.toRight ≠ [] → s.right.status = .running
  taken : ∀ m ∈ s.toLeft, ∀ i, (s.left.receive cfg apiToken i m).isSome
  scripted : ∃ ids, s.left.handler.sent <+: script cfg.pair ids
  waiting : s.left.handler.closed = false → s.left.handler.asked < max t 2 ∧
    ∃ r, s.left.handler.sent.getLast? = some r ∧ InFlight apiToken r s ∧
      s.left.handler.orderSentTimeMap = r.orders s.left.clock ∧
      s.left.handler.cancelSentTimeMap = r.cancels s.left.clock
  complete : s.left.handler.closed = true → s.left.handler.asked = max t 2 ∧
    s.left.handler.printed.length = 1

theorem Waits.orderly {s : Duplex Party Hft.Server Hft.Message} {r : Request}
    (h : Waits cfg t s.left r) (hrunning : s.right.status = .running)
    (hflight : InFlight apiToken r s)
    (htaken : ∀ m ∈ s.toLeft, ∀ i, (s.left.receive cfg apiToken i m).isSome) :
    Orderly cfg apiToken t s where
  alive := by
    rw [hrunning]
    exact nofun
  served := fun _ => hrunning
  taken := htaken
  scripted := h.scripted.isPrefix
  waiting := fun _ => ⟨h.asked_lt, r, h.scripted.getLast?, hflight, h.orders, h.cancels⟩
  complete := by
    intro hclosed
    rw [h.open_] at hclosed
    cases hclosed

theorem Phase.orderly (ht : cfg.testSize.toInt = t) (hpos : 1 ≤ t) (hpair : Readable cfg.pair)
    (hlen : cfg.pair.length ≤ 33) {s : Duplex Party Hft.Server Hft.Message}
    (h : Phase cfg apiToken t s) : Orderly cfg apiToken t s := by
  cases h with
  | asked r hwaits hrunning hknown =>
    exact hwaits.orderly (s := ⟨_, _, _, _⟩) hrunning (.inl ⟨rfl, rfl⟩) nofun
  | answered r v hwaits hanswers hrunning hknown =>
    refine hwaits.orderly (s := ⟨_, _, _, _⟩) hrunning (.inr ⟨rfl, v, rfl, hanswers⟩) ?_
    intro m hm i
    rw [List.mem_singleton.mp hm]
    rcases hwaits.receive ht hpos hpair hlen hanswers apiToken i
      with ⟨p', r', -, -, ⟨-, heq⟩ | ⟨-, heq⟩⟩
    · exact Option.isSome_iff_exists.mpr ⟨_, heq⟩
    · exact Option.isSome_iff_exists.mpr ⟨_, heq⟩
  | closed hclosed hreplies hclosing =>
    refine ⟨?_, ?_, ?_, ?_, ?_, ?_⟩
    · -- the server is running or has closed, and has not failed
      cases hclosing with
      | last r hreadable hrunning hknown => simp [hrunning]
      | close hrunning => simp [hrunning]
      | stopped halive => exact halive
    · intro hne
      cases hclosing with
      | last r hreadable hrunning hknown => exact hrunning
      | close hrunning => exact hrunning
      | stopped halive => exact absurd rfl hne
    · intro m hm i
      rcases hreplies m hm with rfl | ⟨v, rfl⟩
      · rfl
      · -- a closed client takes any message
        rw [Party.receive, if_pos hclosed.closed]
        rfl
    · rcases hclosed.scripted with ⟨r, hscripted⟩
      exact hscripted.isPrefix
    · intro hopen
      rw [hclosed.closed] at hopen
      cases hopen
    · intro _
      exact ⟨hclosed.asked, hclosed.printed⟩

/-! ## The end of the test -/

/-- A request is answered, and the answer is taken. -/
def round (e : Hft.ServerMoment) (i : Reading) : List (Label Reading Hft.ServerMoment) :=
  [.right e, .left i]

/-- `n` rounds, each with readings of its own. -/
def rounds (es : Nat → Hft.ServerMoment) (is : Nat → Reading) (n : Nat) :
    List (Label Reading Hft.ServerMoment) :=
  (List.range n).flatMap fun k => round (es k) (is k)

/-- `k` rounds are over, and the next request is on its way. -/
structure Served (cfg : Config) (apiToken : Int32) (t k : Nat)
    (s : Duplex Party Hft.Server Hft.Message) : Prop where
  request : ∃ r, Waits cfg t s.left r ∧ (r = .auth ∨ s.right.actor.userId.isSome) ∧
    s.toRight = [.text (some (requestJson apiToken r))]
  quiet : s.toLeft = []
  running : s.right.status = .running
  sent : s.left.handler.sent.length = k + 1

/-- One round more: one request more was sent. -/
theorem Served.exists_round (ht : cfg.testSize.toInt = t) (hpos : 1 ≤ t) (hpair : Readable cfg.pair)
    (hlen : cfg.pair.length ≤ 33) {k : Nat} {s : Duplex Party Hft.Server Hft.Message}
    (h : Served cfg apiToken t k s) {e : Hft.ServerMoment} (hclock : e.ClockOk) (i : Reading) :
    ∃ s', Run.exec (Duplex.step (Party.receive cfg apiToken) Hft.Server.handle) s (round e i) =
        some s' ∧ s'.left.handler.sent.length = k + 2 ∧
      (Served cfg apiToken t (k + 1) s' ∨ Closed cfg t s'.left) := by
  rcases s with ⟨p, server, toLeft, toRight⟩
  rcases h with ⟨⟨r, hwaits, hknown, rfl⟩, rfl, hrunning, hsent⟩
  simp only at hwaits hknown hrunning hsent
  rcases handleText_request apiToken (hwaits.scripted.readable hpair) hclock hknown
    with ⟨a, v, htext, hanswers, huser⟩
  rcases hwaits.receive ht hpos hpair hlen hanswers apiToken i
    with ⟨p', r', -, hsent', hnext⟩
  have hlength : p'.handler.sent.length = k + 2 := by
    rw [hsent', List.length_append, hsent, List.length_singleton]
  have hhandle : server.handle e (.text (some (requestJson apiToken r))) =
      some (⟨a, .running⟩, [.text (some v)]) := by
    simp only [Hft.Server.handle, hrunning, htext]
  rcases hnext with ⟨hwaits', hreceive⟩ | ⟨hclosed, hreceive⟩
  · refine ⟨⟨p', ⟨a, .running⟩, [], [.text (some (requestJson apiToken r'))]⟩, ?_, hlength,
      .inl ⟨⟨r', hwaits', .inr huser, rfl⟩, rfl, rfl, hlength⟩⟩
    simp only [round, Run.exec, Duplex.step, hhandle, hreceive, Option.map_some, List.nil_append]
  · refine ⟨⟨p', ⟨a, .running⟩, [], [.text (some (requestJson apiToken r')), .close]⟩, ?_, hlength,
      .inr hclosed⟩
    simp only [round, Run.exec, Duplex.step, hhandle, hreceive, Option.map_some, List.nil_append]

theorem served_start : Served cfg apiToken t 0 (startExchange apiToken) := by
  refine ⟨⟨.auth, waits_start, .inl rfl, ?_⟩, rfl, rfl, rfl⟩
  rw [startExchange, readText_authMessage]
  rfl

/-- As long as the client has not asked for `max t 2` orders and cancels, the test goes
on. -/
theorem exists_served (ht : cfg.testSize.toInt = t) (hpos : 1 ≤ t) (hpair : Readable cfg.pair)
    (hlen : cfg.pair.length ≤ 33) {es : Nat → Hft.ServerMoment} (hclock : ∀ k, (es k).ClockOk)
    (is : Nat → Reading) {k : Nat} (hk : k ≤ max t 2) :
    ∃ s, Run.exec (Duplex.step (Party.receive cfg apiToken) Hft.Server.handle)
        (startExchange apiToken) (rounds es is k) = some s ∧ Served cfg apiToken t k s := by
  induction k with
  | zero => exact ⟨_, rfl, served_start⟩
  | succ k ih =>
    rcases ih (by omega) with ⟨s, hrun, hserved⟩
    rcases hserved.exists_round ht hpos hpair hlen (hclock k) (is k)
      with ⟨s', hround, hsent, hserved' | hclosed⟩
    · refine ⟨s', ?_, hserved'⟩
      rw [rounds, List.range_succ, List.flatMap_append, ← rounds, Run.exec_append hrun,
        List.flatMap_singleton, hround]
    · -- a closed test has sent every order and cancel, which `k` rounds have not
      have hasked := hclosed.asked
      rw [Handler.asked, hsent] at hasked
      omega

/-- In every run of the C++ client against the mock server whose clock is in order, for
every `TEST_SIZE` of at least one and every coin pair of at most 33 bytes that is read
as it stands, the exchange is in order. -/
theorem mockServer_exchange_orderly (hsize : 1 ≤ cfg.testSize.toInt) (hpair : Readable cfg.pair)
    (hlen : cfg.pair.length ≤ 33) {ls : List (Label Reading Hft.ServerMoment)}
    {s : Duplex Party Hft.Server Hft.Message} (hclock : ∀ l ∈ ls, ClockOk l)
    (hrun : Run.exec (Duplex.step (Party.receive cfg apiToken) Hft.Server.handle)
      (startExchange apiToken) ls = some s) :
    Orderly cfg apiToken cfg.testSize.toInt.toNat s := by
  have ht : cfg.testSize.toInt = cfg.testSize.toInt.toNat := (Int.toNat_of_nonneg (by omega)).symm
  have hpos : 1 ≤ cfg.testSize.toInt.toNat := by omega
  refine Phase.orderly ht hpos hpair hlen ?_
  refine Run.invariant_of_meets ?_ phase_start (Run.meets_of_forall hclock) hrun
  intro s l s' hphase hl hstep
  exact step_phase ht hpos hpair hlen hphase hl hstep

/-- As long as the clock of the server is in order, for a `TEST_SIZE` and a coin pair as
above, the test is complete after `max TEST_SIZE 2 + 1` rounds, whatever the client
measures: it has closed the connection and printed its histogram. -/
theorem mockServer_exchange_completes (hsize : 1 ≤ cfg.testSize.toInt)
    (hpair : Readable cfg.pair) (hlen : cfg.pair.length ≤ 33) {es : Nat → Hft.ServerMoment}
    (hclock : ∀ k, (es k).ClockOk) (is : Nat → Reading) :
    ∃ s, Run.exec (Duplex.step (Party.receive cfg apiToken) Hft.Server.handle)
        (startExchange apiToken) (rounds es is (max cfg.testSize.toInt.toNat 2 + 1)) = some s ∧
      Closed cfg cfg.testSize.toInt.toNat s.left := by
  have ht : cfg.testSize.toInt = cfg.testSize.toInt.toNat := (Int.toNat_of_nonneg (by omega)).symm
  have hpos : 1 ≤ cfg.testSize.toInt.toNat := by omega
  rcases exists_served ht hpos hpair hlen hclock is (Nat.le_refl _) with ⟨s, hrun, hserved⟩
  rcases hserved.exists_round ht hpos hpair hlen (hclock _) (is _)
    with ⟨s', hround, hsent, hserved' | hclosed⟩
  · -- after so many rounds no test still waits
    rcases hserved'.request with ⟨r, hwaits, -⟩
    have hasked := hwaits.asked_lt
    rw [Handler.asked, hsent] at hasked
    omega
  · refine ⟨s', ?_, hclosed⟩
    rw [rounds, List.range_succ, List.flatMap_append, ← rounds, Run.exec_append hrun,
      List.flatMap_singleton, hround]

end Exchange

/-- The default coin pair is read as it stands. -/
theorem readable_default : Readable (plainConfig 1).pair := by
  have hpair : (plainConfig 1).pair = "BTC_EUR".toList := by decide
  rw [hpair]
  exact ⟨"BTC_EUR".toList, (Utf8.encode_ascii rfl).symm, plainText_of_all rfl⟩

/-- A call of the server's handler in November 2023. -/
def sampleMoment : Hft.ServerMoment := ⟨1700000000000, -7, "order"⟩

theorem sampleMoment_clockOk : sampleMoment.ClockOk := by
  constructor <;> decide

/-- The second round is over, with a `TEST_SIZE` of one. -/
theorem mockServer_exchange_orderly_two :
    ∃ s, Run.exec (Duplex.step (Party.receive (plainConfig 1) 7) Hft.Server.handle)
        (startExchange 7) (rounds (fun _ => sampleMoment) (fun _ => ⟨5, 1, zeroUuid⟩) 2) = some s ∧
      s.left.handler.sent.length = 3 ∧ Orderly (plainConfig 1) 7 1 s := by
  obtain ⟨s, hrun, hserved⟩ : ∃ s,
      Run.exec (Duplex.step (Party.receive (plainConfig 1) 7) Hft.Server.handle) (startExchange 7)
        (rounds (fun _ => sampleMoment) (fun _ => ⟨5, 1, zeroUuid⟩) 2) = some s ∧
      Served (plainConfig 1) 7 1 2 s :=
    exists_served rfl (by decide) readable_default (by decide) (fun _ => sampleMoment_clockOk) _
      (by decide)
  have hclock : ∀ l ∈ rounds (fun _ => sampleMoment) (fun _ => ⟨5, 1, zeroUuid⟩) 2, ClockOk l := by
    simp [rounds, round, List.range_succ, ClockOk, sampleMoment_clockOk]
  exact ⟨s, hrun, hserved.sent,
    mockServer_exchange_orderly (by decide) readable_default (by decide) hclock hrun⟩

theorem mockServer_exchange_completes_one :
    ∃ s, Run.exec (Duplex.step (Party.receive (plainConfig 1) 7) Hft.Server.handle)
        (startExchange 7) (rounds (fun _ => sampleMoment) (fun _ => ⟨5, 1, zeroUuid⟩) 3) = some s ∧
      s.left.handler.closed = true := by
  obtain ⟨s, hrun, hclosed⟩ : ∃ s,
      Run.exec (Duplex.step (Party.receive (plainConfig 1) 7) Hft.Server.handle) (startExchange 7)
        (rounds (fun _ => sampleMoment) (fun _ => ⟨5, 1, zeroUuid⟩) 3) = some s ∧
      Closed (plainConfig 1) 1 s.left :=
    mockServer_exchange_completes (by decide) readable_default (by decide)
      (fun _ => sampleMoment_clockOk) _
  exact ⟨s, hrun, hclosed.closed⟩

end TradingLatency.CppClient
