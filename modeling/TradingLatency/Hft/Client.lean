import TradingLatency.Hft.Tracker
import TradingLatency.Lib.Json

/-!
# The Rust client (`client.rs`, `protocol.rs`)

The client authenticates and subscribes, and then sends an order, waits until it
is booked, cancels it, waits until that is done, and so on. `handle_message` is the
state machine, and `run_test_loop` calls it for every text that arrives.

A text is given by the value that `serde_json` reads from it, and a text that the
program writes by the value it is written from.
-/

namespace TradingLatency.Hft

open Json

/-! ## Messages -/

/-- A text, as `serde_json` reads it; `none` when it is no JSON. -/
abbrev Text := Option Json

/-- A WebSocket message. -/
inductive Message where
  | text (text : Text)
  | close
  | ping (data : List UInt8)
  | pong (data : List UInt8)
  | binary (data : List UInt8)

/-- `auth_message`. -/
def authMessage (apiToken : UInt32) : Text :=
  obj [("type", str "AUTHENTICATE"), ("api_token", str (toString apiToken))]

/-- `subscribe_message`. -/
def subscribeMessage : Text :=
  obj [("type", str "SUBSCRIBE"), ("channels", arr [obj [("name", str "ORDERS")]])]

/-- `create_buy_order`. -/
def createBuyOrder (instrumentCode clientId : String) : Text :=
  obj [("type", str "CREATE_ORDER"), ("order", obj [
    ("instrument_code", str instrumentCode), ("client_id", str clientId), ("side", str "BUY"),
    ("type", str "LIMIT"), ("price", str "1"), ("amount", str "1"),
    ("time_in_force", str "GOOD_TILL_CANCELLED")])]

/-- `cancel_order`. -/
def cancelOrder (instrumentCode clientId : String) : Text :=
  obj [("type", str "CANCEL_ORDER"), ("client_id", str clientId),
    ("instrument_code", str instrumentCode)]

structure IncomingMessage where
  msgType : String
  clientId : Option String
  instrumentCode : Option String

/-- `parse_message`. -/
def parseMessage (text : Text) : Option IncomingMessage := do
  let field ← (← text).fields ["type", "client_id", "instrument_code"]
  return ⟨← readString (field "type"), ← readOptString (field "client_id"),
    ← readOptString (field "instrument_code")⟩

/-! ## The client -/

inductive ClientState where
  | connecting
  | authenticating
  | subscribing
  | testing
  | closed
deriving DecidableEq

/-- What `Config` says about a test. -/
structure Config where
  coinPairs : List String
  apiToken : UInt32
  testSize : UInt64

structure HftClient where
  config : Config
  tracker : LatencyTracker
  state : ClientState
  currentPairIndex : Nat
  currentClientId : Option String

/-- How the client stops early: an error that it returns, or a panic. -/
inductive Failure where
  | authenticationFailed
  | panic
deriving DecidableEq

/-- What one call of `handle_message` reads from its surroundings: a fresh client
id, the time when the answer is recorded and the time when the next request is. -/
structure Moment where
  clientId : String
  received : Nat
  sent : Nat

namespace HftClient

def new (config : Config) : HftClient :=
  ⟨config, LatencyTracker.new config.testSize, .connecting, 0, none⟩

/-- `current_pair`. -/
def currentPair (c : HftClient) : String :=
  (c.config.coinPairs[c.currentPairIndex]?).getD "BTC_EUR"

/-- `rotate_pair`. -/
def rotatePair (c : HftClient) : HftClient :=
  if c.config.coinPairs = [] then c
  else { c with currentPairIndex := (c.currentPairIndex + 1) % c.config.coinPairs.length }

/-- `send_order`. -/
def sendOrder (c : HftClient) (m : Moment) : HftClient × List Message :=
  let order := createBuyOrder c.currentPair m.clientId
  let c := { c with
    tracker := c.tracker.recordOrderSent m.clientId m.sent
    currentClientId := some m.clientId }
  (c.rotatePair, [.text order])

/-- `send_cancel`. -/
def sendCancel (c : HftClient) (clientId instrumentCode : String) (m : Moment) :
    HftClient × List Message :=
  ({ c with tracker := c.tracker.recordCancelSent clientId m.sent },
    [.text (cancelOrder instrumentCode clientId)])

/-- The branch of `handle_message` for `BOOKED`. -/
def handleBooked (c : HftClient) (m : Moment) (msg : IncomingMessage) : HftClient × List Message :=
  match msg.clientId with
  | none => (c, [])
  | some clientId =>
      let c := { c with tracker := (c.tracker.recordOrderResponse clientId m.received).2 }
      -- without an instrument in the reply the pair is that of the next order: the client
      -- rotates its pairs when it sends an order
      c.sendCancel clientId (msg.instrumentCode.getD c.currentPair) m

/-- The branch of `handle_message` for `DONE`. -/
def handleDone (c : HftClient) (m : Moment) (msg : IncomingMessage) :
    Except Failure (HftClient × List Message) :=
  let tracker := match msg.clientId with
    | none => c.tracker
    | some clientId => (c.tracker.recordCancelResponse clientId m.received).2
  match tracker.shouldPrintStats with
  -- the remainder by a `test_size` of zero
  | none => .error .panic
  | some print =>
      let c := { c with tracker := if print then tracker.printStats else tracker }
      if c.tracker.isTestComplete then .ok ({ c with state := .closed }, [.close])
      else .ok (c.sendOrder m)

/-- `handle_message`: the client behind it, and what it sends. -/
def handleMessage (c : HftClient) (m : Moment) (text : Text) :
    Except Failure (HftClient × List Message) :=
  -- what does not parse is logged, and the loop goes on
  match parseMessage text with
  | none => .ok (c, [])
  | some msg =>
      match msg.msgType with
      | "AUTHENTICATED" => .ok ({ c with state := .subscribing }, [.text subscribeMessage])
      | "SUBSCRIPTIONS" => .ok (({ c with state := .testing } : HftClient).sendOrder m)
      | "BOOKED" => .ok (c.handleBooked m msg)
      | "DONE" => c.handleDone m msg
      -- later errors are logged only
      | "ERROR" =>
          if c.state = .authenticating then .error .authenticationFailed else .ok (c, [])
      | _ => .ok (c, [])

end HftClient

/-! ## The loop -/

inductive LoopStatus where
  | running
  | ended
  | failed (failure : Failure)
deriving DecidableEq

/-- `run_test_loop` between two messages. The number of `BOOKED` and `DONE`
messages that it has handled, and what it has sent, are history. -/
structure TestLoop where
  client : HftClient
  status : LoopStatus
  handled : Nat
  sent : List Message

/-- A `BOOKED` or a `DONE` message. -/
def isResponse (text : Text) : Bool :=
  match parseMessage text with
  | none => false
  | some msg => msg.msgType = "BOOKED" || msg.msgType = "DONE"

namespace TestLoop

/-- The start of `run_test_loop`. -/
def start (config : Config) : TestLoop × List Message :=
  let out := [.text (authMessage config.apiToken)]
  (⟨{ HftClient.new config with state := .authenticating }, .running, 0, out⟩, out)

/-- One message in `run_test_loop`; `none` when the loop is over. -/
def receive (l : TestLoop) (m : Moment) (message : Message) : Option (TestLoop × List Message) :=
  match l.status with
  | .running =>
      match message with
      | .text text =>
          let handled := if isResponse text then l.handled + 1 else l.handled
          match l.client.handleMessage m text with
          | .ok (client, out) => some (⟨client, .running, handled, l.sent ++ out⟩, out)
          | .error failure => some ({ l with status := .failed failure, handled := handled }, [])
      | .close => some ({ l with client := { l.client with state := .closed }, status := .ended }, [])
      | .ping data => some ({ l with sent := l.sent ++ [.pong data] }, [.pong data])
      | _ => some (l, [])
  | _ => none

end TestLoop

end TradingLatency.Hft
