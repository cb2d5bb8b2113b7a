import TradingLatency.Hft.CppReport
import TradingLatency.Hft.MockServer
import TradingLatency.Lib.JsonText
import TradingLatency.Lib.Utf8

/-!
# The C++ client on the wire (`ExchangeProtocol.cpp`, `websocket.rs`)

The C++ client puts its messages together from pieces, and escapes nothing.

* `orderTexts_read_iff`: the text of an order, and that of a cancel, is read as the
  message of the Rust client with the same pair and client id if and only if neither
  of these has a quote, a backslash or a control character in it;
* `handleText_request`: to every request that is read as it is meant, the mock server
  gives the answer that the handler of the client waits for.

On the wire a text is UTF-8.
-/

namespace TradingLatency.CppClient

open CText Json Utf8

/-! ## The other messages -/

def AUTH_MSG_HEADER : Text := "\x7b\"type\":\"AUTHENTICATE\",\"api_token\":\"".toList

def SELL_SIDE : Text := "SELL".toList

def DUMMY_SELL_PRICE : Text := "2".toList

def SUBSCRIBE_MSG : Text :=
  "\x7b\"type\":\"SUBSCRIBE\",\"channels\":[\x7b\"name\":\"ORDERS\"\x7d]\x7d".toList

/-- `authMessage`. -/
def authMessage (apiToken : Int32) : Text :=
  AUTH_MSG_HEADER ++ (toString apiToken.toInt).toList ++ MSG_END

/-- `createOrder`. -/
def createOrder (pair type uuid side price qty : Text) : Option Text :=
  [HEADER, pair, SYMBOL_END, uuid, CLIENT_ID_END, side, SIDE_END, type, TYPE_END, price, PRICE_END,
    qty, AMOUNT_END, DUMMY_TIME_IN_FORCE, TIME_IN_FORCE_END].foldlM (write MAX_ORDER_SIZE) []

/-- `createSellOrder`. -/
def createSellOrder (pair clientId : Text) : Option Text :=
  [HEADER, pair, SYMBOL_END, clientId, CLIENT_ID_END, SELL_SIDE, SIDE_END, DUMMY_TYPE, TYPE_END,
    DUMMY_SELL_PRICE, PRICE_END, DUMMY_AMOUNT, AMOUNT_END, DUMMY_TIME_IN_FORCE,
    TIME_IN_FORCE_END].foldlM (write MAX_ORDER_SIZE) []

/-! ## The values that the texts are meant for -/

def authJson (apiToken : String) : Json :=
  obj [("type", str "AUTHENTICATE"), ("api_token", str apiToken)]

def subscribeJson : Json :=
  obj [("type", str "SUBSCRIBE"), ("channels", arr [obj [("name", str "ORDERS")]])]

def orderJson (pair type uuid side price qty : String) : Json :=
  obj [("type", str "CREATE_ORDER"), ("order", obj [
    ("instrument_code", str pair), ("client_id", str uuid), ("side", str side),
    ("type", str type), ("price", str price), ("amount", str qty),
    ("time_in_force", str "GOOD_TILL_CANCELLED")])]

def cancelJson (pair clientId : String) : Json :=
  obj [("type", str "CANCEL_ORDER"), ("client_id", str clientId), ("instrument_code", str pair)]

/-- What the reader at the other end makes of the bytes of a text. -/
def readText (text : Text) : Option Json := (decode text).bind Json.read

/-- The copies that stay in the buffer leave their parts there, in order. -/
theorem foldlM_write_eq {size : Nat} {parts : List Text} {buffer text : Text}
    (h : parts.foldlM (write size) buffer = some text) : text = buffer ++ parts.flatten := by
  induction parts generalizing buffer with
  | nil =>
    cases h
    rw [List.flatten_nil, List.append_nil]
  | cons part parts ih =>
    rw [List.foldlM_cons, write] at h
    split at h
    · rw [ih h, List.flatten_cons, List.append_assoc]
    · cases h

/-- The parts of a message, some of them given by their characters. -/
theorem flatten_encode {parts chars : List (List Char)} (h : parts = chars.map encode) :
    parts.flatten = encode chars.flatten := by
  rw [h, encode_flatten]

theorem createOrder_eq_render {pair type uuid side price qty : String} {text : Text}
    (h : createOrder (encode pair.toList) (encode type.toList) (encode uuid.toList)
      (encode side.toList) (encode price.toList) (encode qty.toList) = some text) :
    text = encode (render (orderJson pair type uuid side price qty)) := by
  -- the parts that `createOrder` writes, each the encoding of a text
  have hparts : [HEADER, encode pair.toList, SYMBOL_END, encode uuid.toList, CLIENT_ID_END,
      encode side.toList, SIDE_END, encode type.toList, TYPE_END, encode price.toList, PRICE_END,
      encode qty.toList, AMOUNT_END, DUMMY_TIME_IN_FORCE, TIME_IN_FORCE_END] =
      [HEADER, pair.toList, SYMBOL_END, uuid.toList, CLIENT_ID_END, side.toList, SIDE_END,
        type.toList, TYPE_END, price.toList, PRICE_END, qty.toList, AMOUNT_END,
        DUMMY_TIME_IN_FORCE, TIME_IN_FORCE_END].map encode := rfl
  rw [foldlM_write_eq h, List.nil_append, flatten_encode hparts]
  congr 1
  simp only [orderJson, render, renderMembers, List.flatten_cons, List.flatten_nil,
    List.append_assoc, List.cons_append, List.nil_append, List.append_nil]
  rfl

theorem createCancelOrder_eq_render {pair clientId : String} {text : Text}
    (h : createCancelOrder (encode pair.toList) (encode clientId.toList) = some text) :
    text = encode (render (cancelJson pair clientId)) := by
  have hparts : [CANCEL_ORDER_HEADER, encode clientId.toList, CANCEL_ORDER_CLIENT_ID_END,
      encode pair.toList, MSG_END] = [CANCEL_ORDER_HEADER, clientId.toList,
        CANCEL_ORDER_CLIENT_ID_END, pair.toList, MSG_END].map encode := rfl
  rw [foldlM_write_eq h, List.nil_append, flatten_encode hparts]
  congr 1
  simp only [cancelJson, render, renderMembers, List.flatten_cons, List.flatten_nil,
    List.append_assoc, List.cons_append, List.nil_append, List.append_nil]
  rfl

/-! ## When a text is read as it is meant -/

theorem plainText_of_all {text : List Char}
    (h : (text.all fun c => c ≠ '"' && c ≠ '\\' && 0x20 ≤ c.toNat) = true) : PlainText text := by
  intro c hc
  have hplain := List.all_eq_true.mp h c hc
  simp only [Bool.and_eq_true, decide_eq_true_eq] at hplain
  exact ⟨hplain.1.1, hplain.1.2, hplain.2⟩

theorem readText_encode_render_iff {v : Json} (hv : AllStrings (fun _ => True) v) :
    readText (encode (render v)) = some v ↔ AllStrings PlainText v := by
  rw [readText, decode_encode, Option.bind_some]
  exact read_render_iff hv

theorem allStrings_orderJson_iff {P : List Char → Prop} {pair type uuid side price qty : String}
    (hkeys : ∀ key ∈ ["type", "CREATE_ORDER", "order", "instrument_code", "client_id", "side",
      "price", "amount", "time_in_force", "GOOD_TILL_CANCELLED"], P key.toList) :
    AllStrings P (orderJson pair type uuid side price qty) ↔
      P pair.toList ∧ P uuid.toList ∧ P side.toList ∧ P type.toList ∧ P price.toList ∧
        P qty.toList := by
  simp only [List.forall_mem_cons] at hkeys
  rcases hkeys with ⟨h₁, h₂, h₃, h₄, h₅, h₆, h₇, h₈, h₉, h₁₀, -⟩
  simp only [orderJson, AllStrings, AllMembers, h₁, h₂, h₃, h₄, h₅, h₆, h₇, h₈, h₉, h₁₀, true_and,
    and_true]

theorem allStrings_cancelJson_iff {P : List Char → Prop} {pair clientId : String}
    (hkeys : ∀ key ∈ ["type", "CANCEL_ORDER", "client_id", "instrument_code"], P key.toList) :
    AllStrings P (cancelJson pair clientId) ↔ P pair.toList ∧ P clientId.toList := by
  simp only [List.forall_mem_cons] at hkeys
  rcases hkeys with ⟨h₁, h₂, h₃, h₄, -⟩
  simp only [cancelJson, AllStrings, AllMembers, h₁, h₂, h₃, h₄, true_and, and_true]
  exact and_comm

/-- All of some texts are plain. -/
theorem plainText_of_mem {keys : List String}
    (h : (keys.all fun key => key.toList.all fun c => c ≠ '"' && c ≠ '\\' && 0x20 ≤ c.toNat) =
      true) : ∀ key ∈ keys, PlainText key.toList := by
  intro key hkey
  exact plainText_of_all (List.all_eq_true.mp h key hkey)

/-- The text of an order says what it is meant for if and only if all its strings are
plain. -/
theorem createOrder_read_iff {pair type uuid side price qty : String} {text : Text}
    (h : createOrder (encode pair.toList) (encode type.toList) (encode uuid.toList)
      (encode side.toList) (encode price.toList) (encode qty.toList) = some text) :
    readText text = some (orderJson pair type uuid side price qty) ↔
      PlainText pair.toList ∧ PlainText uuid.toList ∧ PlainText side.toList ∧
        PlainText type.toList ∧ PlainText price.toList ∧ PlainText qty.toList := by
  have hall : AllStrings (fun _ => True) (orderJson pair type uuid side price qty) :=
    (allStrings_orderJson_iff fun _ _ => trivial).mpr
      ⟨trivial, trivial, trivial, trivial, trivial, trivial⟩
  rw [createOrder_eq_render h, readText_encode_render_iff hall]
  exact allStrings_orderJson_iff (plainText_of_mem rfl)

theorem createCancelOrder_read_iff {pair clientId : String} {text : Text}
    (h : createCancelOrder (encode pair.toList) (encode clientId.toList) = some text) :
    readText text = some (cancelJson pair clientId) ↔
      PlainText pair.toList ∧ PlainText clientId.toList := by
  have hall : AllStrings (fun _ => True) (cancelJson pair clientId) :=
    (allStrings_cancelJson_iff fun _ _ => trivial).mpr ⟨trivial, trivial⟩
  rw [createCancelOrder_eq_render h, readText_encode_render_iff hall]
  exact allStrings_cancelJson_iff (plainText_of_mem rfl)

theorem createBuyOrder_read_iff {pair clientId : String} {text : Text}
    (h : createBuyOrder (encode pair.toList) (encode clientId.toList) = some text) :
    readText text = Hft.createBuyOrder pair clientId ↔
      PlainText pair.toList ∧ PlainText clientId.toList := by
  have horder : createOrder (encode pair.toList) (encode "LIMIT".toList)
      (encode clientId.toList) (encode "BUY".toList) (encode "1".toList) (encode "1".toList) =
      some text := h
  have hread := createOrder_read_iff horder
  have hplain : ∀ key ∈ ["LIMIT", "BUY", "1"], PlainText key.toList := plainText_of_mem rfl
  simp only [List.forall_mem_cons] at hplain
  constructor
  · -- read as the message of the other client, the texts hold nothing that ends a string early
    intro heq
    rcases hread.mp heq with ⟨hpair, hid, -⟩
    exact ⟨hpair, hid⟩
  · -- the fixed texts of the message are plain
    rintro ⟨hpair, hid⟩
    exact hread.mpr ⟨hpair, hid, hplain.2.1, hplain.1, hplain.2.2.1, hplain.2.2.1⟩

/-! ## Texts that are read as they stand -/

/-- The bytes of a text without quotes, backslashes and control characters. -/
def Readable (bytes : Text) : Prop := ∃ text, bytes = encode text ∧ PlainText text

/-- The characters of some bytes. -/
def chars (bytes : Text) : String := String.ofList ((decode bytes).getD [])

theorem chars_encode (text : List Char) : chars (encode text) = String.ofList text := by
  rw [chars, decode_encode]
  rfl

theorem Readable.encode_chars {bytes : Text} (h : Readable bytes) :
    encode (chars bytes).toList = bytes := by
  rcases h with ⟨text, rfl, -⟩
  rw [chars_encode, String.toList_ofList]

theorem Readable.plain {bytes : Text} (h : Readable bytes) : PlainText (chars bytes).toList := by
  rcases h with ⟨text, rfl, hplain⟩
  rw [chars_encode, String.toList_ofList]
  exact hplain

/-- ASCII without quotes, backslashes and control characters. -/
def Printable (text : Text) : Prop :=
  ∀ c ∈ text, (c ≠ '"' ∧ c ≠ '\\' ∧ 0x20 ≤ c.toNat) ∧ c.toNat < 128

theorem Printable.encode_eq {text : Text} (h : Printable text) : encode text = text := by
  apply encode_ascii
  rw [List.all_eq_true]
  intro c hc
  exact decide_eq_true (h c hc).2

theorem Printable.readable {text : Text} (h : Printable text) : Readable text :=
  ⟨text, h.encode_eq.symm, fun c hc => (h c hc).1⟩

theorem printable_append {xs ys : Text} (hxs : Printable xs) (hys : Printable ys) :
    Printable (xs ++ ys) := List.forall_mem_append.mpr ⟨hxs, hys⟩

theorem printable_cons {c : Char} (hc : (c ≠ '"' ∧ c ≠ '\\' ∧ 0x20 ≤ c.toNat) ∧ c.toNat < 128)
    {xs : Text} (hxs : Printable xs) : Printable (c :: xs) := List.forall_mem_cons.mpr ⟨hc, hxs⟩

/-- The digits of a number are printable. -/
theorem printable_toDigits {b : Nat} (hb : 1 < b) (hb' : b ≤ 16) (n : Nat) :
    Printable (Nat.toDigits b n) := by
  have hdigit : ∀ d < 16, (Nat.digitChar d ≠ '"' ∧ Nat.digitChar d ≠ '\\' ∧
      0x20 ≤ (Nat.digitChar d).toNat) ∧ (Nat.digitChar d).toNat < 128 := by decide
  -- the digits come off from the last one on
  induction n using Nat.strongRecOn with
  | ind n ih =>
    rw [Nat.toDigits_eq_if hb]
    split
    · rename_i hlt
      exact List.forall_mem_singleton.mpr (hdigit n (by omega))
    · rename_i hge
      have hlt : n / b < n := Nat.div_lt_self (by omega) hb
      have hmod : n % b < b := Nat.mod_lt n (by omega)
      exact printable_append (ih (n / b) hlt)
        (List.forall_mem_singleton.mpr (hdigit (n % b) (by omega)))

theorem printable_hexPad (w n : Nat) : Printable (hexPad w n) := by
  rw [hexPad, List.leftpad]
  refine printable_append ?_ (printable_toDigits (by decide) (by decide) n)
  intro c hc
  rw [List.eq_of_mem_replicate hc]
  decide

theorem printable_uuidV4Gen (uuid : Uuid) : Printable (uuidV4Gen uuid) := by
  have hdash : ('-' ≠ '"' ∧ '-' ≠ '\\' ∧ 0x20 ≤ '-'.toNat) ∧ '-'.toNat < 128 := by decide
  have hnode : Printable ((List.ofFn uuid.node).flatMap fun byte => hexPad 2 byte.toNat) := by
    intro c hc
    rcases List.mem_flatMap.mp hc with ⟨byte, -, hbyte⟩
    exact printable_hexPad 2 byte.toNat c hbyte
  rw [uuidV4Gen]
  refine printable_append (printable_append (printable_append (printable_append
    (printable_append ?_ ?_) ?_) ?_) ?_) ?_
  · -- five groups of digits with hyphens in between, then the node
    exact printable_hexPad _ _
  · exact printable_cons hdash (printable_hexPad _ _)
  · exact printable_cons hdash (printable_hexPad _ _)
  · exact printable_cons hdash (printable_hexPad _ _)
  · exact printable_hexPad _ _
  · exact printable_cons hdash hnode

theorem printable_toString (n : Int) : Printable (toString n).toList := by
  have hnat : ∀ m : Nat, Printable m.repr.toList := by
    intro m
    rw [Nat.toList_repr]
    exact printable_toDigits (by decide) (by decide) m
  cases n with
  | ofNat m => exact hnat m
  | negSucc m =>
    show Printable ("-" ++ (m + 1).repr).toList
    rw [String.toList_append]
    refine printable_append ?_ (hnat (m + 1))
    intro c hc
    rw [List.mem_singleton.mp hc]
    decide

/-- For every pair and client id whose messages fit into their buffers: the order and
the cancel of the C++ client are read as the ones of the Rust client if and only if
there is no quote, no backslash and no control character in the pair and the id. -/
theorem orderTexts_read_iff {pair clientId : String} {order cancel : Text}
    (horder : createBuyOrder (encode pair.toList) (encode clientId.toList) = some order)
    (hcancel : createCancelOrder (encode pair.toList) (encode clientId.toList) = some cancel) :
    (readText order = Hft.createBuyOrder pair clientId ↔
      PlainText pair.toList ∧ PlainText clientId.toList) ∧
    (readText cancel = Hft.cancelOrder pair clientId ↔
      PlainText pair.toList ∧ PlainText clientId.toList) :=
  ⟨createBuyOrder_read_iff horder, createCancelOrder_read_iff hcancel⟩

/-- The default pair is read as it is meant, and a pair with a quote in it is not. -/
theorem orderTexts_read_iff_default :
    (∃ order cancel, createBuyOrder (encode "BTC_EUR".toList) (encode "a".toList) = some order ∧
      createCancelOrder (encode "BTC_EUR".toList) (encode "a".toList) = some cancel ∧
      readText order = Hft.createBuyOrder "BTC_EUR" "a" ∧
      readText cancel = Hft.cancelOrder "BTC_EUR" "a") ∧
    ∃ order cancel, createBuyOrder (encode "A\"B".toList) (encode "a".toList) = some order ∧
      createCancelOrder (encode "A\"B".toList) (encode "a".toList) = some cancel ∧
      readText order ≠ Hft.createBuyOrder "A\"B" "a" ∧
      readText cancel ≠ Hft.cancelOrder "A\"B" "a" := by
  have hfits : ∀ pair : String, (encode pair.toList).length ≤ 7 → ∃ order cancel,
      createBuyOrder (encode pair.toList) (encode "a".toList) = some order ∧
      createCancelOrder (encode pair.toList) (encode "a".toList) = some cancel := by
    intro pair hpair
    have hid : (encode "a".toList).length = 1 := rfl
    rcases Option.isSome_iff_exists.mp ((isSome_createBuyOrder (encode pair.toList)
      (encode "a".toList)).mpr (by omega)) with ⟨order, horder⟩
    rcases Option.isSome_iff_exists.mp ((isSome_createCancelOrder (encode pair.toList)
      (encode "a".toList)).mpr (by omega)) with ⟨cancel, hcancel⟩
    exact ⟨order, cancel, horder, hcancel⟩
  constructor
  · rcases hfits "BTC_EUR" (by decide) with ⟨order, cancel, horder, hcancel⟩
    have hplain : PlainText "BTC_EUR".toList ∧ PlainText "a".toList :=
      ⟨plainText_of_all rfl, plainText_of_all rfl⟩
    have hread := orderTexts_read_iff horder hcancel
    exact ⟨order, cancel, horder, hcancel, hread.1.mpr hplain, hread.2.mpr hplain⟩
  · -- the quote in the pair ends its string early
    rcases hfits "A\"B" (by decide) with ⟨order, cancel, horder, hcancel⟩
    have hquote : ¬ PlainText "A\"B".toList := fun h =>
      (h '"' (.tail _ (.head _))).1 rfl
    have hread := orderTexts_read_iff horder hcancel
    exact ⟨order, cancel, horder, hcancel, fun h => hquote (hread.1.mp h).1,
      fun h => hquote (hread.2.mp h).1⟩

/-! ## Requests and their answers -/

/-- The text of a request; `none` where the copies leave the buffer. -/
def requestText (apiToken : Int32) : Request → Option Text
  | .auth => some (authMessage apiToken)
  | .subscribe => some SUBSCRIBE_MSG
  | .buyOrder pair clientId => createBuyOrder pair clientId
  | .cancelOrder pair clientId => createCancelOrder pair clientId

/-- What a request is meant for. -/
def requestJson (apiToken : Int32) : Request → Json
  | .auth => authJson (toString apiToken.toInt)
  | .subscribe => subscribeJson
  | .buyOrder pair clientId =>
      orderJson (chars pair) "LIMIT" (chars clientId) "BUY" "1" "1"
  | .cancelOrder pair clientId => cancelJson (chars pair) (chars clientId)

/-- A string of a message that arrives, as the bytes of a `string_view`. -/
def stringField (v : Json) (key : String) : Option Text :=
  (v.index key).asStr.map fun value => encode value.toList

/-- A message that arrives, by the fields that `on_message` reads. -/
def Message.ofJson (v : Json) : Message :=
  match (v.index "type").asStr with
  | none => .malformed
  | some "BOOKED" => .booked (stringField v "client_id") (stringField v "instrument_code")
  | some "DONE" => .done (stringField v "client_id")
  | some "AUTHENTICATED" => .authenticated
  | some "SUBSCRIPTIONS" => .subscriptions
  | some _ => .other

/-- The strings of a request are read as they stand. -/
def Request.Readable : Request → Prop
  | .auth | .subscribe => True
  | .buyOrder pair clientId | .cancelOrder pair clientId =>
      CppClient.Readable pair ∧ CppClient.Readable clientId

theorem readText_render {text : Text} {v : Json} (htext : text = render v)
    (hascii : encode text = text) (hplain : AllStrings PlainText v) : readText text = some v := by
  rw [← hascii, htext, readText, decode_encode, Option.bind_some, read_render hplain]

theorem readText_authMessage (apiToken : Int32) :
    readText (authMessage apiToken) = some (authJson (toString apiToken.toInt)) := by
  have hrender : authMessage apiToken = render (authJson (toString apiToken.toInt)) := by
    simp only [authJson, render, renderMembers, authMessage, List.append_assoc, List.cons_append,
      List.nil_append]
    rfl
  have htoken := printable_toString apiToken.toInt
  have hascii : encode (authMessage apiToken) = authMessage apiToken := by
    rw [authMessage, encode_append, encode_append, htoken.encode_eq]
    rfl
  -- a token is a number, so the text is read as it stands
  have hkeys : ∀ key ∈ ["type", "AUTHENTICATE", "api_token"], PlainText key.toList :=
    plainText_of_mem rfl
  refine readText_render hrender hascii ?_
  simp only [List.forall_mem_cons] at hkeys
  simp only [authJson, AllStrings, AllMembers]
  exact ⟨hkeys.1, hkeys.2.1, hkeys.2.2.1, fun c hc => (htoken c hc).1, trivial⟩

theorem readText_SUBSCRIBE_MSG : readText SUBSCRIBE_MSG = some subscribeJson := by
  have hkeys : ∀ key ∈ ["type", "SUBSCRIBE", "channels", "name", "ORDERS"],
      PlainText key.toList := plainText_of_mem rfl
  refine readText_render rfl rfl ?_
  simp only [List.forall_mem_cons] at hkeys
  rcases hkeys with ⟨h₁, h₂, h₃, h₄, h₅, -⟩
  simp only [subscribeJson, AllStrings, AllMembers, AllElems, h₁, h₂, h₃, h₄, h₅, and_self]

/-- The text of such a request is read as it is meant. -/
theorem readText_requestText {apiToken : Int32} {r : Request} {text : Text} (h : r.Readable)
    (htext : requestText apiToken r = some text) :
    readText text = some (requestJson apiToken r) := by
  cases r with
  | auth =>
    cases htext
    exact readText_authMessage apiToken
  | subscribe =>
    cases htext
    exact readText_SUBSCRIBE_MSG
  | buyOrder pair clientId =>
    rcases h with ⟨hpair, hid⟩
    have hfit : createBuyOrder (encode (chars pair).toList) (encode (chars clientId).toList) =
        some text := by
      rw [hpair.encode_chars, hid.encode_chars]
      exact htext
    exact (createBuyOrder_read_iff hfit).mpr ⟨hpair.plain, hid.plain⟩
  | cancelOrder pair clientId =>
    rcases h with ⟨hpair, hid⟩
    have hfit : createCancelOrder (encode (chars pair).toList) (encode (chars clientId).toList) =
        some text := by
      rw [hpair.encode_chars, hid.encode_chars]
      exact htext
    exact (createCancelOrder_read_iff hfit).mpr ⟨hpair.plain, hid.plain⟩

/-- To each request, read as it is meant, the server gives the answer that the client
waits for. The user is known from the first request on. -/
theorem handleText_request (apiToken : Int32) {r : Request} (h : r.Readable)
    {a : Hft.WebSocketActor} {e : Hft.ServerMoment} (hclock : e.ClockOk)
    (huser : r = .auth ∨ a.userId.isSome) :
    ∃ a' v, a.handleText e (some (requestJson apiToken r)) = some (a', [.text (some v)]) ∧
      Message.ofJson v = reply r ∧ a'.userId.isSome := by
  have htime := Hft.timestamp_of_clockOk hclock
  have hknown : r ≠ .auth → a.userId.isSome := huser.resolve_left
  -- the server knows the user from the first message on
  cases r with
  | auth => exact ⟨_, _, rfl, rfl, rfl⟩
  | subscribe =>
    have hisSome : a.userId.isSome := hknown Request.noConfusion
    rcases Option.isSome_iff_exists.mp hisSome with ⟨user, hsome⟩
    show ∃ a' v, a.handleSubscribe e _ = some (a', [.text (some v)]) ∧ _
    simp only [Hft.WebSocketActor.handleSubscribe, htime, hsome]
    exact ⟨a, _, rfl, rfl, hisSome⟩
  | buyOrder pair clientId =>
    have hisSome : a.userId.isSome := hknown Request.noConfusion
    rcases Option.isSome_iff_exists.mp hisSome with ⟨user, hsome⟩
    show ∃ a' v, a.handleCreateOrder e _ = some (a', [.text (some v)]) ∧ _
    simp only [Hft.WebSocketActor.handleCreateOrder, htime, hsome]
    refine ⟨a, _, rfl, ?_, hisSome⟩
    show Message.booked (some (encode (chars clientId).toList))
      (some (encode (chars pair).toList)) = _
    rw [h.1.encode_chars, h.2.encode_chars, reply]
  | cancelOrder pair clientId =>
    have hisSome : a.userId.isSome := hknown Request.noConfusion
    rcases Option.isSome_iff_exists.mp hisSome with ⟨user, hsome⟩
    show ∃ a' v, a.handleCancelOrder e _ = some (a', [.text (some v)]) ∧ _
    simp only [Hft.WebSocketActor.handleCancelOrder, htime, hsome]
    refine ⟨a, _, rfl, ?_, hisSome⟩
    show Message.done (some (encode (chars clientId).toList)) = _
    rw [h.2.encode_chars, reply]

end TradingLatency.CppClient
