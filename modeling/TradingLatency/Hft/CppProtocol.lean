import TradingLatency.Lib.CText
import Mathlib.Data.List.OfFn

/-!
# The messages of the C++ client (`ExchangeProtocol.cpp`)

An order and a cancel are put together in a buffer on the stack, by one copy for
each part. No copy checks how much of the buffer is left. In the model a copy
beyond the end of the buffer is `none`.

A `std::string` is the list of its `char`s, one for each byte.
-/

namespace TradingLatency.CppClient

open CText

/-! ## Parts of the messages, under their names in the source -/

def HEADER : Text :=
  "\x7b\"type\":\"CREATE_ORDER\",\"order\":\x7b\"instrument_code\":\"".toList

def SYMBOL_END : Text := "\",\"client_id\":\"".toList

def CLIENT_ID_END : Text := "\",\"side\":\"".toList

def BUY_SIDE : Text := "BUY".toList

def SIDE_END : Text := "\",\"type\":\"".toList

def DUMMY_TYPE : Text := "LIMIT".toList

def TYPE_END : Text := "\",\"price\":\"".toList

def DUMMY_BUY_PRICE : Text := "1".toList

def PRICE_END : Text := "\",\"amount\":\"".toList

def DUMMY_AMOUNT : Text := "1".toList

def AMOUNT_END : Text := "\",\"time_in_force\":\"".toList

def DUMMY_TIME_IN_FORCE : Text := "GOOD_TILL_CANCELLED".toList

def TIME_IN_FORCE_END : Text := "\"\x7d\x7d".toList

def CANCEL_ORDER_HEADER : Text := "\x7b\"type\":\"CANCEL_ORDER\",\"client_id\":\"".toList

def CANCEL_ORDER_CLIENT_ID_END : Text := "\",\"instrument_code\":\"".toList

def MSG_END : Text := "\"\x7d".toList

def MAX_ORDER_SIZE : Nat := 256

def MAX_CANCEL_ORDER_SIZE : Nat := 128

/-! ## Messages -/

/-- `write`: a copy to the end of what is in the buffer of `size` bytes. -/
def write (size : Nat) (buffer str : Text) : Option Text :=
  if buffer.length + str.length ≤ size then some (buffer ++ str) else none

/-- `createBuyOrder`. -/
def createBuyOrder (pair clientId : Text) : Option Text :=
  [HEADER, pair, SYMBOL_END, clientId, CLIENT_ID_END, BUY_SIDE, SIDE_END, DUMMY_TYPE, TYPE_END,
    DUMMY_BUY_PRICE, PRICE_END, DUMMY_AMOUNT, AMOUNT_END, DUMMY_TIME_IN_FORCE,
    TIME_IN_FORCE_END].foldlM (write MAX_ORDER_SIZE) []

/-- `createCancelOrder`. -/
def createCancelOrder (pair clientId : Text) : Option Text :=
  [CANCEL_ORDER_HEADER, clientId, CANCEL_ORDER_CLIENT_ID_END, pair, MSG_END].foldlM
    (write MAX_CANCEL_ORDER_SIZE) []

/-- The copies stay in the buffer exactly when all parts together fit. -/
theorem isSome_foldlM_write (size : Nat) (parts : List Text) {buffer : Text}
    (hbuffer : buffer.length ≤ size) :
    (parts.foldlM (write size) buffer).isSome ↔ buffer.length + parts.flatten.length ≤ size := by
  induction parts generalizing buffer with
  | nil => simpa using hbuffer
  | cons str parts ih =>
    rw [List.foldlM_cons, List.flatten_cons, List.length_append, write]
    split
    · rename_i hfit
      rw [Option.bind_eq_bind, Option.bind_some, ih (by rwa [List.length_append]),
        List.length_append, Nat.add_assoc]
    · rename_i hfit
      simp only [Option.bind_eq_bind, Option.bind_none, Option.isSome_none, Bool.false_eq_true,
        false_iff]
      omega

/-- The fixed parts of an order are 160 bytes. -/
theorem isSome_createBuyOrder (pair clientId : Text) :
    (createBuyOrder pair clientId).isSome ↔ 160 + clientId.length + pair.length ≤ 256 := by
  have hfixed : HEADER.length + SYMBOL_END.length + CLIENT_ID_END.length + BUY_SIDE.length +
      SIDE_END.length + DUMMY_TYPE.length + TYPE_END.length + DUMMY_BUY_PRICE.length +
      PRICE_END.length + DUMMY_AMOUNT.length + AMOUNT_END.length + DUMMY_TIME_IN_FORCE.length +
      TIME_IN_FORCE_END.length = 160 := by decide
  have hsize : MAX_ORDER_SIZE = 256 := rfl
  rw [createBuyOrder, isSome_foldlM_write _ _ (Nat.zero_le _)]
  simp only [List.flatten_cons, List.flatten_nil, List.length_append, List.length_nil]
  omega

/-- The fixed parts of a cancel are 59 bytes. -/
theorem isSome_createCancelOrder (pair clientId : Text) :
    (createCancelOrder pair clientId).isSome ↔ 59 + clientId.length + pair.length ≤ 128 := by
  have hfixed : CANCEL_ORDER_HEADER.length + CANCEL_ORDER_CLIENT_ID_END.length +
      MSG_END.length = 59 := by decide
  have hsize : MAX_CANCEL_ORDER_SIZE = 128 := rfl
  rw [createCancelOrder, isSome_foldlM_write _ _ (Nat.zero_le _)]
  simp only [List.flatten_cons, List.flatten_nil, List.length_append, List.length_nil]
  omega

/-! ## Client ids -/

/-- `%0<w>x`. -/
def hexPad (w n : Nat) : Text := (Nat.toDigits 16 n).leftpad w '0'

theorem length_hexPad {w n : Nat} (hw : 0 < w) (h : n < 16 ^ w) : (hexPad w n).length = w := by
  have hle := (Nat.length_toDigits_le_iff (b := 16) (by decide) hw).mpr h
  simp only [hexPad, List.leftpad, List.length_append, List.length_replicate]
  omega

/-- The random bytes of `uuid_v4_gen`. -/
structure Uuid where
  timeLow : UInt32
  timeMid : UInt16
  timeHiAndVersion : UInt16
  clkSeqHiRes : UInt8
  clkSeqLow : UInt8
  node : Fin 6 → UInt8

/-- `uuid_v4_gen`. -/
def uuidV4Gen (uuid : Uuid) : Text :=
  let clkSeqHiRes := (uuid.clkSeqHiRes &&& 0x3F) ||| 0x80
  let timeHiAndVersion := (uuid.timeHiAndVersion &&& 0x0FFF) ||| 0x4000
  hexPad 8 uuid.timeLow.toNat ++ '-' :: hexPad 4 uuid.timeMid.toNat ++
    '-' :: hexPad 4 timeHiAndVersion.toNat ++
    '-' :: hexPad 2 clkSeqHiRes.toNat ++ hexPad 2 uuid.clkSeqLow.toNat ++
    '-' :: (List.ofFn uuid.node).flatMap fun byte => hexPad 2 byte.toNat

theorem length_hexPad_byte (byte : UInt8) : (hexPad 2 byte.toNat).length = 2 :=
  length_hexPad (by decide) byte.toNat_lt

theorem length_uuidV4Gen (uuid : Uuid) : (uuidV4Gen uuid).length = 36 := by
  have hlow : (hexPad 8 uuid.timeLow.toNat).length = 8 :=
    length_hexPad (by decide) uuid.timeLow.toNat_lt
  have hword : ∀ x : UInt16, (hexPad 4 x.toNat).length = 4 :=
    fun x => length_hexPad (by decide) x.toNat_lt
  have hnode : ((List.ofFn uuid.node).flatMap fun byte => hexPad 2 byte.toNat).length = 12 := by
    simp [length_hexPad_byte]
  simp only [uuidV4Gen, List.length_append, List.length_cons, hlow, hword, hnode,
    length_hexPad_byte]

end TradingLatency.CppClient
