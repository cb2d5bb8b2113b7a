import TradingLatency.Hft.JavaClient

/-!
# The bytes of a text frame (`ExchangeClientLatencyTestHandler.java`)

`onTextWebSocketFrame` hands the content of a frame to the JSON parser. A buffer
without a backing array is copied, from its reader index on. Of a buffer with one,
the parser gets the array itself, from `arrayOffset` to the end of the array:
neither the reader index nor the number of readable bytes enters.

`parserInput_eq_readable_iff` says for which buffers these are the readable bytes.
-/

namespace TradingLatency.JavaClient

/-! ## Buffers -/

/-- The memory of a buffer: a slice of a byte array from `arrayOffset` on, or
memory outside of the heap. -/
inductive Memory where
  | heap (array : List UInt8) (arrayOffset : Nat) (offset_le : arrayOffset ≤ array.length)
  | direct (bytes : List UInt8)

/-- The bytes that the indices of the buffer count. -/
def Memory.bytes : Memory → List UInt8
  | .heap array arrayOffset _ => array.drop arrayOffset
  | .direct bytes => bytes

/-- A Netty buffer. The readable bytes are inside of the memory. -/
structure ByteBuf where
  memory : Memory
  readerIndex : Nat
  writerIndex : Nat
  reader_le_writer : readerIndex ≤ writerIndex
  writer_le_capacity : writerIndex ≤ memory.bytes.length

namespace ByteBuf

/-- `readableBytes()`. -/
def readableBytes (buf : ByteBuf) : Nat := buf.writerIndex - buf.readerIndex

/-- `getBytes(index, dst)`: the bytes that fill `dst`. -/
def getBytes (buf : ByteBuf) (index length : Nat) : List UInt8 :=
  (buf.memory.bytes.drop index).take length

/-- The readable bytes: `array()[arrayOffset + readerIndex, arrayOffset + writerIndex)`
of a buffer with an array. -/
def readable (buf : ByteBuf) : List UInt8 :=
  match buf.memory with
  | .heap array arrayOffset _ =>
      (array.take (arrayOffset + buf.writerIndex)).drop (arrayOffset + buf.readerIndex)
  | .direct bytes => (bytes.take buf.writerIndex).drop buf.readerIndex

/-- The same readable bytes in a buffer without an array. -/
def toDirect (buf : ByteBuf) : ByteBuf where
  memory := .direct buf.readable
  readerIndex := 0
  writerIndex := buf.readable.length
  reader_le_writer := Nat.zero_le _
  writer_le_capacity := Nat.le_refl _

end ByteBuf

/-! ## Decoding -/

/-- The arguments `bytes` and `offset` of `JSON.parseObject`. -/
def frameBytes (buf : ByteBuf) : List UInt8 × Nat :=
  let length := buf.readableBytes
  match buf.memory with
  | .heap array arrayOffset _ => (array, arrayOffset)
  | .direct _ => (buf.getBytes buf.readerIndex length, 0)

/-- What the parser reads: `bytes.length - offset` bytes from `offset` on. -/
def parserInput (buf : ByteBuf) : List UInt8 :=
  let (bytes, offset) := frameBytes buf
  (bytes.drop offset).take (bytes.length - offset)

/-- A frame, from its bytes to the call of `printResults`. The parser is a
parameter. -/
def Handler.onFrame (parseObject : List UInt8 → Message) (cfg : Config) (warmedUp : Bool)
    (h : Handler) (eventReceiveTime : Int64) (sending : Sending) (buf : ByteBuf) : Handler :=
  h.onTextWebSocketFrame cfg warmedUp eventReceiveTime sending (parseObject (parserInput buf))

/-! ## What the parser reads -/

section Input

variable (buf : ByteBuf)

/-- In both kinds of buffers the readable bytes are the window between the indices. -/
theorem readable_eq : buf.readable = buf.getBytes buf.readerIndex buf.readableBytes := by
  have hle := buf.reader_le_writer
  unfold ByteBuf.readable ByteBuf.getBytes ByteBuf.readableBytes
  cases buf.memory with
  | heap array arrayOffset _ =>
    simp only [Memory.bytes, List.drop_take, List.drop_drop]
    congr 1
    omega
  | direct bytes => simp only [Memory.bytes, List.drop_take]

theorem length_readable : buf.readable.length = buf.readableBytes := by
  have hle := buf.writer_le_capacity
  rw [readable_eq, ByteBuf.getBytes, List.length_take, List.length_drop, ByteBuf.readableBytes]
  omega

/-- The copying branch is right. -/
theorem parserInput_direct {bytes : List UInt8} (h : buf.memory = .direct bytes) :
    parserInput buf = buf.readable := by
  have hinput : parserInput buf = buf.getBytes buf.readerIndex buf.readableBytes := by
    simp only [parserInput, frameBytes, h, List.drop_zero, Nat.sub_zero, List.take_length]
  rw [hinput, readable_eq]

/-- The other branch takes everything from the first byte of the buffer to the end
of the array. -/
theorem parserInput_heap {array : List UInt8} {arrayOffset : Nat}
    {hoffset : arrayOffset ≤ array.length} (h : buf.memory = .heap array arrayOffset hoffset) :
    parserInput buf = array.drop arrayOffset := by
  simp only [parserInput, frameBytes, h]
  rw [← List.length_drop, List.take_length]

/-- The readable bytes are all of the array from the offset on exactly when nothing
is read yet and the array ends where the buffer does. The contents do not matter:
any other window has another length. -/
theorem drop_eq_readable_iff {array : List UInt8} {arrayOffset : Nat}
    {hoffset : arrayOffset ≤ array.length} (h : buf.memory = .heap array arrayOffset hoffset) :
    array.drop arrayOffset = buf.readable ↔
      buf.readerIndex = 0 ∧ arrayOffset + buf.writerIndex = array.length := by
  have hreader := buf.reader_le_writer
  have hwriter := buf.writer_le_capacity
  rw [h, Memory.bytes, List.length_drop] at hwriter
  constructor
  · intro heq
    have hlen := congrArg List.length heq
    rw [List.length_drop, length_readable, ByteBuf.readableBytes] at hlen
    omega
  · rintro ⟨hzero, hend⟩
    rw [readable_eq, ByteBuf.getBytes, h, Memory.bytes, ByteBuf.readableBytes, hzero,
      List.drop_zero, List.take_of_length_le]
    rw [List.length_drop]
    omega

/-- A backing array, if there is one, ends at the writer index, and nothing of the
buffer is read yet. -/
def ByteBuf.FillsArray (buf : ByteBuf) : Prop :=
  match buf.memory with
  | .heap array arrayOffset _ =>
      buf.readerIndex = 0 ∧ arrayOffset + buf.writerIndex = array.length
  | .direct _ => True

theorem parserInput_eq_readable_iff : parserInput buf = buf.readable ↔ buf.FillsArray := by
  unfold ByteBuf.FillsArray
  split
  · rename_i array arrayOffset hoffset h
    rw [parserInput_heap buf h, drop_eq_readable_iff buf h]
  · rename_i bytes h
    exact iff_of_true (parserInput_direct buf h) trivial

theorem parserInput_toDirect : parserInput buf.toDirect = buf.readable := by
  rw [parserInput_direct buf.toDirect rfl, ByteBuf.toDirect, ByteBuf.readable]
  simp only [List.take_length, List.drop_zero]

/-- The parser gets exactly the readable bytes, and the same input from both
branches, if and only if the buffer has no backing array or fills it from its
offset to its end. -/
theorem parserInput_exact_iff :
    (parserInput buf = buf.readable ∧ parserInput buf = parserInput buf.toDirect) ↔
      buf.FillsArray := by
  rw [parserInput_toDirect, and_self]
  exact parserInput_eq_readable_iff buf

/-- Then the handler does what it does on the message of the readable bytes. -/
theorem Handler.onFrame_of_fillsArray (parseObject : List UInt8 → Message) (cfg : Config)
    (warmedUp : Bool) (h : Handler) (eventReceiveTime : Int64) (sending : Sending)
    {buf : ByteBuf} (hfill : buf.FillsArray) :
    h.onFrame parseObject cfg warmedUp eventReceiveTime sending buf =
      h.onTextWebSocketFrame cfg warmedUp eventReceiveTime sending (parseObject buf.readable) := by
  rw [Handler.onFrame, (parserInput_eq_readable_iff buf).mpr hfill]

end Input

/-- An empty JSON object at the beginning of a larger array. -/
def pooledBuf : ByteBuf where
  memory := .heap [123, 125, 0, 0] 0 (by decide)
  readerIndex := 0
  writerIndex := 2
  reader_le_writer := by decide
  writer_le_capacity := by decide

/-- The parser gets the rest of the array as well, in the one branch and not in the
other. -/
theorem parserInput_pooledBuf :
    pooledBuf.readable = [123, 125] ∧ parserInput pooledBuf = [123, 125, 0, 0] ∧
      ¬ (parserInput pooledBuf = pooledBuf.readable ∧
        parserInput pooledBuf = parserInput pooledBuf.toDirect) := by
  refine ⟨rfl, rfl, ?_⟩
  rintro ⟨h, -⟩
  exact absurd (congrArg List.length h) (by decide)

end TradingLatency.JavaClient
