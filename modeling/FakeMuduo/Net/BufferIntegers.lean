import FakeMuduo.Base.Bytes
import FakeMuduo.Net.BufferInvariant

/-! Integers in network byte order, on a little-endian host. A signed integer is the word of its
bits: the conversions between signed and unsigned types of one width keep them. -/

namespace FakeMuduo.Net

open FakeMuduo.Base

namespace Sockets

def hostToNetwork64 (host64 : BitVec 64) : BitVec 64 := swapBytes 8 host64

def hostToNetwork32 (host32 : BitVec 32) : BitVec 32 := swapBytes 4 host32

def hostToNetwork16 (host16 : BitVec 16) : BitVec 16 := swapBytes 2 host16

def networkToHost64 (net64 : BitVec 64) : BitVec 64 := swapBytes 8 net64

end Sockets

namespace Buffer

def appendInt64 (buf : Buffer) (x : BitVec 64) : Checked Buffer :=
  buf.append (toBytes 8 (Sockets.hostToNetwork64 x).toNat)

def appendInt32 (buf : Buffer) (x : BitVec 32) : Checked Buffer :=
  buf.append (toBytes 4 (Sockets.hostToNetwork32 x).toNat)

def appendInt16 (buf : Buffer) (x : BitVec 16) : Checked Buffer :=
  buf.append (toBytes 2 (Sockets.hostToNetwork16 x).toNat)

def appendInt8 (buf : Buffer) (x : BitVec 8) : Checked Buffer := buf.append (toBytes 1 x.toNat)

def prependInt64 (buf : Buffer) (x : BitVec 64) : Checked Buffer :=
  buf.prepend (toBytes 8 (Sockets.hostToNetwork64 x).toNat)

def prependInt32 (buf : Buffer) (x : BitVec 32) : Checked Buffer :=
  buf.prepend (toBytes 4 (Sockets.hostToNetwork32 x).toNat)

def prependInt16 (buf : Buffer) (x : BitVec 16) : Checked Buffer :=
  buf.prepend (toBytes 2 (Sockets.hostToNetwork16 x).toNat)

def prependInt8 (buf : Buffer) (x : BitVec 8) : Checked Buffer := buf.prepend (toBytes 1 x.toNat)

/-- The indices from which `memcpy` copies `len` bytes at `peek()`. -/
def copied (buf : Buffer) (len : Nat) : List Nat := (List.range len).map (buf.peek + ·)

/-- `beyond` are the bytes that stand in memory behind the storage. -/
def memcpy (beyond : Nat → Byte) (buf : Buffer) (len : Nat) : List Byte :=
  (buf.copied len).map fun index => buf.buffer.getD index (beyond index)

section Peek

variable (beyond : Nat → Byte) (buf : Buffer)

def peekInt64 : Checked (BitVec 64) := do
  check "readableBytes() >= sizeof(int64_t)" (8 ≤ buf.readableBytes)
  let be64 := BitVec.ofNat 64 (ofBytes (buf.memcpy beyond 8))
  return Sockets.networkToHost64 be64

def peekInt32 : Checked (BitVec 32) := do
  check "readableBytes() >= sizeof(int32_t)" (4 ≤ buf.readableBytes)
  let be32 := BitVec.ofNat 32 (ofBytes (buf.memcpy beyond 4))
  return Sockets.hostToNetwork32 be32

/-- The temporary has 32 bits: four bytes are copied, and the conversion keeps the first two. -/
def peekInt16 : Checked (BitVec 16) := do
  check "readableBytes() >= sizeof(int16_t)" (2 ≤ buf.readableBytes)
  let be16 := BitVec.ofNat 32 (ofBytes (buf.memcpy beyond 4))
  return Sockets.hostToNetwork16 (be16.setWidth 16)

def peekInt8 : Checked (BitVec 8) := do
  check "readableBytes() >= sizeof(int8_t)" (1 ≤ buf.readableBytes)
  return BitVec.ofNat 8 (ofBytes (buf.memcpy beyond 1))

def readInt64 : Checked (BitVec 64 × Buffer) := do
  let result ← buf.peekInt64 beyond
  let rest ← buf.retrieve 8
  return (result, rest)

def readInt32 : Checked (BitVec 32 × Buffer) := do
  let result ← buf.peekInt32 beyond
  let rest ← buf.retrieve 4
  return (result, rest)

def readInt16 : Checked (BitVec 16 × Buffer) := do
  let result ← buf.peekInt16 beyond
  let rest ← buf.retrieve 2
  return (result, rest)

def readInt8 : Checked (BitVec 8 × Buffer) := do
  let result ← buf.peekInt8 beyond
  let rest ← buf.retrieve 1
  return (result, rest)

end Peek

/-- An integer of one of the four types. -/
inductive Integer where
  | int8 (x : BitVec 8)
  | int16 (x : BitVec 16)
  | int32 (x : BitVec 32)
  | int64 (x : BitVec 64)
  deriving DecidableEq, Repr

inductive IntegerType where
  | int8 | int16 | int32 | int64
  deriving DecidableEq, Repr

namespace Integer

def type : Integer → IntegerType
  | int8 _ => .int8
  | int16 _ => .int16
  | int32 _ => .int32
  | int64 _ => .int64

def sizeof : Integer → Nat
  | int8 _ => 1
  | int16 _ => 2
  | int32 _ => 4
  | int64 _ => 8

/-- The number the integer stands for. -/
def value : Integer → Int
  | int8 x => x.toInt
  | int16 x => x.toInt
  | int32 x => x.toInt
  | int64 x => x.toInt

/-- The integer in network byte order. -/
def bytes (integer : Integer) : List Byte := bigEndian integer.sizeof integer.value

/-- The matching `appendIntN`. -/
def append (buf : Buffer) : Integer → Checked Buffer
  | int8 x => buf.appendInt8 x
  | int16 x => buf.appendInt16 x
  | int32 x => buf.appendInt32 x
  | int64 x => buf.appendInt64 x

/-- The matching `prependIntN`. -/
def prepend (buf : Buffer) : Integer → Checked Buffer
  | int8 x => buf.prependInt8 x
  | int16 x => buf.prependInt16 x
  | int32 x => buf.prependInt32 x
  | int64 x => buf.prependInt64 x

end Integer

/-- The matching `readIntN`. -/
def readInteger (beyond : Nat → Byte) (buf : Buffer) : IntegerType → Checked (Integer × Buffer)
  | .int8 => do
    let (x, rest) ← buf.readInt8 beyond
    return (.int8 x, rest)
  | .int16 => do
    let (x, rest) ← buf.readInt16 beyond
    return (.int16 x, rest)
  | .int32 => do
    let (x, rest) ← buf.readInt32 beyond
    return (.int32 x, rest)
  | .int64 => do
    let (x, rest) ← buf.readInt64 beyond
    return (.int64 x, rest)

def readIntegers (beyond : Nat → Byte) : Buffer → List IntegerType → Checked (List Integer × Buffer)
  | buf, [] => .ok ([], buf)
  | buf, type :: types => do
    let (integer, rest) ← buf.readInteger beyond type
    let (integers, rest) ← readIntegers beyond rest types
    return (integer :: integers, rest)

theorem toBytes_swap {bits width : Nat} (whole : Nat.pow 2 bits = Nat.pow 256 width)
    (x : BitVec bits) :
    toBytes width (swapBytes width x).toNat = bigEndian width x.toInt :=
  (toBytes_swapBytes whole x).trans (bigEndian_toInt whole x).symm

/-- A single byte is the same in both orders. -/
theorem toBytes_single (x : BitVec 8) : toBytes 1 x.toNat = bigEndian 1 x.toInt :=
  (@bigEndian_toInt 8 1 rfl x).symm

theorem Integer.append_eq (buf : Buffer) (integer : Integer) :
    integer.append buf = buf.append integer.bytes := by
  cases integer with
  | int8 x => exact congrArg buf.append (toBytes_single x)
  | int16 x => exact congrArg buf.append (toBytes_swap rfl x)
  | int32 x => exact congrArg buf.append (toBytes_swap rfl x)
  | int64 x => exact congrArg buf.append (toBytes_swap rfl x)

theorem Integer.prepend_eq (buf : Buffer) (integer : Integer) :
    integer.prepend buf = buf.prepend integer.bytes := by
  cases integer with
  | int8 x => exact congrArg buf.prepend (toBytes_single x)
  | int16 x => exact congrArg buf.prepend (toBytes_swap rfl x)
  | int32 x => exact congrArg buf.prepend (toBytes_swap rfl x)
  | int64 x => exact congrArg buf.prepend (toBytes_swap rfl x)

section Read

variable {buf : Buffer} {beyond : Nat → Byte}

theorem memcpy_take (valid : Valid buf) (readable : count ≤ buf.readableBytes)
    (within : count ≤ len) :
    (buf.memcpy beyond len).take count = buf.toString.take count := by
  have bounded := valid.bounded
  have ordered := valid.ordered
  rw [toString, window_take _ _ _ _ readable]
  apply List.ext_getElem?
  intro offset
  by_cases inside : offset < count
  · have stored : buf.readIndex + offset < buf.buffer.length := by
      simp only [readableBytes] at readable
      omega
    have copies : offset < len := by omega
    simp [memcpy, copied, peek, window, List.getElem?_take_of_lt inside,
      List.getElem?_range copies, stored]
  · rw [List.getElem?_eq_none (by simp; omega), List.getElem?_eq_none (by simp [window]; omega)]

theorem readable_of_front (valid : Valid buf) {x : Int}
    (content : buf.toString = bigEndian width x ++ rest) :
    width ≤ buf.readableBytes := by
  rw [← toString_length valid, content, List.length_append, bigEndian_length]
  exact Nat.le_add_right _ _

/-- The word that a copy takes from the front of the content, whatever else it copies. -/
theorem memcpy_word {bits width : Nat} (whole : Nat.pow 2 bits = Nat.pow 256 width)
    (valid : Valid buf) {x : BitVec bits}
    (content : buf.toString = bigEndian width x.toInt ++ rest) (within : width ≤ len) :
    BitVec.ofNat bits (ofBytes (buf.memcpy beyond len)) = swapBytes width x := by
  have front : (buf.memcpy beyond len).take width = bigEndian width x.toInt := by
    rw [memcpy_take valid (readable_of_front valid content) within, content]
    exact List.take_left' (bigEndian_length _ _)
  have length : (bigEndian width x.toInt).length = width := bigEndian_length _ _
  rw [← List.take_append_drop width (buf.memcpy beyond len), front,
    ofNat_ofBytes_append (by rw [length, whole]), bigEndian_toInt whole]
  rfl

theorem peekInt64_returns (valid : Valid buf) {x : BitVec 64}
    (content : buf.toString = bigEndian 8 x.toInt ++ rest) :
    buf.peekInt64 beyond = .ok x := by
  rw [peekInt64, check_pass _ (readable_of_front valid content), ok_bind,
    memcpy_word rfl valid content (Nat.le_refl _)]
  exact congrArg Except.ok (swapBytes_swapBytes rfl x)

theorem peekInt32_returns (valid : Valid buf) {x : BitVec 32}
    (content : buf.toString = bigEndian 4 x.toInt ++ rest) :
    buf.peekInt32 beyond = .ok x := by
  rw [peekInt32, check_pass _ (readable_of_front valid content), ok_bind,
    memcpy_word rfl valid content (Nat.le_refl _)]
  exact congrArg Except.ok (swapBytes_swapBytes rfl x)

theorem peekInt16_returns (valid : Valid buf) {x : BitVec 16}
    (content : buf.toString = bigEndian 2 x.toInt ++ rest) :
    buf.peekInt16 beyond = .ok x := by
  have narrowed : (BitVec.ofNat 32 (ofBytes (buf.memcpy beyond 4))).setWidth 16 = swapBytes 2 x :=
    (BitVec.setWidth_ofNat_of_le (by decide) _).trans (memcpy_word rfl valid content (by decide))
  rw [peekInt16, check_pass _ (readable_of_front valid content), ok_bind]
  exact congrArg Except.ok
    ((congrArg Sockets.hostToNetwork16 narrowed).trans (swapBytes_swapBytes rfl x))

theorem peekInt8_returns (valid : Valid buf) {x : BitVec 8}
    (content : buf.toString = bigEndian 1 x.toInt ++ rest) :
    buf.peekInt8 beyond = .ok x := by
  rw [peekInt8, check_pass _ (readable_of_front valid content), ok_bind,
    memcpy_word rfl valid content (Nat.le_refl _)]
  exact congrArg Except.ok (@ofNat_ofBytes_toBytes 8 1 rfl x)

/-- The integer at the front of the content is read, and the rest is left. -/
theorem readInteger_returns (beyond : Nat → Byte) (valid : Valid buf) {integer : Integer}
    (content : buf.toString = integer.bytes ++ rest) :
    ∃ left, buf.readInteger beyond integer.type = .ok (integer, left) ∧ left.Valid ∧
      left.toString = rest := by
  obtain ⟨left, retrieved, leftValid, remains⟩ :=
    retrieve_returns valid (readable_of_front valid content)
  have length : integer.bytes.length = integer.sizeof := bigEndian_length _ _
  rw [content, List.drop_left' length] at remains
  refine ⟨left, ?_, leftValid, remains⟩
  cases integer with
  | int8 x =>
    simp only [Integer.type, readInteger, readInt8, peekInt8_returns valid content, ok_bind]
    rw [show buf.retrieve 1 = .ok left from retrieved]
    rfl
  | int16 x =>
    simp only [Integer.type, readInteger, readInt16, peekInt16_returns valid content, ok_bind]
    rw [show buf.retrieve 2 = .ok left from retrieved]
    rfl
  | int32 x =>
    simp only [Integer.type, readInteger, readInt32, peekInt32_returns valid content, ok_bind]
    rw [show buf.retrieve 4 = .ok left from retrieved]
    rfl
  | int64 x =>
    simp only [Integer.type, readInteger, readInt64, peekInt64_returns valid content, ok_bind]
    rw [show buf.retrieve 8 = .ok left from retrieved]
    rfl

theorem readIntegers_returns (beyond : Nat → Byte) (valid : Valid buf) (integers : List Integer)
    (content : buf.toString = integers.flatMap Integer.bytes) :
    ∃ left, buf.readIntegers beyond (integers.map Integer.type) =
      .ok (integers, left) ∧ left.Valid ∧
      left.toString = [] := by
  induction integers generalizing buf with
  | nil => exact ⟨buf, rfl, valid, content⟩
  | cons integer integers ih =>
    obtain ⟨rest, read, restValid, remains⟩ := readInteger_returns beyond valid content
    obtain ⟨left, reads, leftValid, empty⟩ := ih restValid remains
    refine ⟨left, ?_, leftValid, empty⟩
    simp only [List.map_cons, readIntegers, read, reads, ok_bind]
    rfl

theorem appendIntegers_returns (valid : Valid buf) (integers : List Integer) :
    Returns (integers.foldlM Integer.append buf)
      (buf.toString ++ integers.flatMap Integer.bytes) := by
  have pieces : integers.foldlM Integer.append buf =
      (integers.map Integer.bytes).foldlM Buffer.append buf := by
    rw [List.foldlM_map]
    exact congrArg (fun step => integers.foldlM step buf)
      (funext fun buf => funext (Integer.append_eq buf))
  rw [pieces, List.flatMap_def]
  exact foldlM_append_returns _ valid

end Read

/-- Integers are read back as they were appended, or prepended, each one in network byte order. -/
theorem integers_round_trip (buf : Buffer) (valid : buf.Valid) (beyond : Nat → Byte) :
    (∀ integers : List Integer, ∃ filled opened left,
      integers.foldlM Integer.append buf = .ok filled ∧
        filled.toString = buf.toString ++ integers.flatMap Integer.bytes ∧
        filled.retrieve buf.toString.length = .ok opened ∧
        opened.readIntegers beyond (integers.map Integer.type) = .ok (integers, left) ∧
          left.readableBytes = 0) ∧
      ∀ integer : Integer, integer.sizeof ≤ buf.prependableBytes → ∃ prepended left,
        integer.prepend buf = .ok prepended ∧
          prepended.readInteger beyond integer.type = .ok (integer, left) ∧
            left.toString = buf.toString := by
  constructor
  · intro integers
    obtain ⟨filled, appended, filledValid, content⟩ := appendIntegers_returns valid integers
    have enough : buf.toString.length ≤ filled.readableBytes := by
      rw [← toString_length filledValid, content, List.length_append]
      exact Nat.le_add_right _ _
    obtain ⟨opened, retrieved, openedValid, remains⟩ := retrieve_returns filledValid enough
    rw [content, List.drop_left] at remains
    obtain ⟨left, read, leftValid, empty⟩ :=
      readIntegers_returns beyond openedValid integers remains
    have none : left.readableBytes = 0 := by
      rw [← toString_length leftValid, empty]
      rfl
    exact ⟨filled, opened, left, appended, content, retrieved, read, none⟩
  · intro integer room
    have length : integer.bytes.length = integer.sizeof := bigEndian_length _ _
    obtain ⟨prepended, returned, prependedValid, content⟩ := prepend_returns valid (length ▸ room)
    obtain ⟨left, read, _, remains⟩ := readInteger_returns beyond prependedValid content
    exact ⟨prepended, left, (integer.prepend_eq buf).trans returned, read, remains⟩

/-- Integers of all widths, among them a negative one and the least of 64 bits. -/
def sampleIntegers : List Integer :=
  [.int16 (-2), .int64 (BitVec.intMin 64), .int8 127, .int32 305419896, .int16 7]

example : sampleIntegers.flatMap Integer.bytes =
    [255, 254, 128, 0, 0, 0, 0, 0, 0, 0, 127, 18, 52, 86, 120, 0, 7] := by decide

theorem integers_round_trip_sample :
    ∃ filled opened left, sampleIntegers.foldlM Integer.append (create 2) = .ok filled ∧
      filled.toString = (create 2).toString ++ sampleIntegers.flatMap Integer.bytes ∧
      filled.retrieve (create 2).toString.length = .ok opened ∧
      opened.readIntegers (fun _ => 255) (sampleIntegers.map Integer.type) =
        .ok (sampleIntegers, left) ∧
      left.readableBytes = 0 :=
  (integers_round_trip (create 2) (create_valid 2) (fun _ => 255)).1 sampleIntegers

end Buffer

end FakeMuduo.Net
