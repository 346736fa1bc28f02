import FakeMuduo.Base.Bytes
import FakeMuduo.Base.Checked
import FakeMuduo.Base.Window
import FakeMuduo.Util.Log
import FakeMuduo.Util.TimeStamp

/-! A log line: its operands are stored as raw bytes when they are inserted, and printed only
when the line is written out. -/

namespace FakeMuduo.Util

open FakeMuduo.Base

namespace LogLine

/-- The memory that string views point into; it does not change. -/
abbrev Memory := BitVec 64 → UInt8

structure StringView where
  data : BitVec 64
  size : BitVec 64
  deriving DecidableEq, Repr

namespace StringView

def text (memory : Memory) (view : StringView) : Text :=
  (List.range view.size.toNat).map fun index => memory (view.data + BitVec.ofNat 64 index)

/-- The length comes first. -/
def bytes (view : StringView) : Text := toBytes 8 view.size.toNat ++ toBytes 8 view.data.toNat

def ofData (bytes : Text) : StringView :=
  ⟨BitVec.ofNat 64 (ofBytes (bytes.drop 8)), BitVec.ofNat 64 (ofBytes (bytes.take 8))⟩

end StringView

/-- A `const char *` whose first NUL is at `length`. -/
structure CString (memory : Memory) where
  data : BitVec 64
  length : BitVec 64
  terminated : memory (data + length) = 0
  filled : ∀ index < length.toNat, memory (data + BitVec.ofNat 64 index) ≠ 0

/-- `std::string_view(const char *)`. -/
def CString.view {memory : Memory} (string : CString memory) : StringView :=
  ⟨string.data, string.length⟩

inductive SupportedTypes where
  | kChar | kUInt32 | kUInt64 | kInt32 | kInt64 | kDouble | kStrView | kRawStr
  deriving DecidableEq, Repr

def SupportedTypes.code : SupportedTypes → UInt8
  | .kChar => 0
  | .kUInt32 => 1
  | .kUInt64 => 2
  | .kInt32 => 3
  | .kInt64 => 4
  | .kDouble => 5
  | .kStrView => 6
  | .kRawStr => 7

def SupportedTypes.ofCode : UInt8 → Option SupportedTypes
  | 0 => some .kChar
  | 1 => some .kUInt32
  | 2 => some .kUInt64
  | 3 => some .kInt32
  | 4 => some .kInt64
  | 5 => some .kDouble
  | 6 => some .kStrView
  | 7 => some .kRawStr
  | _ => none

/-- What `operator<<` is given; a `double` by its bits. -/
inductive Operand (memory : Memory) where
  | char (byte : UInt8)
  | int32 (value : BitVec 32)
  | uint32 (value : BitVec 32)
  | int64 (value : BitVec 64)
  | uint64 (value : BitVec 64)
  | double (bits : BitVec 64)
  | pointer (address : BitVec 64)
  | string (text : Text)
  | stringView (view : StringView)
  | cString (string : CString memory)

/-- What the constructor puts first into a line. -/
structure Header (memory : Memory) where
  timestamp : TimeStamp
  threadId : BitVec 32
  level : LogLevel
  file : CString memory
  func : CString memory
  line : BitVec 32
  oldErrno : BitVec 32

/-- How the C library writes what is not written here. -/
structure Printer where
  localtime : Int → Text
  strerror : Int → Text
  double : BitVec 64 → Text

end LogLine

structure LogLine where
  usedBytes : Nat
  bufferSize : Nat
  heapBuffer : Option Text
  stackBuffer : Text
  deriving DecidableEq, Repr

namespace LogLine

def kLogLineSize : Nat := 128

def kStackBufferSize : Nat := kLogLineSize - 8 * 2 - 8

def storage (line : LogLine) : Text := line.heapBuffer.getD line.stackBuffer

/-- The bytes of the storage in use are replaced. -/
def setStorage (line : LogLine) (bytes : Text) : LogLine :=
  match line.heapBuffer with
  | some _ => { line with heapBuffer := some bytes }
  | none => { line with stackBuffer := bytes }

/-- A store at `buffer()`, which moves the end of the used bytes. -/
def put (line : LogLine) (bytes : Text) : Checked LogLine :=
  if line.usedBytes + bytes.length ≤ line.storage.length then
    .ok { line.setStorage (store line.storage line.usedBytes bytes) with
      usedBytes := line.usedBytes + bytes.length }
  else
    .error .danglingReference

/-- What `new char[size]` holds at an offset. No two buffers of a line have the same size. -/
abbrev Junk := Nat → Nat → UInt8

/-- `new char[size]` with the first bytes copied from `source`. -/
def newBuffer (junk : Junk) (size : Nat) (source : Text) (count : Nat) : Text :=
  store ((List.range size).map (junk size)) 0 (source.take count)

def resizeBufferIfNeeded (junk : Junk) (line : LogLine) (neededBytes : Nat) : LogLine :=
  let requiredSize := line.usedBytes + neededBytes
  if requiredSize ≤ line.bufferSize then line
  else
    match line.heapBuffer with
    | none =>
      let bufferSize := max 512 requiredSize
      { line with
        bufferSize,
        heapBuffer := some (newBuffer junk bufferSize line.stackBuffer line.usedBytes) }
    | some heapBuffer =>
      let bufferSize := max (2 * line.bufferSize) requiredSize
      { line with
        bufferSize, heapBuffer := some (newBuffer junk bufferSize heapBuffer line.usedBytes) }

/-- `encode(type, t)`, for a `t` of the given bytes. -/
def encode (junk : Junk) (line : LogLine) (type : SupportedTypes) (bytes : Text) :
    Checked LogLine := do
  let line := line.resizeBufferIfNeeded junk (1 + bytes.length)
  let line ← line.put [type.code]
  line.put bytes

def encodeStrView (junk : Junk) (line : LogLine) (view : StringView) : Checked LogLine :=
  line.encode junk .kStrView view.bytes

/-- `encodeString` of the text before the first NUL. -/
def encodeString (junk : Junk) (line : LogLine) (text : Text) : Checked LogLine :=
  if text.length = 0 then .ok line
  else (line.resizeBufferIfNeeded junk (1 + text.length + 1)).put
    (SupportedTypes.kRawStr.code :: text ++ [0])

/-- The bytes of `c_str()` up to the terminator that `std::string_view(const char *)` finds. -/
def cStr (text : Text) : Text := text.takeWhile (· != 0)

/-- `operator<<`. -/
def insert {memory : Memory} (junk : Junk) (line : LogLine) : Operand memory → Checked LogLine
  | .char byte => line.encode junk .kChar [byte]
  | .int32 value => line.encode junk .kInt32 (toBytes 4 value.toNat)
  | .uint32 value => line.encode junk .kUInt32 (toBytes 4 value.toNat)
  | .int64 value => line.encode junk .kInt64 (toBytes 8 value.toNat)
  | .uint64 value => line.encode junk .kUInt64 (toBytes 8 value.toNat)
  | .double bits => line.encode junk .kDouble (toBytes 8 bits.toNat)
  | .pointer address => line.encode junk .kUInt64 (toBytes 8 address.toNat)
  | .string text => line.encodeString junk (cStr text)
  | .stringView view => line.encodeStrView junk view
  | .cString string => line.encodeStrView junk string.view

/-- A line with nothing in it. -/
def empty : LogLine where
  usedBytes := 0
  bufferSize := kStackBufferSize
  heapBuffer := none
  stackBuffer := List.replicate kStackBufferSize 0

def create {memory : Memory} (header : Header memory) : Checked LogLine := do
  let line ← empty.put (toBytes 8 header.timestamp.timeSinceEpoch.toNat)
  let line ← line.put (toBytes 4 header.threadId.toNat)
  let line ← line.put [UInt8.ofNat header.level.value]
  let line ← line.put header.file.view.bytes
  let line ← line.put header.func.view.bytes
  let line ← line.put (toBytes 4 header.line.toNat)
  line.put (toBytes 4 header.oldErrno.toNat)

def insertAll {memory : Memory} (junk : Junk) (line : LogLine) (operands : List (Operand memory)) :
    Checked LogLine :=
  operands.foldlM (insert junk) line

/-- What `std::ostream` prints for an integer. -/
def signed (number : Int) : Text := if number < 0 then 45 :: decimal number.natAbs
    else decimal number.natAbs

def levelOfByte : UInt8 → Option LogLevel
  | 0 => some .kCLOSE
  | 1 => some .kFATAL
  | 2 => some .kINFO
  | 3 => some .kWARN
  | 4 => some .kERROR
  | 5 => some .kDEBUG
  | _ => none

def logLevelToString : Option LogLevel → Text
  | some .kINFO => ascii "INFO"
  | some .kWARN => ascii "WARN"
  | some .kERROR => ascii "ERROR"
  | some .kDEBUG => ascii "DEBUG"
  | some .kFATAL => ascii "FATAL"
  | some .kCLOSE => ascii "CLOSE"
  | none => ascii "UNKNOWN"

/-- The text behind the last slash. -/
def basename (path : Text) : Text := (path.reverse.takeWhile (· != 47)).reverse

/-- A load of `size` bytes. -/
def load (storage : Text) (b size : Nat) : Checked Text :=
  if b + size ≤ storage.length then .ok (window storage b size) else .error .danglingReference

def loadWord (bits : Nat) (storage : Text) (b : Nat) : Checked (BitVec bits) := do
  let bytes ← load storage b (bits / 8)
  return BitVec.ofNat bits (ofBytes bytes)

def loadView (storage : Text) (b : Nat) : Checked StringView := do
  let bytes ← load storage b 16
  return .ofData bytes

/-- The text up to the first NUL; there has to be one. -/
def loadRawStr (storage : Text) (b : Nat) : Checked Text :=
  if 0 ∈ storage.drop b then .ok ((storage.drop b).takeWhile (· != 0))
  else .error .danglingReference

/-- What one operand prints, and where the next one starts. -/
def decode (memory : Memory) (printer : Printer) (storage : Text) (b : Nat) :
    SupportedTypes → Checked (Text × Nat)
  | .kChar => do
    let bytes ← load storage b 1
    return (bytes, b + 1)
  | .kInt32 => do
    let value ← loadWord 32 storage b
    return (signed value.toInt, b + 4)
  | .kInt64 => do
    let value ← loadWord 64 storage b
    return (signed value.toInt, b + 8)
  | .kUInt32 => do
    let value ← loadWord 32 storage b
    return (decimal value.toNat, b + 4)
  | .kUInt64 => do
    let value ← loadWord 64 storage b
    return (decimal value.toNat, b + 8)
  | .kDouble => do
    let value ← loadWord 64 storage b
    return (printer.double value, b + 8)
  | .kStrView => do
    let view ← loadView storage b
    return (view.text memory, b + 16)
  | .kRawStr => do
    let text ← loadRawStr storage b
    return (text, b + text.length + 1)

/-- `stringify(os, b, end)`: the loop over the operands. -/
def stringifyOperands (memory : Memory) (printer : Printer) (storage : Text) («end» : Nat) :
    Nat → Nat → Checked Text
  | 0, _ => .error .outOfFuel
  | fuel + 1, b =>
    if b < «end» then do
      let tag ← load storage b 1
      match tag.head?.bind SupportedTypes.ofCode with
      | none => return []
      | some type =>
        let (text, next) ← decode memory printer storage (b + 1) type
        let rest ← stringifyOperands memory printer storage «end» fuel next
        return text ++ rest
    else
      return []

/-- What was written to the stream, the thread's `errno` afterwards, and whether
the process is then aborted. -/
structure Output where
  text : Text
  errno : Int
  aborts : Bool
  deriving DecidableEq, Repr

def stringify (memory : Memory) (printer : Printer) (line : LogLine) (errno : Int) :
    Checked Output := do
  let storage := line.storage
  let timestamp ← loadWord 64 storage 0
  let threadId ← loadWord 32 storage 8
  let level ← load storage 12 1
  let file ← loadView storage 13
  let func ← loadView storage 29
  let lineNumber ← loadWord 32 storage 45
  let oldErrno ← loadWord 32 storage 49
  let logLevel := level.head?.bind levelOfByte
  let start := TimeStamp.toString printer.localtime ⟨timestamp⟩ ++ ascii " " ++
    signed threadId.toInt ++
    ascii " [" ++ logLevelToString logLevel ++ ascii "] <" ++ func.text memory ++ ascii "> "
  let error := if oldErrno.toInt ≠ 0 then ascii "(" ++ printer.strerror oldErrno.toInt ++
    ascii ") " else []
  let errno := if oldErrno.toInt ≠ 0 then 0 else errno
  let operands ← stringifyOperands memory printer storage line.usedBytes (line.usedBytes + 1) 53
  let trailer := ascii " - " ++ basename (file.text memory) ++ ascii ":" ++
    decimal lineNumber.toNat ++ ascii "\n"
  return {
    text := start ++ error ++ operands ++ trailer, errno,
    aborts := decide (logLevel = some .kFATAL) }

/-- Every line ends in a line feed, so none is printed as nothing. -/
theorem stringify_nonempty {memory : Memory} {printer : Printer} {line : LogLine} {errno : Int}
    {output : Output} (printed : line.stringify memory printer errno = .ok output) :
    output.text ≠ [] := by
  simp only [stringify, bind_eq_ok] at printed
  obtain ⟨_, _, _, _, _, _, _, _, _, _, _, _, _, _, _, _, returned⟩ := printed
  cases returned
  simp [ascii]

end LogLine

end FakeMuduo.Util
