import FakeMuduo.Base.Checked
import FakeMuduo.Base.Window
import FakeMuduo.Base.Search

/-! The growable byte buffer. Sizes and indices are unbounded: no call here is
made with sizes that wrap `size_t`. A pointer into the storage is its index. -/

namespace FakeMuduo.Net

open FakeMuduo.Base

abbrev Byte := UInt8

structure Buffer where
  buffer : List Byte
  readIndex : Nat
  writeIndex : Nat
  deriving DecidableEq, Repr

namespace Buffer

def kCheapPrepend : Nat := 8

def kInitialSize : Nat := 1024

def kCRLF : List Byte := [13, 10]

/-- The constructor. -/
def create (initialSize : Nat) : Buffer where
  buffer := List.replicate (kCheapPrepend + initialSize) 0
  readIndex := kCheapPrepend
  writeIndex := kCheapPrepend

/-- Both buffers after `lhs.swap(rhs)`. -/
def swap (lhs rhs : Buffer) : Buffer × Buffer :=
  ({ buffer := rhs.buffer, readIndex := rhs.readIndex, writeIndex := rhs.writeIndex },
   { buffer := lhs.buffer, readIndex := lhs.readIndex, writeIndex := lhs.writeIndex })

def readableBytes (buf : Buffer) : Nat := buf.writeIndex - buf.readIndex

def writableBytes (buf : Buffer) : Nat := buf.buffer.length - buf.writeIndex

def prependableBytes (buf : Buffer) : Nat := buf.readIndex

def peek (buf : Buffer) : Nat := buf.readIndex

def beginWrite (buf : Buffer) : Nat := buf.writeIndex

/-- The content of the readable part. -/
def toString (buf : Buffer) : List Byte := window buf.buffer buf.readIndex buf.readableBytes

/-- The first CRLF in the readable part. -/
def findCRLF (buf : Buffer) : Option Nat := (search kCRLF buf.toString).map (buf.peek + ·)

def retrieveAll (buf : Buffer) : Buffer :=
  { buf with readIndex := kCheapPrepend, writeIndex := kCheapPrepend }

def retrieve (buf : Buffer) (len : Nat) : Checked Buffer := do
  check "len <= readableBytes()" (len ≤ buf.readableBytes)
  if len < buf.readableBytes then
    return { buf with readIndex := buf.readIndex + len }
  else
    return buf.retrieveAll

def retrieveUntil (buf : Buffer) (stop : Nat) : Checked Buffer := do
  check "peek() <= end && end <= beginWrite()" (buf.peek ≤ stop ∧ stop ≤ buf.beginWrite)
  buf.retrieve (stop - buf.peek)

def retrieveAsString (buf : Buffer) (len : Nat) : Checked (List Byte × Buffer) := do
  check "len <= readableBytes()" (len ≤ buf.readableBytes)
  let result := window buf.buffer buf.peek len
  let rest ← buf.retrieve len
  return (result, rest)

def retrieveAllAsString (buf : Buffer) : Checked (List Byte × Buffer) :=
  buf.retrieveAsString buf.readableBytes

/-- `std::vector::resize`. -/
def resize (cells : List Byte) (size : Nat) : List Byte :=
  cells.take size ++ List.replicate (size - cells.length) 0

/-- The readable bytes copied down to the reserve. -/
def slid (buf : Buffer) : Buffer where
  buffer := copyForward buf.buffer buf.readIndex kCheapPrepend buf.readableBytes
  readIndex := kCheapPrepend
  writeIndex := kCheapPrepend + buf.readableBytes

/-- Make `len` bytes writable, by growing the storage or by sliding the readable
bytes down over the space already retrieved. -/
def makeSpace (buf : Buffer) (len : Nat) : Checked Buffer := do
  if buf.writableBytes + buf.prependableBytes < len + kCheapPrepend then
    return { buf with buffer := resize buf.buffer (buf.writeIndex + len) }
  else
    check "kCheapPrepend < read_index_" (kCheapPrepend < buf.readIndex)
    check "readable == readableBytes()" (buf.readableBytes = buf.slid.readableBytes)
    return buf.slid

def ensureWritableBytes (buf : Buffer) (len : Nat) : Checked Buffer := do
  let spacious ← if buf.writableBytes < len then buf.makeSpace len else pure buf
  check "writableBytes() >= len" (len ≤ spacious.writableBytes)
  return spacious

def hasWritten (buf : Buffer) (len : Nat) : Checked Buffer := do
  check "len <= writableBytes()" (len ≤ buf.writableBytes)
  return { buf with writeIndex := buf.writeIndex + len }

/-- The bytes a caller puts at `beginWrite()`. -/
def fill (buf : Buffer) (data : List Byte) : Buffer :=
  { buf with buffer := store buf.buffer buf.beginWrite data }

def append (buf : Buffer) (data : List Byte) : Checked Buffer := do
  let spacious ← buf.ensureWritableBytes data.length
  (spacious.fill data).hasWritten data.length

def prepend (buf : Buffer) (data : List Byte) : Checked Buffer := do
  check "len <= prependableBytes()" (data.length ≤ buf.prependableBytes)
  let start := buf.readIndex - data.length
  return { buf with readIndex := start, buffer := store buf.buffer start data }

def unWrite (buf : Buffer) (len : Nat) : Checked Buffer := do
  check "len <= readableBytes()" (len ≤ buf.readableBytes)
  return { buf with writeIndex := buf.writeIndex - len }

/-- Move the content to a new buffer; the old storage goes with the temporary. -/
def shrink (buf : Buffer) (reserve : Nat) : Checked Buffer := do
  let other ← (create kInitialSize).ensureWritableBytes (buf.readableBytes + reserve)
  let other ← other.append buf.toString
  return (buf.swap other).1

end Buffer

end FakeMuduo.Net
