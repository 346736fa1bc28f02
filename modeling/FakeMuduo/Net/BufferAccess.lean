import FakeMuduo.Net.BufferIntegers
import FakeMuduo.Net.BufferRead

/-! Which bytes of the storage are read when an integer is peeked. -/

namespace FakeMuduo.Net

open FakeMuduo.Base

namespace Buffer

namespace IntegerType

def sizeof : IntegerType → Nat
  | int8 => 1
  | int16 => 2
  | int32 => 4
  | int64 => 8

/-- The size of the temporary into which the bytes are copied. That of
`peekInt16` is an `int32_t`. -/
def copies : IntegerType → Nat
  | int8 => 1
  | int16 => 4
  | int32 => 4
  | int64 => 8

/-- The integer that the bytes copied are converted to. -/
def decode (bytes : List Byte) : IntegerType → Integer
  | int8 => .int8 (BitVec.ofNat 8 (ofBytes bytes))
  | int16 => .int16 (Sockets.hostToNetwork16 ((BitVec.ofNat 32 (ofBytes bytes)).setWidth 16))
  | int32 => .int32 (Sockets.hostToNetwork32 (BitVec.ofNat 32 (ofBytes bytes)))
  | int64 => .int64 (Sockets.networkToHost64 (BitVec.ofNat 64 (ofBytes bytes)))

end IntegerType

/-- The matching `peekIntN`. -/
def peekInteger (beyond : Nat → Byte) (buf : Buffer) : IntegerType → Checked Integer
  | .int8 => Integer.int8 <$> buf.peekInt8 beyond
  | .int16 => Integer.int16 <$> buf.peekInt16 beyond
  | .int32 => Integer.int32 <$> buf.peekInt32 beyond
  | .int64 => Integer.int64 <$> buf.peekInt64 beyond

/-- The indices of the bytes that the matching `peekIntN` copies. -/
def accesses (buf : Buffer) (type : IntegerType) : List Nat := buf.copied type.copies

/-- The bytes found there; `beyond` are those that stand in memory behind the storage. -/
def accessed (beyond : Nat → Byte) (buf : Buffer) (type : IntegerType) : List Byte :=
  (buf.accesses type).map fun index => buf.buffer.getD index (beyond index)

/-- Only bytes of the integer are read, and all of them lie in the storage. -/
def StaysInside (buf : Buffer) (type : IntegerType) : Prop :=
  ∀ index ∈ buf.accesses type,
    buf.readIndex ≤ index ∧ index < buf.readIndex + type.sizeof ∧ index < buf.buffer.length

section Access

variable {buf : Buffer} {type : IntegerType}

/-- Behind its assertion, `peekIntN` converts the bytes at the indices accessed. -/
theorem peekInteger_decodes (beyond : Nat → Byte) (readable : type.sizeof ≤ buf.readableBytes) :
    buf.peekInteger beyond type = .ok (type.decode (buf.accessed beyond type)) := by
  cases type with
  | int8 =>
    rw [peekInteger, peekInt8, check_pass _ (show 1 ≤ buf.readableBytes from readable)]
    rfl
  | int16 =>
    rw [peekInteger, peekInt16, check_pass _ (show 2 ≤ buf.readableBytes from readable)]
    rfl
  | int32 =>
    rw [peekInteger, peekInt32, check_pass _ (show 4 ≤ buf.readableBytes from readable)]
    rfl
  | int64 =>
    rw [peekInteger, peekInt64, check_pass _ (show 8 ≤ buf.readableBytes from readable)]
    rfl

/-- `readIntN` reads no byte that `peekIntN` does not. -/
theorem readInteger_peeks (beyond : Nat → Byte) (buf : Buffer) (type : IntegerType) :
    buf.readInteger beyond type = do
      let integer ← buf.peekInteger beyond type
      let rest ← buf.retrieve type.sizeof
      return (integer, rest) := by
  cases type with
  | int8 =>
    simp only [readInteger, readInt8, peekInteger, bind_assoc, map_eq_pure_bind, pure_bind]
    rfl
  | int16 =>
    simp only [readInteger, readInt16, peekInteger, bind_assoc, map_eq_pure_bind, pure_bind]
    rfl
  | int32 =>
    simp only [readInteger, readInt32, peekInteger, bind_assoc, map_eq_pure_bind, pure_bind]
    rfl
  | int64 =>
    simp only [readInteger, readInt64, peekInteger, bind_assoc, map_eq_pure_bind, pure_bind]
    rfl

theorem mem_accesses {index : Nat} :
    index ∈ buf.accesses type ↔ buf.readIndex ≤ index ∧ index < buf.readIndex + type.copies := by
  rw [accesses, copied, List.mem_map]
  constructor
  · rintro ⟨offset, inside, rfl⟩
    exact ⟨Nat.le_add_right _ _, Nat.add_lt_add_left (List.mem_range.mp inside) _⟩
  · rintro ⟨reached, inside⟩
    refine ⟨index - buf.readIndex, List.mem_range.mpr ?_, ?_⟩
    · omega
    · exact Nat.add_sub_cancel' reached

theorem IntegerType.copies_le_sizeof_iff (type : IntegerType) :
    type.copies ≤ type.sizeof ↔ type ≠ .int16 := by
  cases type <;> decide

/-- Peeking within the asserted precondition reads exactly the integer, except for one of 16 bits,
with which the two bytes behind it are read, wherever they lie. -/
theorem staysInside_iff (valid : buf.Valid) (readable : type.sizeof ≤ buf.readableBytes) :
    buf.StaysInside type ↔ type ≠ .int16 := by
  have ordered := valid.ordered
  have bounded := valid.bounded
  rw [readableBytes] at readable
  rw [← type.copies_le_sizeof_iff]
  constructor
  · intro stays
    by_contra wide
    have last := stays (buf.readIndex + type.sizeof)
      (mem_accesses.mpr ⟨Nat.le_add_right _ _, by omega⟩)
    exact Nat.lt_irrefl _ last.2.1
  · intro narrow index accessed
    obtain ⟨reached, inside⟩ := mem_accesses.mp accessed
    refine ⟨reached, ?_, ?_⟩
    · omega
    · omega

end Access

section Family

variable {ι : Type} [DecidableEq ι]

/-- In every run whose reads deliver no more than is writable, an integer that is there to be read
is peeked, and so read, from its own bytes, unless it has 16 bits. -/
theorem run_staysInside_iff (initialSize : ι → Nat) (activities : List (Activity ι))
    (buffers : ι → Buffer)
    (run : ((traffic ι).restrict fun buffers activity => activity.Fits buffers).Run
      (fun which => create (initialSize which)) activities buffers)
    (which : ι) (type : IntegerType) (readable : type.sizeof ≤ (buffers which).readableBytes) :
    ((buffers which).StaysInside type ↔ type ≠ .int16) ∧
      ∀ beyond,
        (buffers which).peekInteger beyond type =
          .ok (type.decode ((buffers which).accessed beyond type)) ∧
        (buffers which).readInteger beyond type = do
          let rest ← (buffers which).retrieve type.sizeof
          return (type.decode ((buffers which).accessed beyond type), rest) := by
  refine ⟨staysInside_iff (run_valid run which) readable, ?_⟩
  intro beyond
  have peeked := peekInteger_decodes beyond readable
  refine ⟨peeked, ?_⟩
  rw [readInteger_peeks, peeked, ok_bind]

instance (buf : Buffer) (type : IntegerType) : Decidable (buf.StaysInside type) :=
  inferInstanceAs (Decidable (∀ index ∈ buf.accesses type,
    buf.readIndex ≤ index ∧ index < buf.readIndex + type.sizeof ∧ index < buf.buffer.length))

/-- Bytes are read behind two others, and the two are retrieved. -/
def lastInteger (bytes : List Byte) : List (Activity Unit) :=
  [.call (.on () (.append [0, 0])), .readFd () (.delivered bytes), .call (.on () (.retrieve 2))]

/-- Four bytes are left, the last ones of the storage: an integer of 32 bits is peeked from them. -/
theorem run_staysInside_iff_last :
    ∃ buffers : Unit → Buffer,
      ((traffic Unit).restrict fun buffers activity => activity.Fits buffers).Run
        (fun _ => create 6)
        (lastInteger [1, 2, 3, 4]) buffers ∧
      (buffers ()).writeIndex = (buffers ()).buffer.length ∧ (buffers ()).readableBytes = 4 ∧
      (buffers ()).StaysInside .int32 ∧ ¬ (buffers ()).StaysInside .int16 := by
  have followed : (Machine.follow Activity.perform
      (fun buffers activity => decide (activity.Fits buffers ∧ activity.Possible buffers))
      (fun _ : Unit => create 6) (lastInteger [1, 2, 3, 4])).any (fun buffers =>
        decide ((buffers ()).writeIndex = (buffers ()).buffer.length ∧
          (buffers ()).readableBytes = 4)) = true := by
    decide +kernel
  obtain ⟨buffers, run, final⟩ := run_of_follow followed
  obtain ⟨full, four⟩ := of_decide_eq_true final
  have inside := run_staysInside_iff (fun _ => 6) (lastInteger [1, 2, 3, 4]) buffers run ()
  refine ⟨buffers, run, full, four, (inside .int32 ?_).1.mpr ?_, ?_⟩
  · rw [four]
    decide
  · decide
  · rw [(inside .int16 (by rw [four]; decide)).1]
    decide

/-- With the last two bytes of the storage, two behind the storage are read. After a read of more
than was writable, even a single byte is peeked from behind it. -/
theorem peekInteger_overruns :
    (∃ buffers : Unit → Buffer,
      ((traffic Unit).restrict fun buffers activity => activity.Fits buffers).Run
        (fun _ => create 4)
        (lastInteger [7, 8]) buffers ∧
      IntegerType.int16.sizeof ≤ (buffers ()).readableBytes ∧
      (buffers ()).writeIndex = (buffers ()).buffer.length ∧ ¬ (buffers ()).StaysInside .int16) ∧
    ∃ buffers : Unit → Buffer,
      (traffic Unit).Run (fun _ => create 2) (lastInteger [7]) buffers ∧
      IntegerType.int8.sizeof ≤ (buffers ()).readableBytes ∧ ¬ (buffers ()).StaysInside .int8 := by
  constructor
  · have followed : (Machine.follow Activity.perform
        (fun buffers activity => decide (activity.Fits buffers ∧ activity.Possible buffers))
        (fun _ : Unit => create 4) (lastInteger [7, 8])).any (fun buffers =>
          decide (IntegerType.int16.sizeof ≤ (buffers ()).readableBytes ∧
            (buffers ()).writeIndex = (buffers ()).buffer.length ∧
              ¬ (buffers ()).StaysInside .int16)) = true := by
      decide +kernel
    obtain ⟨buffers, run, final⟩ := run_of_follow followed
    exact ⟨buffers, run, of_decide_eq_true final⟩
  · have followed :
        (Machine.follow Activity.perform (fun buffers activity =>
        decide (activity.Possible buffers))
        (fun _ : Unit => create 2) (lastInteger [7])).any (fun buffers =>
          decide (IntegerType.int8.sizeof ≤ (buffers ()).readableBytes ∧
            ¬ (buffers ()).StaysInside .int8)) = true := by
      decide +kernel
    obtain ⟨buffers, run, final⟩ := Machine.Run.ofFollowAny (traffic Unit)
      (fun allowed performed => ⟨of_decide_eq_true allowed, performed⟩) followed
    exact ⟨buffers, run, of_decide_eq_true final⟩

end Family

end Buffer

end FakeMuduo.Net
