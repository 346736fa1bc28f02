import FakeMuduo.Net.BufferInvariant
import FakeMuduo.Util.Log

/-! Reading from a descriptor into a buffer, with a second part on the stack
for what does not fit. -/

namespace FakeMuduo.Net

open FakeMuduo.Base FakeMuduo.Util

/-- The answer of `::readv`: the bytes it has put into the parts, one part after
the other, or its error. -/
inductive ReadvAnswer where
  | delivered (data : List Byte)
  | failed (errno : Errno)
  deriving DecidableEq, Repr

/-- How many bytes were delivered. -/
def ReadvAnswer.length : ReadvAnswer → Nat
  | delivered data => data.length
  | failed _ => 0

namespace Buffer

/-- `sizeof(extraBuf)`. -/
def kExtraBufSize : Nat := 65536

def iovCnt (buf : Buffer) : Nat := if buf.writableBytes < kExtraBufSize then 2 else 1

/-- The length of the parts passed. -/
def iovLength (buf : Buffer) : Nat :=
  if buf.iovCnt = 2 then buf.writableBytes + kExtraBufSize else buf.writableBytes

/-- What `readFd` returns, `*savedErrno` and the buffer. The source compares `writable` with
itself, so that its last branch is never taken. -/
def readFd (buf : Buffer) (savedErrno : Errno) : ReadvAnswer → Checked (Int × Errno × Buffer)
  | .failed errno => .ok (-1, errno, buf)
  | .delivered data => do
    let writable := buf.writableBytes
    let filled := buf.fill (data.take writable)
    let extraBuf := data.drop writable
    if writable ≤ writable then
      return (data.length, savedErrno,
        { filled with writeIndex := filled.writeIndex + data.length })
    else
      let appended ← { filled with writeIndex := filled.buffer.length }.append extraBuf
      return (data.length, savedErrno, appended)

/-- The call appends exactly what was read, or leaves the buffer as it was and tells the error. -/
def ReadsExactly (buf : Buffer) (savedErrno : Errno) (answer : ReadvAnswer) : Prop :=
  ∃ n errno after, buf.readFd savedErrno answer = .ok (n, errno, after) ∧
    match answer with
    | .delivered data => n = data.length ∧ after.toString = buf.toString ++ data ∧
        after.readIndex ≤ after.writeIndex ∧ after.writeIndex ≤ after.buffer.length
    | .failed failure => n < 0 ∧ errno = failure ∧ after = buf

theorem readFd_delivered (buf : Buffer) (savedErrno : Errno) (data : List Byte) :
    buf.readFd savedErrno (.delivered data) = .ok (data.length, savedErrno,
      { buf.fill (data.take buf.writableBytes) with
        writeIndex := buf.writeIndex + data.length }) := by
  rw [readFd, if_pos (Nat.le_refl _)]
  rfl

/-- What fits is appended as `append` would do it. -/
theorem readFd_fits (valid : Valid buf) (savedErrno : Errno)
    (fits : data.length ≤ buf.writableBytes) :
    ∃ after, buf.readFd savedErrno (.delivered data) =
      .ok (data.length, savedErrno, after) ∧ after.Valid ∧
      after.toString = buf.toString ++ data := by
  obtain ⟨after, returned, afterValid, content⟩ := hasWritten_returns valid fits
  obtain ⟨_, written⟩ := check_bind_eq_ok.mp returned
  cases written
  refine ⟨_, ?_, afterValid, content⟩
  rw [readFd_delivered, List.take_of_length_le fits]
  rfl

/-- The write index is behind the storage, where no byte has arrived. -/
structure Spilled (buf : Buffer) : Prop where
  inside : buf.readIndex ≤ buf.buffer.length
  outside : buf.buffer.length < buf.writeIndex

theorem Spilled.toString_eq (spilled : Spilled buf) :
    buf.toString = buf.buffer.drop buf.readIndex := by
  have outside := spilled.outside
  refine List.take_of_length_le ?_
  rw [List.length_drop, readableBytes]
  omega

/-- What was lost does not come back, and the indices are never set back. -/
theorem spilled_retrieves : Retrieves Spilled := by
  intro buf offset spilled within
  have inside := spilled.inside
  have outside := spilled.outside
  have content := spilled.toString_eq
  rw [content, List.length_drop] at within
  have reached : buf.peek ≤ buf.peek + offset ∧ buf.peek + offset ≤ buf.beginWrite := by
    simp only [peek, beginWrite]
    omega
  have fewer : offset < buf.readableBytes := by
    rw [readableBytes]
    omega
  have left : Spilled { buf with readIndex := buf.readIndex + offset } := by
    refine ⟨?_, outside⟩
    dsimp only
    omega
  refine ⟨_, ?_, left, ?_⟩
  · rw [retrieveUntil, check_pass _ reached, ok_bind, Nat.add_sub_cancel_left, retrieve,
      check_pass _ (Nat.le_of_lt fewer), ok_bind, if_pos fewer]
    rfl
  · rw [left.toString_eq, content, List.drop_drop]

/-- What does not fit leaves the write index behind the storage. -/
theorem readFd_spills (valid : Valid buf) (savedErrno : Errno)
    (spills : buf.writableBytes < data.length) :
    ∃ after, buf.readFd savedErrno (.delivered data) =
      .ok (data.length, savedErrno, after) ∧ after.Spilled ∧
      after.toString = buf.toString ++ data.take buf.writableBytes := by
  have length : (data.take buf.writableBytes).length = buf.writableBytes :=
    List.length_take_of_le (Nat.le_of_lt spills)
  obtain ⟨full, returned, fullValid, content⟩ := hasWritten_returns valid (Nat.le_of_eq length)
  obtain ⟨_, written⟩ := check_bind_eq_ok.mp returned
  cases written
  have ordered := valid.ordered
  have bounded := valid.bounded
  have spilled : Spilled { buf.fill (data.take buf.writableBytes) with
      writeIndex := buf.writeIndex + data.length } := by
    simp only [writableBytes] at spills
    refine ⟨?_, ?_⟩
    · simp only [fill, store_length]
      omega
    · simp only [fill, store_length]
      omega
  refine ⟨_, readFd_delivered buf savedErrno data, spilled, ?_⟩
  rw [← content, spilled.toString_eq]
  refine (List.take_of_length_le ?_).symm
  simp only [writableBytes] at length
  simp only [fill, List.length_drop, store_length, readableBytes, writableBytes, length]
  omega

theorem Spilled.readFd (spilled : Spilled buf) (savedErrno : Errno) (data : List Byte) :
    ∃ after, buf.readFd savedErrno (.delivered data) =
      .ok (data.length, savedErrno, after) ∧ after.Spilled ∧
      after.toString = buf.toString := by
  have outside := spilled.outside
  have none : buf.writableBytes = 0 := Nat.sub_eq_zero_of_le (Nat.le_of_lt outside)
  have after : Spilled { buf with writeIndex := buf.writeIndex + data.length } := by
    refine ⟨spilled.inside, ?_⟩
    dsimp only
    omega
  refine ⟨_, ?_, after, ?_⟩
  · rw [readFd_delivered, none]
    rfl
  · rw [after.toString_eq, spilled.toString_eq]

theorem readsExactly_iff (valid : Valid buf) (savedErrno : Errno) (answer : ReadvAnswer) :
    buf.ReadsExactly savedErrno answer ↔ answer.length ≤ buf.writableBytes := by
  cases answer with
  | failed errno =>
    exact ⟨fun _ => Nat.zero_le _, fun _ => ⟨-1, errno, buf, rfl, by decide, rfl, rfl⟩⟩
  | delivered data =>
    constructor
    · rintro ⟨n, errno, after, returned, _, _, _, bounded⟩
      by_contra spills
      obtain ⟨after, read, spilled, _⟩ := readFd_spills valid savedErrno (Nat.lt_of_not_le spills)
      cases read.symm.trans returned
      exact absurd bounded (Nat.not_le.mpr spilled.outside)
    · intro fits
      obtain ⟨after, returned, afterValid, content⟩ := readFd_fits valid savedErrno fits
      exact ⟨_, _, after, returned, rfl, content, afterValid.ordered, afterValid.bounded⟩

section Family

variable {ι : Type} [DecidableEq ι]

/-- A call on a family of buffers, or a read into one of them. -/
inductive Activity (ι : Type) where
  | call (call : Call ι)
  | readFd (which : ι) (answer : ReadvAnswer)

namespace Activity

def perform (buffers : ι → Buffer) : Activity ι → Checked (ι → Buffer)
  | call made => made.perform buffers
  | readFd which answer => do
    let (_, _, result) ← (buffers which).readFd 0 answer
    return Function.update buffers which result

/-- Calls are made within their asserted preconditions, and the kernel fills no
more than the parts passed. -/
def Possible (buffers : ι → Buffer) : Activity ι → Prop
  | call made => made.Permitted buffers
  | readFd which answer => answer.length ≤ (buffers which).iovLength

/-- A read delivers no more than is writable. -/
def Fits (buffers : ι → Buffer) : Activity ι → Prop
  | call _ => True
  | readFd which answer => answer.length ≤ (buffers which).writableBytes

theorem perform_valid {buffers after : ι → Buffer} (valid : ∀ which, (buffers which).Valid)
    {activity : Activity ι} (possible : activity.Possible buffers) (fits : activity.Fits buffers)
    (performed : activity.perform buffers = .ok after) : ∀ which, (after which).Valid := by
  cases activity with
  | call made =>
    have represents : Represents buffers (fun which => (buffers which).toString) :=
      fun which => ⟨valid which, rfl⟩
    obtain ⟨result, returned, kept⟩ := made.perform_represents represents possible
    cases returned.symm.trans performed
    exact fun which => (kept which).1
  | readFd which answer =>
    obtain ⟨⟨n, errno, result⟩, read, updated⟩ := bind_eq_ok.mp performed
    cases updated
    have resultValid : result.Valid := by
      cases answer with
      | failed failure =>
        cases read
        exact valid which
      | delivered data =>
        obtain ⟨filled, returned, filledValid, _⟩ := readFd_fits (valid which) 0 fits
        cases returned.symm.trans read
        exact filledValid
    intro other
    by_cases same : other = which
    · subst same
      simpa using resultValid
    · simpa [same] using valid other

end Activity

def traffic (ι : Type) [DecidableEq ι] : Machine (ι → Buffer) (Activity ι) :=
  (Machine.ofFunction Activity.perform).restrict fun buffers activity => activity.Possible buffers

theorem run_valid {initialSize : ι → Nat} {activities : List (Activity ι)} {buffers : ι → Buffer}
    (run : ((traffic ι).restrict fun buffers activity => activity.Fits buffers).Run
      (fun which => create (initialSize which)) activities buffers) : ∀ which,
        (buffers which).Valid := by
  refine run.invariant (fun _ buffers => ∀ which, (buffers which).Valid)
    (fun which => create_valid _) ?_
  rintro _ current activity after kept ⟨fits, possible, performed⟩
  exact activity.perform_valid kept possible fits performed

/-- In every run whose reads deliver no more than is writable, a further read appends exactly
what was read if and only if it delivers no more than is writable either. -/
theorem readsExactly_iff_fits (initialSize : ι → Nat) (activities : List (Activity ι))
    (buffers : ι → Buffer)
    (run : ((traffic ι).restrict fun buffers activity => activity.Fits buffers).Run
      (fun which => create (initialSize which)) activities buffers)
    (which : ι) (savedErrno : Errno) (answer : ReadvAnswer) :
    (buffers which).ReadsExactly savedErrno answer ↔
      answer.length ≤ (buffers which).writableBytes :=
  readsExactly_iff (run_valid run which) savedErrno answer

instance (buffers : ι → Buffer) : DecidablePred (Activity.Possible buffers)
  | .call made => inferInstanceAs (Decidable (made.Permitted buffers))
  | .readFd which answer => inferInstanceAs (Decidable (answer.length ≤ (buffers which).iovLength))

instance (buffers : ι → Buffer) : DecidablePred (Activity.Fits buffers)
  | .call _ => inferInstanceAs (Decidable True)
  | .readFd which answer =>
    inferInstanceAs (Decidable (answer.length ≤ (buffers which).writableBytes))

theorem run_of_follow {start : ι → Buffer} {activities : List (Activity ι)}
    {found : (ι → Buffer) → Bool} (followed : (Machine.follow Activity.perform
      (fun buffers activity => decide (activity.Fits buffers ∧ activity.Possible buffers)) start
      activities).any found = true) :
    ∃ buffers, ((traffic ι).restrict fun buffers activity =>
      activity.Fits buffers).Run start activities buffers ∧
      found buffers = true := by
  refine Machine.Run.ofFollowAny _ ?_ followed
  intro buffers activity after allowed performed
  obtain ⟨fits, possible⟩ := of_decide_eq_true allowed
  exact ⟨fits, possible, performed⟩

/-- A read that fills the buffer, a failed one, and the content retrieved in part. -/
def fullReads : List (Activity Unit) :=
  [.readFd () (.delivered [1, 2]), .readFd () (.failed EWOULDBLOCK), .call (.on () (.retrieve 1))]

/-- After a read up to the end of the storage, a read of nothing is exact and one of
a byte is not. -/
theorem readsExactly_iff_fits_full :
    ∃ buffers : Unit → Buffer,
      ((traffic Unit).restrict fun buffers activity => activity.Fits buffers).Run
        (fun _ => create 2) fullReads
        buffers ∧
      (buffers ()).ReadsExactly 0 (.delivered []) ∧
        ¬ (buffers ()).ReadsExactly 0 (.delivered [3]) := by
  have followed : (Machine.follow Activity.perform
      (fun buffers activity => decide (activity.Fits buffers ∧ activity.Possible buffers))
      (fun _ : Unit => create 2) fullReads).any (fun buffers =>
        decide ((buffers ()).writableBytes = 0)) = true := by
    decide +kernel
  obtain ⟨buffers, run, final⟩ := run_of_follow followed
  have full := of_decide_eq_true final
  have exactly := readsExactly_iff_fits (fun _ => 2) fullReads buffers run () 0
  refine ⟨buffers, run, (exactly _).mpr (Nat.zero_le _), ?_⟩
  rw [exactly, full]
  decide

end Family

theorem create_writableBytes (initialSize : Nat) :
    (create initialSize).writableBytes = initialSize := by
  rw [writableBytes, create, List.length_replicate, Nat.add_sub_cancel_left]

/-- One byte more than a new buffer has room for. -/
def longMessage : List Byte := List.replicate (kInitialSize + 1) 0

theorem readFd_overruns :
    (ReadvAnswer.delivered longMessage).length ≤ (create kInitialSize).iovLength ∧
      ¬ (create kInitialSize).ReadsExactly 0 (.delivered longMessage) := by
  have length : (ReadvAnswer.delivered longMessage).length = 1025 := List.length_replicate
  rw [readsExactly_iff (create_valid _), iovLength, iovCnt, create_writableBytes, length]
  decide

end Buffer

end FakeMuduo.Net
