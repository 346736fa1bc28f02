import FakeMuduo.Base.Machine
import FakeMuduo.Net.Buffer

namespace FakeMuduo.Net.Buffer

open FakeMuduo.Base

/-- The index discipline every call relies on and restores. -/
structure Valid (buf : Buffer) : Prop where
  cheap : kCheapPrepend ≤ buf.buffer.length
  ordered : buf.readIndex ≤ buf.writeIndex
  bounded : buf.writeIndex ≤ buf.buffer.length

instance (buf : Buffer) : Decidable buf.Valid :=
  decidable_of_iff (kCheapPrepend ≤ buf.buffer.length ∧ buf.readIndex ≤ buf.writeIndex ∧
    buf.writeIndex ≤ buf.buffer.length)
    ⟨fun ⟨cheap, ordered, bounded⟩ => ⟨cheap, ordered, bounded⟩,
      fun ⟨cheap, ordered, bounded⟩ => ⟨cheap, ordered, bounded⟩⟩

/-- The call returns a valid buffer that holds `content`. -/
def Returns (call : Checked Buffer) (content : List Byte) : Prop :=
  ∃ result, call = .ok result ∧ result.Valid ∧ result.toString = content

theorem toString_length (valid : Valid buf) : buf.toString.length = buf.readableBytes := by
  apply window_length
  have ordered := valid.ordered
  have bounded := valid.bounded
  simp only [readableBytes]
  omega

theorem toString_of_empty {buf : Buffer} (empty : buf.readableBytes = 0) : buf.toString = [] := by
  simp [toString, empty]

theorem create_valid (initialSize : Nat) : (create initialSize).Valid := by
  constructor <;> simp [create]

@[simp] theorem create_toString (initialSize : Nat) : (create initialSize).toString = [] :=
  toString_of_empty (by simp [create, readableBytes])

theorem retrieveAll_valid (valid : Valid buf) : buf.retrieveAll.Valid where
  cheap := valid.cheap
  ordered := Nat.le_refl _
  bounded := valid.cheap

@[simp] theorem retrieveAll_toString (buf : Buffer) : buf.retrieveAll.toString = [] :=
  toString_of_empty (by simp [retrieveAll, readableBytes])

theorem retrieve_returns (valid : Valid buf) (enough : len ≤ buf.readableBytes) :
    Returns (buf.retrieve len) (buf.toString.drop len) := by
  have ordered := valid.ordered
  simp only [retrieve, check_pass _ enough, ok_bind]
  split
  · rename_i fewer
    refine ⟨_, rfl, ⟨valid.cheap, ?_, valid.bounded⟩, ?_⟩
    · simp only [readableBytes] at fewer ⊢
      omega
    · have split : buf.readableBytes = len + (buf.writeIndex - (buf.readIndex + len)) := by
        simp only [readableBytes] at fewer ⊢
        omega
      rw [toString, toString, split, window_drop]
      rfl
  · rename_i exhausted
    refine ⟨_, rfl, retrieveAll_valid valid, ?_⟩
    rw [retrieveAll_toString, List.drop_of_length_le]
    rw [toString_length valid]
    omega

theorem retrieveUntil_returns (valid : Valid buf) (enough : offset ≤ buf.readableBytes) :
    Returns (buf.retrieveUntil (buf.peek + offset)) (buf.toString.drop offset) := by
  have ordered := valid.ordered
  have inside : buf.peek ≤ buf.peek + offset ∧ buf.peek + offset ≤ buf.beginWrite := by
    simp only [readableBytes, peek, beginWrite] at enough ⊢
    omega
  simpa only [retrieveUntil, check_pass _ inside, ok_bind, Nat.add_sub_cancel_left] using
    retrieve_returns valid enough

/-- Retrieving a part of the content keeps the property and leaves the rest of the content. -/
def Retrieves (Good : Buffer → Prop) : Prop :=
  ∀ {buf : Buffer} {offset : Nat}, Good buf → offset ≤ buf.toString.length →
    ∃ rest, buf.retrieveUntil (buf.peek + offset) = .ok rest ∧ Good rest ∧
      rest.toString = buf.toString.drop offset

theorem valid_retrieves : Retrieves Valid := by
  intro buf offset valid inside
  rw [toString_length valid] at inside
  exact retrieveUntil_returns valid inside

theorem retrieveAsString_returns (valid : Valid buf) (enough : len ≤ buf.readableBytes) :
    ∃ rest, buf.retrieveAsString len = .ok (buf.toString.take len, rest) ∧ rest.Valid ∧
      rest.toString = buf.toString.drop len := by
  obtain ⟨rest, returned, restValid, content⟩ := retrieve_returns valid enough
  refine ⟨rest, ?_, restValid, content⟩
  simp only [retrieveAsString, check_pass _ enough, ok_bind, returned, toString, peek,
    window_take _ _ _ _ enough]
  rfl

theorem retrieveAllAsString_returns (valid : Valid buf) :
    ∃ rest, buf.retrieveAllAsString = .ok (buf.toString, rest) ∧ rest.Valid ∧
      rest.toString = [] := by
  obtain ⟨rest, returned, restValid, content⟩ :=
    retrieveAsString_returns valid (Nat.le_refl buf.readableBytes)
  have whole := toString_length valid
  rw [List.take_of_length_le (Nat.le_of_eq whole)] at returned
  rw [List.drop_of_length_le (Nat.le_of_eq whole)] at content
  exact ⟨rest, returned, restValid, content⟩

theorem resize_length (cells : List Byte) (size : Nat) : (resize cells size).length = size := by
  simp only [resize, List.length_append, List.length_take, List.length_replicate]
  omega

theorem window_resize (cells : List Byte) (kept : position + count ≤ cells.length)
    (grows : cells.length ≤ size) :
    window (resize cells size) position count = window cells position count := by
  rw [resize, List.take_of_length_le grows]
  apply window_congr
  intro offset bound
  exact List.getElem?_append_left (by omega)

theorem slid_readableBytes (buf : Buffer) : buf.slid.readableBytes = buf.readableBytes := by
  simp [slid, readableBytes]

/-- Sliding is legal: whenever growth is not chosen, the readable bytes start
above the reserve, so the forward copy moves them down. -/
theorem makeSpace_returns (valid : Valid buf) (short : buf.writableBytes < len) :
    ∃ result, buf.makeSpace len = .ok result ∧ result.Valid ∧
      result.toString = buf.toString ∧ len ≤ result.writableBytes := by
  have cheap := valid.cheap
  have ordered := valid.ordered
  have bounded := valid.bounded
  simp only [writableBytes] at short
  simp only [makeSpace]
  split
  · refine ⟨_, rfl, ⟨?_, ordered, ?_⟩, ?_, ?_⟩
    · rw [resize_length]
      omega
    · simp only [resize_length]
      omega
    · simp only [toString, readableBytes]
      exact window_resize _ (by omega) (by omega)
    · simp only [writableBytes, resize_length]
      omega
  · rename_i reusable
    simp only [writableBytes, prependableBytes] at reusable
    have above : kCheapPrepend < buf.readIndex := by omega
    simp only [check_pass _ above, check_pass _ (slid_readableBytes buf).symm, ok_bind]
    refine ⟨_, rfl, ⟨?_, ?_, ?_⟩, ?_, ?_⟩
    · simpa only [slid, copyForward_length] using cheap
    · exact Nat.le_add_right _ _
    · simp only [slid, copyForward_length, readableBytes]
      omega
    · simp only [toString, slid_readableBytes]
      exact window_copyForward _ _ _ _ (by omega) (by simp only [readableBytes]; omega)
    · simp only [writableBytes, slid, copyForward_length, readableBytes]
      omega

theorem ensureWritableBytes_returns (valid : Valid buf) (len : Nat) :
    ∃ result, buf.ensureWritableBytes len = .ok result ∧ result.Valid ∧
      result.toString = buf.toString ∧ len ≤ result.writableBytes := by
  simp only [ensureWritableBytes]
  split
  · rename_i short
    obtain ⟨result, returned, resultValid, content, enough⟩ := makeSpace_returns valid short
    refine ⟨result, ?_, resultValid, content, enough⟩
    simp only [returned, ok_bind, check_pass _ enough]
    rfl
  · rename_i enough
    have enough : len ≤ buf.writableBytes := Nat.le_of_not_lt enough
    refine ⟨buf, ?_, valid, rfl, enough⟩
    simp only [pure, Except.pure, ok_bind, check_pass _ enough]

theorem hasWritten_returns (valid : Valid buf) (room : data.length ≤ buf.writableBytes) :
    Returns ((buf.fill data).hasWritten data.length) (buf.toString ++ data) := by
  have ordered := valid.ordered
  have bounded := valid.bounded
  have room' : data.length ≤ (buf.fill data).writableBytes := by
    simpa only [fill, writableBytes, store_length] using room
  simp only [writableBytes] at room
  simp only [hasWritten, check_pass _ room', ok_bind]
  refine ⟨_, rfl, ⟨?_, ?_, ?_⟩, ?_⟩
  · simpa only [fill, store_length] using valid.cheap
  · simp only [fill]
    omega
  · simp only [fill, store_length]
    omega
  · have split : buf.writeIndex + data.length - buf.readIndex =
        buf.readableBytes + data.length := by
      simp only [readableBytes]
      omega
    have stop : buf.readIndex + buf.readableBytes = buf.writeIndex := by
      simp only [readableBytes]
      omega
    simp only [toString, fill, beginWrite]
    rw [readableBytes]
    simp only [split, window_add, stop]
    rw [window_store (by omega), window_store_of_disjoint _ _ (by omega)]

theorem append_returns (valid : Valid buf) (data : List Byte) :
    Returns (buf.append data) (buf.toString ++ data) := by
  obtain ⟨spacious, returned, spaciousValid, content, room⟩ :=
    ensureWritableBytes_returns valid data.length
  simp only [append, returned, ok_bind, ← content]
  exact hasWritten_returns spaciousValid room

/-- Pieces appended one after another stand one behind the other. -/
theorem foldlM_append_returns (pieces : List (List Byte)) (valid : Valid buf) :
    Returns (pieces.foldlM append buf) (buf.toString ++ pieces.flatten) := by
  induction pieces generalizing buf with
  | nil => exact ⟨buf, rfl, valid, by simp⟩
  | cons piece rest ih =>
    obtain ⟨more, appended, moreValid, content⟩ := append_returns valid piece
    have returned := ih moreValid
    rw [content] at returned
    simpa [List.foldlM_cons, appended] using returned

theorem prepend_returns (valid : Valid buf) (room : data.length ≤ buf.prependableBytes) :
    Returns (buf.prepend data) (data ++ buf.toString) := by
  have ordered := valid.ordered
  have bounded := valid.bounded
  simp only [prepend, check_pass _ room, ok_bind]
  simp only [prependableBytes] at room
  refine ⟨_, rfl, ⟨?_, ?_, ?_⟩, ?_⟩
  · simpa only [store_length] using valid.cheap
  · show buf.readIndex - data.length ≤ buf.writeIndex
    omega
  · simpa only [store_length] using bounded
  · have split : buf.writeIndex - (buf.readIndex - data.length) =
        data.length + buf.readableBytes := by
      simp only [readableBytes]
      omega
    have stop : buf.readIndex - data.length + data.length = buf.readIndex := by omega
    simp only [toString]
    rw [readableBytes]
    simp only [split, window_add, stop]
    rw [window_store (by omega), window_store_of_disjoint _ _ (by omega)]

theorem unWrite_returns (valid : Valid buf) (enough : len ≤ buf.readableBytes) :
    Returns (buf.unWrite len) (buf.toString.take (buf.toString.length - len)) := by
  have ordered := valid.ordered
  have bounded := valid.bounded
  rw [toString_length valid]
  simp only [unWrite, check_pass _ enough, ok_bind]
  simp only [readableBytes] at enough
  refine ⟨_, rfl, ⟨valid.cheap, ?_, ?_⟩, ?_⟩
  · show buf.readIndex ≤ buf.writeIndex - len
    omega
  · show buf.writeIndex - len ≤ buf.buffer.length
    omega
  · rw [toString, toString, window_take _ _ _ _ (Nat.sub_le _ _)]
    congr 1
    simp only [readableBytes]
    omega

theorem shrink_returns (buf : Buffer) (reserve : Nat) :
    Returns (buf.shrink reserve) buf.toString := by
  obtain ⟨other, returned, otherValid, content, _⟩ :=
    ensureWritableBytes_returns (create_valid kInitialSize) (buf.readableBytes + reserve)
  rw [create_toString] at content
  obtain ⟨result, appended, resultValid, resultContent⟩ := append_returns otherValid buf.toString
  rw [content, List.nil_append] at resultContent
  refine ⟨result, ?_, resultValid, resultContent⟩
  simp only [shrink, returned, appended, ok_bind]
  rfl

/-- The calls on one buffer. `hasWritten` carries the bytes the caller put at
`beginWrite()`, and `retrieveUntil` its end pointer as an offset from `peek()`. -/
inductive Operation where
  | append (data : List Byte)
  | prepend (data : List Byte)
  | hasWritten (data : List Byte)
  | unWrite (len : Nat)
  | retrieve (len : Nat)
  | retrieveUntil (offset : Nat)
  | retrieveAll
  | retrieveAsString (len : Nat)
  | ensureWritableBytes (len : Nat)
  | shrink (reserve : Nat)
  deriving DecidableEq, Repr

namespace Operation

def perform (buf : Buffer) : Operation → Checked Buffer
  | append data => buf.append data
  | prepend data => buf.prepend data
  | hasWritten data => (buf.fill data).hasWritten data.length
  | unWrite len => buf.unWrite len
  | retrieve len => buf.retrieve len
  | retrieveUntil offset => buf.retrieveUntil (buf.peek + offset)
  | retrieveAll => .ok buf.retrieveAll
  | retrieveAsString len => do
    let (_, rest) ← buf.retrieveAsString len
    return rest
  | ensureWritableBytes len => buf.ensureWritableBytes len
  | shrink reserve => buf.shrink reserve

/-- What the call asserts of its argument. -/
def Permitted (buf : Buffer) : Operation → Prop
  | prepend data => data.length ≤ buf.prependableBytes
  | hasWritten data => data.length ≤ buf.writableBytes
  | unWrite len | retrieve len | retrieveUntil len | retrieveAsString len => len ≤ buf.readableBytes
  | append _ | retrieveAll | ensureWritableBytes _ | shrink _ => True

instance (buf : Buffer) : DecidablePred (Permitted buf)
  | prepend data => inferInstanceAs (Decidable (data.length ≤ buf.prependableBytes))
  | hasWritten data => inferInstanceAs (Decidable (data.length ≤ buf.writableBytes))
  | unWrite len | retrieve len | retrieveUntil len | retrieveAsString len =>
    inferInstanceAs (Decidable (len ≤ buf.readableBytes))
  | append _ | retrieveAll | ensureWritableBytes _ | shrink _ => inferInstanceAs (Decidable True)

/-- What the call means on the byte string a buffer stands for. -/
def effect (content : List Byte) : Operation → List Byte
  | append data | hasWritten data => content ++ data
  | prepend data => data ++ content
  | unWrite len => content.take (content.length - len)
  | retrieve len | retrieveUntil len | retrieveAsString len => content.drop len
  | retrieveAll => []
  | ensureWritableBytes _ | shrink _ => content

theorem perform_returns (valid : Valid buf) (operation : Operation)
    (permitted : operation.Permitted buf) :
    Returns (operation.perform buf) (operation.effect buf.toString) := by
  cases operation with
  | append data => exact append_returns valid data
  | prepend data => exact prepend_returns valid permitted
  | hasWritten data => exact hasWritten_returns valid permitted
  | unWrite len => exact unWrite_returns valid permitted
  | retrieve len => exact retrieve_returns valid permitted
  | retrieveUntil offset => exact retrieveUntil_returns valid permitted
  | retrieveAll => exact ⟨_, rfl, retrieveAll_valid valid, retrieveAll_toString buf⟩
  | retrieveAsString len =>
    obtain ⟨rest, returned, restValid, content⟩ := retrieveAsString_returns valid permitted
    exact ⟨rest, by simp only [perform, returned, ok_bind]; rfl, restValid, content⟩
  | ensureWritableBytes len =>
    obtain ⟨result, returned, resultValid, content, _⟩ := ensureWritableBytes_returns valid len
    exact ⟨result, returned, resultValid, content⟩
  | shrink reserve => exact shrink_returns buf reserve

end Operation

section Family

variable {ι : Type} [DecidableEq ι]

/-- A call on a family of buffers. -/
inductive Call (ι : Type) where
  | on (which : ι) (operation : Operation)
  | swap (first second : ι)

namespace Call

def perform (buffers : ι → Buffer) : Call ι → Checked (ι → Buffer)
  | on which operation => do
    let result ← operation.perform (buffers which)
    return Function.update buffers which result
  | swap first second =>
    let (lhs, rhs) := Buffer.swap (buffers first) (buffers second)
    .ok (Function.update (Function.update buffers first lhs) second rhs)

def Permitted (buffers : ι → Buffer) : Call ι → Prop
  | on which operation => operation.Permitted (buffers which)
  | swap _ _ => True

def effect (contents : ι → List Byte) : Call ι → ι → List Byte
  | on which operation => Function.update contents which (operation.effect (contents which))
  | swap first second =>
    Function.update (Function.update contents first (contents second)) second (contents first)

end Call

/-- Calls made within their asserted preconditions. -/
def family (ι : Type) [DecidableEq ι] : Machine (ι → Buffer) (Call ι) :=
  (Machine.ofFunction Call.perform).restrict fun buffers call => call.Permitted buffers

/-- Every buffer is valid and holds its byte string. -/
def Represents (buffers : ι → Buffer) (contents : ι → List Byte) : Prop :=
  ∀ which, (buffers which).Valid ∧ (buffers which).toString = contents which

theorem Represents.update (represents : Represents buffers contents) (which : ι)
    (valid : Valid result) (same : result.toString = content) :
    Represents (Function.update buffers which result) (Function.update contents which content) := by
  intro other
  by_cases here : other = which
  · subst here
    simpa using ⟨valid, same⟩
  · simpa [here] using represents other

theorem Call.perform_represents (represents : Represents buffers contents) (call : Call ι)
    (permitted : call.Permitted buffers) :
    ∃ after, call.perform buffers = .ok after ∧ Represents after (call.effect contents) := by
  cases call with
  | on which operation =>
    obtain ⟨valid, same⟩ := represents which
    obtain ⟨result, returned, resultValid, content⟩ := operation.perform_returns valid permitted
    rw [same] at content
    refine ⟨_, ?_, represents.update which resultValid content⟩
    simp only [perform, returned, ok_bind]
    rfl
  | swap first second =>
    obtain ⟨firstValid, firstSame⟩ := represents first
    obtain ⟨secondValid, secondSame⟩ := represents second
    exact ⟨_, rfl, (represents.update first secondValid secondSame).update second
      firstValid firstSame⟩

/-- Every run of permitted calls on buffers of any initial sizes keeps the index
discipline and the byte strings, and no permitted next call fails an assertion. -/
theorem family_refines_byteStrings (initialSize : ι → Nat) (calls : List (Call ι))
    (buffers : ι → Buffer)
    (run : (family ι).Run (fun which => create (initialSize which)) calls buffers) :
    (∀ which, kCheapPrepend ≤ (buffers which).buffer.length ∧
      (buffers which).readIndex ≤ (buffers which).writeIndex ∧
      (buffers which).writeIndex ≤ (buffers which).buffer.length) ∧
    (∀ which, (buffers which).toString = calls.foldl Call.effect (fun _ => []) which) ∧
    ∀ call : Call ι, call.Permitted buffers → ∃ after, call.perform buffers = .ok after := by
  have represents : Represents buffers (calls.foldl Call.effect fun _ => []) := by
    apply run.refines Represents
    · exact fun which => ⟨create_valid _, create_toString _⟩
    · rintro current call after contents related ⟨permitted, performed⟩
      obtain ⟨result, returned, kept⟩ := call.perform_represents related permitted
      cases Except.ok.inj (performed.symm.trans returned)
      exact kept
  refine ⟨fun which => ?_, fun which => (represents which).2, fun call permitted => ?_⟩
  · obtain ⟨cheap, ordered, bounded⟩ := (represents which).1
    exact ⟨cheap, ordered, bounded⟩
  · obtain ⟨after, performed, _⟩ := call.perform_represents represents permitted
    exact ⟨after, performed⟩

instance (buffers : ι → Buffer) : DecidablePred (Call.Permitted buffers)
  | .on which operation => inferInstanceAs (Decidable (operation.Permitted (buffers which)))
  | .swap _ _ => inferInstanceAs (Decidable True)

/-- A run in which one buffer reuses retrieved space and the other is prepended to. -/
theorem family_refines_twoBuffers :
    ∃ buffers : Bool → Buffer,
      (family Bool).Run (fun _ => create 2)
        [.on false (.append [1, 2]), .on false (.retrieve 1), .on true (.prepend [7]),
          .on false (.append [3, 4]), .swap false true] buffers ∧
      (buffers true).toString = [2, 3, 4] ∧ (buffers false).toString = [7] := by
  have followed : (Machine.follow Call.perform (fun buffers call => decide (call.Permitted buffers))
      (fun _ : Bool => create 2) [.on false (.append [1, 2]), .on false (.retrieve 1),
        .on true (.prepend [7]), .on false (.append [3, 4]), .swap false true]).isSome = true := by
    decide +kernel
  obtain ⟨buffers, reached⟩ := Option.isSome_iff_exists.mp followed
  have run := Machine.Run.ofFollow (family Bool)
    (fun permitted performed => ⟨of_decide_eq_true permitted, performed⟩) _ reached
  have contents := (family_refines_byteStrings (fun _ => 2) _ buffers run).2.1
  exact ⟨buffers, run, (contents true).trans (by decide), (contents false).trans (by decide)⟩

end Family

end FakeMuduo.Net.Buffer
