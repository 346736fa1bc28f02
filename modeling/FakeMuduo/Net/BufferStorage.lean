import FakeMuduo.Net.BufferRead

/-! How large the storage of a buffer becomes. -/

namespace FakeMuduo.Net.Buffer

open FakeMuduo.Base

namespace Operation

/-- The space that a call may claim above the reserve, from the content it finds. -/
def demand (content : List Byte) : Operation → Nat
  | append data => content.length + 2 * data.length
  | ensureWritableBytes len => content.length + 2 * len
  | shrink reserve => max kInitialSize (content.length + reserve)
  | _ => 0

end Operation

variable {buf result : Buffer}

theorem slid_storage (buf : Buffer) : buf.slid.buffer.length = buf.buffer.length := by
  simp only [slid, copyForward_length]

theorem makeSpace_storage (performed : buf.makeSpace len = .ok result) :
    len + kCheapPrepend ≤ buf.writableBytes + buf.prependableBytes ∧
        result.buffer.length = buf.buffer.length ∨
      buf.writableBytes + buf.prependableBytes < len + kCheapPrepend ∧
        result.buffer.length = buf.writeIndex + len := by
  simp only [makeSpace] at performed
  split at performed
  · rename_i scarce
    cases performed
    exact .inr ⟨scarce, resize_length _ _⟩
  · rename_i reusable
    simp only [check_bind_eq_ok] at performed
    obtain ⟨_, _, returned⟩ := performed
    cases returned
    exact .inl ⟨Nat.le_of_not_lt reusable, slid_storage buf⟩

theorem ensureWritableBytes_storage (performed : buf.ensureWritableBytes len = .ok result) :
    (len ≤ buf.writableBytes ∨ len + kCheapPrepend ≤ buf.writableBytes + buf.prependableBytes) ∧
        result.buffer.length = buf.buffer.length ∨
      buf.writableBytes < len ∧ buf.writableBytes + buf.prependableBytes < len + kCheapPrepend ∧
        result.buffer.length = buf.writeIndex + len := by
  simp only [ensureWritableBytes] at performed
  split at performed
  · rename_i short
    obtain ⟨spacious, made, checked⟩ := bind_eq_ok.mp performed
    obtain ⟨_, returned⟩ := check_bind_eq_ok.mp checked
    cases returned
    exact (makeSpace_storage made).imp (And.imp_left .inr) (And.intro short)
  · rename_i spare
    obtain ⟨spacious, same, checked⟩ := bind_eq_ok.mp performed
    cases same
    obtain ⟨_, returned⟩ := check_bind_eq_ok.mp checked
    cases returned
    exact .inl ⟨.inl (Nat.le_of_not_lt spare), rfl⟩

/-- Growing happens only when the free space on both sides is short of the request, so it at most
doubles the request. -/
theorem ensureWritableBytes_bounded (valid : Valid buf)
    (performed : buf.ensureWritableBytes len = .ok result) :
    result.buffer.length ≤ max buf.buffer.length
      (kCheapPrepend + (buf.toString.length + 2 * len)) := by
  have ordered := valid.ordered
  rw [toString_length valid]
  rcases ensureWritableBytes_storage performed with ⟨_, same⟩ | ⟨_, scarce, grown⟩
  · omega
  · simp only [prependableBytes] at scarce
    simp only [readableBytes]
    omega

theorem hasWritten_storage (performed : (buf.fill data).hasWritten data.length = .ok result) :
    result.buffer.length = buf.buffer.length := by
  obtain ⟨_, returned⟩ := check_bind_eq_ok.mp performed
  cases returned
  simp only [fill, store_length]

theorem append_storage (performed : buf.append data = .ok result) :
    ∃ spacious, buf.ensureWritableBytes data.length = .ok spacious ∧
      result.buffer.length = spacious.buffer.length := by
  obtain ⟨spacious, made, written⟩ := bind_eq_ok.mp performed
  exact ⟨spacious, made, hasWritten_storage written⟩

theorem retrieve_storage (performed : buf.retrieve len = .ok result) :
    result.buffer.length = buf.buffer.length := by
  obtain ⟨_, performed⟩ := check_bind_eq_ok.mp performed
  split at performed
  · cases performed
    rfl
  · cases performed
    rfl

theorem create_storage (initialSize : Nat) :
    (create initialSize).buffer.length = kCheapPrepend + initialSize := List.length_replicate

/-- The new storage has the initial size, or exactly the room asked for. -/
theorem shrink_storage (valid : Valid buf) (performed : buf.shrink reserve = .ok result) :
    result.buffer.length = kCheapPrepend + max kInitialSize (buf.toString.length + reserve) := by
  obtain ⟨spacious, made, performed⟩ := bind_eq_ok.mp performed
  obtain ⟨other, appended, returned⟩ := bind_eq_ok.mp performed
  cases returned
  obtain ⟨roomy, sameMade, size⟩ := append_storage appended
  obtain ⟨_, sameSpacious, _, _, room⟩ :=
    ensureWritableBytes_returns (create_valid kInitialSize) (buf.readableBytes + reserve)
  cases Except.ok.inj (made.symm.trans sameSpacious)
  have fits : roomy.buffer.length = spacious.buffer.length := by
    rcases ensureWritableBytes_storage sameMade with ⟨_, same⟩ | ⟨short, _⟩
    · exact same
    · rw [toString_length valid] at short
      omega
  have fresh := create_storage kInitialSize
  have free := create_writableBytes kInitialSize
  rw [toString_length valid]
  simp only [swap, size, fits]
  rcases ensureWritableBytes_storage made with ⟨spare, same⟩ | ⟨short, _, grown⟩
  · have reserved : (create kInitialSize).prependableBytes = kCheapPrepend := rfl
    omega
  · have start : (create kInitialSize).writeIndex = kCheapPrepend := rfl
    omega

namespace Operation

theorem perform_storage (valid : Valid buf) (operation : Operation)
    (performed : operation.perform buf = .ok result) :
    result.buffer.length ≤ max buf.buffer.length
      (kCheapPrepend + operation.demand buf.toString) := by
  cases operation with
  | append data =>
    obtain ⟨spacious, made, size⟩ := append_storage performed
    rw [size]
    exact ensureWritableBytes_bounded valid made
  | prepend data =>
    obtain ⟨_, returned⟩ := check_bind_eq_ok.mp performed
    cases returned
    simp only [store_length]
    exact Nat.le_max_left _ _
  | hasWritten data =>
    rw [hasWritten_storage performed]
    exact Nat.le_max_left _ _
  | unWrite len =>
    obtain ⟨_, returned⟩ := check_bind_eq_ok.mp performed
    cases returned
    exact Nat.le_max_left _ _
  | retrieve len =>
    rw [retrieve_storage performed]
    exact Nat.le_max_left _ _
  | retrieveUntil offset =>
    obtain ⟨_, performed⟩ := check_bind_eq_ok.mp performed
    rw [retrieve_storage performed]
    exact Nat.le_max_left _ _
  | retrieveAll =>
    cases performed
    exact Nat.le_max_left _ _
  | retrieveAsString len =>
    obtain ⟨⟨_, rest⟩, performed, returned⟩ := bind_eq_ok.mp performed
    cases returned
    obtain ⟨_, performed⟩ := check_bind_eq_ok.mp performed
    obtain ⟨rest, retrieved, returned⟩ := bind_eq_ok.mp performed
    cases returned
    rw [retrieve_storage retrieved]
    exact Nat.le_max_left _ _
  | ensureWritableBytes len => exact ensureWritableBytes_bounded valid performed
  | shrink reserve =>
    rw [shrink_storage valid performed]
    exact Nat.le_max_right _ _

end Operation

section Family

variable {ι : Type} [DecidableEq ι]

namespace Call

def demand (contents : ι → List Byte) : Call ι → Nat
  | on which operation => operation.demand (contents which)
  | swap _ _ => 0

/-- The byte strings after the call, and the largest demand up to it. -/
def tally (seen : (ι → List Byte) × Nat) (call : Call ι) : (ι → List Byte) × Nat :=
  (call.effect seen.1, max seen.2 (call.demand seen.1))

theorem perform_storage {buffers : ι → Buffer} (represents : Represents buffers contents)
    (small : ∀ which, (buffers which).buffer.length ≤ kCheapPrepend + limit) (call : Call ι)
    (performed : call.perform buffers = .ok after) (which : ι) :
    (after which).buffer.length ≤ kCheapPrepend + max limit (call.demand contents) := by
  cases call with
  | on target operation =>
    obtain ⟨result, returned, same⟩ := bind_eq_ok.mp performed
    cases same
    obtain ⟨valid, content⟩ := represents target
    have grown := operation.perform_storage valid returned
    rw [content] at grown
    have before := small which
    have here := small target
    simp only [demand]
    by_cases same : which = target
    · subst same
      rw [Function.update_self]
      omega
    · rw [Function.update_of_ne same]
      omega
  | swap first second =>
    cases performed
    have kept : ∀ which, (buffers which).buffer.length ≤ kCheapPrepend + max limit 0 := by
      simpa using small
    simp only [demand, Function.update_apply]
    split
    · exact kept first
    · split
      · exact kept second
      · exact kept which

end Call

/-- However long the run, no storage is larger than the initial sizes and the largest single demand
made on the byte strings: space already retrieved is used again. -/
theorem family_storage_bounded (initialSize : ι → Nat) (limit : Nat)
    (small : ∀ which, initialSize which ≤ limit) (calls : List (Call ι)) (buffers : ι → Buffer)
    (run : (family ι).Run (fun which => create (initialSize which)) calls buffers) (which : ι) :
    (buffers which).buffer.length ≤
      kCheapPrepend + (calls.foldl Call.tally (fun _ => [], limit)).2 := by
  refine (run.refines (fun buffers (seen : (ι → List Byte) × Nat) => Represents buffers seen.1 ∧
    ∀ which, (buffers which).buffer.length ≤ kCheapPrepend + seen.2) ⟨?_, ?_⟩ ?_).2 which
  · exact fun which => ⟨create_valid _, create_toString _⟩
  · intro which
    have bounded := small which
    rw [create_storage]
    exact Nat.add_le_add_left bounded _
  · rintro current call after ⟨contents, limit⟩ ⟨represents, bounded⟩ ⟨permitted, performed⟩
    obtain ⟨result, returned, kept⟩ := call.perform_represents represents permitted
    cases Except.ok.inj (performed.symm.trans returned)
    exact ⟨kept, call.perform_storage represents bounded performed⟩

/-- Eight bytes pass through a buffer whose storage never exceeds the reserve and five bytes. -/
theorem family_storage_bounded_reused :
    ∃ buffers : Unit → Buffer,
      (family Unit).Run (fun _ => create 2)
        [.on () (.append [1, 2]), .on () (.retrieve 1), .on () (.append [3, 4]),
          .on () (.retrieve 2), .on () (.append [5, 6]), .on () (.retrieve 2),
          .on () (.append [7, 8])] buffers ∧
      (buffers ()).buffer.length ≤ kCheapPrepend + 5 := by
  have followed : (Machine.follow Call.perform (fun buffers call => decide (call.Permitted buffers))
      (fun _ : Unit => create 2) [.on () (.append [1, 2]), .on () (.retrieve 1),
        .on () (.append [3, 4]), .on () (.retrieve 2), .on () (.append [5, 6]),
        .on () (.retrieve 2), .on () (.append [7, 8])]).isSome =
      true := by
    decide +kernel
  obtain ⟨buffers, reached⟩ := Option.isSome_iff_exists.mp followed
  have run := Machine.Run.ofFollow (family Unit)
    (fun permitted performed => ⟨of_decide_eq_true permitted, performed⟩) _ reached
  exact ⟨buffers, run, family_storage_bounded (fun _ => 2) 2
    (fun _ => Nat.le_refl 2) _ buffers run ()⟩

end Family

end FakeMuduo.Net.Buffer
