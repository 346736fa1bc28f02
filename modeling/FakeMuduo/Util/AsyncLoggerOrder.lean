import FakeMuduo.Util.LogProducersInvariant
import Mathlib.Data.List.GetD

/-! The slots in the order in which they are read, and what that order says about
the calls of `push`. -/

namespace FakeMuduo.Util.LogProducers

open FakeMuduo.Base

variable {Line : Type} {kSize : Nat} {queue after : LogProducers Line} {thread : Nat}

/-- How many slots are read before this one. -/
def place (kSize buffer slot : Nat) : Nat := buffer * kSize + slot

theorem place_lt_of_buffer {buffer other slot : Nat} (inside : slot < kSize)
    (earlier : buffer < other) (next : Nat) :
    place kSize buffer slot < place kSize other next := by
  have whole : (buffer + 1) * kSize ≤ other * kSize := Nat.mul_le_mul_right _ earlier
  rw [Nat.succ_mul] at whole
  unfold place
  omega

theorem place_div {buffer slot : Nat} (inside : slot < kSize) :
    place kSize buffer slot / kSize = buffer := by
  have some : 0 < kSize := Nat.zero_lt_of_lt inside
  rw [place, Nat.mul_comm, Nat.mul_add_div some, Nat.div_eq_of_lt inside, Nat.add_zero]

theorem place_mod {buffer slot : Nat} (inside : slot < kSize) :
    place kSize buffer slot % kSize = slot := by
  rw [place, Nat.mul_comm, Nat.mul_add_mod, Nat.mod_eq_of_lt inside]

theorem place_div_mod (number : Nat) : place kSize (number / kSize) (number % kSize) = number := by
  rw [place, Nat.mul_comm]
  exact Nat.div_add_mod number kSize

/-- A line is put only where its thread holds the index, and none is ever replaced. -/
theorem Effect.item_cases (effect : Effect kSize queue thread after)
    (orderly : Orderly kSize queue) (buffer slot : Nat) :
    after.item buffer slot = queue.item buffer slot ∨
      queue.item buffer slot = none ∧ buffer = queue.currentWriteBuffer ∧ slot < kSize ∧
        ∃ entry, queue.threads thread = .holding entry slot (.loaded buffer) ∧
          after.item buffer slot = some entry := by
  cases effect with
  | push | take | overshoot | spin | retry | lock | enqueue | restart | unlock => exact .inl rfl
  | clear switching => exact .inl (queue.item_setState _ _ _ _ _)
  | publish switching =>
    left
    by_cases same : buffer = queue.currentWriteBuffer + 1
    · subst same
      obtain ⟨_, _, stored⟩ := orderly
      have empty : queue.item (queue.currentWriteBuffer + 1) slot = none := by
        cases found : queue.item (queue.currentWriteBuffer + 1) slot with
        | none => rfl
        | some entry => exact absurd (stored.places found).1 (Nat.not_succ_le_self _)
      rw [empty]
      simp [item, Buffer.new]
    · simp [item, same]
  | @fill entry index progress holding =>
    cases progress with
    | indexed => exact .inl rfl
    | constructed buffer' => exact .inl (queue.item_setState _ _ _ _ _)
    | flagged buffer' => exact .inl (queue.item_setState _ _ _ _ _)
    | loaded buffer' =>
      obtain ⟨current, inside, empty⟩ := orderly.slot_empty holding
      have put : (queue.fill kSize thread entry index (.loaded buffer')).item buffer slot =
          if buffer = buffer' ∧ slot = index then some entry else queue.item buffer slot :=
        queue.item_setItem buffer' index entry buffer slot
      by_cases same : buffer = buffer' ∧ slot = index
      · obtain ⟨rfl, rfl⟩ := same
        rw [if_pos ⟨rfl, rfl⟩] at put
        exact .inr ⟨empty, current, inside, entry, holding, put⟩
      · rw [if_neg same] at put
        exact .inl put

theorem Effect.item_kept (effect : Effect kSize queue thread after) (orderly : Orderly kSize queue)
    {buffer slot : Nat} {entry : Entry Line} (found : queue.item buffer slot = some entry) :
    after.item buffer slot = some entry := by
  rcases effect.item_cases orderly buffer slot with same | ⟨empty, _⟩
  · rw [same, found]
  · rw [found] at empty
    cases empty

theorem Effect.queued_le (effect : Effect kSize queue thread after) :
    queue.logBuffers.length ≤ after.logBuffers.length := by
  cases effect with
  | enqueue => exact List.length_append ▸ Nat.le_succ _
  | push | take | overshoot | spin | retry | clear | publish | lock | restart | unlock =>
    exact Nat.le_refl _
  | @fill entry index progress holding =>
    cases progress with
    | indexed | loaded | constructed | flagged => exact Nat.le_refl _

/-- While the write buffer is being replaced, every other thread is out of the way. -/
theorem Orderly.neutral_of_switching (orderly : Orderly kSize queue) {switch : Switch}
    (switching : queue.threads thread = .switching switch) {other : Nat}
    (different : other ≠ thread) :
    (queue.threads other).IsNeutral := by
  obtain ⟨finished, allocated, _⟩ := orderly
  cases phase : queue.threads other with
  | idle | called entry | spinning entry | unlocking => trivial
  | holding entry index progress =>
    exact absurd phase (allocated.unheld_of_switching switching other entry index progress)
  | switching switch' => exact absurd (allocated.switcher_alone switching phase) different

/-- The thread that sets up a buffer knows which one is full, and has reset its count. -/
structure Settled (kSize : Nat) (queue : LogProducers Line) : Prop where
  filled : ∀ {thread buffer}, queue.threads thread = .switching (.filled buffer) →
    buffer = queue.currentWriteBuffer
  cleared : ∀ {thread}, queue.threads thread = .switching .cleared →
    queue.state queue.currentWriteBuffer kSize = 0

theorem initial_settled : Settled kSize (initial : LogProducers Line) := by
  constructor
  · intro thread buffer switching
    cases switching
  · intro thread switching
    cases switching

/-- A move to another phase than these two leaves what is known of the others. -/
theorem Settled.move {phase : Phase Line} (settled : Settled kSize queue)
    (threads : after.threads = Function.update queue.threads thread phase)
    (unfilled : ∀ buffer, phase ≠ .switching (.filled buffer))
    (uncleared : phase ≠ .switching .cleared)
    (current : after.currentWriteBuffer = queue.currentWriteBuffer)
    (counts : after.state queue.currentWriteBuffer kSize =
      queue.state queue.currentWriteBuffer kSize) :
    Settled kSize after := by
  constructor
  · intro other buffer switching
    rcases phase_cases threads switching with ⟨_, moved⟩ | ⟨_, before⟩
    · exact absurd moved (unfilled buffer)
    · rw [current]
      exact settled.filled before
  · intro other switching
    rcases phase_cases threads switching with ⟨_, moved⟩ | ⟨_, before⟩
    · exact absurd moved uncleared
    · rw [current, counts]
      exact settled.cleared before

theorem Settled.count (settled : Settled kSize queue) (orderly : Orderly kSize queue)
    {entry : Entry Line} {index buffer : Nat}
    (holding : queue.threads thread = .holding entry index (.flagged buffer)) :
    Settled kSize (queue.fill kSize thread entry index (.flagged buffer)) := by
  obtain ⟨finished, allocated, _⟩ := orderly
  have calm := (allocated.filling_of_holding holding).calm
  have current : buffer = queue.currentWriteBuffer := (allocated.held holding).2.2.2
  constructor
  · intro other buffer' switching
    rcases phase_cases rfl switching with ⟨_, moved⟩ | ⟨_, before⟩
    · split at moved
      · cases moved
        exact current
      · cases moved
    · exact settled.filled before
  · intro other switching
    rcases phase_cases rfl switching with ⟨_, moved⟩ | ⟨_, before⟩
    · split at moved
      · cases moved
      · cases moved
    · exact absurd before (calm other .cleared)

theorem Settled.clear (settled : Settled kSize queue) {buffer : Nat}
    (switching : queue.threads thread = .switching (.filled buffer)) :
    Settled kSize ((queue.setState buffer kSize 0).move thread (.switching .cleared)) := by
  obtain rfl := settled.filled switching
  have counts :=
    queue.state_setState queue.currentWriteBuffer kSize 0 queue.currentWriteBuffer kSize
  rw [if_pos ⟨rfl, rfl⟩] at counts
  constructor
  · intro other buffer' found
    rcases phase_cases rfl found with ⟨_, moved⟩ | ⟨_, before⟩
    · cases moved
    · exact settled.filled before
  · intro other _
    exact counts

theorem Settled.publish (orderly : Orderly kSize queue)
    (switching : queue.threads thread = .switching .cleared)
    (threads : after.threads = Function.update queue.threads thread
      (.switching (.published (queue.currentWriteBuffer + 1)))) : Settled kSize after := by
  constructor
  · intro other buffer found
    rcases phase_cases threads found with ⟨_, moved⟩ | ⟨different, before⟩
    · cases moved
    · have neutral := orderly.neutral_of_switching switching different
      rw [before] at neutral
      cases neutral
  · intro other found
    rcases phase_cases threads found with ⟨_, moved⟩ | ⟨different, before⟩
    · cases moved
    · have neutral := orderly.neutral_of_switching switching different
      rw [before] at neutral
      cases neutral

theorem Settled.step (settled : Settled kSize queue) (orderly : Orderly kSize queue)
    (effect : Effect kSize queue thread after) : Settled kSize after := by
  cases effect with
  | push | take | overshoot | retry | lock | enqueue | restart | unlock =>
    exact settled.move rfl (fun _ moved => by cases moved) (fun moved => by cases moved) rfl rfl
  | spin => exact settled
  | clear switching => exact settled.clear switching
  | publish switching => exact Settled.publish orderly switching rfl
  | @fill entry index progress holding =>
    cases progress with
    | indexed =>
      exact settled.move rfl (fun _ moved => by cases moved) (fun moved => by cases moved) rfl rfl
    | loaded buffer =>
      exact settled.move rfl (fun _ moved => by cases moved) (fun moved => by cases moved) rfl
        (queue.state_setItem _ _ _ _ _)
    | constructed buffer =>
      obtain ⟨_, allocated, _⟩ := orderly
      refine settled.move rfl (fun _ moved => by cases moved) (fun moved => by cases moved) rfl ?_
      refine (queue.state_setState _ _ _ _ _).trans (if_neg ?_)
      rintro ⟨_, same⟩
      exact Nat.ne_of_gt (allocated.held holding).1 same
    | flagged buffer => exact settled.count orderly holding

/-- The calls have their lines in slots that are read before so many were. -/
def Before (kSize : Nat) (queue : LogProducers Line) (calls : List Nat) (limit : Nat) : Prop :=
  ∀ call ∈ calls, ∃ buffer slot entry,
    queue.item buffer slot = some entry ∧ entry.call = call ∧ place kSize buffer slot < limit

theorem Before.step {calls : List Nat} {limit : Nat} (before : Before kSize queue calls limit)
    (orderly : Orderly kSize queue) (effect : Effect kSize queue thread after) :
    Before kSize after calls limit := by
  intro call member
  obtain ⟨buffer, slot, entry, found, same, early⟩ := before call member
  exact ⟨buffer, slot, entry, effect.item_kept orderly found, same, early⟩

/-- Every line in a slot is read before that of an index given out later. -/
theorem Orderly.place_lt (orderly : Orderly kSize queue) {buffer slot : Nat} {entry : Entry Line}
    (found : queue.item buffer slot = some entry) :
    place kSize buffer slot < place kSize queue.currentWriteBuffer queue.writeIndex := by
  obtain ⟨finished, allocated, stored⟩ := orderly
  obtain ⟨old, inside⟩ := stored.places found
  rcases Nat.lt_or_eq_of_le old with earlier | rfl
  · exact place_lt_of_buffer inside earlier _
  · refine Nat.add_lt_add_left ?_ _
    by_contra late
    have empty := stored.untouched slot (fun member => late (allocated.counted slot member).2)
      (fun thread entry progress holding => late (allocated.held holding).2.1)
    rw [found] at empty
    cases empty

/-- When all threads are idle, the first slot without a flag is beyond every line. -/
theorem Orderly.end_of_lines (orderly : Orderly kSize queue)
    (idle : ∀ thread, queue.threads thread = .idle) {buffer slot : Nat}
    (known : buffer ≤ queue.currentWriteBuffer) (inside : slot < kSize)
    (unset : queue.state buffer slot = 0) {buffer' slot' : Nat} {entry : Entry Line}
    (found : queue.item buffer' slot' = some entry) :
    place kSize buffer' slot' < place kSize buffer slot := by
  refine Nat.lt_of_lt_of_le (orderly.place_lt found) ?_
  obtain ⟨finished, allocated, stored⟩ := orderly
  have filling : Filling kSize queue finished := by
    cases allocated.stage with
    | filling filling => exact filling
    | full switcher switch full => exact absurd (full.switching.symm.trans (idle switcher)) nofun
    | fresh switcher switch fresh => exact absurd (fresh.switching.symm.trans (idle switcher)) nofun
  have incomplete : ¬ queue.Complete buffer slot := by
    intro complete
    exact absurd (complete.2.symm.trans unset) Nat.one_ne_zero
  have newest : buffer = queue.currentWriteBuffer := by
    by_contra other
    exact incomplete (stored.retired buffer (Nat.lt_of_le_of_ne known other) slot inside)
  subst newest
  refine Nat.add_le_add_left ?_ _
  by_contra given
  rcases filling.covered slot (Nat.not_le.mp given) inside with
    counted | ⟨thread, entry, progress, holding⟩
  · exact incomplete (stored.done slot counted)
  · exact absurd (holding.symm.trans (idle thread)) nofun

/-- When all threads are idle, every buffer is queued. -/
theorem Orderly.queued_of_idle (orderly : Orderly kSize queue)
    (idle : ∀ thread, queue.threads thread = .idle) :
    queue.logBuffers = List.range (queue.currentWriteBuffer + 1) := by
  obtain ⟨finished, allocated, stored⟩ := orderly
  cases allocated.stage with
  | filling filling => exact filling.queued
  | full switcher switch full => exact absurd (full.switching.symm.trans (idle switcher)) nofun
  | fresh switcher switch fresh => exact absurd (fresh.switching.symm.trans (idle switcher)) nofun

/-- The buffers are queued in order, the write buffer perhaps not yet. -/
theorem Orderly.queued (orderly : Orderly kSize queue) :
    ∃ count, queue.logBuffers = List.range count ∧
    queue.currentWriteBuffer ≤ count ∧ count ≤ queue.currentWriteBuffer + 1 := by
  obtain ⟨finished, allocated, _⟩ := orderly
  cases allocated.stage with
  | filling filling => exact ⟨_, filling.queued, Nat.le_succ _, Nat.le_refl _⟩
  | full switcher switch full => exact ⟨_, full.queued, Nat.le_succ _, Nat.le_refl _⟩
  | fresh switcher switch fresh =>
    rcases fresh.shape with ⟨_, queued⟩ | ⟨_, queued⟩
    · exact ⟨_, queued, Nat.le_refl _, Nat.le_succ _⟩
    · exact ⟨_, queued, Nat.le_succ _, Nat.le_refl _⟩

theorem Orderly.known_of_queued (orderly : Orderly kSize queue) {buffer : Nat}
    (inside : buffer < queue.logBuffers.length) : buffer ≤ queue.currentWriteBuffer := by
  obtain ⟨count, queued, _, short⟩ := orderly.queued
  rw [queued, List.length_range] at inside
  omega

/-- When all threads are idle, the write buffer has room. -/
theorem Orderly.room_of_idle (orderly : Orderly kSize queue)
    (idle : ∀ thread, queue.threads thread = .idle) :
    ∃ slot < kSize, queue.item queue.currentWriteBuffer slot = none := by
  obtain ⟨finished, allocated, stored⟩ := orderly
  have room : finished.length < kSize := by
    cases allocated.stage with
    | filling filling => exact filling.room
    | full switcher switch full => exact absurd (full.switching.symm.trans (idle switcher)) nofun
    | fresh switcher switch fresh => exact absurd (fresh.switching.symm.trans (idle switcher)) nofun
  obtain ⟨slot, inside, out⟩ : ∃ slot ∈ List.range kSize, slot ∉ finished := by
    by_contra all
    push Not at all
    have short := (List.nodup_range.subperm all).length_le
    rw [List.length_range] at short
    omega
  refine ⟨slot, List.mem_range.mp inside, stored.untouched slot out ?_⟩
  intro thread entry progress holding
  exact absurd (holding.symm.trans (idle thread)) nofun

/-- For each call, the calls that had returned when it began are read before it. -/
structure Ranked (kSize : Nat) (preceding : List (List Nat))
    (queue : LogProducers Line) : Prop where
  stored : ∀ {buffer slot entry}, queue.item buffer slot = some entry →
    Before kSize queue (preceding.getD entry.call []) (place kSize buffer slot)
  held : ∀ {thread entry index progress}, queue.threads thread = .holding entry index progress →
    Before kSize queue (preceding.getD entry.call []) (place kSize queue.currentWriteBuffer index)

theorem initial_ranked : Ranked kSize [] (initial : LogProducers Line) := by
  constructor
  · intro buffer slot entry found
    cases found
  · intro thread entry index progress holding
    cases holding

/-- No thread has the line of the call pending. -/
def Unpending (queue : LogProducers Line) (call : Nat) : Prop :=
  ∀ thread entry, (queue.threads thread).pending = some entry → entry.call ≠ call

theorem Delivers.stored_of_unpending (delivers : Delivers kSize queue) {call : Nat}
    (known : call < queue.pushed.length) (unpending : queue.Unpending call) :
    ∃ buffer slot entry, queue.item buffer slot = some entry ∧ entry.call = call := by
  rcases delivers.found (List.getElem?_eq_getElem known) with
    ⟨thread, pending⟩ | ⟨buffer, slot, found⟩
  · exact absurd rfl (unpending thread _ pending)
  · exact ⟨buffer, slot, _, found, rfl⟩

theorem Ranked.append {preceding : List (List Nat)} (ranked : Ranked kSize preceding queue)
    (orderly : Orderly kSize queue) (delivers : Delivers kSize queue)
    (all : preceding.length = queue.pushed.length) (returned : List Nat) :
    Ranked kSize (preceding ++ [returned]) queue := by
  have same : ∀ {entry : Entry Line}, queue.pushed[entry.call]? = some entry.line →
      (preceding ++ [returned]).getD entry.call [] = preceding.getD entry.call [] := by
    intro entry known
    have early : entry.call < preceding.length := by
      rw [all]
      exact (List.getElem?_eq_some_iff.mp known).1
    exact List.getD_append _ _ _ _ early
  obtain ⟨finished, _, stored⟩ := orderly
  constructor
  · intro buffer slot entry found
    rw [same (delivers.stored found)]
    exact ranked.stored found
  · intro thread entry index progress holding
    have known : queue.pushed[entry.call]? = some entry.line := by
      have stores := stored.progress holding
      cases progress with
      | indexed => exact (delivers.pending (by rw [holding]; rfl)).1
      | loaded => exact (delivers.pending (by rw [holding]; rfl)).1
      | constructed => exact delivers.stored stores
      | flagged => exact delivers.stored stores.1
    rw [same known]
    exact ranked.held holding

/-- A step that gives out an index gives it to a call whose predecessors are all in their slots. -/
theorem Ranked.step {preceding : List (List Nat)} (ranked : Ranked kSize preceding queue)
    (orderly : Orderly kSize queue) (delivers : Delivers kSize queue)
    (effect : Effect kSize queue thread after)
    (returned : ∀ call, ∀ other ∈ preceding.getD call [], other < queue.pushed.length ∧
      queue.Unpending other) :
    Ranked kSize preceding after := by
  have stored : ∀ {buffer slot entry}, after.item buffer slot = some entry →
      Before kSize after (preceding.getD entry.call []) (place kSize buffer slot) := by
    intro buffer slot entry found
    rcases effect.item_cases orderly buffer slot with same | ⟨_, rfl, _, entry', holding, put⟩
    · rw [same] at found
      exact (ranked.stored found).step orderly effect
    · rw [put] at found
      cases found
      exact (ranked.held holding).step orderly effect
  refine ⟨stored, ?_⟩
  intro other entry index progress holding
  have kept : ∀ {progress'}, queue.threads other = .holding entry index progress' →
      after.currentWriteBuffer = queue.currentWriteBuffer →
      Before kSize after (preceding.getD entry.call [])
        (place kSize after.currentWriteBuffer index) := by
    intro progress' held current
    rw [current]
    exact (ranked.held held).step orderly effect
  cases effect with
  | spin => exact kept holding rfl
  | push | overshoot | retry | clear | lock | enqueue | restart | unlock =>
    rcases phase_cases rfl holding with ⟨_, moved⟩ | ⟨_, before⟩
    · cases moved
    · exact kept before rfl
  | publish switching =>
    obtain ⟨finished, allocated, _⟩ := orderly
    rcases phase_cases rfl holding with ⟨_, moved⟩ | ⟨_, before⟩
    · cases moved
    · exact absurd before (allocated.unheld_of_switching switching other entry index progress)
  | take called opened =>
    rcases phase_cases rfl holding with ⟨_, moved⟩ | ⟨_, before⟩
    · cases moved
      intro call member
      obtain ⟨known, unpending⟩ := returned _ call member
      obtain ⟨buffer, slot, entry', found, same⟩ := delivers.stored_of_unpending known unpending
      exact ⟨buffer, slot, entry', found, same, orderly.place_lt found⟩
    · exact kept before rfl
  | @fill entry' index' progress' held =>
    cases progress' with
    | indexed | loaded | constructed =>
      rcases phase_cases rfl holding with ⟨rfl, moved⟩ | ⟨_, before⟩
      · cases moved
        exact kept held rfl
      · exact kept before rfl
    | flagged buffer =>
      rcases phase_cases rfl holding with ⟨_, moved⟩ | ⟨_, before⟩
      · split at moved
        · cases moved
        · cases moved
      · exact kept before rfl

end FakeMuduo.Util.LogProducers
