import FakeMuduo.Util.LogProducersIndices

/-! What the slots hold while producers fill them, and where every line pushed is to be found. -/

namespace FakeMuduo.Util.LogProducers

open FakeMuduo.Base

variable {Line : Type} {kSize : Nat} {queue after : LogProducers Line} {thread : Nat}
  {finished : List Nat}

/-- What a thread's slot holds when it has got so far. -/
def Progress.Stores (queue : LogProducers Line) (entry : Entry Line) (index : Nat) : Progress → Prop
  | .indexed | .loaded _ => queue.item queue.currentWriteBuffer index = none
  | .constructed _ => queue.item queue.currentWriteBuffer index = some entry
  | .flagged _ =>
    queue.item queue.currentWriteBuffer index = some entry ∧
      queue.state queue.currentWriteBuffer index = 1

/-- What the slots hold. -/
structure Stored (kSize : Nat) (queue : LogProducers Line) (finished : List Nat) : Prop where
  done : ∀ index ∈ finished, queue.Complete queue.currentWriteBuffer index
  progress : ∀ {thread entry index progress}, queue.threads thread = .holding entry index progress →
    progress.Stores queue entry index
  untouched : ∀ index, index ∉ finished →
    (∀ thread entry progress, queue.threads thread ≠ .holding entry index progress) →
    queue.item queue.currentWriteBuffer index = none
  retired : ∀ buffer < queue.currentWriteBuffer, ∀ slot < kSize, queue.Complete buffer slot
  places : ∀ {buffer slot entry}, queue.item buffer slot = some entry →
    buffer ≤ queue.currentWriteBuffer ∧ slot < kSize

theorem initial_stored : Stored kSize (initial : LogProducers Line) [] := by
  refine ⟨?_, ?_, fun _ _ _ => rfl, ?_, ?_⟩
  · intro index member
    cases member
  · intro thread entry index progress holding
    cases holding
  · intro buffer early
    cases early
  · intro buffer slot entry found
    cases found

/-- No slot is written and no flag of a slot. -/
structure SameSlots (kSize : Nat) (queue after : LogProducers Line) : Prop where
  items : ∀ buffer slot, after.item buffer slot = queue.item buffer slot
  states : ∀ buffer, ∀ slot < kSize, after.state buffer slot = queue.state buffer slot

theorem SameSlots.complete (same : SameSlots kSize queue after) {buffer slot : Nat}
    (inside : slot < kSize) (complete : queue.Complete buffer slot) : after.Complete buffer slot :=
  ⟨complete.1.imp fun _ found => (same.items buffer slot).trans found,
    (same.states buffer slot inside).trans complete.2⟩

theorem SameSlots.stores (same : SameSlots kSize queue after)
    (current : after.currentWriteBuffer = queue.currentWriteBuffer)
    {entry : Entry Line} {index : Nat} (inside : index < kSize) {progress : Progress}
    (stores : progress.Stores queue entry index) :
    progress.Stores after entry index := by
  cases progress <;>
    simpa only [Progress.Stores, current, same.items, same.states _ _ inside] using stores

theorem Stored.congr (stored : Stored kSize queue finished)
    (allocated : Allocated kSize queue finished) (same : SameSlots kSize queue after)
    (current : after.currentWriteBuffer = queue.currentWriteBuffer)
    (holding : ∀ thread entry index progress,
      after.threads thread = .holding entry index progress ↔
        queue.threads thread = .holding entry index progress) :
    Stored kSize after finished := by
  refine ⟨?_, ?_, ?_, ?_, ?_⟩
  · intro index member
    rw [current]
    exact same.complete (allocated.counted index member).1 (stored.done index member)
  · intro thread entry index progress found
    have before := (holding _ _ _ _).mp found
    exact same.stores current (allocated.held before).1 (stored.progress before)
  · intro index uncounted unheld
    rw [current, same.items]
    refine stored.untouched index uncounted ?_
    intro thread entry progress before
    exact unheld thread entry progress ((holding _ _ _ _).mpr before)
  · intro buffer early slot inside
    rw [current] at early
    exact same.complete inside (stored.retired buffer early slot inside)
  · intro buffer slot entry found
    rw [same.items] at found
    rw [current]
    exact stored.places found

/-- The slot of an index that nobody has had is empty. -/
theorem Stored.take (stored : Stored kSize queue finished)
    (allocated : Allocated kSize queue finished) {entry : Entry Line}
    (calling : queue.threads thread = .called entry) :
    Stored kSize
      { queue.move thread (.holding entry queue.writeIndex .indexed) with
        writeIndex := queue.writeIndex + 1 }
      finished := by
  refine ⟨stored.done, ?_, ?_, stored.retired, stored.places⟩
  · intro other entry' index progress holding
    rcases phase_cases rfl holding with ⟨_, taken⟩ | ⟨_, before⟩
    · cases taken
      refine stored.untouched queue.writeIndex ?_ ?_
      · intro member
        exact Nat.lt_irrefl _ (allocated.counted _ member).2
      · intro other entry' progress' before
        exact Nat.lt_irrefl _ (allocated.held before).2.1
    · exact stored.progress before
  · intro index uncounted unheld
    refine stored.untouched index uncounted ?_
    intro other entry' progress before
    refine unheld other entry' progress ?_
    have different : other ≠ thread := by
      rintro rfl
      rw [calling] at before
      cases before
    exact (Function.update_of_ne different _ _).trans before

/-- A thread goes on with its slot, and the other slots of the buffer stay as they are. -/
theorem Stored.proceed (stored : Stored kSize queue finished)
    (allocated : Allocated kSize queue finished) {entry : Entry Line} {index : Nat}
    {progress next : Progress} (holding : queue.threads thread = .holding entry index progress)
    (threads : after.threads = Function.update queue.threads thread (.holding entry index next))
    (current : after.currentWriteBuffer = queue.currentWriteBuffer)
    (reached : next.Stores after entry index)
    (complete : ∀ {buffer slot}, queue.Complete buffer slot → after.Complete buffer slot)
    (others : ∀ {buffer slot}, buffer ≠ queue.currentWriteBuffer ∨ slot ≠ index →
      after.item buffer slot = queue.item buffer slot ∧ after.state buffer slot =
        queue.state buffer slot) :
    Stored kSize after finished := by
  have inside := (allocated.held holding).1
  refine ⟨?_, ?_, ?_, ?_, ?_⟩
  · intro counted member
    rw [current]
    exact complete (stored.done counted member)
  · intro other entry' index' progress' found
    rcases phase_cases threads found with ⟨_, moved⟩ | ⟨different, before⟩
    · cases moved
      exact reached
    · have elsewhere : index' ≠ index := by
        rintro rfl
        exact different (allocated.unique before holding)
      obtain ⟨sameItem, sameState⟩ := others (.inr elsewhere : queue.currentWriteBuffer ≠ _ ∨ _)
      have stores := stored.progress before
      cases progress' <;> simpa only [Progress.Stores, current, sameItem, sameState] using stores
  · intro index' uncounted unheld
    have elsewhere : index' ≠ index := by
      rintro rfl
      exact unheld thread entry next (by rw [threads, Function.update_self])
    rw [current, (others (.inr elsewhere)).1]
    refine stored.untouched index' uncounted ?_
    intro other entry' progress' before
    have different : other ≠ thread := by
      rintro rfl
      rw [holding] at before
      cases before
      exact elsewhere rfl
    exact unheld other entry' progress' (by rw [threads, Function.update_of_ne different, before])
  · intro buffer early slot small
    rw [current] at early
    exact complete (stored.retired buffer early slot small)
  · intro buffer slot entry' found
    rw [current]
    by_cases here : buffer = queue.currentWriteBuffer ∧ slot = index
    · exact ⟨Nat.le_of_eq here.1, here.2 ▸ inside⟩
    · rw [(others (not_and_or.mp here)).1] at found
      exact stored.places found

theorem Stored.count (stored : Stored kSize queue finished)
    (allocated : Allocated kSize queue finished) {entry : Entry Line} {index buffer : Nat}
    {phase : Phase Line} (holding : queue.threads thread = .holding entry index (.flagged buffer))
    (threads : after.threads = Function.update queue.threads thread phase)
    (released : ∀ entry index progress, phase ≠ .holding entry index progress)
    (same : SameSlots kSize queue after)
    (current : after.currentWriteBuffer = queue.currentWriteBuffer) :
    Stored kSize after (index :: finished) := by
  have inside := (allocated.held holding).1
  obtain ⟨written, flagged⟩ := stored.progress holding
  refine ⟨?_, ?_, ?_, ?_, ?_⟩
  · intro counted member
    rw [current]
    rcases List.mem_cons.mp member with rfl | earlier
    · exact same.complete inside ⟨⟨entry, written⟩, flagged⟩
    · exact same.complete (allocated.counted counted earlier).1 (stored.done counted earlier)
  · intro other entry' index' progress found
    rcases phase_cases threads found with ⟨_, moved⟩ | ⟨_, before⟩
    · exact absurd moved (released entry' index' progress)
    · exact same.stores current (allocated.held before).1 (stored.progress before)
  · intro index' uncounted unheld
    rw [current, same.items]
    refine stored.untouched index' (fun earlier => uncounted (List.mem_cons_of_mem _ earlier)) ?_
    intro other entry' progress before
    by_cases moved : other = thread
    · subst moved
      rw [holding] at before
      cases before
      exact uncounted List.mem_cons_self
    · exact unheld other entry' progress (by rw [threads, Function.update_of_ne moved, before])
  · intro buffer early slot small
    rw [current] at early
    exact same.complete small (stored.retired buffer early slot small)
  · intro buffer slot entry' found
    rw [same.items] at found
    rw [current]
    exact stored.places found

/-- A full buffer retires and an empty one takes its place. -/
theorem Stored.publish (stored : Stored kSize queue finished)
    (complete : ∀ slot < kSize, queue.Complete queue.currentWriteBuffer slot)
    (unheld : ∀ thread entry index progress, after.threads thread ≠ .holding entry index progress)
    (current : after.currentWriteBuffer = queue.currentWriteBuffer + 1)
    (buffers : after.buffers = Function.update queue.buffers (queue.currentWriteBuffer + 1) .new) :
    Stored kSize after [] := by
  have earlier : ∀ {buffer}, buffer ≤ queue.currentWriteBuffer →
      after.buffers buffer = queue.buffers buffer := by
    intro buffer old
    rw [buffers, Function.update_of_ne (by omega)]
  have fresh : after.buffers after.currentWriteBuffer = .new := by
    rw [buffers, current, Function.update_self]
  refine ⟨?_, ?_, ?_, ?_, ?_⟩
  · intro index member
    cases member
  · intro thread entry index progress holding
    exact absurd holding (unheld thread entry index progress)
  · intro index _ _
    rw [item, fresh]
    rfl
  · intro buffer early slot inside
    have old : buffer ≤ queue.currentWriteBuffer := by omega
    unfold Complete
    rw [earlier old]
    rcases Nat.lt_or_eq_of_le old with before | rfl
    · exact stored.retired buffer before slot inside
    · exact complete slot inside
  · intro buffer slot entry found
    by_cases newest : buffer = after.currentWriteBuffer
    · subst newest
      rw [item, fresh] at found
      cases found
    · have elsewhere : after.item buffer slot = queue.item buffer slot := by
        unfold item
        rw [buffers, Function.update_of_ne (by omega)]
      rw [elsewhere] at found
      obtain ⟨old, inside⟩ := stored.places found
      exact ⟨by omega, inside⟩

/-- The indices of the buffer in use are given out and its slots filled in order. -/
def Orderly (kSize : Nat) (queue : LogProducers Line) : Prop :=
  ∃ finished, Allocated kSize queue finished ∧ Stored kSize queue finished

theorem initial_orderly (some : 0 < kSize) : Orderly kSize (initial : LogProducers Line) :=
  ⟨[], initial_allocated some, initial_stored⟩

/-- A move that neither takes nor gives back an index. -/
theorem Orderly.neutral (orderly : Orderly kSize queue) (phase : Phase Line)
    (before : (queue.threads thread).IsNeutral) (neutral : phase.IsNeutral)
    (threads : after.threads = Function.update queue.threads thread phase)
    (overshoots : Overshoots kSize queue after)
    (current : after.currentWriteBuffer = queue.currentWriteBuffer)
    (buffers : after.buffers = queue.buffers) (queued : after.logBuffers = queue.logBuffers) :
    Orderly kSize after := by
  obtain ⟨finished, allocated, stored⟩ := orderly
  have roles := sameRoles_of_neutral before neutral threads
  have same : SameSlots kSize queue after :=
    ⟨fun _ _ => by rw [item, buffers, item], fun _ _ _ => by rw [state, buffers, state]⟩
  refine ⟨finished, allocated.congr roles overshoots current ?_ queued,
    stored.congr allocated same current roles.holding⟩
  rw [state, buffers, state]

/-- `Complete` speaks of what the accessors show. -/
theorem complete_iff {buffer slot : Nat} :
    queue.Complete buffer slot ↔ (∃ entry, queue.item buffer slot = some entry) ∧
      queue.state buffer slot = 1 :=
  Iff.rfl

theorem Orderly.load (orderly : Orderly kSize queue) {entry : Entry Line} {index : Nat}
    (holding : queue.threads thread = .holding entry index .indexed) :
    Orderly kSize
      (queue.move thread (.holding entry index (.loaded queue.currentWriteBuffer))) := by
  obtain ⟨finished, allocated, stored⟩ := orderly
  refine ⟨finished, allocated.proceed (.loaded queue.currentWriteBuffer) holding rfl rfl rfl
    rfl rfl rfl, ?_⟩
  exact stored.proceed allocated holding rfl rfl (stored.progress holding) id (fun _ => ⟨rfl, rfl⟩)

/-- The slot that a thread puts its line into. -/
theorem Orderly.slot_empty (orderly : Orderly kSize queue) {entry : Entry Line} {index buffer : Nat}
    (holding : queue.threads thread = .holding entry index (.loaded buffer)) :
    buffer = queue.currentWriteBuffer ∧ index < kSize ∧ queue.item buffer index = none := by
  obtain ⟨finished, allocated, stored⟩ := orderly
  obtain ⟨inside, _, _, isIn⟩ := allocated.held holding
  have empty := stored.progress holding
  cases isIn
  exact ⟨rfl, inside, empty⟩

theorem Orderly.construct (orderly : Orderly kSize queue) {entry : Entry Line} {index buffer : Nat}
    (holding : queue.threads thread = .holding entry index (.loaded buffer)) (writes : List Write) :
    Orderly kSize
      { (queue.setItem buffer index entry).move thread
        (.holding entry index (.constructed buffer)) with
        writes } := by
  obtain ⟨rfl, _, _⟩ := orderly.slot_empty holding
  obtain ⟨finished, allocated, stored⟩ := orderly
  have items := queue.item_setItem queue.currentWriteBuffer index entry
  have states := queue.state_setItem queue.currentWriteBuffer index entry
  refine ⟨finished, allocated.proceed (.constructed queue.currentWriteBuffer) holding rfl rfl rfl
    rfl (states _ _) rfl, ?_⟩
  refine stored.proceed allocated holding rfl rfl ?_ ?_ ?_
  · exact (items _ _).trans (if_pos ⟨rfl, rfl⟩)
  · rintro buffer slot ⟨⟨old, found⟩, flagged⟩
    refine complete_iff.mpr ⟨?_, (states _ _).trans flagged⟩
    by_cases here : buffer = queue.currentWriteBuffer ∧ slot = index
    · exact ⟨entry, (items _ _).trans (if_pos here)⟩
    · exact ⟨old, ((items _ _).trans (if_neg here)).trans found⟩
  · intro buffer slot elsewhere
    exact ⟨(items _ _).trans (if_neg (not_and_or.mpr elsewhere)), states _ _⟩

theorem Orderly.setFlag (orderly : Orderly kSize queue) {entry : Entry Line} {index buffer : Nat}
    (holding : queue.threads thread = .holding entry index (.constructed buffer)) :
    Orderly kSize ((queue.setState buffer index 1).move thread
      (.holding entry index (.flagged buffer))) := by
  obtain ⟨finished, allocated, stored⟩ := orderly
  obtain ⟨inside, _, _, isIn⟩ := allocated.held holding
  cases isIn
  have items := queue.item_setState queue.currentWriteBuffer index 1
  have states := queue.state_setState queue.currentWriteBuffer index 1
  have uncounted : ¬ (queue.currentWriteBuffer = queue.currentWriteBuffer ∧ kSize = index) := by
    rintro ⟨_, rfl⟩
    exact Nat.lt_irrefl _ inside
  refine ⟨finished, allocated.proceed (.flagged queue.currentWriteBuffer) holding rfl rfl rfl rfl
    ((states _ _).trans (if_neg uncounted)) rfl, ?_⟩
  refine stored.proceed allocated holding rfl rfl ?_ ?_ ?_
  · exact ⟨(items _ _).trans (stored.progress holding), (states _ _).trans (if_pos ⟨rfl, rfl⟩)⟩
  · rintro buffer slot ⟨⟨old, found⟩, flagged⟩
    refine complete_iff.mpr ⟨⟨old, (items _ _).trans found⟩, ?_⟩
    by_cases here : buffer = queue.currentWriteBuffer ∧ slot = index
    · exact (states _ _).trans (if_pos here)
    · exact ((states _ _).trans (if_neg here)).trans flagged
  · intro buffer slot elsewhere
    exact ⟨items _ _, (states _ _).trans (if_neg (not_and_or.mpr elsewhere))⟩

/-- A change of a count touches no slot. -/
theorem sameSlots_count (buffer value : Nat) (phase : Phase Line) :
    SameSlots kSize queue ((queue.setState buffer kSize value).move thread phase) := by
  refine ⟨fun _ _ => queue.item_setState _ _ _ _ _, ?_⟩
  intro other slot inside
  refine (queue.state_setState _ _ _ _ _).trans (if_neg ?_)
  rintro ⟨_, rfl⟩
  exact Nat.lt_irrefl _ inside

theorem Orderly.count (orderly : Orderly kSize queue) {entry : Entry Line} {index buffer : Nat}
    (holding : queue.threads thread = .holding entry index (.flagged buffer)) :
    Orderly kSize (queue.fill kSize thread entry index (.flagged buffer)) := by
  obtain ⟨finished, allocated, stored⟩ := orderly
  obtain ⟨_, _, _, isIn⟩ := allocated.held holding
  cases isIn
  refine ⟨index :: finished, ?_, ?_⟩
  · refine allocated.count holding rfl rfl rfl ?_ rfl
    exact (queue.state_setState _ _ _ _ _).trans (if_pos ⟨rfl, rfl⟩)
  · refine stored.count allocated holding rfl ?_ (sameSlots_count _ _ _) rfl
    intro entry' index' progress moved
    split at moved
    · cases moved
    · cases moved

theorem Orderly.fill (orderly : Orderly kSize queue) {entry : Entry Line} {index : Nat}
    {progress : Progress} (holding : queue.threads thread = .holding entry index progress) :
    Orderly kSize (queue.fill kSize thread entry index progress) := by
  cases progress with
  | indexed => exact orderly.load holding
  | loaded buffer => exact orderly.construct holding _
  | constructed buffer => exact orderly.setFlag holding
  | flagged buffer => exact orderly.count holding

/-- What a step can do. -/
inductive Effect (kSize : Nat) (queue : LogProducers Line) (thread : Nat) :
    LogProducers Line → Prop where
  | push {line : Line} (idle : queue.threads thread = .idle) : Effect kSize queue thread
      { queue.move thread (.called ⟨queue.pushed.length, line⟩) with
        pushed := queue.pushed ++ [line] }
  | take {entry : Entry Line} (called : queue.threads thread = .called entry)
      (opened : queue.writeIndex < kSize) :
      Effect kSize queue thread { queue.move thread (.holding entry queue.writeIndex .indexed) with
        writeIndex := queue.writeIndex + 1 }
  | overshoot {entry : Entry Line} (called : queue.threads thread = .called entry)
      (closed : kSize ≤ queue.writeIndex) :
      Effect kSize queue thread { queue.move thread (.spinning entry) with
        writeIndex := queue.writeIndex + 1 }
  | spin : Effect kSize queue thread queue
  | retry {entry : Entry Line} (spinning : queue.threads thread = .spinning entry) :
      Effect kSize queue thread (queue.move thread (.called entry))
  | fill {entry : Entry Line} {index : Nat} {progress : Progress}
      (holding : queue.threads thread = .holding entry index progress) :
      Effect kSize queue thread (queue.fill kSize thread entry index progress)
  | clear {buffer : Nat} (switching : queue.threads thread = .switching (.filled buffer)) :
      Effect kSize queue thread ((queue.setState buffer kSize 0).move thread (.switching .cleared))
  | publish (switching : queue.threads thread = .switching .cleared) : Effect kSize queue thread
      { queue.move thread (.switching (.published (queue.currentWriteBuffer + 1))) with
        currentWriteBuffer := queue.currentWriteBuffer + 1
        buffers := Function.update queue.buffers (queue.currentWriteBuffer + 1) .new
        switches := queue.switches ++ [(thread, queue.currentWriteBuffer + 1)] }
  | lock {buffer : Nat} (switching : queue.threads thread = .switching (.published buffer)) :
      Effect kSize queue thread { queue.move thread (.switching (.locked buffer))
        with flag := true }
  | enqueue {buffer : Nat} (switching : queue.threads thread = .switching (.locked buffer)) :
      Effect kSize queue thread { queue.move thread (.switching .enqueued) with
        logBuffers := queue.logBuffers ++ [buffer] }
  | restart (switching : queue.threads thread = .switching .enqueued) :
      Effect kSize queue thread { queue.move thread .unlocking with writeIndex := 0 }
  | unlock (unlocking : queue.threads thread = .unlocking) :
      Effect kSize queue thread { queue.move thread .idle with flag := false }

theorem setupNext_effect {switch : Switch} (switching : queue.threads thread = .switching switch)
    (performed : queue.setupNext kSize thread switch = .ok after) :
    Effect kSize queue thread after := by
  cases switch with
  | filled buffer =>
    cases performed
    exact .clear switching
  | cleared =>
    cases performed
    exact .publish switching
  | published buffer =>
    simp only [LogProducers.setupNext] at performed
    split at performed
    · cases performed
    · cases performed
      exact .lock switching
  | locked buffer =>
    cases performed
    exact .enqueue switching
  | enqueued =>
    cases performed
    exact .restart switching

theorem advance_effect (performed : queue.advance kSize thread (queue.threads thread) = .ok after) :
    Effect kSize queue thread after := by
  cases phase : queue.threads thread with
  | idle =>
    rw [phase] at performed
    cases performed
  | called entry =>
    rw [phase] at performed
    by_cases opened : queue.writeIndex < kSize
    · simp only [LogProducers.advance, opened, if_true] at performed
      cases performed
      exact .take phase opened
    · simp only [LogProducers.advance, opened, if_false] at performed
      cases performed
      exact .overshoot phase (Nat.not_lt.mp opened)
  | spinning entry =>
    rw [phase] at performed
    by_cases closed : kSize ≤ queue.writeIndex
    · simp only [LogProducers.advance, closed, if_true] at performed
      cases performed
      exact .spin
    · simp only [LogProducers.advance, closed, if_false] at performed
      cases performed
      exact .retry phase
  | holding entry index progress =>
    rw [phase] at performed
    cases performed
    exact .fill phase
  | switching switch =>
    rw [phase] at performed
    exact setupNext_effect phase performed
  | unlocking =>
    rw [phase] at performed
    cases performed
    exact .unlock phase

theorem perform_effect {step : Step Line} (performed : queue.perform kSize step = .ok after) :
    ∃ thread, Effect kSize queue thread after := by
  cases step with
  | push thread line =>
    simp only [perform] at performed
    split at performed
    · rename_i idle
      cases performed
      exact ⟨thread, .push idle⟩
    · cases performed
  | advance thread => exact ⟨thread, advance_effect performed⟩

/-- A move of the thread that sets up a buffer leaves the holders as they are. -/
theorem holding_of_switching {switch : Switch} {phase : Phase Line}
    (switching : queue.threads thread = .switching switch)
    (free : ∀ entry index progress, phase ≠ .holding entry index progress)
    (threads : after.threads = Function.update queue.threads thread phase) (other : Nat)
    (entry : Entry Line) (index : Nat) (progress : Progress) :
    after.threads other = .holding entry index progress ↔
      queue.threads other = .holding entry index progress := by
  by_cases same : other = thread
  · subst same
    rw [threads, Function.update_self, switching]
    exact iff_of_false (free entry index progress) (fun moved => by cases moved)
  · rw [threads, Function.update_of_ne same]

theorem Orderly.publish (orderly : Orderly kSize queue)
    (switching : queue.threads thread = .switching .cleared) :
    Orderly kSize { queue.move thread (.switching (.published (queue.currentWriteBuffer + 1))) with
      currentWriteBuffer := queue.currentWriteBuffer + 1
      buffers := Function.update queue.buffers (queue.currentWriteBuffer + 1) .new
      switches := queue.switches ++ [(thread, queue.currentWriteBuffer + 1)] } := by
  obtain ⟨finished, allocated, stored⟩ := orderly
  have unheld := unheld_of_move (allocated.unheld_of_switching switching)
    (fun _ _ _ moved => by cases moved)
    (rfl : (queue.move thread (.switching (.published (queue.currentWriteBuffer + 1)))).threads = _)
  rcases allocated.stage_of_switching switching with full | fresh
  · refine ⟨[], allocated.publish switching rfl rfl rfl ?_ rfl, stored.publish ?_ unheld rfl rfl⟩
    · simp [state, Buffer.new]
    · intro slot inside
      exact stored.done slot (allocated.mem_of_full full.all inside)
  · rcases fresh.shape with ⟨published | locked, _⟩ | ⟨enqueued, _⟩
    · cases published
    · cases locked
    · cases enqueued

theorem Orderly.step (orderly : Orderly kSize queue) (some : 0 < kSize)
    (effect : Effect kSize queue thread after) :
    Orderly kSize after := by
  cases effect with
  | @push line idle =>
    exact orderly.neutral (.called ⟨_, line⟩) (by rw [idle]; trivial) trivial rfl
      ⟨Nat.le_refl _, .inl rfl⟩ rfl rfl rfl
  | take called opened =>
    obtain ⟨finished, allocated, stored⟩ := orderly
    exact ⟨finished, allocated.take called opened, stored.take allocated called⟩
  | @overshoot entry called closed =>
    exact orderly.neutral (.spinning entry) (by rw [called]; trivial) trivial rfl
      ⟨Nat.le_succ _, .inr closed⟩ rfl rfl rfl
  | spin => exact orderly
  | @retry entry spinning =>
    exact orderly.neutral (.called entry) (by rw [spinning]; trivial) trivial rfl
      ⟨Nat.le_refl _, .inl rfl⟩ rfl rfl rfl
  | fill holding => exact orderly.fill holding
  | clear switching =>
    obtain ⟨finished, allocated, stored⟩ := orderly
    refine ⟨finished, allocated.clear switching, ?_⟩
    exact stored.congr allocated (sameSlots_count _ _ _) rfl
      (holding_of_switching switching (fun _ _ _ moved => by cases moved) rfl)
  | publish switching => exact orderly.publish switching
  | lock switching =>
    obtain ⟨finished, allocated, stored⟩ := orderly
    refine ⟨finished, allocated.lock switching, ?_⟩
    exact stored.congr allocated ⟨fun _ _ => rfl, fun _ _ _ => rfl⟩ rfl
      (holding_of_switching switching (fun _ _ _ moved => by cases moved) rfl)
  | enqueue switching =>
    obtain ⟨finished, allocated, stored⟩ := orderly
    refine ⟨finished, allocated.enqueue switching, ?_⟩
    exact stored.congr allocated ⟨fun _ _ => rfl, fun _ _ _ => rfl⟩ rfl
      (holding_of_switching switching (fun _ _ _ moved => by cases moved) rfl)
  | restart switching =>
    obtain ⟨finished, allocated, stored⟩ := orderly
    refine ⟨finished, allocated.restart some switching, ?_⟩
    exact stored.congr allocated ⟨fun _ _ => rfl, fun _ _ _ => rfl⟩ rfl
      (holding_of_switching switching (fun _ _ _ moved => by cases moved) rfl)
  | unlock unlocking =>
    exact orderly.neutral .idle (by rw [unlocking]; trivial) trivial rfl
      ⟨Nat.le_refl _, .inl rfl⟩ rfl rfl rfl

/-- The line that a thread has not put into a slot yet. -/
def Phase.pending : Phase Line → Option (Entry Line)
  | .called entry | .spinning entry | .holding entry _ .indexed | .holding entry _ (.loaded _) =>
    some entry
  | _ => none

/-- Every line pushed is either pending with one thread or in one slot, and no
slot was written twice. -/
structure Delivers (kSize : Nat) (queue : LogProducers Line) : Prop where
  pending : ∀ {thread entry}, (queue.threads thread).pending = some entry →
    queue.pushed[entry.call]? = some entry.line ∧
      ∀ buffer slot stored, queue.item buffer slot = some stored → stored.call ≠ entry.call
  alone : ∀ {thread other entry entry'}, (queue.threads thread).pending = some entry →
    (queue.threads other).pending = some entry' → entry.call = entry'.call → thread = other
  stored : ∀ {buffer slot entry}, queue.item buffer slot = some entry →
    queue.pushed[entry.call]? = some entry.line
  once : ∀ {buffer slot buffer' slot' entry entry'}, queue.item buffer slot = some entry →
    queue.item buffer' slot' = some entry' → entry.call = entry'.call →
      buffer = buffer' ∧ slot = slot'
  found : ∀ {call line}, queue.pushed[call]? = some line →
    (∃ thread, (queue.threads thread).pending = some ⟨call, line⟩) ∨
      ∃ buffer slot, queue.item buffer slot = some ⟨call, line⟩
  distinct : (queue.writes.map fun write => (write.buffer, write.slot)).Nodup
  written : ∀ write ∈ queue.writes, write.slot < kSize ∧ queue.item write.buffer write.slot ≠ none

theorem initial_delivers : Delivers kSize (initial : LogProducers Line) := by
  refine ⟨?_, ?_, ?_, ?_, ?_, List.nodup_nil, ?_⟩
  · intro thread entry pending
    cases pending
  · intro thread other entry entry' pending
    cases pending
  · intro buffer slot entry found
    cases found
  · intro buffer slot buffer' slot' entry entry' found
    cases found
  · intro call line pushed
    simp [initial] at pushed
  · intro write member
    cases member

theorem Delivers.quiet (delivers : Delivers kSize queue)
    (pending : ∀ thread, (after.threads thread).pending = (queue.threads thread).pending)
    (items : ∀ buffer slot, after.item buffer slot = queue.item buffer slot)
    (pushed : after.pushed = queue.pushed) (writes : after.writes = queue.writes) :
    Delivers kSize after := by
  refine ⟨?_, ?_, ?_, ?_, ?_, writes ▸ delivers.distinct, ?_⟩
  · intro thread entry waiting
    rw [pending] at waiting
    obtain ⟨known, unstored⟩ := delivers.pending waiting
    exact ⟨pushed ▸ known, fun buffer slot stored found =>
      unstored buffer slot stored ((items _ _).symm.trans found)⟩
  · intro thread other entry entry' first second
    rw [pending] at first second
    exact delivers.alone first second
  · intro buffer slot entry found
    rw [items] at found
    exact pushed ▸ delivers.stored found
  · intro buffer slot buffer' slot' entry entry' first second
    rw [items] at first second
    exact delivers.once first second
  · intro call line known
    rw [pushed] at known
    rcases delivers.found known with ⟨thread, waiting⟩ | ⟨buffer, slot, stored⟩
    · exact .inl ⟨thread, (pending thread).trans waiting⟩
    · exact .inr ⟨buffer, slot, (items buffer slot).trans stored⟩
  · rw [writes]
    intro write member
    rw [items]
    exact delivers.written write member

/-- What a thread has pending stays so in a move that keeps it. -/
theorem pending_of_move {phase : Phase Line} (same : phase.pending = (queue.threads thread).pending)
    (threads : after.threads = Function.update queue.threads thread phase) (other : Nat) :
    (after.threads other).pending = (queue.threads other).pending := by
  by_cases moved : other = thread
  · subst moved
    rw [threads, Function.update_self, same]
  · rw [threads, Function.update_of_ne moved]

/-- A new call has its line pending, under a number that no other has. -/
theorem Delivers.push (delivers : Delivers kSize queue)
    (idle : queue.threads thread = .idle) (line : Line) :
    Delivers kSize
      { queue.move thread (.called ⟨queue.pushed.length, line⟩) with
        pushed := queue.pushed ++ [line] } := by
  have early : ∀ {call : Nat} {line' : Line}, queue.pushed[call]? = some line' →
      call < queue.pushed.length := by
    intro call line' found
    exact (List.getElem?_eq_some_iff.mp found).1
  have known : ∀ {call : Nat} {line' : Line}, queue.pushed[call]? = some line' →
      (queue.pushed ++ [line])[call]? = some line' := by
    intro call line' found
    rw [List.getElem?_append_left (early found), found]
  have pendings : ∀ {other : Nat} {entry : Entry Line},
      (Function.update queue.threads thread (.called ⟨queue.pushed.length, line⟩) other).pending =
        some entry →
        other = thread ∧ entry = ⟨queue.pushed.length, line⟩ ∨
          (queue.threads other).pending = some entry := by
    intro other entry waiting
    rcases phase_cases rfl
      (rfl : (queue.move thread (.called ⟨queue.pushed.length, line⟩)).threads other = _) with
      ⟨same, _⟩ | ⟨different, _⟩
    · subst same
      rw [Function.update_self] at waiting
      exact .inl ⟨rfl, (Option.some.inj waiting).symm⟩
    · rw [Function.update_of_ne different] at waiting
      exact .inr waiting
  refine ⟨?_, ?_, ?_, delivers.once, ?_, delivers.distinct, delivers.written⟩
  · intro other entry waiting
    rcases pendings waiting with ⟨_, rfl⟩ | before
    · refine ⟨by simp, ?_⟩
      intro buffer slot stored found
      exact Nat.ne_of_lt (early (delivers.stored found))
    · obtain ⟨entered, unstored⟩ := delivers.pending before
      exact ⟨known entered, unstored⟩
  · intro first second entry entry' waiting waiting' same
    rcases pendings waiting with ⟨rfl, rfl⟩ | before
    · rcases pendings waiting' with ⟨rfl, _⟩ | before'
      · rfl
      · exact absurd same (Nat.ne_of_gt (early (delivers.pending before').1))
    · rcases pendings waiting' with ⟨rfl, rfl⟩ | before'
      · exact absurd same (Nat.ne_of_lt (early (delivers.pending before).1))
      · exact delivers.alone before before' same
  · intro buffer slot entry found
    exact known (delivers.stored found)
  · intro call line' entered
    by_cases old : call < queue.pushed.length
    · have before : queue.pushed[call]? = some line' :=
        (List.getElem?_append_left old).symm.trans entered
      rcases delivers.found before with ⟨other, waiting⟩ | stored
      · refine .inl ⟨other, ?_⟩
        have different : other ≠ thread := by
          rintro rfl
          rw [idle] at waiting
          cases waiting
        exact (congrArg Phase.pending (Function.update_of_ne different _ _)).trans waiting
      · exact .inr stored
    · have bound := (List.getElem?_eq_some_iff.mp entered).1
      rw [List.length_append, List.length_singleton] at bound
      have last : call = queue.pushed.length := by omega
      subst last
      have same : line = line' := by simpa using entered
      subst same
      refine .inl ⟨thread, ?_⟩
      change (Function.update queue.threads thread _ thread).pending = _
      rw [Function.update_self]
      rfl

/-- A thread puts its pending line into an empty slot. -/
theorem Delivers.construct (delivers : Delivers kSize queue) {entry : Entry Line}
    {index buffer : Nat} (holding : queue.threads thread = .holding entry index (.loaded buffer))
    (inside : index < kSize) (empty : queue.item buffer index = none) :
    Delivers kSize
      { (queue.setItem buffer index entry).move thread
        (.holding entry index (.constructed buffer)) with
        writes := queue.writes ++ [⟨entry.call, buffer, index⟩] } := by
  have own : (queue.threads thread).pending = some entry := by rw [holding]; rfl
  obtain ⟨entered, unstored⟩ := delivers.pending own
  have pendings : ∀ {other : Nat} {entry' : Entry Line},
      (Function.update queue.threads thread (.holding entry index (.constructed buffer))
        other).pending = some entry' →
        other ≠ thread ∧ (queue.threads other).pending = some entry' := by
    intro other entry' waiting
    by_cases same : other = thread
    · subst same
      rw [Function.update_self] at waiting
      cases waiting
    · rw [Function.update_of_ne same] at waiting
      exact ⟨same, waiting⟩
  have items : ∀ {other slot : Nat} {stored : Entry Line},
      (queue.setItem buffer index entry).item other slot = some stored →
        other = buffer ∧ slot = index ∧ stored = entry ∨ queue.item other slot = some stored := by
    intro other slot stored found
    rw [item_setItem] at found
    split at found
    · rename_i here
      exact .inl ⟨here.1, here.2, (Option.some.inj found).symm⟩
    · exact .inr found
  have kept : ∀ {other slot : Nat} {stored : Entry Line}, queue.item other slot = some stored →
      (queue.setItem buffer index entry).item other slot = some stored := by
    intro other slot stored found
    rw [item_setItem, if_neg ?_, found]
    rintro ⟨rfl, rfl⟩
    rw [empty] at found
    cases found
  refine ⟨?_, ?_, ?_, ?_, ?_, ?_, ?_⟩
  · intro other entry' waiting
    obtain ⟨different, before⟩ := pendings waiting
    refine ⟨(delivers.pending before).1, ?_⟩
    intro buffer' slot stored found
    rcases items found with ⟨_, _, rfl⟩ | earlier
    · intro same
      exact different (delivers.alone before own same.symm)
    · exact (delivers.pending before).2 buffer' slot stored earlier
  · intro first second entry₁ entry₂ waiting waiting'
    exact delivers.alone (pendings waiting).2 (pendings waiting').2
  · intro buffer' slot stored found
    rcases items found with ⟨_, _, rfl⟩ | earlier
    · exact entered
    · exact delivers.stored earlier
  · intro buffer₁ slot₁ buffer₂ slot₂ entry₁ entry₂ found found' same
    rcases items found with ⟨rfl, rfl, rfl⟩ | earlier
    · rcases items found' with ⟨rfl, rfl, _⟩ | earlier'
      · exact ⟨rfl, rfl⟩
      · exact absurd same.symm (unstored _ _ _ earlier')
    · rcases items found' with ⟨rfl, rfl, rfl⟩ | earlier'
      · exact absurd same (unstored _ _ _ earlier)
      · exact delivers.once earlier earlier' same
  · intro call line known
    rcases delivers.found known with ⟨other, waiting⟩ | ⟨buffer', slot, stored⟩
    · by_cases same : other = thread
      · subst same
        rw [own] at waiting
        cases waiting
        exact .inr ⟨buffer, index, (item_setItem _ _ _ _ _ _).trans (if_pos ⟨rfl, rfl⟩)⟩
      · exact .inl ⟨other, (congrArg Phase.pending (Function.update_of_ne same _ _)).trans waiting⟩
    · exact .inr ⟨buffer', slot, kept stored⟩
  · rw [List.map_append]
    refine List.nodup_append.mpr ⟨delivers.distinct, List.nodup_singleton _, ?_⟩
    intro place member other last same
    subst same
    obtain ⟨write, inWrites, rfl⟩ := List.mem_map.mp member
    have here := List.mem_singleton.mp last
    cases here
    exact (delivers.written write inWrites).2 empty
  · intro write member
    rcases List.mem_append.mp member with earlier | last
    · obtain ⟨small, filled⟩ := delivers.written write earlier
      obtain ⟨stored, found⟩ := Option.ne_none_iff_exists'.mp filled
      exact ⟨small, fun gone => by cases (kept found).symm.trans gone⟩
    · rw [List.mem_singleton.mp last]
      exact ⟨inside, fun gone => by
        cases ((item_setItem _ _ _ _ _ _).trans (if_pos ⟨rfl, rfl⟩)).symm.trans gone⟩

theorem Delivers.fill (delivers : Delivers kSize queue) (orderly : Orderly kSize queue)
    {entry : Entry Line} {index : Nat} {progress : Progress}
    (holding : queue.threads thread = .holding entry index progress) :
    Delivers kSize (queue.fill kSize thread entry index progress) := by
  cases progress with
  | indexed =>
    exact delivers.quiet (pending_of_move (by rw [holding]; rfl) rfl) (fun _ _ => rfl) rfl rfl
  | loaded buffer =>
    obtain ⟨_, inside, empty⟩ := orderly.slot_empty holding
    exact delivers.construct holding inside empty
  | constructed buffer =>
    exact delivers.quiet (pending_of_move (by rw [holding]; rfl) rfl)
      (fun _ _ => item_setState _ _ _ _ _ _) rfl rfl
  | flagged buffer =>
    refine delivers.quiet (pending_of_move ?_ rfl) (fun _ _ => item_setState _ _ _ _ _ _) rfl rfl
    rw [holding]
    split <;> rfl

theorem Delivers.publish (delivers : Delivers kSize queue) (orderly : Orderly kSize queue)
    (switching : queue.threads thread = .switching .cleared) :
    Delivers kSize { queue.move thread (.switching (.published (queue.currentWriteBuffer + 1))) with
      currentWriteBuffer := queue.currentWriteBuffer + 1
      buffers := Function.update queue.buffers (queue.currentWriteBuffer + 1) .new
      switches := queue.switches ++ [(thread, queue.currentWriteBuffer + 1)] } := by
  obtain ⟨_, _, stored⟩ := orderly
  refine delivers.quiet (pending_of_move (by rw [switching]; rfl) rfl) ?_ rfl rfl
  intro buffer slot
  by_cases newest : buffer = queue.currentWriteBuffer + 1
  · subst newest
    cases found : queue.item (queue.currentWriteBuffer + 1) slot with
    | none => simp [item, Buffer.new]
    | some entry => exact absurd (stored.places found).1 (Nat.not_succ_le_self _)
  · simp [item, newest]

theorem Delivers.step (delivers : Delivers kSize queue) (orderly : Orderly kSize queue)
    (effect : Effect kSize queue thread after) : Delivers kSize after := by
  cases effect with
  | @push line idle => exact delivers.push idle line
  | take phase | overshoot phase | retry phase | unlock phase | lock phase | enqueue phase
  | restart phase =>
    exact delivers.quiet (pending_of_move (by rw [phase]; rfl) rfl) (fun _ _ => rfl) rfl rfl
  | spin => exact delivers
  | fill holding => exact delivers.fill orderly holding
  | clear switching =>
    exact delivers.quiet (pending_of_move (by rw [switching]; rfl) rfl)
      (fun _ _ => item_setState _ _ _ _ _ _) rfl rfl
  | publish switching => exact delivers.publish orderly switching

/-- Each buffer but the first was stored in `current_write_buffer_` by one thread. -/
def Switched (queue : LogProducers Line) : Prop :=
  queue.switches.map Prod.snd = List.range' 1 queue.currentWriteBuffer

/-- A step stores the next buffer, or it leaves the current one. -/
theorem switches_cases (effect : Effect kSize queue thread after) :
    after.switches = queue.switches ∧ after.currentWriteBuffer = queue.currentWriteBuffer ∨
      after.switches = queue.switches ++ [(thread, queue.currentWriteBuffer + 1)] ∧
        after.currentWriteBuffer = queue.currentWriteBuffer + 1 := by
  cases effect with
  | publish => exact .inr ⟨rfl, rfl⟩
  | @fill _ _ progress =>
    cases progress with
    | indexed | loaded | constructed | flagged => exact .inl ⟨rfl, rfl⟩
  | push | take | overshoot | spin | retry | clear | lock | enqueue | restart | unlock =>
    exact .inl ⟨rfl, rfl⟩

theorem Switched.step (switched : Switched queue) (effect : Effect kSize queue thread after) :
    Switched after := by
  unfold Switched at *
  rcases switches_cases effect with ⟨same, current⟩ | ⟨more, current⟩
  · rw [same, current, switched]
  · rw [more, current, List.map_append, switched, List.range'_concat]
    simp [Nat.add_comm]

/-- Producers do not collide, however their steps interleave. -/
theorem collisionless {steps : List (Step Line)} (some : 0 < kSize)
    (run : (machine kSize).Run initial steps queue) :
    Collisionless queue kSize := by
  have sound : Orderly kSize queue ∧ Delivers kSize queue ∧ Switched queue := by
    refine run.invariant (fun _ queue => Orderly kSize queue ∧
      Delivers kSize queue ∧ Switched queue)
      ⟨initial_orderly some, initial_delivers, rfl⟩ ?_
    rintro _ current step next ⟨orderly, delivers, switched⟩ performed
    obtain ⟨thread, effect⟩ := perform_effect performed
    exact ⟨orderly.step some effect, delivers.step orderly effect, switched.step effect⟩
  obtain ⟨⟨finished, allocated, stored⟩, delivers, switched⟩ := sound
  refine ⟨delivers.distinct, fun write member =>
    (delivers.written write member).1, stored.retired, switched, allocated.switcher_alone, ?_⟩
  intro idle call line pushed
  have queued : queue.logBuffers = List.range (queue.currentWriteBuffer + 1) := by
    cases allocated.stage with
    | filling filling => exact filling.queued
    | full switcher switch full =>
      have busy := full.switching
      rw [idle] at busy
      cases busy
    | fresh switcher switch fresh =>
      have busy := fresh.switching
      rw [idle] at busy
      cases busy
  rcases delivers.found pushed with ⟨thread, waiting⟩ | ⟨buffer, slot, found⟩
  · rw [idle] at waiting
    cases waiting
  · obtain ⟨old, inside⟩ := stored.places found
    refine ⟨(buffer, slot), ⟨?_, inside, found⟩, ?_⟩
    · rw [queued, List.mem_range]
      exact Nat.lt_succ_of_le old
    · rintro ⟨buffer', slot'⟩ ⟨_, _, found'⟩
      obtain ⟨rfl, rfl⟩ := delivers.once found' found rfl
      rfl

/-- Two threads begin to push, and each goes on alone. -/
def twoPushes : List (Step Unit) :=
  .push 0 () :: .push 1 () :: .advance 0 :: .advance 1 ::
    List.append (List.replicate 10 (.advance 0)) (List.replicate 12 (.advance 1))

/-- Two threads and buffers of one line: the second thread waits until the first has set
up the next buffer. -/
theorem collisionless_two :
    ∃ (steps : List (Step Unit)) (queue : LogProducers Unit), (machine 1).Run initial steps queue ∧
      Collisionless queue 1 ∧ queue.logBuffers = [0, 1, 2] := by
  have followed :
      (Machine.follow (fun queue => perform queue 1) (fun _ _ => true) initial twoPushes).any
        (fun queue => queue.logBuffers == [0, 1, 2]) = true := by
    decide +kernel
  obtain ⟨queue, run, final⟩ :=
    Machine.Run.ofFollowAny (machine 1) (fun _ performed => performed) followed
  exact ⟨_, queue, run, collisionless Nat.one_pos run, beq_iff_eq.mp final⟩

end FakeMuduo.Util.LogProducers
