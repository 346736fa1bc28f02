import FakeMuduo.Util.LogProducers
import Mathlib.Data.List.Nodup
import Mathlib.Data.List.Perm.Subperm

/-! Why producers do not collide: an index is held by one thread until its slot is counted, so a
buffer is full only when nobody holds an index, and no index is given out until the
next buffer is in place. -/

namespace FakeMuduo.Util.LogProducers

open FakeMuduo.Base

variable {Line : Type} {kSize : Nat} {queue after : LogProducers Line} {thread : Nat}
  {finished : List Nat}

section Access

variable (queue) (buffer slot : Nat)

def item : Option (Entry Line) := (queue.buffers buffer).items slot

def state : Nat := (queue.buffers buffer).writeStates slot

@[simp] theorem threads_move (thread : Nat) (phase : Phase Line) :
    (queue.move thread phase).threads = Function.update queue.threads thread phase := rfl

theorem item_setItem (entry : Entry Line) (other place : Nat) :
    (queue.setItem buffer slot entry).item other place =
      if other = buffer ∧ place = slot then some entry else queue.item other place := by
  unfold item setItem
  by_cases sameBuffer : other = buffer
  · subst sameBuffer
    by_cases sameSlot : place = slot
    · subst sameSlot
      simp
    · simp [sameSlot]
  · simp [sameBuffer]

@[simp] theorem state_setItem (entry : Entry Line) (other place : Nat) :
    (queue.setItem buffer slot entry).state other place = queue.state other place := by
  unfold state setItem
  by_cases sameBuffer : other = buffer
  · subst sameBuffer
    simp
  · simp [sameBuffer]

@[simp] theorem item_setState (value other place : Nat) :
    (queue.setState buffer slot value).item other place = queue.item other place := by
  unfold item setState
  by_cases sameBuffer : other = buffer
  · subst sameBuffer
    simp
  · simp [sameBuffer]

theorem state_setState (value other place : Nat) :
    (queue.setState buffer slot value).state other place =
      if other = buffer ∧ place = slot then value else queue.state other place := by
  unfold state setState
  by_cases sameBuffer : other = buffer
  · subst sameBuffer
    by_cases sameSlot : place = slot
    · subst sameSlot
      simp
    · simp [sameSlot]
  · simp [sameBuffer]

end Access

/-- The buffer in which the slot is, once it is known. -/
def Progress.IsIn : Progress → Nat → Prop
  | .indexed, _ => True
  | .loaded buffer, current | .constructed buffer, current | .flagged buffer, current =>
    buffer = current

/-- The thread neither holds an index nor sets up a buffer. -/
def Phase.IsNeutral : Phase Line → Prop
  | .idle | .called _ | .spinning _ | .unlocking => True
  | .holding _ _ _ | .switching _ => False

/-- No thread sets up a buffer, and the one in use has room; its indices that were
given out are held or counted. -/
structure Filling (kSize : Nat) (queue : LogProducers Line) (finished : List Nat) : Prop where
  calm : ∀ thread switch, queue.threads thread ≠ .switching switch
  counted : queue.state queue.currentWriteBuffer kSize = finished.length
  room : finished.length < kSize
  covered : ∀ index < queue.writeIndex, index < kSize →
    index ∈ finished ∨ ∃ thread entry progress, queue.threads thread = .holding entry index progress
  queued : queue.logBuffers = List.range (queue.currentWriteBuffer + 1)

/-- The buffer in use is full, and one thread is about to replace it. -/
structure Full (kSize : Nat) (queue : LogProducers Line) (finished : List Nat) (switcher : Nat)
    (switch : Switch) :
    Prop where
  switching : queue.threads switcher = .switching switch
  shape : (∃ buffer, switch = .filled buffer) ∨ switch = .cleared
  only : ∀ thread switch, queue.threads thread = .switching switch → thread = switcher
  all : finished.length = kSize
  closed : kSize ≤ queue.writeIndex
  queued : queue.logBuffers = List.range (queue.currentWriteBuffer + 1)

/-- The buffer in use has taken the place of a full one, but no index of it is given out yet. -/
structure Fresh (kSize : Nat) (queue : LogProducers Line) (finished : List Nat) (switcher : Nat)
    (switch : Switch) :
    Prop where
  switching : queue.threads switcher = .switching switch
  shape : (switch = .published queue.currentWriteBuffer ∨
    switch = .locked queue.currentWriteBuffer) ∧
      queue.logBuffers = List.range queue.currentWriteBuffer ∨
    switch = .enqueued ∧ queue.logBuffers = List.range (queue.currentWriteBuffer + 1)
  only : ∀ thread switch, queue.threads thread = .switching switch → thread = switcher
  none : finished = []
  closed : kSize ≤ queue.writeIndex
  counted : queue.state queue.currentWriteBuffer kSize = 0
  unheld : ∀ thread entry index progress, queue.threads thread ≠ .holding entry index progress

inductive Stage (kSize : Nat) (queue : LogProducers Line) (finished : List Nat) : Prop where
  | filling (filling : Filling kSize queue finished)
  | full (switcher : Nat) (switch : Switch) (full : Full kSize queue finished switcher switch)
  | fresh (switcher : Nat) (switch : Switch) (fresh : Fresh kSize queue finished switcher switch)

/-- Who has which index of the buffer in use; the indices in `finished` are counted. -/
structure Allocated (kSize : Nat) (queue : LogProducers Line) (finished : List Nat) : Prop where
  held : ∀ {thread entry index progress}, queue.threads thread = .holding entry index progress →
    index < kSize ∧ index < queue.writeIndex ∧ index ∉ finished ∧
      progress.IsIn queue.currentWriteBuffer
  unique : ∀ {thread other entry entry' index progress progress'},
    queue.threads thread = .holding entry index progress →
    queue.threads other = .holding entry' index progress' → thread = other
  distinct : finished.Nodup
  counted : ∀ index ∈ finished, index < kSize ∧ index < queue.writeIndex
  stage : Stage kSize queue finished

theorem initial_allocated (some : 0 < kSize) :
    Allocated kSize (initial : LogProducers Line) [] := by
  refine ⟨?_, ?_, List.nodup_nil, ?_, .filling ⟨?_, rfl, some, ?_, rfl⟩⟩
  · intro thread entry index progress holding
    cases holding
  · intro thread other entry entry' index progress progress' holding
    cases holding
  · intro index member
    cases member
  · intro thread switch switching
    cases switching
  · intro index early
    cases early

/-- All indices below `kSize` are counted when as many are as there are. -/
theorem Allocated.mem_of_full (allocated : Allocated kSize queue finished)
    (all : finished.length = kSize) {index : Nat} (inside : index < kSize) : index ∈ finished := by
  have subset : finished ⊆ List.range kSize := by
    intro counted member
    exact List.mem_range.mpr (allocated.counted counted member).1
  have same : finished.Perm (List.range kSize) := by
    apply (allocated.distinct.subperm subset).perm_of_length_le
    rw [all, List.length_range]
  exact same.mem_iff.mpr (List.mem_range.mpr inside)

/-- Nobody holds an index of a full buffer. -/
theorem Allocated.unheld_of_full (allocated : Allocated kSize queue finished)
    (all : finished.length = kSize) (thread : Nat) (entry : Entry Line) (index : Nat)
    (progress : Progress) :
    queue.threads thread ≠ .holding entry index progress := by
  intro holding
  obtain ⟨inside, _, uncounted, _⟩ := allocated.held holding
  exact uncounted (allocated.mem_of_full all inside)

/-- As long as somebody holds an index, the buffer is being filled. -/
theorem Allocated.filling_of_holding (allocated : Allocated kSize queue finished)
    {entry : Entry Line} {index : Nat} {progress : Progress}
    (holding : queue.threads thread = .holding entry index progress) :
    Filling kSize queue finished := by
  cases allocated.stage with
  | filling filling => exact filling
  | full switcher switch full =>
    exact absurd holding (allocated.unheld_of_full full.all thread entry index progress)
  | fresh switcher switch fresh => exact absurd holding (fresh.unheld thread entry index progress)

/-- As long as indices are given out, the buffer is being filled. -/
theorem Allocated.filling_of_open (allocated : Allocated kSize queue finished)
    (opened : queue.writeIndex < kSize) :
    Filling kSize queue finished := by
  cases allocated.stage with
  | filling filling => exact filling
  | full switcher switch full => exact absurd full.closed (Nat.not_le.mpr opened)
  | fresh switcher switch fresh => exact absurd fresh.closed (Nat.not_le.mpr opened)

/-- The same threads hold the same indices and set up a buffer. -/
structure SameRoles (queue after : LogProducers Line) : Prop where
  holding : ∀ thread entry index progress,
    after.threads thread = .holding entry index progress ↔
      queue.threads thread = .holding entry index progress
  switching : ∀ thread switch, after.threads thread = .switching switch ↔
    queue.threads thread = .switching switch

theorem sameRoles_of_neutral {phase : Phase Line} (before : (queue.threads thread).IsNeutral)
    (neutral : phase.IsNeutral)
    (threads : after.threads = Function.update queue.threads thread phase) :
    SameRoles queue after := by
  refine ⟨?_, ?_⟩
  · intro other entry index progress
    by_cases same : other = thread
    · subst same
      rw [threads, Function.update_self]
      constructor
      · rintro rfl
        cases neutral
      · intro holding
        rw [holding] at before
        cases before
    · rw [threads, Function.update_of_ne same]
  · intro other switch
    by_cases same : other = thread
    · subst same
      rw [threads, Function.update_self]
      constructor
      · rintro rfl
        cases neutral
      · intro switching
        rw [switching] at before
        cases before
    · rw [threads, Function.update_of_ne same]

/-- Indices are given out only beyond the end, if at all. -/
def Overshoots (kSize : Nat) (queue after : LogProducers Line) : Prop :=
  queue.writeIndex ≤ after.writeIndex ∧
    (after.writeIndex = queue.writeIndex ∨ kSize ≤ queue.writeIndex)

theorem Allocated.congr (allocated : Allocated kSize queue finished) (roles : SameRoles queue after)
    (overshoots : Overshoots kSize queue after)
    (current : after.currentWriteBuffer = queue.currentWriteBuffer)
    (counts : after.state queue.currentWriteBuffer kSize =
      queue.state queue.currentWriteBuffer kSize)
    (queued : after.logBuffers = queue.logBuffers) : Allocated kSize after finished := by
  obtain ⟨grows, beyond⟩ := overshoots
  refine ⟨?_, ?_, allocated.distinct, ?_, ?_⟩
  · intro thread entry index progress holding
    obtain ⟨inside, given, uncounted, isIn⟩ := allocated.held ((roles.holding _ _ _ _).mp holding)
    exact ⟨inside, Nat.lt_of_lt_of_le given grows, uncounted, current ▸ isIn⟩
  · intro thread other entry entry' index progress progress' holding holding'
    exact allocated.unique ((roles.holding _ _ _ _).mp holding)
      ((roles.holding _ _ _ _).mp holding')
  · intro index member
    obtain ⟨inside, given⟩ := allocated.counted index member
    exact ⟨inside, Nat.lt_of_lt_of_le given grows⟩
  · cases allocated.stage with
    | filling filling =>
      refine .filling ⟨?_, ?_, filling.room, ?_, ?_⟩
      · intro thread switch switching
        exact filling.calm thread switch ((roles.switching _ _).mp switching)
      · rw [current, counts, filling.counted]
      · intro index given inside
        have before : index < queue.writeIndex := by
          rcases beyond with same | past
          · omega
          · omega
        rcases filling.covered index before inside with counted | ⟨thread, entry, progress, holding⟩
        · exact .inl counted
        · exact .inr ⟨thread, entry, progress, (roles.holding _ _ _ _).mpr holding⟩
      · rw [queued, current, filling.queued]
    | full switcher switch full =>
      refine .full switcher switch ⟨(roles.switching _ _).mpr full.switching, full.shape, ?_,
        full.all, ?_, ?_⟩
      · intro thread other switching
        exact full.only thread other ((roles.switching _ _).mp switching)
      · exact Nat.le_trans full.closed grows
      · rw [queued, current, full.queued]
    | fresh switcher switch fresh =>
      refine .fresh switcher switch
        ⟨(roles.switching _ _).mpr fresh.switching, ?_, ?_, fresh.none, ?_, ?_, ?_⟩
      · rw [queued, current]
        exact fresh.shape
      · intro thread other switching
        exact fresh.only thread other ((roles.switching _ _).mp switching)
      · exact Nat.le_trans fresh.closed grows
      · rw [current, counts, fresh.counted]
      · intro thread entry index progress holding
        exact fresh.unheld thread entry index progress ((roles.holding _ _ _ _).mp holding)

/-- A thread's phase after one thread has moved. -/
theorem phase_cases {phase other : Phase Line} {observed : Nat}
    (threads : after.threads = Function.update queue.threads thread phase)
    (found : after.threads observed = other) :
    observed = thread ∧ phase = other ∨ observed ≠ thread ∧ queue.threads observed = other := by
  by_cases same : observed = thread
  · subst same
    rw [threads, Function.update_self] at found
    exact .inl ⟨rfl, found⟩
  · rw [threads, Function.update_of_ne same] at found
    exact .inr ⟨same, found⟩

/-- A thread that sets up a buffer is not in the way of one that fills it. -/
theorem Allocated.take (allocated : Allocated kSize queue finished) {entry : Entry Line}
    (calling : queue.threads thread = .called entry) (opened : queue.writeIndex < kSize) :
    Allocated kSize
      { queue.move thread (.holding entry queue.writeIndex .indexed) with
        writeIndex := queue.writeIndex + 1 }
      finished := by
  have filling := allocated.filling_of_open opened
  have unheld : ∀ {other entry progress}, queue.threads other ≠
      .holding entry queue.writeIndex progress := by
    intro other entry progress holding
    exact Nat.lt_irrefl _ (allocated.held holding).2.1
  refine ⟨?_, ?_, allocated.distinct, ?_,
    .filling ⟨?_, filling.counted, filling.room, ?_, filling.queued⟩⟩
  · intro other entry' index progress holding
    rcases phase_cases rfl holding with ⟨_, taken⟩ | ⟨_, before⟩
    · cases taken
      refine ⟨opened, Nat.lt_succ_self _, ?_, trivial⟩
      intro member
      exact Nat.lt_irrefl _ (allocated.counted _ member).2
    · obtain ⟨inside, given, uncounted, isIn⟩ := allocated.held before
      exact ⟨inside, Nat.lt_succ_of_lt given, uncounted, isIn⟩
  · intro first second entry entry' index progress progress' holding holding'
    rcases phase_cases rfl holding with ⟨same, taken⟩ | ⟨_, before⟩
    · rcases phase_cases rfl holding' with ⟨same', _⟩ | ⟨_, before'⟩
      · rw [same, same']
      · cases taken
        exact absurd before' unheld
    · rcases phase_cases rfl holding' with ⟨_, taken'⟩ | ⟨_, before'⟩
      · cases taken'
        exact absurd before unheld
      · exact allocated.unique before before'
  · intro index member
    obtain ⟨inside, given⟩ := allocated.counted index member
    exact ⟨inside, Nat.lt_succ_of_lt given⟩
  · intro other switch switching
    rcases phase_cases rfl switching with ⟨_, taken⟩ | ⟨_, before⟩
    · cases taken
    · exact filling.calm other switch before
  · intro index given inside
    rcases Nat.lt_succ_iff_lt_or_eq.mp given with earlier | rfl
    · rcases filling.covered index earlier inside with counted | ⟨other, entry', progress, holding⟩
      · exact .inl counted
      · right
        refine ⟨other, entry', progress, ?_⟩
        have different : other ≠ thread := by
          rintro rfl
          rw [calling] at holding
          cases holding
        exact (Function.update_of_ne different _ _).trans holding
    · exact .inr ⟨thread, entry, .indexed, Function.update_self _ _ _⟩

/-- A thread goes on with the index it holds. -/
theorem Allocated.proceed (allocated : Allocated kSize queue finished) (next : Progress)
    {entry : Entry Line} {index : Nat} {progress : Progress}
    (holding : queue.threads thread = .holding entry index progress)
    (isIn : next.IsIn queue.currentWriteBuffer)
    (threads : after.threads = Function.update queue.threads thread (.holding entry index next))
    (writeIndex : after.writeIndex = queue.writeIndex)
    (current : after.currentWriteBuffer = queue.currentWriteBuffer)
    (counts : after.state queue.currentWriteBuffer kSize =
      queue.state queue.currentWriteBuffer kSize)
    (queued : after.logBuffers = queue.logBuffers) : Allocated kSize after finished := by
  have filling := allocated.filling_of_holding holding
  refine ⟨?_, ?_, allocated.distinct, ?_, .filling ⟨?_, ?_, filling.room, ?_, ?_⟩⟩
  · intro other entry' index' progress' found
    rw [writeIndex, current]
    rcases phase_cases threads found with ⟨_, taken⟩ | ⟨_, before⟩
    · cases taken
      obtain ⟨inside, given, uncounted, _⟩ := allocated.held holding
      exact ⟨inside, given, uncounted, isIn⟩
    · exact allocated.held before
  · intro first second entry₁ entry₂ index' progress₁ progress₂ found found'
    have earlier : ∀ {observed entry' progress'}, after.threads observed =
        .holding entry' index' progress' →
          ∃ entry progress, queue.threads observed = .holding entry index' progress := by
      intro observed entry' progress' seen
      rcases phase_cases threads seen with ⟨rfl, taken⟩ | ⟨_, before⟩
      · cases taken
        exact ⟨entry, progress, holding⟩
      · exact ⟨entry', progress', before⟩
    obtain ⟨_, _, before⟩ := earlier found
    obtain ⟨_, _, before'⟩ := earlier found'
    exact allocated.unique before before'
  · rw [writeIndex]
    exact allocated.counted
  · intro other switch switching
    rcases phase_cases threads switching with ⟨_, taken⟩ | ⟨_, before⟩
    · cases taken
    · exact filling.calm other switch before
  · rw [current, counts, filling.counted]
  · intro index' given inside
    rw [writeIndex] at given
    rcases filling.covered index' given inside with counted | ⟨other, entry', progress', before⟩
    · exact .inl counted
    · right
      by_cases same : other = thread
      · subst same
        rw [holding] at before
        cases before
        exact ⟨other, entry, next, by rw [threads, Function.update_self]⟩
      · exact ⟨other, entry', progress', by rw [threads, Function.update_of_ne same, before]⟩
  · rw [queued, current, filling.queued]

/-- A thread counts its slot: the buffer is full with the last one. -/
theorem Allocated.count (allocated : Allocated kSize queue finished)
    {entry : Entry Line} {index : Nat} {progress : Progress}
    (holding : queue.threads thread = .holding entry index progress)
    (threads : after.threads = Function.update queue.threads thread
      (if queue.state queue.currentWriteBuffer kSize + 1 = kSize then
        .switching (.filled queue.currentWriteBuffer) else .idle))
    (writeIndex : after.writeIndex = queue.writeIndex)
    (current : after.currentWriteBuffer = queue.currentWriteBuffer)
    (counts : after.state queue.currentWriteBuffer kSize =
      queue.state queue.currentWriteBuffer kSize + 1)
    (queued : after.logBuffers = queue.logBuffers) : Allocated kSize after (index :: finished) := by
  have filling := allocated.filling_of_holding holding
  obtain ⟨inside, given, uncounted, _⟩ := allocated.held holding
  have others : ∀ {observed entry' index' progress'}, after.threads observed =
      .holding entry' index' progress' →
        observed ≠ thread ∧ queue.threads observed = .holding entry' index' progress' := by
    intro observed entry' index' progress' found
    rcases phase_cases threads found with ⟨_, taken⟩ | before
    · split at taken
      · cases taken
      · cases taken
    · exact before
  have distinct : (index :: finished).Nodup := List.nodup_cons.mpr ⟨uncounted, allocated.distinct⟩
  have bounded : ∀ counted ∈ index :: finished, counted < kSize ∧ counted < queue.writeIndex := by
    intro counted member
    rcases List.mem_cons.mp member with rfl | earlier
    · exact ⟨inside, given⟩
    · exact allocated.counted counted earlier
  refine ⟨?_, ?_, distinct, writeIndex ▸ bounded, ?_⟩
  · intro other entry' index' progress' found
    obtain ⟨different, before⟩ := others found
    obtain ⟨inside', given', uncounted', isIn⟩ := allocated.held before
    rw [writeIndex, current]
    refine ⟨inside', given', ?_, isIn⟩
    intro member
    rcases List.mem_cons.mp member with rfl | earlier
    · exact different (allocated.unique before holding)
    · exact uncounted' earlier
  · intro first second entry₁ entry₂ index' progress₁ progress₂ found found'
    exact allocated.unique (others found).2 (others found').2
  · by_cases last : queue.state queue.currentWriteBuffer kSize + 1 = kSize
    · have many : (index :: finished).length = kSize := by
        rw [List.length_cons, ← filling.counted, last]
      rw [if_pos last] at threads
      refine .full thread (.filled queue.currentWriteBuffer) ⟨?_, .inl ⟨_, rfl⟩, ?_, many, ?_, ?_⟩
      · rw [threads, Function.update_self]
      · intro other switch switching
        rcases phase_cases threads switching with ⟨same, _⟩ | ⟨_, before⟩
        · exact same
        · exact absurd before (filling.calm other switch)
      · have fits := (distinct.subperm fun counted member =>
          List.mem_range.mpr (bounded counted member).2).length_le
        rwa [many, List.length_range, ← writeIndex] at fits
      · rw [queued, current, filling.queued]
    · rw [if_neg last] at threads
      refine .filling ⟨?_, ?_, ?_, ?_, ?_⟩
      · intro other switch switching
        rcases phase_cases threads switching with ⟨_, taken⟩ | ⟨_, before⟩
        · cases taken
        · exact filling.calm other switch before
      · rw [current, counts, filling.counted, List.length_cons]
      · have room := filling.room
        rw [filling.counted] at last
        rw [List.length_cons]
        omega
      · intro index' given' inside'
        rw [writeIndex] at given'
        rcases filling.covered index' given' inside' with
          counted | ⟨other, entry', progress', before⟩
        · exact .inl (List.mem_cons_of_mem _ counted)
        · by_cases same : other = thread
          · subst same
            rw [holding] at before
            cases before
            exact .inl List.mem_cons_self
          · exact .inr ⟨other, entry', progress', by
              rw [threads, Function.update_of_ne same, before]⟩
      · rw [queued, current, filling.queued]

/-- The thread that sets up a buffer, and the stage it is in. -/
theorem Allocated.stage_of_switching (allocated : Allocated kSize queue finished) {switch : Switch}
    (switching : queue.threads thread = .switching switch) :
    Full kSize queue finished thread switch ∨ Fresh kSize queue finished thread switch := by
  cases allocated.stage with
  | filling filling => exact absurd switching (filling.calm thread switch)
  | full switcher other full =>
    have same := full.only thread switch switching
    subst same
    have alike := full.switching
    rw [switching] at alike
    cases alike
    exact .inl full
  | fresh switcher other fresh =>
    have same := fresh.only thread switch switching
    subst same
    have alike := fresh.switching
    rw [switching] at alike
    cases alike
    exact .inr fresh

/-- Only one thread sets up a buffer. -/
theorem Allocated.switcher_alone (allocated : Allocated kSize queue finished) {other : Nat}
    {switch switch' : Switch} (switching : queue.threads thread = .switching switch)
    (another : queue.threads other = .switching switch') :
    other = thread := by
  rcases allocated.stage_of_switching switching with full | fresh
  · exact full.only other switch' another
  · exact fresh.only other switch' another

/-- While a buffer is set up nobody holds an index. -/
theorem Allocated.unheld_of_switching (allocated : Allocated kSize queue finished) {switch : Switch}
    (switching : queue.threads thread = .switching switch) (other : Nat)
    (entry : Entry Line) (index : Nat) (progress : Progress) :
    queue.threads other ≠ .holding entry index progress := by
  rcases allocated.stage_of_switching switching with full | fresh
  · exact allocated.unheld_of_full full.all other entry index progress
  · exact fresh.unheld other entry index progress

/-- A move of the thread that sets up a buffer gives nobody an index. -/
theorem unheld_of_move {phase : Phase Line}
    (unheld : ∀ other entry index progress, queue.threads other ≠ .holding entry index progress)
    (free : ∀ entry index progress, phase ≠ .holding entry index progress)
    (threads : after.threads = Function.update queue.threads thread phase) (other : Nat)
    (entry : Entry Line) (index : Nat) (progress : Progress) :
    after.threads other ≠ .holding entry index progress := by
  intro holding
  rcases phase_cases threads holding with ⟨_, moved⟩ | ⟨_, before⟩
  · exact free entry index progress moved
  · exact unheld other entry index progress before

/-- Without holders only the counted indices and the stage are left to look at. -/
theorem allocated_of_unheld
    (unheld : ∀ thread entry index progress, queue.threads thread ≠ .holding entry index progress)
    (distinct : finished.Nodup)
    (counted : ∀ index ∈ finished, index < kSize ∧ index < queue.writeIndex)
    (stage : Stage kSize queue finished) : Allocated kSize queue finished := by
  refine ⟨?_, ?_, distinct, counted, stage⟩
  · intro thread entry index progress holding
    exact absurd holding (unheld thread entry index progress)
  · intro thread other entry entry' index progress progress' holding
    exact absurd holding (unheld thread entry index progress)

/-- The thread that sets up a buffer is still the only one. -/
theorem only_of_move {phase : Phase Line}
    (only : ∀ other switch, queue.threads other = .switching switch → other = thread)
    (threads : after.threads = Function.update queue.threads thread phase) (other : Nat)
    (switch : Switch) (switching : after.threads other = .switching switch) : other = thread := by
  rcases phase_cases threads switching with ⟨same, _⟩ | ⟨_, before⟩
  · exact same
  · exact only other switch before

theorem Allocated.clear (allocated : Allocated kSize queue finished) {buffer : Nat}
    (switching : queue.threads thread = .switching (.filled buffer)) :
    Allocated kSize ((queue.setState buffer kSize 0).move thread (.switching .cleared))
      finished := by
  have unheld := allocated.unheld_of_switching switching
  rcases allocated.stage_of_switching switching with full | fresh
  · refine allocated_of_unheld (unheld_of_move unheld (fun _ _ _ moved => by cases moved) rfl)
      allocated.distinct
      allocated.counted (.full thread .cleared ?_)
    exact ⟨Function.update_self _ _ _, .inr rfl, only_of_move full.only rfl, full.all,
      full.closed, full.queued⟩
  · rcases fresh.shape with ⟨published | locked, _⟩ | ⟨enqueued, _⟩
    · cases published
    · cases locked
    · cases enqueued

theorem Allocated.publish (allocated : Allocated kSize queue finished)
    (switching : queue.threads thread = .switching .cleared)
    (threads : after.threads = Function.update queue.threads thread
      (.switching (.published (queue.currentWriteBuffer + 1))))
    (writeIndex : after.writeIndex = queue.writeIndex)
    (current : after.currentWriteBuffer = queue.currentWriteBuffer + 1)
    (counts : after.state after.currentWriteBuffer kSize = 0)
    (queued : after.logBuffers = queue.logBuffers) : Allocated kSize after [] := by
  have unheld := allocated.unheld_of_switching switching
  have unheldAfter := unheld_of_move unheld (fun _ _ _ moved => by cases moved) threads
  rcases allocated.stage_of_switching switching with full | fresh
  · refine allocated_of_unheld unheldAfter List.nodup_nil (fun _ member => by cases member)
      (.fresh thread (.published (queue.currentWriteBuffer + 1)) ?_)
    refine ⟨by rw [threads, Function.update_self], .inl ⟨.inl (by rw [current]), ?_⟩,
      only_of_move full.only threads, rfl, ?_, counts, unheldAfter⟩
    · rw [queued, current, full.queued]
    · rw [writeIndex]
      exact full.closed
  · rcases fresh.shape with ⟨published | locked, _⟩ | ⟨enqueued, _⟩
    · cases published
    · cases locked
    · cases enqueued

theorem Allocated.lock (allocated : Allocated kSize queue finished) {buffer : Nat}
    (switching : queue.threads thread = .switching (.published buffer)) :
    Allocated kSize { queue.move thread (.switching (.locked buffer)) with
      flag := true } finished := by
  have unheld := allocated.unheld_of_switching switching
  have unheldAfter := unheld_of_move unheld (fun _ _ _ moved => by cases moved)
    (rfl : (queue.move thread (.switching (.locked buffer))).threads = _)
  rcases allocated.stage_of_switching switching with full | fresh
  · rcases full.shape with ⟨_, filled⟩ | cleared
    · cases filled
    · cases cleared
  · refine allocated_of_unheld unheldAfter allocated.distinct allocated.counted
      (.fresh thread (.locked buffer) ?_)
    refine ⟨Function.update_self _ _ _, ?_, only_of_move fresh.only rfl, fresh.none,
      fresh.closed, fresh.counted, unheldAfter⟩
    rcases fresh.shape with ⟨published | locked, queued⟩ | ⟨enqueued, _⟩
    · cases published
      exact .inl ⟨.inr rfl, queued⟩
    · cases locked
    · cases enqueued

theorem Allocated.enqueue (allocated : Allocated kSize queue finished) {buffer : Nat}
    (switching : queue.threads thread = .switching (.locked buffer)) :
    Allocated kSize
      { queue.move thread (.switching .enqueued) with
        logBuffers := queue.logBuffers ++ [buffer] } finished := by
  have unheld := allocated.unheld_of_switching switching
  have unheldAfter := unheld_of_move unheld (fun _ _ _ moved => by cases moved)
    (rfl : (queue.move thread (.switching .enqueued)).threads = _)
  rcases allocated.stage_of_switching switching with full | fresh
  · rcases full.shape with ⟨_, filled⟩ | cleared
    · cases filled
    · cases cleared
  · refine allocated_of_unheld unheldAfter allocated.distinct allocated.counted
      (.fresh thread .enqueued ?_)
    refine ⟨Function.update_self _ _ _, ?_, only_of_move fresh.only rfl, fresh.none,
      fresh.closed, fresh.counted, unheldAfter⟩
    rcases fresh.shape with ⟨published | locked, queued⟩ | ⟨enqueued, _⟩
    · cases published
    · cases locked
      refine .inr ⟨rfl, ?_⟩
      rw [queued, List.range_succ]
      rfl
    · cases enqueued

theorem Allocated.restart (allocated : Allocated kSize queue finished) (some : 0 < kSize)
    (switching : queue.threads thread = .switching .enqueued) :
    Allocated kSize { queue.move thread .unlocking with writeIndex := 0 } finished := by
  have unheld := allocated.unheld_of_switching switching
  have unheldAfter := unheld_of_move unheld (fun _ _ _ moved => by cases moved)
    (rfl : (queue.move thread .unlocking).threads = _)
  rcases allocated.stage_of_switching switching with full | fresh
  · rcases full.shape with ⟨_, filled⟩ | cleared
    · cases filled
    · cases cleared
  · obtain rfl := fresh.none
    refine allocated_of_unheld unheldAfter List.nodup_nil (fun _ member => by cases member)
      (.filling ⟨?_, fresh.counted, some, fun _ early => absurd early (Nat.not_lt_zero _), ?_⟩)
    · intro other switch found
      rcases phase_cases rfl found with ⟨_, moved⟩ | ⟨different, before⟩
      · cases moved
      · exact different (fresh.only other switch before)
    · rcases fresh.shape with ⟨published | locked, _⟩ | ⟨_, queued⟩
      · cases published
      · cases locked
      · exact queued

end FakeMuduo.Util.LogProducers
