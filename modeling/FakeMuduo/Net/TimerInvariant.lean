import FakeMuduo.Net.TimerQueue

/-! Who owns a timer: the tree, the batch being called, or a thread that has created it
and not yet added it. -/

namespace FakeMuduo.Net

open FakeMuduo.Base

theorem Timer.restart_sequence (timer : Timer) (when : Int) :
    (timer.restart when).sequence = timer.sequence := by
  unfold restart
  split <;> rfl

namespace TimerQueue

/-- The timer this id was given out for still exists. -/
def Alive (heap : Address → Option Timer) (timerId : TimerId) : Prop :=
  ∃ timer, heap timerId.timer = some timer ∧ timer.sequence = timerId.sequence

theorem Alive.eq_of_timer {heap : Address → Option Timer} {timerId other : TimerId}
    (alive : Alive heap timerId) (living : Alive heap other) (same : timerId.timer = other.timer) :
    timerId = other := by
  obtain ⟨timer, found, sequence⟩ := alive
  obtain ⟨second, present, number⟩ := living
  rw [same, present] at found
  cases found
  cases timerId
  cases other
  simp_all

theorem alive_delete {heap : Address → Option Timer} {timerId other : TimerId}
    (alive : Alive heap timerId) :
    Alive (Function.update heap timerId.timer none) other ↔ Alive heap other ∧ other ≠ timerId := by
  by_cases same : other.timer = timerId.timer
  · constructor
    · rintro ⟨timer, found, _⟩
      rw [same] at found
      simp at found
    · rintro ⟨living, apart⟩
      exact absurd (living.eq_of_timer alive same) apart
  · unfold Alive
    rw [Function.update_of_ne same]
    constructor
    · intro living
      refine ⟨living, ?_⟩
      rintro rfl
      exact same rfl
    · exact And.left

theorem alive_create {heap : Address → Option Timer} {address : Address}
    (unused : heap address = none) (timer : Timer) {other : TimerId} :
    Alive (Function.update heap address (some timer)) other ↔
      Alive heap other ∨ other = ⟨address, timer.sequence⟩ := by
  obtain ⟨place, sequence⟩ := other
  by_cases same : place = address
  · subst same
    simp [Alive, unused, eq_comm]
  · simp [Alive, same]

theorem alive_restart {heap : Address → Option Timer} {address : Address} {timer changed : Timer}
    (found : heap address = some timer) (same : changed.sequence = timer.sequence)
    {other : TimerId} :
    Alive (Function.update heap address (some changed)) other ↔ Alive heap other := by
  obtain ⟨place, sequence⟩ := other
  by_cases here : place = address
  · subst here
    simp [Alive, found, same]
  · simp [Alive, Function.update_of_ne here]

/-- The tree and the set of active ids describe the same timers. -/
structure Matched (heap : Address → Option Timer) (tree : OrderedSet TimerEntry)
    (active : Finset TimerId) :
    Prop where
  sizes : tree.size = active.card
  entries : ∀ entry ∈ tree, ∃ timer, heap entry.timer = some timer ∧
    timer.expiration = entry.expiration ∧
    ⟨entry.timer, timer.sequence⟩ ∈ active
  ids : ∀ timerId ∈ active, ∃ timer, heap timerId.timer = some timer ∧
    timer.sequence = timerId.sequence ∧ ⟨timer.expiration, timerId.timer⟩ ∈ tree

/-- The timers alive are those in the tree, in the batch and waiting to be added. -/
structure Owned (heap : Address → Option Timer) (active : Finset TimerId)
    (batch waiting : List TimerId) :
    Prop where
  alive : ∀ timerId, Alive heap timerId ↔ timerId ∈ active ∨ timerId ∈ batch ∨ timerId ∈ waiting
  distinct : (batch ++ waiting).Nodup
  apart : ∀ timerId ∈ batch ++ waiting, timerId ∉ active

/-- Every timer created is alive or was deleted, and not both. -/
structure Ledger (heap : Address → Option Timer) (created : Nat) (freed : List TimerId) : Prop where
  range : ∀ address timer, heap address = some timer → address < UINTPTR_MAX
  unique : ∀ timerId other, Alive heap timerId → Alive heap other →
    timerId.sequence = other.sequence → timerId = other
  numbered : ∀ timerId, Alive heap timerId → timerId.sequence < created
  once : (freed.map TimerId.sequence).Nodup
  gone : ∀ timerId ∈ freed, ∀ other, Alive heap other → other.sequence ≠ timerId.sequence
  made : ∀ timerId ∈ freed, timerId.sequence < created
  accounted : ∀ sequence < created,
    (∃ timerId, Alive heap timerId ∧ timerId.sequence = sequence) ∨
      ∃ timerId ∈ freed, timerId.sequence = sequence

structure Sound (queue : TimerQueue) (batch waiting : List TimerId) : Prop where
  matched : Matched queue.heap queue.timerTree queue.activeTimers
  owned : Owned queue.heap queue.activeTimers batch waiting
  ledger : Ledger queue.heap queue.numsTimerCreated queue.freed

theorem deref_ok {queue : TimerQueue} {address : Address} {timer : Timer}
    (found : queue.heap address = some timer) : queue.deref address = .ok timer := by
  simp [deref, found]

section Matched

variable {heap : Address → Option Timer} {tree : OrderedSet TimerEntry} {active : Finset TimerId}

theorem Matched.alive (matched : Matched heap tree active) {timerId : TimerId}
    (member : timerId ∈ active) :
    Alive heap timerId := by
  obtain ⟨timer, found, sequence, _⟩ := matched.ids timerId member
  exact ⟨timer, found, sequence⟩

/-- Changes to timers that are not active do not matter. -/
theorem Matched.frame (matched : Matched heap tree active) {after : Address → Option Timer}
    (same : ∀ timerId ∈ active, after timerId.timer = heap timerId.timer) :
    Matched after tree active := by
  refine ⟨matched.sizes, ?_, ?_⟩
  · intro entry member
    obtain ⟨timer, found, key, listed⟩ := matched.entries entry member
    exact ⟨timer, (same _ listed).trans found, key, listed⟩
  · intro timerId member
    obtain ⟨timer, found, rest⟩ := matched.ids timerId member
    exact ⟨timer, (same timerId member).trans found, rest⟩

theorem Matched.not_mem_tree (matched : Matched heap tree active)
    {address : Address} {timer : Timer} (found : heap address = some timer)
    (inactive : ⟨address, timer.sequence⟩ ∉ active) (expiration : Int) :
    ⟨expiration, address⟩ ∉ tree := by
  intro member
  obtain ⟨other, present, _, listed⟩ := matched.entries _ member
  rw [found] at present
  cases present
  exact inactive listed

theorem Matched.insert (matched : Matched heap tree active) {address : Address} {timer : Timer}
    (found : heap address = some timer) (inactive : ⟨address, timer.sequence⟩ ∉ active) :
    Matched heap (tree.insert ⟨timer.expiration, address⟩).2
      (insert ⟨address, timer.sequence⟩ active) := by
  refine ⟨?_, ?_, ?_⟩
  · rw [OrderedSet.size_insert (matched.not_mem_tree found inactive _),
      Finset.card_insert_of_notMem inactive, matched.sizes]
  · intro entry member
    rcases OrderedSet.mem_insert.mp member with rfl | old
    · exact ⟨timer, found, rfl, Finset.mem_insert_self _ _⟩
    · obtain ⟨other, present, key, listed⟩ := matched.entries entry old
      exact ⟨other, present, key, Finset.mem_insert_of_mem listed⟩
  · intro timerId member
    rcases Finset.mem_insert.mp member with rfl | old
    · exact ⟨timer, found, rfl, OrderedSet.mem_insert.mpr (.inl rfl)⟩
    · obtain ⟨other, present, sequence, held⟩ := matched.ids timerId old
      exact ⟨other, present, sequence, OrderedSet.mem_insert.mpr (.inr held)⟩

theorem Matched.erase (matched : Matched heap tree active) {timerId : TimerId} {timer : Timer}
    (member : timerId ∈ active) (found : heap timerId.timer = some timer) :
    Matched heap (tree.erase ⟨timer.expiration, timerId.timer⟩).2 (active.erase timerId) := by
  obtain ⟨same, present, sequence, held⟩ := matched.ids timerId member
  obtain rfl : timer = same := Option.some.inj (found.symm.trans present)
  refine ⟨?_, ?_, ?_⟩
  · have fewer := OrderedSet.size_erase held
    have smaller := Finset.card_erase_add_one member
    have sizes := matched.sizes
    omega
  · intro entry kept
    obtain ⟨apart, old⟩ := OrderedSet.mem_erase.mp kept
    obtain ⟨other, existing, key, listed⟩ := matched.entries entry old
    refine ⟨other, existing, key, Finset.mem_erase.mpr ⟨?_, listed⟩⟩
    rintro rfl
    rw [found] at existing
    cases existing
    exact apart (by rw [key])
  · intro other kept
    obtain ⟨apart, old⟩ := Finset.mem_erase.mp kept
    obtain ⟨second, existing, number, listed⟩ := matched.ids other old
    refine ⟨second, existing, number, OrderedSet.mem_erase.mpr ⟨?_, listed⟩⟩
    intro same
    apply apart
    exact (matched.alive old).eq_of_timer (matched.alive member) (TimerEntry.mk.inj same).2

end Matched

/-- What `insertTimer` does for a timer that is alive and not active. -/
theorem insertTimer_eq (queue : TimerQueue)
    (matched : Matched queue.heap queue.timerTree queue.activeTimers)
    {address : Address} {timer : Timer} (found : queue.heap address = some timer)
    (inactive : ⟨address, timer.sequence⟩ ∉ queue.activeTimers) :
    queue.insertTimer address =
      .ok (queue.timerTree.first?.all fun first => timer.expiration < first.expiration,
        { queue with
          timerTree := (queue.timerTree.insert ⟨timer.expiration, address⟩).2
          activeTimers := insert ⟨address, timer.sequence⟩ queue.activeTimers }) := by
  have fresh := matched.not_mem_tree found inactive timer.expiration
  unfold insertTimer checkSizes
  rw [check_pass _ matched.sizes, deref_ok found]
  simp only [ok_bind]
  rw [check_pass _ (OrderedSet.insert_new fresh), check_pass _ inactive]
  rfl

/-- The queue with this timer in it, and the timerfd armed for it if it is the earliest. -/
def added (queue : TimerQueue) (now : Int) (timerId : TimerId) (expiration : Int) : TimerQueue :=
  let inserted := { queue with
    timerTree := (queue.timerTree.insert ⟨expiration, timerId.timer⟩).2
    activeTimers := insert timerId queue.activeTimers }
  if queue.timerTree.first?.all fun first => expiration < first.expiration then
    inserted.updateTimerfd now expiration
  else inserted

theorem addTimerInLoop_eq {queue : TimerQueue}
    (matched : Matched queue.heap queue.timerTree queue.activeTimers) (now : Int)
    {address : Address} {timer : Timer} (found : queue.heap address = some timer)
    (inactive : ⟨address, timer.sequence⟩ ∉ queue.activeTimers) :
    queue.addTimerInLoop now address =
      .ok (queue.added now ⟨address, timer.sequence⟩ timer.expiration) := by
  unfold addTimerInLoop added
  rw [insertTimer_eq queue matched found inactive]
  simp only [ok_bind]
  split
  · simp only [deref, found, ok_bind]
    rfl
  · rfl

/-- The queue without this timer, which is deleted. -/
def removed (queue : TimerQueue) (timerId : TimerId) (expiration : Int) : TimerQueue :=
  { queue with
    heap := Function.update queue.heap timerId.timer none
    freed := queue.freed ++ [timerId]
    timerTree := (queue.timerTree.erase ⟨expiration, timerId.timer⟩).2
    activeTimers := queue.activeTimers.erase timerId }

theorem delTimerInLoop_active {queue : TimerQueue}
    (matched : Matched queue.heap queue.timerTree queue.activeTimers)
    {timerId : TimerId} {timer : Timer} (member : timerId ∈ queue.activeTimers)
    (found : queue.heap timerId.timer = some timer) :
    queue.delTimerInLoop timerId = .ok (queue.removed timerId timer.expiration) := by
  obtain ⟨same, present, sequence, held⟩ := matched.ids timerId member
  obtain rfl : timer = same := Option.some.inj (found.symm.trans present)
  have sizes := (matched.erase member found).sizes
  unfold delTimerInLoop checkSizes
  rw [check_pass _ matched.sizes]
  simp only [ok_bind, if_pos member, deref_ok found]
  rw [check_pass _ (OrderedSet.erase_one held)]
  simp only [ok_bind, delete, deref, found, sequence, pure_bind]
  rw [check_pass _ sizes]
  rfl

/-- The queue that remembers the cancellation until the batch is finished. -/
def marked (queue : TimerQueue) (timerId : TimerId) : TimerQueue :=
  if queue.callingExpiredTimers then
    { queue with deletedTimers := insert timerId queue.deletedTimers }
  else queue

theorem delTimerInLoop_inactive {queue : TimerQueue}
    (matched : Matched queue.heap queue.timerTree queue.activeTimers) {timerId : TimerId}
    (absent : timerId ∉ queue.activeTimers) :
    queue.delTimerInLoop timerId = .ok (queue.marked timerId) := by
  unfold delTimerInLoop checkSizes marked
  rw [check_pass _ matched.sizes]
  simp only [ok_bind, if_neg absent]
  split
  · rw [check_pass _ matched.sizes]
    rfl
  · rw [check_pass _ matched.sizes]
    rfl

/-- The ids under which these entries are active. -/
def idsOf (heap : Address → Option Timer) (entries : List TimerEntry) : List TimerId :=
  entries.filterMap fun entry => (heap entry.timer).map fun timer => ⟨entry.timer, timer.sequence⟩

theorem pendingOf_ids (queue : TimerQueue) (expired : List TimerEntry) :
    (queue.pendingOf expired).map Pending.id = idsOf queue.heap expired := by
  unfold pendingOf idsOf
  rw [List.map_filterMap]
  congr 1
  funext entry
  cases queue.heap entry.timer <;> rfl

section Expired

variable {heap : Address → Option Timer} {tree : OrderedSet TimerEntry} {active : Finset TimerId}

theorem Matched.mem_idsOf (matched : Matched heap tree active) {entries : List TimerEntry}
    (held : ∀ entry ∈ entries, entry ∈ tree) {timerId : TimerId} :
    timerId ∈ idsOf heap entries ↔ timerId ∈ active ∧ ∃ entry ∈ entries,
      entry.timer = timerId.timer := by
  unfold idsOf
  rw [List.mem_filterMap]
  constructor
  · rintro ⟨entry, member, named⟩
    obtain ⟨timer, found, _, listed⟩ := matched.entries entry (held entry member)
    rw [found] at named
    cases named
    exact ⟨listed, entry, member, rfl⟩
  · rintro ⟨listed, entry, member, same⟩
    obtain ⟨timer, found, sequence, _⟩ := matched.ids timerId listed
    refine ⟨entry, member, ?_⟩
    rw [same, found]
    cases timerId
    simp_all

theorem Matched.idsOf_length (matched : Matched heap tree active) {entries : List TimerEntry}
    (held : ∀ entry ∈ entries, entry ∈ tree) : (idsOf heap entries).length = entries.length := by
  induction entries with
  | nil => rfl
  | cons entry entries ih =>
    obtain ⟨timer, found, _, _⟩ := matched.entries entry (held entry (by simp))
    have rest := ih fun other member => held other (by simp [member])
    simp only [idsOf, List.filterMap_cons, found, Option.map_some, List.length_cons] at rest ⊢
    rw [rest]

/-- A timer is in the tree once. -/
theorem Matched.eq_of_timer (matched : Matched heap tree active) {entry other : TimerEntry}
    (member : entry ∈ tree) (second : other ∈ tree) (same : entry.timer = other.timer) :
    entry = other := by
  obtain ⟨timer, found, key, _⟩ := matched.entries entry member
  obtain ⟨twin, present, stamp, _⟩ := matched.entries other second
  rw [same, present] at found
  cases found
  cases entry
  cases other
  simp_all

theorem Matched.idsOf_nodup (matched : Matched heap tree active) {entries : List TimerEntry}
    (held : ∀ entry ∈ entries, entry ∈ tree) (distinct : entries.Nodup) :
    (idsOf heap entries).Nodup := by
  induction entries with
  | nil => exact List.nodup_nil
  | cons entry entries ih =>
    obtain ⟨fresh, rest⟩ := List.nodup_cons.mp distinct
    obtain ⟨timer, found, _, _⟩ := matched.entries entry (held entry (by simp))
    have kept : ∀ other ∈ entries, other ∈ tree := fun other member => held other (by simp [member])
    have split : idsOf heap (entry :: entries) = ⟨entry.timer, timer.sequence⟩ ::
        idsOf heap entries := by
      simp [idsOf, found]
    rw [split, List.nodup_cons]
    refine ⟨?_, ih kept rest⟩
    intro again
    obtain ⟨_, other, member, same⟩ := (matched.mem_idsOf kept).mp again
    obtain rfl := matched.eq_of_timer (kept other member) (held entry (by simp)) same
    exact fresh member

theorem Matched.cut (matched : Matched heap tree active) (guard : TimerEntry) :
    Matched heap (tree.cut guard).2 (active \ (idsOf heap (tree.cut guard).1).toFinset) := by
  have held := tree.cut_subset guard
  have distinct := tree.cut_nodup guard
  have within : (idsOf heap (tree.cut guard).1).toFinset ⊆ active := by
    intro timerId member
    exact ((matched.mem_idsOf held).mp (List.mem_toFinset.mp member)).1
  refine ⟨?_, ?_, ?_⟩
  · rw [Finset.card_sdiff_of_subset within, List.toFinset_card_of_nodup
      (matched.idsOf_nodup held distinct), matched.idsOf_length held, ← matched.sizes]
    have parts := OrderedSet.size_cut tree guard
    omega
  · intro entry member
    obtain ⟨old, above⟩ := OrderedSet.mem_cut_rest.mp member
    obtain ⟨timer, found, key, listed⟩ := matched.entries entry old
    refine ⟨timer, found, key, Finset.mem_sdiff.mpr ⟨listed, ?_⟩⟩
    rw [List.mem_toFinset, matched.mem_idsOf held]
    rintro ⟨_, other, below, same⟩
    obtain rfl := matched.eq_of_timer (held other below) old same
    exact absurd (OrderedSet.mem_cut_below.mp below).2 (not_lt.mpr above)
  · intro timerId member
    obtain ⟨listed, unexpired⟩ := Finset.mem_sdiff.mp member
    obtain ⟨timer, found, sequence, old⟩ := matched.ids timerId listed
    refine ⟨timer, found, sequence, OrderedSet.mem_cut_rest.mpr ⟨old, ?_⟩⟩
    by_contra below
    apply unexpired
    rw [List.mem_toFinset, matched.mem_idsOf held]
    exact ⟨listed, _, OrderedSet.mem_cut_below.mpr ⟨old, not_le.mp below⟩, rfl⟩

end Expired

/-- The loop that takes the expired timers out of the active ones. -/
theorem foldlM_eraseActive (queue : TimerQueue) (entries : List TimerEntry)
    (active : ∀ entry ∈ entries, ∃ timer, queue.heap entry.timer = some timer ∧
      ⟨entry.timer, timer.sequence⟩ ∈ queue.activeTimers)
    (distinct : (idsOf queue.heap entries).Nodup) :
    entries.foldlM eraseActive queue =
      .ok { queue with activeTimers := queue.activeTimers \
        (idsOf queue.heap entries).toFinset } := by
  induction entries generalizing queue with
  | nil => simp [idsOf, pure, Except.pure]
  | cons entry entries ih =>
    obtain ⟨timer, found, listed⟩ := active entry (by simp)
    have split : idsOf queue.heap (entry :: entries) =
        ⟨entry.timer, timer.sequence⟩ :: idsOf queue.heap entries := by
      simp [idsOf, found]
    rw [split, List.nodup_cons] at distinct
    have first : queue.eraseActive entry =
        .ok { queue with
          activeTimers := queue.activeTimers.erase ⟨entry.timer, timer.sequence⟩ } := by
      unfold eraseActive
      simp only [deref_ok found, ok_bind]
      rw [check_pass _ listed]
      rfl
    have others : ∀ other ∈ entries, ∃ second, queue.heap other.timer = some second ∧
        ⟨other.timer, second.sequence⟩ ∈ queue.activeTimers.erase
          ⟨entry.timer, timer.sequence⟩ := by
      intro other member
      obtain ⟨second, present, also⟩ := active other (by simp [member])
      refine ⟨second, present, Finset.mem_erase.mpr ⟨?_, also⟩⟩
      intro same
      apply distinct.1
      rw [← same]
      exact List.mem_filterMap.mpr ⟨other, member, by simp [present]⟩
    rw [List.foldlM_cons, first, ok_bind, ih { queue with
      activeTimers := queue.activeTimers.erase ⟨entry.timer, timer.sequence⟩ } others distinct.2,
      split, List.toFinset_cons]
    congr 2
    ext timerId
    simp only [Finset.mem_sdiff, Finset.mem_erase, Finset.mem_insert]
    tauto

/-- What `getExpired` does: every timer due by `now` leaves the tree. -/
theorem getExpired_eq (queue : TimerQueue)
    (matched : Matched queue.heap queue.timerTree queue.activeTimers)
    (range : ∀ address timer, queue.heap address = some timer → address < UINTPTR_MAX) (now : Int) :
    queue.getExpired now =
      .ok ((queue.timerTree.cut ⟨now, UINTPTR_MAX⟩).1,
        { queue with
          timerTree := (queue.timerTree.cut ⟨now, UINTPTR_MAX⟩).2
          activeTimers := queue.activeTimers \
            (idsOf queue.heap (queue.timerTree.cut ⟨now, UINTPTR_MAX⟩).1).toFinset }) := by
  have held := queue.timerTree.cut_subset ⟨now, UINTPTR_MAX⟩
  have distinct := queue.timerTree.cut_nodup ⟨now, UINTPTR_MAX⟩
  have later : ((queue.timerTree.cut ⟨now, UINTPTR_MAX⟩).2.first?.all fun first =>
      now < first.expiration) = true := by
    rcases first : (queue.timerTree.cut ⟨now, UINTPTR_MAX⟩).2.first? with _ | entry
    · rfl
    · obtain ⟨member, above⟩ := OrderedSet.mem_cut_rest.mp (OrderedSet.first?_mem first)
      obtain ⟨timer, found, _, _⟩ := matched.entries entry member
      have bound := range entry.timer timer found
      have order := not_lt.mpr above
      rw [TimerEntry.lt_iff] at order
      simp only [not_or, not_and, not_lt] at order
      simp only [Option.all_some, decide_eq_true_eq]
      by_contra early
      have equal : entry.expiration = now := by omega
      exact absurd bound (not_lt.mpr (order.2 equal))
  have erased := foldlM_eraseActive
    { queue with timerTree := (queue.timerTree.cut ⟨now, UINTPTR_MAX⟩).2 }
      (queue.timerTree.cut ⟨now, UINTPTR_MAX⟩).1
    (fun entry member => by
      obtain ⟨timer, found, _, listed⟩ := matched.entries entry (held entry member)
      exact ⟨timer, found, listed⟩) (matched.idsOf_nodup held distinct)
  unfold getExpired checkSizes
  rw [check_pass _ matched.sizes]
  simp only [ok_bind]
  rw [check_pass _ later]
  simp only [ok_bind, erased]
  rw [check_pass _ (matched.cut ⟨now, UINTPTR_MAX⟩).sizes]
  rfl

section Ledger

variable {heap : Address → Option Timer} {created : Nat} {freed : List TimerId}

theorem Ledger.create (ledger : Ledger heap created freed) {address : Address}
    (unused : heap address = none) (bound : address < UINTPTR_MAX) (when interval : Int) :
    Ledger (Function.update heap address (some (.make when interval created)))
      (created + 1) freed := by
  have alive_iff :
    ∀ other, Alive (Function.update heap address (some (.make when interval created))) other ↔
      Alive heap other ∨ other = ⟨address, created⟩ := fun other => alive_create unused _
  refine ⟨?_, ?_, ?_, ledger.once, ?_, ?_, ?_⟩
  · intro place timer found
    by_cases same : place = address
    · rw [same]
      exact bound
    · rw [Function.update_of_ne same] at found
      exact ledger.range place timer found
  · intro timerId other alive living same
    rcases (alive_iff timerId).mp alive with old | rfl
    · rcases (alive_iff other).mp living with older | rfl
      · exact ledger.unique timerId other old older same
      · exact absurd same (Nat.ne_of_lt (ledger.numbered timerId old))
    · rcases (alive_iff other).mp living with older | rfl
      · exact absurd same.symm (Nat.ne_of_lt (ledger.numbered other older))
      · rfl
  · intro timerId alive
    rcases (alive_iff timerId).mp alive with old | rfl
    · exact Nat.lt_succ_of_lt (ledger.numbered timerId old)
    · exact Nat.lt_succ_self _
  · intro timerId member other living
    rcases (alive_iff other).mp living with older | rfl
    · exact ledger.gone timerId member other older
    · exact Nat.ne_of_gt (ledger.made timerId member)
  · intro timerId member
    exact Nat.lt_succ_of_lt (ledger.made timerId member)
  · intro sequence bound
    rcases Nat.lt_succ_iff_lt_or_eq.mp bound with old | rfl
    · rcases ledger.accounted sequence old with ⟨timerId, alive, same⟩ | dead
      · exact .inl ⟨timerId, (alive_iff timerId).mpr (.inl alive), same⟩
      · exact .inr dead
    · exact .inl ⟨_, (alive_iff _).mpr (.inr rfl), rfl⟩

theorem Ledger.delete (ledger : Ledger heap created freed) {timerId : TimerId}
    (alive : Alive heap timerId) :
    Ledger (Function.update heap timerId.timer none) created (freed ++ [timerId]) := by
  refine ⟨?_, ?_, ?_, ?_, ?_, ?_, ?_⟩
  · intro place timer found
    by_cases same : place = timerId.timer
    · simp [same] at found
    · rw [Function.update_of_ne same] at found
      exact ledger.range place timer found
  · intro first second living existing same
    exact ledger.unique first second ((alive_delete alive).mp living).1
      ((alive_delete alive).mp existing).1 same
  · intro other living
    exact ledger.numbered other ((alive_delete alive).mp living).1
  · rw [List.map_append, List.map_singleton, List.nodup_append]
    refine ⟨ledger.once, List.nodup_singleton _, ?_⟩
    intro sequence member other last
    obtain ⟨dead, old, rfl⟩ := List.mem_map.mp member
    rw [List.mem_singleton.mp last]
    exact (ledger.gone dead old timerId alive).symm
  · intro dead member other living
    obtain ⟨existing, apart⟩ := (alive_delete alive).mp living
    rcases List.mem_append.mp member with old | last
    · exact ledger.gone dead old other existing
    · rw [List.mem_singleton.mp last]
      intro same
      exact apart (ledger.unique other timerId existing alive same)
  · intro dead member
    rcases List.mem_append.mp member with old | last
    · exact ledger.made dead old
    · rw [List.mem_singleton.mp last]
      exact ledger.numbered timerId alive
  · intro sequence bound
    rcases ledger.accounted sequence bound with ⟨other, living, same⟩ | ⟨dead, member, same⟩
    · by_cases equal : other = timerId
      · exact .inr ⟨timerId, by simp, by rw [← equal]; exact same⟩
      · exact .inl ⟨other, (alive_delete alive).mpr ⟨living, equal⟩, same⟩
    · exact .inr ⟨dead, List.mem_append_left _ member, same⟩

theorem Ledger.restart (ledger : Ledger heap created freed) {address : Address}
    {timer changed : Timer} (found : heap address = some timer)
    (same : changed.sequence = timer.sequence) :
    Ledger (Function.update heap address (some changed)) created freed := by
  have alive_iff : ∀ other, Alive (Function.update heap address (some changed)) other ↔
      Alive heap other :=
    fun other => alive_restart found same
  refine ⟨?_, ?_, ?_, ledger.once, ?_, ledger.made, ?_⟩
  · intro place other present
    by_cases here : place = address
    · rw [here]
      exact ledger.range address timer found
    · rw [Function.update_of_ne here] at present
      exact ledger.range place other present
  · intro first second living existing
    exact ledger.unique first second ((alive_iff first).mp living) ((alive_iff second).mp existing)
  · intro other living
    exact ledger.numbered other ((alive_iff other).mp living)
  · intro dead member other living
    exact ledger.gone dead member other ((alive_iff other).mp living)
  · intro sequence bound
    simpa only [alive_iff] using ledger.accounted sequence bound

end Ledger

section Sound

variable {queue : TimerQueue} {batch waiting : List TimerId}

theorem Sound.create (sound : queue.Sound batch waiting) {address : Address}
    (unused : queue.heap address = none) (bound : address < UINTPTR_MAX) (when interval : Int) :
    (queue.createTimer address when interval).Sound batch
      (waiting ++ [⟨address, queue.numsTimerCreated⟩]) := by
  have fresh : ¬ Alive queue.heap ⟨address, queue.numsTimerCreated⟩ := by
    rintro ⟨timer, found, _⟩
    exact nomatch unused.symm.trans found
  have absent := mt (sound.owned.alive _).mpr fresh
  simp only [not_or] at absent
  refine ⟨?_, ⟨?_, ?_, ?_⟩, sound.ledger.create unused bound when interval⟩
  · apply sound.matched.frame
    intro timerId member
    apply Function.update_of_ne
    intro same
    obtain ⟨timer, found, _⟩ := sound.matched.alive member
    rw [same, unused] at found
    cases found
  · intro timerId
    have before := sound.owned.alive timerId
    have after : Alive (queue.createTimer address when interval).heap timerId ↔
        Alive queue.heap timerId ∨ timerId = ⟨address, queue.numsTimerCreated⟩ :=
          alive_create unused _
    rw [after, before, List.mem_append, List.mem_singleton]
    simp only [createTimer, or_assoc]
  · rw [← List.append_assoc]
    refine List.nodup_append.mpr ⟨sound.owned.distinct, List.nodup_singleton _, ?_⟩
    rintro timerId member other last rfl
    rw [List.mem_singleton.mp last, List.mem_append] at member
    rcases member with called | waits
    · exact absent.2.1 called
    · exact absent.2.2 waits
  · intro timerId member
    rw [← List.append_assoc, List.mem_append, List.mem_singleton] at member
    rcases member with old | rfl
    · exact sound.owned.apart timerId old
    · exact absent.1

/-- A waiting timer is added. -/
theorem Sound.add (sound : queue.Sound batch waiting) (now : Int) {timerId : TimerId}
    (member : timerId ∈ waiting) :
    ∃ timer, queue.heap timerId.timer = some timer ∧ timer.sequence = timerId.sequence ∧
      queue.addTimerInLoop now timerId.timer = .ok (queue.added now timerId timer.expiration) ∧
      (queue.added now timerId timer.expiration).Sound batch (waiting.erase timerId) := by
  obtain ⟨timer, found, sequence⟩ := (sound.owned.alive timerId).mpr (.inr (.inr member))
  have same : (⟨timerId.timer, timer.sequence⟩ : TimerId) = timerId := by rw [sequence]
  have inactive : (⟨timerId.timer, timer.sequence⟩ : TimerId) ∉ queue.activeTimers := by
    rw [same]
    exact sound.owned.apart timerId (List.mem_append_right _ member)
  have distinct := List.nodup_append.mp sound.owned.distinct
  have matched := sound.matched.insert found inactive
  have call := addTimerInLoop_eq sound.matched now found inactive
  rw [same] at matched call
  have owned : Owned queue.heap (insert timerId queue.activeTimers) batch
      (waiting.erase timerId) := by
    refine ⟨?_, ?_, ?_⟩
    · intro other
      rw [sound.owned.alive other, Finset.mem_insert, distinct.2.1.mem_erase_iff]
      by_cases equal : other = timerId
      · simp [equal, member]
      · simp [equal]
    · refine List.nodup_append.mpr ⟨distinct.1, distinct.2.1.erase timerId, ?_⟩
      intro first called second waits
      exact distinct.2.2 first called second (List.mem_of_mem_erase waits)
    · intro other others
      rw [Finset.mem_insert, not_or]
      rw [List.mem_append, distinct.2.1.mem_erase_iff] at others
      rcases others with called | ⟨apart, waits⟩
      · refine ⟨?_, sound.owned.apart other (List.mem_append_left _ called)⟩
        exact distinct.2.2 other called timerId member
      · exact ⟨apart, sound.owned.apart other (List.mem_append_right _ waits)⟩
  refine ⟨timer, found, sequence, call, ?_⟩
  unfold added
  dsimp only
  split
  · exact ⟨matched, owned, sound.ledger⟩
  · exact ⟨matched, owned, sound.ledger⟩

theorem Sound.removed (sound : queue.Sound batch waiting) {timerId : TimerId} {timer : Timer}
    (member : timerId ∈ queue.activeTimers) (found : queue.heap timerId.timer = some timer) :
    (queue.removed timerId timer.expiration).Sound batch waiting := by
  have alive := sound.matched.alive member
  refine ⟨?_, ⟨?_, sound.owned.distinct, ?_⟩, sound.ledger.delete alive⟩
  · apply (sound.matched.erase member found).frame
    intro other kept
    obtain ⟨apart, old⟩ := Finset.mem_erase.mp kept
    apply Function.update_of_ne
    intro same
    exact apart ((sound.matched.alive old).eq_of_timer alive same)
  · intro other
    have before := sound.owned.alive other
    have after : Alive (queue.removed timerId timer.expiration).heap other ↔
      Alive queue.heap other ∧ other ≠ timerId := alive_delete alive
    rw [after, before, TimerQueue.removed, Finset.mem_erase]
    by_cases equal : other = timerId
    · subst equal
      have outside : ¬ (other ∈ batch ∨ other ∈ waiting) := by
        rw [← List.mem_append]
        exact fun inside => sound.owned.apart other inside member
      simp only [ne_eq, not_true_eq_false, and_false, false_and, false_or, false_iff]
      exact outside
    · simp [equal]
  · intro other others listed
    exact sound.owned.apart other others (Finset.mem_of_mem_erase listed)

theorem Sound.marked (sound : queue.Sound batch waiting) (timerId : TimerId) :
    (queue.marked timerId).Sound batch waiting := by
  unfold TimerQueue.marked
  split
  · exact ⟨sound.matched, sound.owned, sound.ledger⟩
  · exact sound

/-- The flag says nothing of who owns a timer. -/
theorem Sound.stopped (sound : queue.Sound batch waiting) :
    { queue with callingExpiredTimers := false }.Sound batch waiting :=
  ⟨sound.matched, sound.owned, sound.ledger⟩

/-- The batch of a call at this time. -/
def due (queue : TimerQueue) (now : Int) : List Pending :=
  queue.pendingOf (queue.timerTree.cut ⟨now, UINTPTR_MAX⟩).1

/-- The queue while the callbacks of the timers due are called. -/
def called (queue : TimerQueue) (now : Int) : TimerQueue :=
  { queue with
    timerTree := (queue.timerTree.cut ⟨now, UINTPTR_MAX⟩).2
    activeTimers := queue.activeTimers \ ((queue.due now).map Pending.id).toFinset
    deletedTimers := ∅
    callingExpiredTimers := true
    timerfd := { queue.timerfd with unread := false } }

theorem startCalling_eq (sound : queue.Sound batch waiting) (now : Int) :
    queue.startCalling now = .ok (queue.due now, queue.called now) := by
  have expired := getExpired_eq { queue with timerfd := { queue.timerfd with unread := false } }
    sound.matched sound.ledger.range now
  unfold startCalling
  simp only [expired, ok_bind]
  rw [called, due, pendingOf_ids]
  rfl

theorem Sound.called (sound : queue.Sound [] waiting) (now : Int) :
    (queue.called now).Sound ((queue.due now).map Pending.id) waiting := by
  have held := queue.timerTree.cut_subset ⟨now, UINTPTR_MAX⟩
  have distinct := queue.timerTree.cut_nodup ⟨now, UINTPTR_MAX⟩
  have batch_eq : (queue.due now).map Pending.id =
      idsOf queue.heap (queue.timerTree.cut ⟨now, UINTPTR_MAX⟩).1 := pendingOf_ids queue _
  have active : ∀ timerId ∈ (queue.due now).map Pending.id, timerId ∈ queue.activeTimers := by
    rw [batch_eq]
    intro timerId member
    exact ((sound.matched.mem_idsOf held).mp member).1
  refine ⟨?_, ⟨?_, ?_, ?_⟩, sound.ledger⟩
  · unfold TimerQueue.called
    rw [batch_eq]
    exact sound.matched.cut ⟨now, UINTPTR_MAX⟩
  · intro timerId
    have before := sound.owned.alive timerId
    simp only [List.not_mem_nil, false_or] at before
    simp only [TimerQueue.called, before, Finset.mem_sdiff, List.mem_toFinset]
    by_cases called : timerId ∈ (queue.due now).map Pending.id
    · simp [called, active timerId called]
    · simp [called]
  · refine List.nodup_append.mpr ⟨?_, by simpa using sound.owned.distinct, ?_⟩
    · rw [batch_eq]
      exact sound.matched.idsOf_nodup held distinct
    · rintro timerId called other waits rfl
      exact sound.owned.apart timerId (by simpa using waits) (active timerId called)
  · intro timerId member listed
    obtain ⟨was, unexpired⟩ := Finset.mem_sdiff.mp listed
    rcases List.mem_append.mp member with called | waits
    · exact unexpired (List.mem_toFinset.mpr called)
    · exact sound.owned.apart timerId (by simpa using waits) was

theorem Sound.derefPending (sound : queue.Sound batch waiting) {pending : Pending}
    (member : pending.id ∈ batch) :
    ∃ timer, queue.derefPending pending = .ok timer ∧ queue.heap pending.entry.timer = some timer ∧
      timer.sequence = pending.sequence := by
  obtain ⟨timer, found, sequence⟩ := (sound.owned.alive pending.id).mpr (.inr (.inl member))
  have same : timer.sequence = pending.sequence := sequence
  refine ⟨timer, ?_, found, same⟩
  simp only [TimerQueue.derefPending, deref, show queue.heap pending.entry.timer =
    some timer from found, ok_bind, if_pos same]
  rfl

theorem Owned.unbatch {heap : Address → Option Timer} {active : Finset TimerId} {timerId : TimerId}
    (owned : Owned heap active (timerId :: batch) waiting) :
    timerId ∉ active ∧ timerId ∉ batch ++ waiting ∧ (batch ++ waiting).Nodup := by
  have distinct := List.nodup_cons.mp owned.distinct
  exact ⟨owned.apart timerId (by simp), distinct.1, distinct.2⟩

/-- No timer of the tree lives where one of the batch does. -/
theorem Sound.elsewhere {timerId : TimerId} (sound : queue.Sound (timerId :: batch) waiting) :
    ∀ other ∈ queue.activeTimers, other.timer ≠ timerId.timer := by
  intro other member equal
  have alive : Alive queue.heap timerId :=
    (sound.owned.alive timerId).mpr (.inr (.inl List.mem_cons_self))
  apply sound.owned.unbatch.1
  rw [← (sound.matched.alive member).eq_of_timer alive equal]
  exact member

/-- A timer of the batch goes back to the tree. -/
theorem Sound.resumed {timerId : TimerId} (sound : queue.Sound (timerId :: batch) waiting)
    {timer changed : Timer} (found : queue.heap timerId.timer = some timer)
    (sequence : timer.sequence = timerId.sequence) (same : changed.sequence = timer.sequence) :
    let heap := Function.update queue.heap timerId.timer (some changed)
    let after : TimerQueue := { queue with
      heap := heap
      timerTree := (queue.timerTree.insert ⟨changed.expiration, timerId.timer⟩).2
      activeTimers := insert timerId queue.activeTimers }
    (∃ earliest, { queue with heap := heap }.insertTimer timerId.timer = .ok (earliest, after)) ∧
      after.Sound batch waiting := by
  obtain ⟨inactive, outside, distinct⟩ := sound.owned.unbatch
  have moved : Matched (Function.update queue.heap timerId.timer (some changed)) queue.timerTree
      queue.activeTimers := by
    apply sound.matched.frame
    intro other member
    exact Function.update_of_ne (sound.elsewhere other member) _ _
  have here : Function.update queue.heap timerId.timer (some changed) timerId.timer =
    some changed := by simp
  have number : (⟨timerId.timer, changed.sequence⟩ : TimerId) = timerId := by rw [same, sequence]
  have unlisted : (⟨timerId.timer, changed.sequence⟩ : TimerId) ∉ queue.activeTimers := by
    rw [number]
    exact inactive
  have inserted :=
    insertTimer_eq { queue with heap := Function.update queue.heap timerId.timer (some changed) }
    moved here unlisted
  have matched := moved.insert here unlisted
  rw [number] at inserted matched
  refine ⟨⟨_, inserted⟩, matched, ⟨?_, distinct, ?_⟩, sound.ledger.restart found same⟩
  · intro other
    have unchanged : Alive (Function.update queue.heap timerId.timer (some changed)) other ↔
        Alive queue.heap other :=
      alive_restart found same
    rw [unchanged, sound.owned.alive other, Finset.mem_insert, List.mem_cons]
    tauto
  · intro other member listed
    rcases Finset.mem_insert.mp listed with rfl | old
    · exact outside member
    · exact sound.owned.apart other (List.mem_cons_of_mem _ member) old

/-- A timer of the batch dies. -/
theorem Sound.discarded {timerId : TimerId} (sound : queue.Sound (timerId :: batch) waiting) :
    { queue with
      heap := Function.update queue.heap timerId.timer none
      freed := queue.freed ++ [timerId] }.Sound batch waiting := by
  have alive : Alive queue.heap timerId :=
    (sound.owned.alive timerId).mpr (.inr (.inl List.mem_cons_self))
  obtain ⟨inactive, outside, distinct⟩ := sound.owned.unbatch
  refine ⟨?_, ⟨?_, distinct, ?_⟩, sound.ledger.delete alive⟩
  · apply sound.matched.frame
    intro other member
    exact Function.update_of_ne (sound.elsewhere other member) _ _
  · intro other
    have before := sound.owned.alive other
    rw [List.mem_cons] at before
    refine (alive_delete alive).trans ?_
    rw [before]
    by_cases equal : other = timerId
    · subst equal
      have gone : ¬ (other ∈ batch ∨ other ∈ waiting) := by
        rw [← List.mem_append]
        exact outside
      simp only [ne_eq, not_true_eq_false, and_false, false_iff, not_or]
      exact ⟨inactive, not_or.mp gone⟩
    · simp [equal]
  · intro other member
    exact sound.owned.apart other (List.mem_cons_of_mem _ member)

/-- A timer of the batch goes back to the tree or dies. -/
theorem Sound.resetExpired {pending : Pending}
    (sound : queue.Sound (pending.id :: batch) waiting) (now : Int) :
    ∃ timer after, queue.heap pending.entry.timer = some timer ∧ timer.sequence = pending.sequence ∧
      queue.resetExpired now pending = .ok after ∧ after.Sound batch waiting ∧
      ((timer.repeats = true ∧ pending.id ∉ queue.deletedTimers ∧ after = { queue with
          heap := Function.update queue.heap pending.entry.timer (some (timer.restart now))
          timerTree := (queue.timerTree.insert ⟨now + timer.interval, pending.entry.timer⟩).2
          activeTimers := insert pending.id queue.activeTimers }) ∨
        (¬ (timer.repeats = true ∧ pending.id ∉ queue.deletedTimers) ∧ after = { queue with
          heap := Function.update queue.heap pending.entry.timer none
          freed := queue.freed ++ [pending.id] })) := by
  obtain ⟨timer, call, found, sequence⟩ :=
    sound.derefPending (show pending.id ∈ pending.id :: batch by simp)
  have same : (⟨pending.entry.timer, timer.sequence⟩ : TimerId) = pending.id := by
    rw [sequence]
    rfl
  by_cases again : timer.repeats = true ∧ pending.id ∉ queue.deletedTimers
  · have expiration : (timer.restart now).expiration = now + timer.interval := by
      simp [Timer.restart, again.1]
    obtain ⟨⟨earliest, inserted⟩, kept⟩ := sound.resumed found sequence (timer.restart_sequence now)
    rw [expiration] at inserted kept
    refine ⟨timer, _, found, sequence, ?_, kept, .inl ⟨again.1, again.2, rfl⟩⟩
    unfold TimerQueue.resetExpired
    simp only [call, ok_bind, same, if_pos again]
    exact bind_eq_ok.mpr ⟨_, inserted, rfl⟩
  · refine ⟨timer, _, found, sequence, ?_, sound.discarded, .inr ⟨again, rfl⟩⟩
    unfold TimerQueue.resetExpired
    simp only [call, ok_bind, same, if_neg again, delete, deref, found]
    rfl

theorem Sound.resetAll (now : Int) (expired : List Pending) {queue : TimerQueue}
    (sound : queue.Sound (expired.map Pending.id) waiting) :
    ∃ after, expired.foldlM (TimerQueue.resetExpired now) queue = .ok after ∧
      after.Sound [] waiting ∧
      after.callingExpiredTimers = queue.callingExpiredTimers ∧ after.timerfd = queue.timerfd := by
  induction expired generalizing queue with
  | nil => exact ⟨queue, rfl, sound, rfl, rfl⟩
  | cons pending expired ih =>
    obtain ⟨timer, middle, _, _, call, kept, shape⟩ := sound.resetExpired now
    obtain ⟨after, rest, final, calling, timerfd⟩ := ih kept
    refine ⟨after, by rw [List.foldlM_cons, call, ok_bind, rest], final, ?_, ?_⟩
    · rw [calling]
      rcases shape with ⟨_, _, rfl⟩ | ⟨_, rfl⟩ <;> rfl
    · rw [timerfd]
      rcases shape with ⟨_, _, rfl⟩ | ⟨_, rfl⟩ <;> rfl

def armFirst (queue : TimerQueue) (later : Int) : TimerQueue :=
  match queue.timerTree.first? with
  | none => queue
  | some first => queue.updateTimerfd later first.expiration

theorem Sound.armFirst (sound : queue.Sound batch waiting) (later : Int) :
    (queue.armFirst later).Sound batch waiting := by
  unfold TimerQueue.armFirst
  split
  · exact sound
  · exact ⟨sound.matched, sound.owned, sound.ledger⟩

/-- `resetTimer` ends with the timerfd armed for the first timer of the tree. -/
theorem Sound.resetTimer {expired : List Pending}
    (sound : queue.Sound (expired.map Pending.id) waiting) (now later : Int) :
    ∃ middle, expired.foldlM (TimerQueue.resetExpired now) queue = .ok middle ∧
      middle.Sound [] waiting ∧
      middle.callingExpiredTimers = queue.callingExpiredTimers ∧ middle.timerfd = queue.timerfd ∧
      queue.resetTimer expired now later = .ok (middle.armFirst later) := by
  obtain ⟨middle, call, kept, calling, timerfd⟩ := Sound.resetAll now expired sound
  refine ⟨middle, call, kept, calling, timerfd, ?_⟩
  unfold TimerQueue.resetTimer TimerQueue.armFirst
  simp only [call, ok_bind]
  rcases head : middle.timerTree.first? with _ | first
  · rfl
  · obtain ⟨timer, found, key, _⟩ := kept.matched.entries first (OrderedSet.first?_mem head)
    simp only [deref, found, ok_bind, key]
    rfl

end Sound

end TimerQueue

end FakeMuduo.Net
