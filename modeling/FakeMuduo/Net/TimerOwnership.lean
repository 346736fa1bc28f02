import FakeMuduo.Net.TimerInvariant

/-! Whole runs of the timer queue. -/

namespace FakeMuduo.Net.TimerRun

open FakeMuduo.Base TimerQueue

def Phase.batch : Phase → List Pending
  | idle => []
  | calling _ expired _ => expired

/-- The part of the batch whose callbacks have not started yet. -/
def Phase.rest : Phase → List Pending
  | idle => []
  | calling _ _ rest => rest

structure World.Sound (world : World) : Prop where
  queue : world.queue.Sound (world.phase.batch.map Pending.id) world.waiting
  calling : world.queue.callingExpiredTimers = decide (world.phase ≠ .idle)
  suffix : world.phase.rest <:+ world.phase.batch

theorem initial_sound : World.initial.Sound := by
  have dead : ∀ timerId, ¬ Alive TimerQueue.new.heap timerId := by
    rintro timerId ⟨timer, found, _⟩
    cases found
  refine ⟨⟨⟨rfl, ?_, ?_⟩, ⟨?_, List.nodup_nil, ?_⟩, ⟨?_, ?_, ?_, List.nodup_nil, ?_, ?_, ?_⟩⟩, rfl,
    List.suffix_rfl⟩
  · intro entry member
    exact absurd member (OrderedSet.not_mem_empty entry)
  · intro timerId member
    exact absurd member (Finset.notMem_empty timerId)
  · intro timerId
    refine iff_of_false (dead timerId) ?_
    simp [World.initial, TimerQueue.new, Phase.batch]
  · intro timerId member
    cases member
  · intro address timer found
    cases found
  · intro timerId other alive
    exact absurd alive (dead timerId)
  · intro timerId alive
    exact absurd alive (dead timerId)
  · intro timerId member
    cases member
  · intro timerId member
    cases member
  · intro sequence bound
    exact absurd bound (Nat.not_lt_zero sequence)

/-- What a step does to a sound world. -/
inductive Effect (world : World) : Step → World → Prop where
  | create {address : Address} {when interval : Int} (unused : world.queue.heap address = none)
      (bound : address < UINTPTR_MAX) :
      Effect world (.create address when interval) { world with
        queue := world.queue.createTimer address when interval
        waiting := world.waiting ++ [⟨address, world.queue.numsTimerCreated⟩] }
  | add {now : Int} {timerId : TimerId} {timer : Timer} (member : timerId ∈ world.waiting)
      (found : world.queue.heap timerId.timer = some timer)
        (sequence : timer.sequence = timerId.sequence) :
      Effect world (.addTimerInLoop now timerId) { world with
        queue := world.queue.added now timerId timer.expiration
        waiting := world.waiting.erase timerId
        trace := world.trace ++ [.added timerId] }
  | remove {timerId : TimerId} {timer : Timer} (member : timerId ∈ world.queue.activeTimers)
      (found : world.queue.heap timerId.timer = some timer)
        (sequence : timer.sequence = timerId.sequence) :
      Effect world (.delTimerInLoop timerId) { world with
        queue := world.queue.removed timerId timer.expiration
        trace := world.trace ++ [.cancelled timerId] }
  | mark {timerId : TimerId} (absent : timerId ∉ world.queue.activeTimers) :
      Effect world (.delTimerInLoop timerId) { world with
        queue := world.queue.marked timerId
        trace := world.trace ++ [.cancelled timerId] }
  | handleRead {now : Int} (idle : world.phase = .idle) :
      Effect world (.handleRead now) { world with
        queue := world.queue.called now
        phase := .calling now (world.queue.due now) (world.queue.due now) }
  | call {now : Int} {expired rest : List Pending} {next : Pending}
      (calling : world.phase = .calling now expired (next :: rest)) :
      Effect world .call { world with
        phase := .calling now expired rest
        trace := world.trace ++ [.started next.id] }
  | finish {now later : Int} {expired : List Pending} {middle : TimerQueue}
      (calling : world.phase = .calling now expired [])
      (reset : expired.foldlM (resetExpired now)
        { world.queue with callingExpiredTimers := false } = .ok middle) :
      Effect world (.finish later) { world with queue := middle.armFirst later, phase := .idle }
  | expire {now target : Int} (armed : world.queue.timerfd.target = some target)
      (reached : target ≤ 1000 * now) :
      Effect world (.expire now) { world with queue := { world.queue with timerfd :=
        { world.queue.timerfd with target := none, unread := true } } }

section Steps

variable {world : World}

theorem World.Sound.batched (sound : world.Sound) {now : Int} {expired rest : List Pending}
    (calling : world.phase = .calling now expired rest) :
    world.queue.Sound (expired.map Pending.id) world.waiting := by
  have owned := sound.queue
  rw [calling] at owned
  exact owned

theorem World.Sound.call (sound : world.Sound) {now : Int} {expired rest : List Pending}
    {next : Pending} (calling : world.phase = .calling now expired (next :: rest)) :
    Step.perform world .call = .ok { world with
      phase := .calling now expired rest
      trace := world.trace ++ [.started next.id] } := by
  have suffix := sound.suffix
  rw [calling] at suffix
  have member : next.id ∈ expired.map Pending.id :=
    List.mem_map_of_mem (suffix.subset List.mem_cons_self)
  obtain ⟨timer, found, _⟩ := (sound.batched calling).derefPending member
  simp only [Step.perform, calling, found, ok_bind]
  rfl

theorem World.Sound.finish (sound : world.Sound) {now : Int} {expired : List Pending}
    (calling : world.phase = .calling now expired []) (later : Int) :
    ∃ middle, expired.foldlM (resetExpired now)
      { world.queue with callingExpiredTimers := false } = .ok middle ∧
      Step.perform world (.finish later) =
        .ok { world with queue := middle.armFirst later, phase := .idle } := by
  obtain ⟨middle, reset, _, _, _, call⟩ := (sound.batched calling).stopped.resetTimer now later
  refine ⟨middle, reset, ?_⟩
  simp only [Step.perform, calling, call, ok_bind]
  rfl

/-- Every step that can be taken returns. -/
theorem World.Sound.perform (sound : world.Sound) (step : Step) :
    (∃ after, step.perform world = .ok after ∧ Effect world step after) ∨
      step.perform world = .error .disabled := by
  cases step with
  | create address when interval =>
    by_cases free : world.queue.heap address = none ∧ 0 < address ∧ address < UINTPTR_MAX
    · refine .inl ⟨_, ?_, .create free.1 free.2.2⟩
      simp only [Step.perform, if_pos free]
    · exact .inr (by simp only [Step.perform, if_neg free])
  | addTimerInLoop now timerId =>
    by_cases ready : timerId ∈ world.waiting ∧ world.phase.userRuns = true
    · obtain ⟨timer, found, sequence, call, _⟩ := sound.queue.add now ready.1
      refine .inl ⟨_, ?_, .add ready.1 found sequence⟩
      simp only [Step.perform, if_pos ready, call, ok_bind]
      rfl
    · exact .inr (by simp only [Step.perform, if_neg ready])
  | delTimerInLoop timerId =>
    by_cases ready : world.phase.userRuns = true
    · by_cases member : timerId ∈ world.queue.activeTimers
      · obtain ⟨timer, found, sequence, _⟩ := sound.queue.matched.ids timerId member
        refine .inl ⟨_, ?_, .remove member found sequence⟩
        simp only [Step.perform, if_pos ready,
          delTimerInLoop_active sound.queue.matched member found, ok_bind]
        rfl
      · refine .inl ⟨_, ?_, .mark member⟩
        simp only [Step.perform, if_pos ready,
          delTimerInLoop_inactive sound.queue.matched member, ok_bind]
        rfl
    · exact .inr (by simp only [Step.perform, if_neg ready])
  | handleRead now =>
    by_cases ready : world.phase = .idle
    · refine .inl ⟨_, ?_, .handleRead ready⟩
      simp only [Step.perform, if_pos ready, startCalling_eq sound.queue now, ok_bind]
      rfl
    · exact .inr (by simp only [Step.perform, if_neg ready])
  | call =>
    rcases phase : world.phase with _ | ⟨now, expired, _ | ⟨next, rest⟩⟩
    · exact .inr (by simp only [Step.perform, phase])
    · exact .inr (by simp only [Step.perform, phase])
    · exact .inl ⟨_, sound.call phase, .call phase⟩
  | finish later =>
    rcases phase : world.phase with _ | ⟨now, expired, _ | ⟨next, rest⟩⟩
    · exact .inr (by simp only [Step.perform, phase])
    · obtain ⟨middle, reset, performed⟩ := sound.finish phase later
      exact .inl ⟨_, performed, .finish phase reset⟩
    · exact .inr (by simp only [Step.perform, phase])
  | expire now =>
    rcases armed : world.queue.timerfd.target with _ | target
    · exact .inr (by simp only [Step.perform, armed])
    · by_cases reached : target ≤ 1000 * now
      · refine .inl ⟨_, ?_, .expire armed reached⟩
        simp only [Step.perform, armed, if_pos reached]
      · exact .inr (by simp only [Step.perform, armed, if_neg reached])

theorem World.Sound.effect (sound : world.Sound) {step : Step} {after : World}
    (performed : step.perform world = .ok after) : Effect world step after := by
  rcases sound.perform step with ⟨reached, call, effect⟩ | disabled
  · rw [call] at performed
    cases performed
    exact effect
  · rw [disabled] at performed
    cases performed

theorem Effect.sound {step : Step} {after : World} (effect : Effect world step after)
    (sound : world.Sound) :
    after.Sound := by
  cases effect with
  | create unused bound => exact ⟨sound.queue.create unused bound _ _, sound.calling, sound.suffix⟩
  | @add now timerId timer member found sequence =>
    obtain ⟨same, present, _, _, kept⟩ := sound.queue.add now member
    obtain rfl : timer = same := Option.some.inj (found.symm.trans present)
    refine ⟨kept, ?_, sound.suffix⟩
    rw [← sound.calling]
    unfold added
    dsimp only
    split <;> rfl
  | remove member found sequence =>
    exact ⟨sound.queue.removed member found, sound.calling, sound.suffix⟩
  | @mark timerId absent =>
    refine ⟨sound.queue.marked timerId, ?_, sound.suffix⟩
    rw [← sound.calling]
    unfold marked
    dsimp only
    split <;> rfl
  | @handleRead now idle =>
    have owned := sound.queue
    rw [idle] at owned
    exact ⟨owned.called now, rfl, List.suffix_rfl⟩
  | @call now expired rest next calling =>
    obtain ⟨owned, flag, suffix⟩ := sound
    rw [calling] at owned flag suffix
    exact ⟨owned, flag, (List.suffix_cons next rest).trans suffix⟩
  | @finish now later expired middle calling reset =>
    obtain ⟨same, again, kept, flag, _⟩ := (sound.batched calling).stopped.resetAll now expired
    rw [reset] at again
    cases again
    refine ⟨kept.armFirst later, ?_, List.suffix_rfl⟩
    have unchanged : (middle.armFirst later).callingExpiredTimers =
        middle.callingExpiredTimers := by
      unfold armFirst
      split <;> rfl
    exact unchanged.trans flag
  | expire armed reached =>
    exact ⟨⟨sound.queue.matched, sound.queue.owned, sound.queue.ledger⟩,
      sound.calling, sound.suffix⟩

end Steps

theorem run_sound {steps : List Step} {world : World}
    (run : machine.Run .initial steps world) : world.Sound :=
  run.invariant (fun _ world => world.Sound) initial_sound fun kept step =>
    (kept.effect step).sound kept

/-- A cancellation touches no other timer. -/
theorem World.Sound.del_other {world after : World} (sound : world.Sound) {timerId other : TimerId}
    (performed : (Step.delTimerInLoop timerId).perform world = .ok after)
    (alive : Alive world.queue.heap other) (apart : other ≠ timerId) :
    after.queue.heap other.timer = world.queue.heap other.timer ∧
      ∀ expiration, ⟨expiration, other.timer⟩ ∈ after.queue.timerTree ↔
        ⟨expiration, other.timer⟩ ∈ world.queue.timerTree := by
  cases sound.effect performed with
  | remove member found sequence =>
    have elsewhere : other.timer ≠ timerId.timer := by
      intro same
      exact apart (alive.eq_of_timer ⟨_, found, sequence⟩ same)
    refine ⟨Function.update_of_ne elsewhere _ _, ?_⟩
    intro expiration
    simp [removed, elsewhere]
  | mark absent =>
    unfold marked
    split
    · exact ⟨rfl, fun _ => Iff.rfl⟩
    · exact ⟨rfl, fun _ => Iff.rfl⟩

/-- In every state of every run: the tree and the active ids describe the same timers; no
assertion fails and no dead timer is used; a timer is deleted once, and one that is not
waiting to be added, in the batch or in the tree was deleted; a cancellation changes no
timer but the one it names. -/
theorem timers_owned_once {steps : List Step} {world : World}
    (run : machine.Run .initial steps world) :
    ((∀ entry ∈ world.queue.timerTree, ∃ timer, world.queue.heap entry.timer = some timer ∧
        timer.expiration = entry.expiration ∧ ⟨entry.timer, timer.sequence⟩ ∈
          world.queue.activeTimers) ∧
      (∀ timerId ∈ world.queue.activeTimers, ∃ timer, world.queue.heap timerId.timer = some timer ∧
        timer.sequence = timerId.sequence ∧ ⟨timer.expiration, timerId.timer⟩ ∈
          world.queue.timerTree)) ∧
    (∀ step fault, Step.perform world step = .error fault → fault = .disabled) ∧
    ((world.queue.freed.map TimerId.sequence).Nodup ∧
      ∀ timerId ∈ world.queue.freed, ¬ Alive world.queue.heap timerId) ∧
    (∀ sequence < world.queue.numsTimerCreated,
      (∃ timerId ∈ world.waiting, timerId.sequence = sequence) ∨
      (∃ pending ∈ world.phase.batch, pending.sequence = sequence ∧
        Alive world.queue.heap pending.id) ∨
      (∃ entry ∈ world.queue.timerTree, Alive world.queue.heap ⟨entry.timer, sequence⟩) ∨
      ∃ timerId ∈ world.queue.freed, timerId.sequence = sequence) ∧
    (∀ timerId after, Step.perform world (.delTimerInLoop timerId) = .ok after →
      ∀ other, Alive world.queue.heap other → other ≠ timerId →
        after.queue.heap other.timer = world.queue.heap other.timer ∧
          ∀ expiration, ⟨expiration, other.timer⟩ ∈ after.queue.timerTree ↔
            ⟨expiration, other.timer⟩ ∈ world.queue.timerTree) := by
  have sound := run_sound run
  obtain ⟨matched, owned, ledger⟩ := sound.queue
  refine ⟨⟨matched.entries, matched.ids⟩, ?_, ⟨ledger.once, ?_⟩, ?_, ?_⟩
  · intro step fault failed
    rcases sound.perform step with ⟨after, call, _⟩ | disabled
    · rw [call] at failed
      cases failed
    · rw [disabled] at failed
      cases failed
      rfl
  · intro timerId member alive
    exact ledger.gone timerId member timerId alive rfl
  · intro sequence bound
    rcases ledger.accounted sequence bound with ⟨timerId, alive, rfl⟩ | dead
    · rcases (owned.alive timerId).mp alive with active | called | waits
      · obtain ⟨timer, _, _, held⟩ := matched.ids timerId active
        exact .inr (.inr (.inl ⟨_, held, alive⟩))
      · obtain ⟨pending, member, rfl⟩ := List.mem_map.mp called
        exact .inr (.inl ⟨pending, member, rfl, alive⟩)
      · exact .inl ⟨timerId, waits, rfl⟩
    · exact .inr (.inr (.inr dead))
  · intro timerId after performed other alive apart
    exact sound.del_other performed alive apart

/-- A batch of three: the first cancels itself and adds a timer, the second cancels the
third; then an address is used again and the old id is cancelled. -/
theorem timers_owned_once_reused_address :
    ∃ world : World,
      machine.Run .initial
        [.create 1 10 5, .addTimerInLoop 0 ⟨1, 0⟩, .create 2 10 0,
          .addTimerInLoop 0 ⟨2, 1⟩, .create 3 10 7, .addTimerInLoop 0 ⟨3, 2⟩, .expire 10,
          .handleRead 20, .call, .delTimerInLoop ⟨1, 0⟩, .create 4 50 0, .addTimerInLoop 21 ⟨4, 3⟩,
          .call, .delTimerInLoop ⟨3, 2⟩, .call, .finish 30, .create 2 60 0,
          .addTimerInLoop 31 ⟨2, 4⟩, .delTimerInLoop ⟨2, 1⟩] world ∧
      world.queue.timerTree.elements = [⟨50, 4⟩, ⟨60, 2⟩] ∧
        world.queue.freed = [⟨1, 0⟩, ⟨2, 1⟩, ⟨3, 2⟩] ∧
      (world.queue.freed.map TimerId.sequence).Nodup ∧
      (∀ step fault, Step.perform world step = .error fault → fault = .disabled) := by
  have followed : (Machine.follow Step.perform (fun _ _ => true) .initial
      [.create 1 10 5, .addTimerInLoop 0 ⟨1, 0⟩, .create 2 10 0,
        .addTimerInLoop 0 ⟨2, 1⟩, .create 3 10 7, .addTimerInLoop 0 ⟨3, 2⟩, .expire 10,
        .handleRead 20, .call, .delTimerInLoop ⟨1, 0⟩, .create 4 50 0, .addTimerInLoop 21 ⟨4, 3⟩,
        .call, .delTimerInLoop ⟨3, 2⟩, .call, .finish 30, .create 2 60 0,
        .addTimerInLoop 31 ⟨2, 4⟩, .delTimerInLoop ⟨2, 1⟩]).any (fun world =>
      world.queue.timerTree.elements == [⟨50, 4⟩, ⟨60, 2⟩] &&
        world.queue.freed == [⟨1, 0⟩, ⟨2, 1⟩, ⟨3, 2⟩]) = true := by
    decide +kernel
  obtain ⟨world, run, final⟩ :=
    Machine.Run.ofFollowAny machine (fun _ performed => performed) followed
  simp only [Bool.and_eq_true, beq_iff_eq] at final
  obtain ⟨_, safe, once, _⟩ := timers_owned_once run
  exact ⟨world, run, final.1, final.2, once.1, safe⟩

/-- The destructor's loop, over distinct pointers to living timers. -/
theorem deleteAll {entries : List TimerEntry} {queue : TimerQueue}
    (distinct : (entries.map TimerEntry.timer).Nodup)
    (present : ∀ entry ∈ entries, ∃ timer, queue.heap entry.timer = some timer)
    (ledger : Ledger queue.heap queue.numsTimerCreated queue.freed) :
    ∃ after, entries.foldlM (fun queue entry => queue.delete entry.timer) queue = .ok after ∧
      Ledger after.heap queue.numsTimerCreated after.freed ∧
      ∀ timerId, Alive after.heap timerId ↔
        Alive queue.heap timerId ∧ timerId.timer ∉ entries.map TimerEntry.timer := by
  induction entries generalizing queue with
  | nil => exact ⟨queue, rfl, ledger, fun timerId => by simp⟩
  | cons entry entries ih =>
    obtain ⟨outside, distinct⟩ := List.nodup_cons.mp distinct
    obtain ⟨timer, found⟩ := present entry List.mem_cons_self
    have alive : Alive queue.heap ⟨entry.timer, timer.sequence⟩ := ⟨timer, found, rfl⟩
    have others : ∀ other ∈ entries, ∃ timer,
        Function.update queue.heap entry.timer none other.timer = some timer := by
      intro other member
      have elsewhere : other.timer ≠ entry.timer := by
        intro same
        exact outside (same ▸ List.mem_map_of_mem member)
      rw [Function.update_of_ne elsewhere]
      exact present other (List.mem_cons_of_mem _ member)
    obtain ⟨after, deleted, kept, living⟩ := @ih { queue with
      heap := Function.update queue.heap entry.timer none
      freed := queue.freed ++ [⟨entry.timer, timer.sequence⟩] } distinct others
        (ledger.delete alive)
    refine ⟨after, ?_, kept, ?_⟩
    · rw [List.foldlM_cons, delete, deref_ok found, ok_bind]
      exact deleted
    · intro timerId
      rw [living, List.map_cons, List.mem_cons, not_or, ← and_assoc]
      refine and_congr_left fun _ => ?_
      refine (alive_delete alive).trans (and_congr_right fun lives => not_congr ⟨?_, ?_⟩)
      · rintro rfl
        rfl
      · intro same
        exact lives.eq_of_timer alive same

/-- In every state of every run the destructor deletes each timer of the tree once, and no other:
the timers that were made and are then not deleted are those waiting to be added and those of a
batch that is being called. -/
theorem destructor_frees_tree {steps : List Step} {world : World}
    (run : machine.Run .initial steps world) :
    ∃ after, world.queue.destroy = .ok after ∧ (after.freed.map TimerId.sequence).Nodup ∧
      ∀ sequence < world.queue.numsTimerCreated,
        (∃ timerId ∈ after.freed, timerId.sequence = sequence) ↔
          ¬ ∃ timerId ∈ world.phase.batch.map Pending.id ++ world.waiting,
            timerId.sequence = sequence := by
  obtain ⟨matched, owned, ledger⟩ := (run_sound run).queue
  have distinct : (world.queue.timerTree.elements.map TimerEntry.timer).Nodup := by
    refine List.Nodup.map_on ?_ world.queue.timerTree.nodup
    intro first member second held same
    exact matched.eq_of_timer member held same
  have present : ∀ entry ∈ world.queue.timerTree.elements, ∃ timer,
      world.queue.heap entry.timer = some timer := by
    intro entry member
    obtain ⟨timer, found, _⟩ := matched.entries entry member
    exact ⟨timer, found⟩
  obtain ⟨after, deleted, kept, living⟩ := deleteAll distinct present ledger
  have left : ∀ timerId, Alive after.heap timerId ↔
      timerId ∈ world.phase.batch.map Pending.id ++ world.waiting := by
    intro timerId
    rw [living, owned.alive, ← List.mem_append]
    constructor
    · rintro ⟨active | left, outside⟩
      · obtain ⟨timer, _, _, held⟩ := matched.ids timerId active
        exact absurd (List.mem_map_of_mem held) outside
      · exact left
    · intro left
      refine ⟨.inr left, ?_⟩
      intro inside
      obtain ⟨entry, member, same⟩ := List.mem_map.mp inside
      obtain ⟨timer, found, _, active⟩ := matched.entries entry member
      have lives : Alive world.queue.heap timerId :=
        (owned.alive timerId).mpr (.inr (List.mem_append.mp left))
      have entered : (⟨entry.timer, timer.sequence⟩ : TimerId) = timerId :=
        Alive.eq_of_timer ⟨timer, found, rfl⟩ lives same
      exact owned.apart timerId left (entered ▸ active)
  refine ⟨after, deleted, kept.once, ?_⟩
  intro sequence bound
  constructor
  · rintro ⟨timerId, member, rfl⟩ ⟨other, remains, same⟩
    exact kept.gone timerId member other ((left other).mpr remains) same
  · intro gone
    rcases kept.accounted sequence bound with ⟨timerId, alive, same⟩ | dead
    · exact absurd ⟨timerId, (left timerId).mp alive, same⟩ gone
    · exact dead

/-- A timer in the tree is deleted, and one that waits to be added is not. -/
theorem destructor_frees_tree_unadded :
    ∃ world after, machine.Run .initial [.create 1 10 5, .addTimerInLoop 0 ⟨1, 0⟩,
      .create 2 10 0] world ∧
      world.queue.destroy = .ok after ∧ (after.freed.map TimerId.sequence).Nodup ∧
      (∃ timerId ∈ after.freed, timerId.sequence = 0) ∧ ¬ ∃ timerId ∈ after.freed,
        timerId.sequence = 1 := by
  have followed : (Machine.follow Step.perform (fun _ _ => true) .initial
      [.create 1 10 5, .addTimerInLoop 0 ⟨1, 0⟩, .create 2 10 0]).any (fun world =>
      decide (world.queue.numsTimerCreated = 2 ∧ world.waiting = [⟨2, 1⟩] ∧ world.phase = .idle)) =
        true := by
    decide +kernel
  obtain ⟨world, run, final⟩ :=
    Machine.Run.ofFollowAny machine (fun _ performed => performed) followed
  obtain ⟨created, waiting, idle⟩ := of_decide_eq_true final
  obtain ⟨after, destroyed, once, freed⟩ := destructor_frees_tree run
  rw [created, waiting, idle] at freed
  refine ⟨world, after, run, destroyed, once, (freed 0 (by decide)).mpr ?_,
    mt (freed 1 (by decide)).mp ?_⟩
  · simp [Phase.batch]
  · simp [Phase.batch]

end FakeMuduo.Net.TimerRun
