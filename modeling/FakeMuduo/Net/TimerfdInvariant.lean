import FakeMuduo.Net.TimerOwnership

/-! The timerfd wakes the loop for the earliest timer. -/

namespace FakeMuduo.Net

open FakeMuduo.Base

theorem toTimespec_of_nonneg {time : Int} (future : 0 ≤ time) :
    toTimespec time = ⟨time / 1000000, time % 1000000 * 1000⟩ := by
  unfold toTimespec
  rw [Int.tdiv_eq_ediv_of_nonneg future, Int.tmod_eq_emod_of_nonneg future]

theorem toTimespec_of_neg {time : Int} (past : time < 0) :
    (toTimespec time).tvSec ≤ 0 ∧ (toTimespec time).tvNsec ≤ 0 := by
  obtain ⟨elapsed, rfl⟩ : ∃ elapsed, time = -elapsed := ⟨-time, by omega⟩
  unfold toTimespec
  simp only [Int.neg_tdiv, Int.neg_tmod]
  rw [Int.tdiv_eq_ediv_of_nonneg (by omega), Int.tmod_eq_emod_of_nonneg (by omega)]
  constructor <;> omega

/-- The delay is never less than 100 ns, and otherwise exact. -/
theorem timespecFromNow_spec (when now : Int) :
    0 ≤ (timespecFromNow when now).tvSec ∧ 0 ≤ (timespecFromNow when now).tvNsec ∧
      (timespecFromNow when now).tvNsec < 1000000000 ∧
      (timespecFromNow when now).tvSec * 1000000000 + (timespecFromNow when now).tvNsec =
        max 100 (1000 * (when - now)) := by
  unfold timespecFromNow
  rcases Int.lt_or_le (when - now) 0 with past | future
  · obtain ⟨seconds, nanoseconds⟩ := toTimespec_of_neg past
    have reset : (if (toTimespec (when - now)).tvSec < 0 then
        { toTimespec (when - now) with tvSec := 0 } else toTimespec (when - now)) =
        ⟨0, (toTimespec (when - now)).tvNsec⟩ := by
      split
      · rfl
      · have zero : (toTimespec (when - now)).tvSec = 0 := by omega
        rw [← zero]
    simp only [reset, true_and]
    rw [if_pos (by omega)]
    simp only
    omega
  · have seconds : ¬ (when - now) / 1000000 < 0 := by omega
    rw [toTimespec_of_nonneg future]
    simp only [if_neg seconds]
    split
    · simp only
      omega
    · simp only
      omega

theorem Timerfd.settime_fromNow (timerfd : Timerfd) (when now : Int) :
    timerfd.settime now (timespecFromNow when now) =
      ⟨some (max (1000 * now + 100) (1000 * when)), false, 1000 * now⟩ := by
  obtain ⟨seconds, nanoseconds, bound, total⟩ := timespecFromNow_spec when now
  unfold Timerfd.settime
  rw [if_neg (by omega), if_neg (by omega), total]
  congr 2
  omega

/-- The timerfd will wake the loop in time for a timer that expires then. -/
def Timerfd.Covers (timerfd : Timerfd) (expiration : Int) : Prop :=
  timerfd.unread = true ∨ ∃ target, timerfd.target = some target ∧
    target ≤ max (1000 * expiration) (timerfd.armedAt + 100)

theorem Timerfd.Covers.later {timerfd : Timerfd} {expiration later : Int}
    (covers : timerfd.Covers expiration) (order : expiration ≤ later) : timerfd.Covers later := by
  rcases covers with unread | ⟨target, armed, bound⟩
  · exact .inl unread
  · exact .inr ⟨target, armed, by omega⟩

theorem Timerfd.settime_covers (timerfd : Timerfd) {when expiration : Int} (now : Int)
    (order : when ≤ expiration) :
    (timerfd.settime now (timespecFromNow when now)).Covers expiration := by
  rw [Timerfd.settime_fromNow]
  refine .inr ⟨_, rfl, ?_⟩
  dsimp only
  omega

theorem TimerEntry.expiration_le {entry other : TimerEntry} (order : entry ≤ other) :
    entry.expiration ≤ other.expiration := by
  rcases lt_or_eq_of_le order with less | rfl
  · rw [TimerEntry.lt_iff] at less
    omega
  · exact le_refl _

namespace TimerRun

open TimerQueue

/-- Outside `handleRead`, the timerfd covers every timer of the tree. -/
def Awake (world : World) : Prop :=
  world.phase = .idle → ∀ entry ∈ world.queue.timerTree, world.queue.timerfd.Covers entry.expiration

theorem added_covers {queue : TimerQueue} (now : Int) (timerId : TimerId) (expiration : Int)
    (covers : ∀ entry ∈ queue.timerTree, queue.timerfd.Covers entry.expiration) :
    ∀ entry ∈ (queue.added now timerId expiration).timerTree,
      (queue.added now timerId expiration).timerfd.Covers entry.expiration := by
  unfold added
  dsimp only
  split
  · rename_i earliest
    intro entry member
    apply Timerfd.settime_covers
    rcases OrderedSet.mem_insert.mp member with rfl | old
    · exact le_refl _
    · rcases head : queue.timerTree.first? with _ | first
      · exact absurd old (OrderedSet.first?_eq_none.mp head entry)
      · rw [head] at earliest
        have before : expiration < first.expiration := by simpa using earliest
        have least := TimerEntry.expiration_le (OrderedSet.first?_le head old)
        omega
  · rename_i other
    intro entry member
    rcases OrderedSet.mem_insert.mp member with rfl | old
    · rcases head : queue.timerTree.first? with _ | first
      · simp [head] at other
      · rw [head] at other
        have after : first.expiration ≤ expiration := by simpa using other
        exact (covers first (OrderedSet.first?_mem head)).later after
    · exact covers entry old

theorem armFirst_covers (queue : TimerQueue) (later : Int) :
    ∀ entry ∈ (queue.armFirst later).timerTree,
      (queue.armFirst later).timerfd.Covers entry.expiration := by
  unfold armFirst
  split
  · rename_i empty
    intro entry member
    exact absurd member (OrderedSet.first?_eq_none.mp empty entry)
  · rename_i first head
    intro entry member
    exact Timerfd.settime_covers _ later
      (TimerEntry.expiration_le (OrderedSet.first?_le head member))

theorem Awake.step {world after : World} {step : Step} (awake : Awake world)
    (effect : Effect world step after) :
    Awake after := by
  intro idle
  cases effect with
  | create unused bound => exact awake idle
  | add member found sequence => exact added_covers _ _ _ (awake idle)
  | remove member found sequence =>
    intro entry kept
    exact awake idle entry (OrderedSet.mem_erase.mp kept).2
  | @mark timerId absent =>
    have covers := awake idle
    unfold marked
    split
    · exact covers
    · exact covers
  | handleRead idle => cases idle
  | call calling => cases idle
  | finish calling reset => exact armFirst_covers _ _
  | expire armed reached =>
    intro entry member
    exact .inl rfl

/-- After every step that is not inside `handleRead`: if the tree holds a timer, then the
timerfd has an unread expiry or is armed for the first expiration at the latest, or for
100 ns after the last arming where that is later. -/
theorem earliest_timer_armed {steps : List Step} {world : World}
    (run : machine.Run .initial steps world) (idle : world.phase = .idle) (first : TimerEntry)
    (head : world.queue.timerTree.first? = some first) :
    world.queue.timerfd.unread = true ∨ ∃ target, world.queue.timerfd.target = some target ∧
      target ≤ max (1000 * first.expiration) (world.queue.timerfd.armedAt + 100) := by
  have kept : world.Sound ∧ Awake world := by
    apply run.invariant fun _ world => world.Sound ∧ Awake world
    · refine ⟨initial_sound, ?_⟩
      intro _ entry member
      exact absurd member (OrderedSet.not_mem_empty entry)
    · rintro _ current step after ⟨sound, awake⟩ performed
      have effect := sound.effect performed
      exact ⟨effect.sound sound, awake.step effect⟩
  exact kept.2 idle first (OrderedSet.first?_mem head)

/-- The timerfd fires, is armed anew over the unread expiry for an earlier timer, which is
then cancelled; later `handleRead` runs a callback that adds a timer. -/
theorem earliest_timer_armed_after_cancel :
    ∃ world : World,
      machine.Run .initial
        [.create 1 10 0, .addTimerInLoop 0 ⟨1, 0⟩, .create 2 90 0,
          .addTimerInLoop 1 ⟨2, 1⟩, .expire 10, .create 3 5 0, .addTimerInLoop 11 ⟨3, 2⟩,
          .delTimerInLoop ⟨3, 2⟩, .handleRead 12, .call, .create 4 40 0, .addTimerInLoop 13 ⟨4, 3⟩,
          .finish 14] world ∧
      world.queue.timerTree.first? = some ⟨40, 4⟩ ∧
      (world.queue.timerfd.unread = true ∨ ∃ target, world.queue.timerfd.target = some target ∧
        target ≤ max (1000 * 40) (world.queue.timerfd.armedAt + 100)) := by
  have followed : (Machine.follow Step.perform (fun _ _ => true) .initial
      [.create 1 10 0, .addTimerInLoop 0 ⟨1, 0⟩, .create 2 90 0,
        .addTimerInLoop 1 ⟨2, 1⟩, .expire 10, .create 3 5 0, .addTimerInLoop 11 ⟨3, 2⟩,
        .delTimerInLoop ⟨3, 2⟩, .handleRead 12, .call, .create 4 40 0, .addTimerInLoop 13 ⟨4, 3⟩,
        .finish 14]).any (fun world =>
      world.queue.timerTree.first? == some ⟨40, 4⟩ && world.phase == .idle) = true := by
    decide +kernel
  obtain ⟨world, run, final⟩ :=
    Machine.Run.ofFollowAny machine (fun _ performed => performed) followed
  simp only [Bool.and_eq_true, beq_iff_eq] at final
  exact ⟨world, run, final.1, earliest_timer_armed run final.2 ⟨40, 4⟩ final.1⟩

end TimerRun

end FakeMuduo.Net
