import FakeMuduo.Net.EventLoop
import Mathlib.Data.List.Nodup

namespace FakeMuduo.Net.EventLoop

open FakeMuduo.Base

/-- The functors that were swapped out and not called yet. -/
def Phase.functors : Phase → List Posted
  | running functors => functors
  | _ => []

/-- The functors are called in the order of the pushes, each in a later call than the one
whose swap came before its push. -/
structure Ordered (loop : EventLoop) : Prop where
  conserved : loop.pushed = loop.started.map Prod.fst ++ loop.phase.functors ++ loop.pending
  tickets : loop.pushed.map Posted.ticket = List.range loop.pushed.length
  past : ∀ functor ∈ loop.pushed, functor.round ≤ loop.rounds
  swapped : ∀ functor ∈ loop.phase.functors, functor.round < loop.rounds
  later : ∀ start ∈ loop.started, start.1.round < start.2

variable {loop after : EventLoop} {step : Step}

theorem initial_ordered : Ordered initial := by
  constructor <;> simp [initial, Phase.functors]

section Order

theorem Ordered.congr (ordered : Ordered loop) (pushed : after.pushed = loop.pushed)
    (started : after.started = loop.started) (pending : after.pending = loop.pending)
    (rounds : after.rounds = loop.rounds) (functors : after.phase.functors = loop.phase.functors) :
    Ordered after := by
  constructor
  · rw [pushed, started, pending, functors]
    exact ordered.conserved
  · rw [pushed]
    exact ordered.tickets
  · rw [pushed, rounds]
    exact ordered.past
  · rw [functors, rounds]
    exact ordered.swapped
  · rw [started]
    exact ordered.later

theorem Ordered.push (ordered : Ordered loop) (pushed : after.pushed = loop.pushed ++ [loop.posted])
    (started : after.started = loop.started)
    (pending : after.pending = loop.pending ++ [loop.posted]) (rounds : after.rounds = loop.rounds)
    (functors : after.phase.functors = loop.phase.functors) :
    Ordered after := by
  constructor
  · rw [pushed, started, pending, functors, ordered.conserved]
    simp
  · rw [pushed, List.map_append, ordered.tickets, List.length_append, List.length_singleton,
      List.range_succ]
    rfl
  · intro functor member
    rw [pushed] at member
    rw [rounds]
    rcases List.mem_append.mp member with old | new
    · exact ordered.past functor old
    · rw [List.mem_singleton.mp new]
      exact Nat.le_refl _
  · rw [functors, rounds]
    exact ordered.swapped
  · rw [started]
    exact ordered.later

theorem Ordered.swap (ordered : Ordered loop) (called : loop.phase = .called) :
    Ordered { loop with
      phase := .running loop.pending, pending := [], rounds := loop.rounds + 1 } := by
  have whole : loop.pushed = loop.started.map Prod.fst ++ loop.pending := by
    simpa [called, Phase.functors] using ordered.conserved
  constructor
  · simpa [Phase.functors] using whole
  · exact ordered.tickets
  · intro functor member
    exact Nat.le_succ_of_le (ordered.past functor member)
  · intro functor member
    exact Nat.lt_succ_of_le
      (ordered.past functor (by rw [whole]; exact List.mem_append_right _ member))
  · exact ordered.later

theorem Ordered.callFunctor (ordered : Ordered loop) {functor : Posted} {functors : List Posted}
    (running : loop.phase = .running (functor :: functors)) :
    Ordered { loop with
      phase := .running functors, depth := 1,
      started := loop.started ++ [(functor, loop.rounds)] } := by
  have swapped : ∀ other ∈ functor :: functors, other.round < loop.rounds := by
    simpa [running, Phase.functors] using ordered.swapped
  constructor
  · have whole := ordered.conserved
    rw [running] at whole
    simpa [Phase.functors] using whole
  · exact ordered.tickets
  · exact ordered.past
  · intro other member
    exact swapped other (List.mem_cons_of_mem functor member)
  · intro start member
    rcases List.mem_append.mp member with old | new
    · exact ordered.later start old
    · rw [List.mem_singleton.mp new]
      exact swapped functor List.mem_cons_self

theorem perform_ordered (performed : perform loop step = .ok after) (ordered : Ordered loop) :
    Ordered after := by
  cases step with
  | loop =>
    obtain ⟨⟨outside, _⟩, rfl⟩ := guarded_eq_ok.mp performed
    exact ordered.congr rfl rfl rfl rfl (by rw [outside]; rfl)
  | poll =>
    obtain ⟨iterated, rfl⟩ := guarded_eq_ok.mp performed
    exact ordered.congr rfl rfl rfl rfl (by rw [iterated]; rfl)
  | quit =>
    obtain ⟨iterated, rfl⟩ := guarded_eq_ok.mp performed
    exact ordered.congr rfl rfl rfl rfl (by rw [iterated]; rfl)
  | epollWait active =>
    obtain ⟨⟨polling, _⟩, rfl⟩ := guarded_eq_ok.mp performed
    exact ordered.congr rfl rfl rfl rfl (by rw [polling]; rfl)
  | handleEvent =>
    simp only [perform] at performed
    split at performed
    · rename_i handling
      obtain ⟨_, rfl⟩ := guarded_eq_ok.mp performed
      exact ordered.congr rfl rfl rfl rfl (by rw [handling]; rfl)
    · rename_i handling
      obtain ⟨_, rfl⟩ := guarded_eq_ok.mp performed
      exact ordered.congr rfl rfl rfl rfl (by rw [handling]; rfl)
    · cases performed
  | doPendingFunctors =>
    obtain ⟨⟨handling, _⟩, rfl⟩ := guarded_eq_ok.mp performed
    exact ordered.congr rfl rfl rfl rfl (by rw [handling]; rfl)
  | swap =>
    obtain ⟨called, rfl⟩ := guarded_eq_ok.mp performed
    exact ordered.swap called
  | callFunctor =>
    simp only [perform] at performed
    split at performed
    · rename_i running
      obtain ⟨_, rfl⟩ := guarded_eq_ok.mp performed
      exact ordered.callFunctor running
    · cases performed
  | endFunctors =>
    obtain ⟨⟨running, _⟩, rfl⟩ := guarded_eq_ok.mp performed
    exact ordered.congr rfl rfl rfl rfl (by rw [running]; rfl)
  | queueInLoop =>
    obtain ⟨_, rfl⟩ := guarded_eq_ok.mp performed
    exact ordered.push rfl rfl rfl rfl rfl
  | testWakeup =>
    simp only [perform] at performed
    split at performed
    · split at performed <;> cases performed <;> exact ordered.congr rfl rfl rfl rfl rfl
    · cases performed
  | runInLoop =>
    obtain ⟨_, rfl⟩ := guarded_eq_ok.mp performed
    exact ordered.congr rfl rfl rfl rfl rfl
  | returnFromUser =>
    obtain ⟨_, rfl⟩ := guarded_eq_ok.mp performed
    exact ordered.congr rfl rfl rfl rfl rfl
  | foreignQueueInLoop thread =>
    simp only [perform] at performed
    split at performed
    · cases performed
      exact ordered.push rfl rfl rfl rfl rfl
    · cases performed
  | foreignWakeup thread =>
    simp only [perform] at performed
    split at performed
    · cases performed
      exact ordered.congr rfl rfl rfl rfl rfl
    · cases performed

theorem run_ordered {steps : List Step} (run : machine.Run initial steps loop) : Ordered loop := by
  refine run.invariant (fun _ current => Ordered current) initial_ordered ?_
  intro _ current step after ordered performed
  exact perform_ordered performed ordered

/-- Whatever the threads do, the functors called are the first of those pushed, each called
once, and none is called by a `doPendingFunctors` that had swapped before its push. -/
theorem functors_called_in_order {steps : List Step} (run : machine.Run initial steps loop) :
    loop.started.map Prod.fst <+: loop.pushed ∧ (loop.started.map Prod.fst).Nodup ∧
      loop.pushed = loop.started.map Prod.fst ++ loop.phase.functors ++ loop.pending ∧
      ∀ start ∈ loop.started, start.1.round < start.2 := by
  have ordered := run_ordered run
  have first : loop.started.map Prod.fst <+: loop.pushed := by
    rw [ordered.conserved, List.append_assoc]
    exact List.prefix_append _ _
  have distinct : loop.pushed.Nodup := by
    refine List.Nodup.of_map Posted.ticket ?_
    rw [ordered.tickets]
    exact List.nodup_range
  exact ⟨first, distinct.sublist first.sublist, ordered.conserved, ordered.later⟩

/-- Another thread, a handler and then the first functor post one functor each,
up to the second `poll`. -/
def sampleSteps : List Step :=
  [.loop, .foreignQueueInLoop 3, .foreignWakeup 3, .epollWait [.wakeup, .other], .handleEvent,
    .handleEvent, .queueInLoop, .testWakeup, .runInLoop, .returnFromUser, .returnFromUser,
    .doPendingFunctors, .swap, .callFunctor, .queueInLoop, .testWakeup, .returnFromUser,
    .callFunctor, .returnFromUser, .endFunctors, .poll]

theorem functors_called_in_order_sample :
    ∃ loop, machine.Run initial
        (sampleSteps ++ [.epollWait [.wakeup], .handleEvent, .doPendingFunctors, .swap,
          .callFunctor]) loop ∧
      loop.started = [(⟨0, 0⟩, 1), (⟨1, 0⟩, 1), (⟨2, 1⟩, 2)] ∧
        loop.started.map Prod.fst <+: loop.pushed := by
  have followed : (Machine.follow perform (fun _ _ => true) initial
      (sampleSteps ++ [.epollWait [.wakeup], .handleEvent, .doPendingFunctors, .swap,
        .callFunctor])).any
      (fun loop => loop.started == [(⟨0, 0⟩, 1), (⟨1, 0⟩, 1), (⟨2, 1⟩, 2)]) = true := by
    decide +kernel
  obtain ⟨loop, run, final⟩ :=
    Machine.Run.ofFollowAny machine (fun _ performed => performed) followed
  exact ⟨loop, run, beq_iff_eq.mp final, (functors_called_in_order run).1⟩

end Order

section Wakeup

/-- The loop is woken for a functor, or the thread that pushed it is about to see to that. -/
def Attended (loop : EventLoop) (functor : Posted) : Prop :=
  0 < loop.wakeupCount ∨ (∃ thread, loop.waking thread = some functor) ∨ loop.posting = some functor

/-- From the swap to the end of the next poll, no functor may wait unattended. -/
def Phase.guarded : Phase → Bool
  | running _ | iterated | polling => true
  | _ => false

def Phase.isCalling : Phase → Bool
  | called | running _ => true
  | _ => false

structure Watchful (loop : EventLoop) : Prop where
  attended : loop.phase.guarded = true → ∀ functor ∈ loop.pending, loop.entered ≤ functor.ticket →
    Attended loop functor
  calling : loop.phase.isCalling = true → loop.callingPendingFunctors = true
  free : loop.phase = .iterated ∨ loop.phase = .polling → loop.isFree

theorem initial_watchful : Watchful initial := by
  constructor <;> simp [initial, Phase.guarded, Phase.isCalling]

/-- A step that pushes nothing and clears nothing. -/
theorem Watchful.congr (watchful : Watchful loop) (pending : after.pending = loop.pending)
    (entered : after.entered = loop.entered)
    (guarded : after.phase.guarded = true → loop.phase.guarded = true)
    (attended : ∀ functor ∈ loop.pending, Attended loop functor → Attended after functor)
    (calling : after.phase.isCalling = true → after.callingPendingFunctors = true)
    (free : after.phase = .iterated ∨ after.phase = .polling → after.isFree) : Watchful after := by
  refine ⟨?_, calling, free⟩
  intro inside functor member recent
  rw [pending] at member
  rw [entered] at recent
  exact attended functor member (watchful.attended (guarded inside) functor member recent)

theorem Attended.wakeup {functor : Posted} (count : after.wakeupCount = loop.wakeup.wakeupCount) :
    Attended after functor := by
  left
  rw [count, EventLoop.wakeup]
  exact Nat.lt_min.mpr ⟨Nat.succ_pos _, by decide⟩

/-- A push is attended by the thread that pushes. -/
theorem Watchful.push (watchful : Watchful loop)
    (pending : after.pending = loop.pending ++ [loop.posted])
    (entered : after.entered = loop.entered) (phase : after.phase = loop.phase)
    (attended : ∀ functor, Attended loop functor → Attended after functor)
    (new : Attended after loop.posted)
    (calling : after.callingPendingFunctors = loop.callingPendingFunctors)
    (free : after.phase = .iterated ∨ after.phase = .polling → after.isFree) : Watchful after := by
  refine ⟨?_, ?_, free⟩
  · intro inside functor member recent
    rw [pending] at member
    rw [entered] at recent
    rw [phase] at inside
    rcases List.mem_append.mp member with old | added
    · exact attended functor (watchful.attended inside functor old recent)
    · rw [List.mem_singleton.mp added]
      exact new
  · rw [phase, calling]
    exact watchful.calling

/-- While the thread is between two iterations it is in no user code. -/
theorem Watchful.not_user (watchful : Watchful loop) (user : loop.inUserCode) :
    ¬ (loop.phase = .iterated ∨ loop.phase = .polling) := by
  intro between
  have free := (watchful.free between).1
  rcases user with inside | outside
  · omega
  · rw [outside] at between
    rcases between with is | is <;> cases is

theorem Ordered.ticket_lt (ordered : Ordered loop) {functor : Posted}
    (member : functor ∈ loop.pending) :
    functor.ticket < loop.pushed.length := by
  have present : functor ∈ loop.pushed := by
    rw [ordered.conserved]
    exact List.mem_append_right _ member
  have ticket := List.mem_map_of_mem (f := Posted.ticket) present
  rw [ordered.tickets] at ticket
  exact List.mem_range.mp ticket

theorem testWakeup_watchful {functor : Posted} (watchful : Watchful loop)
    (posting : loop.posting = some functor) (silent : loop.callingPendingFunctors = false) :
    Watchful { loop with posting := none } := by
  have busy : ¬ loop.isFree := by
    rintro ⟨_, none⟩
    rw [posting] at none
    cases none
  have unguarded : loop.phase.guarded = false := by
    cases phase : loop.phase with
    | running functors =>
      have calling := watchful.calling (by rw [phase]; rfl)
      rw [silent] at calling
      cases calling
    | iterated => exact (busy (watchful.free (.inl phase))).elim
    | polling => exact (busy (watchful.free (.inr phase))).elim
    | outside | handling _ | called => rfl
  refine ⟨?_, watchful.calling, fun between => (busy (watchful.free between)).elim⟩
  intro guarded
  rw [unguarded] at guarded
  cases guarded

theorem perform_watchful (performed : perform loop step = .ok after) (ordered : Ordered loop)
    (watchful : Watchful loop) : Watchful after := by
  cases step with
  | loop =>
    obtain ⟨⟨_, free⟩, rfl⟩ := guarded_eq_ok.mp performed
    refine ⟨?_, fun calling => (by cases calling), fun _ => free⟩
    intro _ functor member recent
    exact (Nat.not_le_of_lt (ordered.ticket_lt member) recent).elim
  | poll =>
    obtain ⟨iterated, rfl⟩ := guarded_eq_ok.mp performed
    exact watchful.congr rfl rfl (fun _ => by rw [iterated]; rfl) (fun _ _ attended => attended)
      (fun calling => by cases calling) (fun _ => watchful.free (.inl iterated))
  | quit =>
    obtain ⟨_, rfl⟩ := guarded_eq_ok.mp performed
    exact watchful.congr rfl rfl (fun guarded => by cases guarded) (fun _ _ attended => attended)
      (fun calling => by cases calling) (by simp)
  | epollWait active =>
    obtain ⟨_, rfl⟩ := guarded_eq_ok.mp performed
    exact watchful.congr rfl rfl (fun guarded => by cases guarded) (fun _ _ attended => attended)
      (fun calling => by cases calling) (by simp)
  | handleEvent =>
    simp only [perform] at performed
    split at performed
    · obtain ⟨_, rfl⟩ := guarded_eq_ok.mp performed
      exact ⟨fun guarded => (by cases guarded), fun calling => (by cases calling), by simp⟩
    · obtain ⟨_, rfl⟩ := guarded_eq_ok.mp performed
      exact ⟨fun guarded => (by cases guarded), fun calling => (by cases calling), by simp⟩
    · cases performed
  | doPendingFunctors =>
    obtain ⟨_, rfl⟩ := guarded_eq_ok.mp performed
    exact ⟨fun guarded => (by cases guarded), fun _ => rfl, by simp⟩
  | swap =>
    obtain ⟨called, rfl⟩ := guarded_eq_ok.mp performed
    exact ⟨by simp, fun _ => watchful.calling (by rw [called]; rfl), by simp⟩
  | callFunctor =>
    simp only [perform] at performed
    split at performed
    · rename_i running
      obtain ⟨_, rfl⟩ := guarded_eq_ok.mp performed
      exact watchful.congr rfl rfl (fun _ => by rw [running]; rfl) (fun _ _ attended => attended)
        (fun _ => watchful.calling (by rw [running]; rfl)) (by simp)
    · cases performed
  | endFunctors =>
    obtain ⟨⟨running, free⟩, rfl⟩ := guarded_eq_ok.mp performed
    exact watchful.congr rfl rfl (fun _ => by rw [running]; rfl) (fun _ _ attended => attended)
      (fun calling => by cases calling) (fun _ => free)
  | queueInLoop =>
    obtain ⟨⟨user, idle⟩, rfl⟩ := guarded_eq_ok.mp performed
    refine watchful.push rfl rfl rfl ?_ (.inr (.inr rfl)) rfl
      (fun between => (watchful.not_user user between).elim)
    rintro functor (awake | waking | posting)
    · exact .inl awake
    · exact .inr (.inl waking)
    · rw [idle] at posting
      cases posting
  | testWakeup =>
    simp only [perform] at performed
    split at performed
    · rename_i functor posting
      split at performed
      · cases performed
        refine watchful.congr rfl rfl id (fun _ _ _ => Attended.wakeup rfl) watchful.calling ?_
        intro between
        obtain ⟨free, _⟩ := watchful.free between
        exact ⟨free, rfl⟩
      · rename_i silent
        cases performed
        exact testWakeup_watchful watchful posting (Bool.eq_false_iff.mpr silent)
    · cases performed
  | runInLoop =>
    obtain ⟨⟨user, _⟩, rfl⟩ := guarded_eq_ok.mp performed
    exact watchful.congr rfl rfl id (fun _ _ attended => attended) watchful.calling
      (fun between => (watchful.not_user user between).elim)
  | returnFromUser =>
    obtain ⟨⟨user, _⟩, rfl⟩ := guarded_eq_ok.mp performed
    exact watchful.congr rfl rfl id (fun _ _ attended => attended) watchful.calling
      (fun between => (watchful.not_user (.inl user) between).elim)
  | foreignQueueInLoop thread =>
    simp only [perform] at performed
    split at performed
    · rename_i idle
      cases performed
      refine watchful.push rfl rfl rfl ?_ (.inr (.inl ⟨thread, Function.update_self _ _ _⟩))
        rfl watchful.free
      rintro functor (awake | ⟨other, waking⟩ | posting)
      · exact .inl awake
      · refine .inr (.inl ⟨other, ?_⟩)
        have different : other ≠ thread := by
          intro same
          rw [same, idle] at waking
          cases waking
        exact (Function.update_of_ne different _ _).trans waking
      · exact .inr (.inr posting)
    · cases performed
  | foreignWakeup thread =>
    simp only [perform] at performed
    split at performed
    · cases performed
      exact watchful.congr rfl rfl id (fun _ _ _ => Attended.wakeup rfl)
        watchful.calling watchful.free
    · cases performed

/-- Whenever the loop's thread is in `poll`, every functor pushed since `loop()` was entered has
been called, or the loop will be woken for it. -/
theorem no_lost_wakeup {steps : List Step} (run : machine.Run initial steps loop)
    (polling : loop.phase = .polling) (functor : Posted) (pushed : functor ∈ loop.pushed)
    (recent : loop.entered ≤ functor.ticket) :
    functor ∈ loop.started.map Prod.fst ∨ 0 < loop.wakeupCount ∨
      ∃ thread, loop.waking thread = some functor := by
  have ⟨ordered, watchful⟩ : Ordered loop ∧ Watchful loop := by
    refine run.invariant (fun _ current => Ordered current ∧ Watchful current)
      ⟨initial_ordered, initial_watchful⟩ ?_
    intro _ current step after kept performed
    exact ⟨perform_ordered performed kept.1, perform_watchful performed kept.1 kept.2⟩
  have whole : loop.pushed = loop.started.map Prod.fst ++ loop.pending := by
    simpa [polling, Phase.functors] using ordered.conserved
  rw [whole] at pushed
  rcases List.mem_append.mp pushed with called | waiting
  · exact .inl called
  · rcases watchful.attended (by rw [polling]; rfl) functor waiting recent with
      awake | waking | posting
    · exact .inr (.inl awake)
    · exact .inr (.inr waking)
    · rw [(watchful.free (.inr polling)).2] at posting
      cases posting

theorem no_lost_wakeup_sample :
    ∃ loop, machine.Run initial sampleSteps loop ∧ loop.phase = .polling ∧ ⟨2, 1⟩ ∈ loop.pending ∧
      (⟨2, 1⟩ ∈ loop.started.map Prod.fst ∨ 0 < loop.wakeupCount ∨
        ∃ thread, loop.waking thread = some ⟨2, 1⟩) := by
  have followed : (Machine.follow perform (fun _ _ => true) initial sampleSteps).any (fun loop =>
      loop.phase == .polling && loop.pending == [⟨2, 1⟩] && loop.pushed ==
        [⟨0, 0⟩, ⟨1, 0⟩, ⟨2, 1⟩] &&
        loop.entered == 0) = true := by
    decide +kernel
  obtain ⟨loop, run, final⟩ :=
    Machine.Run.ofFollowAny machine (fun _ performed => performed) followed
  simp only [Bool.and_eq_true, beq_iff_eq] at final
  obtain ⟨⟨⟨polling, pending⟩, pushed⟩, entered⟩ := final
  exact ⟨loop, run, polling, by rw [pending]; exact List.mem_singleton_self _,
    no_lost_wakeup run polling ⟨2, 1⟩ (by rw [pushed]; decide)
      (by rw [entered]; exact Nat.zero_le _)⟩

end Wakeup

end FakeMuduo.Net.EventLoop
