import FakeMuduo.Util.AsyncLogger
import FakeMuduo.Util.AsyncLoggerBuffers
import FakeMuduo.Util.RingQueue

/-! What holds between the threads that add lines and the one that writes them. -/

namespace FakeMuduo.Util.AsyncLogger

open FakeMuduo.Base LogProducers

variable {Line : Type} {kSize : Nat} {logger : AsyncLogger Line}
  {spec after : LogProducers Line} {thread : Nat} {uses : Nat → Nat}
  {dropped current allocated : Nat} {spare : List Nat}

/-- The buffers in use are alive, and none of them is spare: in the backup ring, on the way
to it or dead. -/
structure Owned (uses : Nat → Nat) (dropped current allocated : Nat) (spare : List Nat) : Prop where
  bounded : ∀ {buffer}, dropped ≤ buffer → buffer ≤ current → uses buffer < allocated
  apart : ∀ {buffer}, dropped ≤ buffer → buffer ≤ current → uses buffer ∉ spare
  distinct : spare.Nodup
  known : ∀ {buffer}, buffer ∈ spare → buffer < allocated

theorem initial_owned : Owned id 0 0 1 [] where
  bounded := fun _ oldest => Nat.lt_succ_of_le oldest
  apart := fun _ _ => List.not_mem_nil
  distinct := List.nodup_nil
  known := fun member => absurd member List.not_mem_nil

theorem Owned.perm (owned : Owned uses dropped current allocated spare) {other : List Nat}
    (same : other.Perm spare) :
    Owned uses dropped current allocated other where
  bounded := owned.bounded
  apart := fun live known member => owned.apart live known (same.mem_iff.mp member)
  distinct := same.nodup_iff.mpr owned.distinct
  known := fun member => owned.known (same.mem_iff.mp member)

/-- The next write buffer is a new one. -/
theorem Owned.renew (owned : Owned uses dropped current allocated spare) :
    Owned (Function.update uses (current + 1) allocated) dropped (current + 1)
      (allocated + 1) spare := by
  refine ⟨?_, ?_, owned.distinct, fun member => Nat.lt_succ_of_lt (owned.known member)⟩
  · intro buffer live latest
    by_cases newest : buffer = current + 1
    · subst newest
      rw [Function.update_self]
      exact Nat.lt_succ_self _
    · rw [Function.update_of_ne newest]
      exact Nat.lt_succ_of_lt (owned.bounded live (by omega))
  · intro buffer live latest
    by_cases newest : buffer = current + 1
    · subst newest
      rw [Function.update_self]
      exact fun member => Nat.lt_irrefl _ (owned.known member)
    · rw [Function.update_of_ne newest]
      exact owned.apart live (by omega)

/-- The next write buffer is one that was spare. -/
theorem Owned.reuse {next : Nat} (owned : Owned uses dropped current allocated (next :: spare)) :
    Owned (Function.update uses (current + 1) next) dropped (current + 1) allocated spare := by
  obtain ⟨unused, distinct⟩ := List.nodup_cons.mp owned.distinct
  refine ⟨?_, ?_, distinct, fun member => owned.known (List.mem_cons_of_mem _ member)⟩
  · intro buffer live latest
    by_cases newest : buffer = current + 1
    · subst newest
      rw [Function.update_self]
      exact owned.known List.mem_cons_self
    · rw [Function.update_of_ne newest]
      exact owned.bounded live (by omega)
  · intro buffer live latest
    by_cases newest : buffer = current + 1
    · subst newest
      rw [Function.update_self]
      exact unused
    · rw [Function.update_of_ne newest]
      exact fun member => owned.apart live (by omega) (List.mem_cons_of_mem _ member)

/-- The oldest buffer in use becomes spare. -/
theorem Owned.retire (owned : Owned uses dropped current allocated spare)
    (known : dropped ≤ current)
    (injective : ∀ {buffer}, dropped < buffer → buffer ≤ current → uses dropped ≠ uses buffer) :
    Owned uses (dropped + 1) current allocated (uses dropped :: spare) := by
  have unused := owned.apart (Nat.le_refl _) known
  refine ⟨fun live => owned.bounded (Nat.le_of_succ_le live), ?_,
    List.nodup_cons.mpr ⟨unused, owned.distinct⟩, ?_⟩
  · intro buffer live latest member
    rcases List.mem_cons.mp member with same | elsewhere
    · exact injective live latest same.symm
    · exact owned.apart (Nat.le_of_succ_le live) latest elsewhere
  · intro buffer member
    rcases List.mem_cons.mp member with rfl | elsewhere
    · exact owned.bounded (Nat.le_refl _) known
    · exact owned.known elsewhere

/-- The calls of `add` that are under way and those that returned. -/
structure Booked (busy : List (Nat × Nat)) (returned : List Nat) (preceding : List (List Nat))
    (queue : LogProducers Line) : Prop where
  inside : ∀ {thread}, queue.threads thread ≠ .idle → ∃ call, (thread, call) ∈ busy
  pending : ∀ {thread entry}, (queue.threads thread).pending = some entry →
    (thread, entry.call) ∈ busy
  distinct : (busy.map Prod.snd).Nodup
  known : ∀ {thread call}, (thread, call) ∈ busy → call < queue.pushed.length
  past : ∀ {call}, call ∈ returned → call < queue.pushed.length ∧ ∀ thread, (thread, call) ∉ busy
  all : preceding.length = queue.pushed.length
  preceding : ∀ {call other}, other ∈ preceding.getD call [] → other ∈ returned

variable {busy : List (Nat × Nat)} {returned : List Nat} {preceding : List (List Nat)}
  {queue : LogProducers Line}

theorem initial_booked : Booked [] [] [] (LogProducers.initial : LogProducers Line) where
  inside := fun busy => absurd rfl busy
  pending := fun waiting => by cases waiting
  distinct := List.nodup_nil
  known := fun member => absurd member List.not_mem_nil
  past := fun member => absurd member List.not_mem_nil
  all := rfl
  preceding := fun member => by simp at member

theorem Booked.unpending (booked : Booked busy returned preceding queue) {call : Nat}
    (member : call ∈ returned) :
    call < queue.pushed.length ∧ queue.Unpending call := by
  obtain ⟨known, out⟩ := booked.past member
  refine ⟨known, ?_⟩
  rintro thread entry waiting rfl
  exact out thread (booked.pending waiting)

/-- All that a new call may come after has returned. -/
theorem Booked.preceding_append (booked : Booked busy returned preceding queue) {call other : Nat}
    (member : other ∈ (preceding ++ [returned]).getD call []) : other ∈ returned := by
  by_cases old : call < preceding.length
  · rw [List.getD_append _ _ _ _ old] at member
    exact booked.preceding member
  · rw [List.getD_append_right _ _ _ _ (Nat.not_lt.mp old)] at member
    cases difference : call - preceding.length with
    | zero => simpa [difference] using member
    | succ more => simp [difference] at member

/-- A call begins. -/
theorem Booked.add (booked : Booked busy returned preceding queue)
    (idle : queue.threads thread = .idle) (line : Line) :
    Booked (busy ++ [(thread, queue.pushed.length)]) returned (preceding ++ [returned])
      { queue.move thread (.called ⟨queue.pushed.length, line⟩) with
        pushed := queue.pushed ++ [line] } := by
  have longer : (queue.pushed ++ [line]).length = queue.pushed.length + 1 := List.length_append
  refine ⟨?_, ?_, ?_, ?_, ?_, ?_, ?_⟩
  · intro other active
    by_cases same : other = thread
    · subst same
      exact ⟨_, List.mem_append_right _ List.mem_cons_self⟩
    · change Function.update _ _ _ _ ≠ _ at active
      rw [Function.update_of_ne same] at active
      obtain ⟨call, member⟩ := booked.inside active
      exact ⟨call, List.mem_append_left _ member⟩
  · intro other entry waiting
    by_cases same : other = thread
    · subst same
      rw [threads_move, Function.update_self] at waiting
      cases waiting
      exact List.mem_append_right _ List.mem_cons_self
    · rw [threads_move, Function.update_of_ne same] at waiting
      exact List.mem_append_left _ (booked.pending waiting)
  · rw [List.map_append]
    refine List.nodup_append.mpr ⟨booked.distinct, List.nodup_singleton _, ?_⟩
    intro call member last latest
    obtain ⟨⟨other, call'⟩, within, rfl⟩ := List.mem_map.mp member
    rw [List.map_singleton, List.mem_singleton] at latest
    exact Nat.ne_of_lt (latest ▸ booked.known within)
  · intro other call member
    rw [longer]
    rcases List.mem_append.mp member with before | last
    · exact Nat.lt_succ_of_lt (booked.known before)
    · cases List.mem_singleton.mp last
      exact Nat.lt_succ_self _
  · intro call member
    obtain ⟨known, out⟩ := booked.past member
    rw [longer]
    refine ⟨Nat.lt_succ_of_lt known, ?_⟩
    intro other within
    rcases List.mem_append.mp within with before | last
    · exact out other before
    · cases List.mem_singleton.mp last
      exact Nat.lt_irrefl _ known
  · rw [longer, List.length_append, booked.all]
    rfl
  · exact booked.preceding_append

/-- No thread gets a line to push, and none that was idle is busy. -/
structure Continues (queue after : LogProducers Line) : Prop where
  pending : ∀ other, (after.threads other).pending = none ∨
    (after.threads other).pending = (queue.threads other).pending
  idle : ∀ other, queue.threads other = .idle → after.threads other = .idle

theorem continues_of_move {phase : LogProducers.Phase Line} (active : queue.threads thread ≠ .idle)
    (kept : phase.pending = none ∨ phase.pending = (queue.threads thread).pending)
    (threads : after.threads = Function.update queue.threads thread phase) :
    Continues queue after := by
  constructor
  · intro other
    by_cases same : other = thread
    · subst same
      rw [threads, Function.update_self]
      exact kept
    · rw [threads, Function.update_of_ne same]
      exact .inr rfl
  · intro other idle
    have different : other ≠ thread := by
      rintro rfl
      exact active idle
    rw [threads, Function.update_of_ne different, idle]

theorem continues_of_effect (effect : Effect kSize queue thread after)
    (continued : after.pushed = queue.pushed) :
    Continues queue after := by
  cases effect with
  | push => simp at continued
  | spin => exact ⟨fun _ => .inr rfl, fun _ idle => idle⟩
  | take phase | overshoot phase | retry phase =>
    exact continues_of_move (by rw [phase]; nofun) (.inr (by rw [phase]; rfl)) rfl
  | clear phase | publish phase | lock phase | enqueue phase | restart phase | unlock phase =>
    exact continues_of_move (by rw [phase]; nofun) (.inl rfl) rfl
  | @fill entry index progress holding =>
    have active : queue.threads thread ≠ .idle := by
      rw [holding]
      nofun
    cases progress with
    | indexed => exact continues_of_move active (.inr (by rw [holding]; rfl)) rfl
    | loaded buffer => exact continues_of_move active (.inl rfl) rfl
    | constructed buffer => exact continues_of_move active (.inl rfl) rfl
    | flagged buffer =>
      refine continues_of_move active (.inl ?_) rfl
      split <;> rfl

/-- A call goes on. -/
theorem Booked.step (booked : Booked busy returned preceding queue)
    (effect : Effect kSize queue thread after) (continued : after.pushed = queue.pushed) :
    Booked busy returned preceding after := by
  have continues := continues_of_effect effect continued
  refine ⟨?_, ?_, booked.distinct, continued ▸ booked.known, continued ▸ booked.past,
    continued ▸ booked.all, booked.preceding⟩
  · intro other active
    exact booked.inside fun idle => active (continues.idle other idle)
  · intro other entry waiting
    rcases continues.pending other with none | same
    · rw [none] at waiting
      cases waiting
    · rw [same] at waiting
      exact booked.pending waiting

/-- A call returns. -/
theorem Booked.settle (booked : Booked busy returned preceding queue)
    (idle : queue.threads thread = .idle) :
    Booked (busy.filter (·.1 ≠ thread)) (returned ++ (busy.filter (·.1 = thread)).map Prod.snd)
      preceding queue := by
  have others : ∀ {other call}, other ≠ thread → (other, call) ∈ busy →
      (other, call) ∈ busy.filter (·.1 ≠ thread) := by
    intro other call different member
    exact List.mem_filter.mpr ⟨member, decide_eq_true different⟩
  refine ⟨?_, ?_, ?_, ?_, ?_, booked.all, ?_⟩
  · intro other active
    obtain ⟨call, member⟩ := booked.inside active
    exact ⟨call, others (fun same => active (same ▸ idle)) member⟩
  · intro other entry waiting
    refine others ?_ (booked.pending waiting)
    rintro rfl
    rw [idle] at waiting
    cases waiting
  · exact booked.distinct.sublist (List.filter_sublist.map _)
  · intro other call member
    exact booked.known (List.mem_filter.mp member).1
  · intro call member
    rcases List.mem_append.mp member with before | now
    · obtain ⟨known, out⟩ := booked.past before
      exact ⟨known, fun other within => out other (List.mem_filter.mp within).1⟩
    · obtain ⟨⟨own, _⟩, within, rfl⟩ := List.mem_map.mp now
      obtain ⟨within, same⟩ := List.mem_filter.mp within
      refine ⟨booked.known within, ?_⟩
      intro other elsewhere
      obtain ⟨elsewhere, different⟩ := List.mem_filter.mp elsewhere
      have equal := List.inj_on_of_nodup_map booked.distinct within elsewhere rfl
      cases equal
      exact of_decide_eq_true different (of_decide_eq_true same)
  · intro call other member
    exact List.mem_append_left _ (booked.preceding member)

end FakeMuduo.Util.AsyncLogger
