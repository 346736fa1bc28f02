import FakeMuduo.Base.Checked
import FakeMuduo.Base.Machine

/-! A thread that runs an event loop, and its owner, who starts it once and destroys it. The
thread, the owner and those who hold the loop's pointer interleave at every access to
`loop_` and `quit_`. -/

namespace FakeMuduo.Net

open FakeMuduo.Base

namespace EventLoopThread

/-- Where the owner is: in `startLoop` while `starting`, in the destructor from `exiting` on.
`tested` has found `loop_` set, `calling` has loaded it for the call of `quit()`, and
`joining` has made that call. -/
inductive Owner where
  | constructed | starting | started | exiting | tested | calling | joining | finished
  deriving DecidableEq, Repr

/-- Where `threadFunc` is: `entered` has set `looping_`, `left` has returned from `loop()`, and
after `cleared` the loop is destroyed. -/
inductive Body where
  | absent | spawned | published | entered | looping | left | cleared | ended
  deriving DecidableEq, Repr

end EventLoopThread

/-- `pendingQuits` counts the calls of `quit()` that holders of the pointer will still make. -/
structure EventLoopThread where
  loop : Bool
  exiting : Bool
  looping : Bool
  quit : Bool
  owner : EventLoopThread.Owner
  body : EventLoopThread.Body
  joined : Bool
  pendingQuits : Nat
  deriving DecidableEq, Repr

namespace EventLoopThread

def create (pendingQuits : Nat) : EventLoopThread where
  loop := false
  exiting := false
  looping := false
  quit := false
  owner := .constructed
  body := .absent
  joined := false
  pendingQuits := pendingQuits

/-- The owner may call `startLoop` or the destructor. -/
def Owner.isIdle (owner : Owner) : Bool := owner == .constructed || owner == .started

/-- `startLoop` has returned the pointer. -/
def Owner.gaveLoop (owner : Owner) : Bool := owner != .constructed && owner != .starting

/-- The thread's `EventLoop` exists. -/
def Body.hasLoop (body : Body) : Bool := body != .absent && body != .spawned && body != .ended

/-- `holderQuit` is a call of `quit()` by a holder of the pointer; `resetQuit` is the
assignment at the start of `loop()`, and `testLoop` the destructor's test of `loop_`. -/
inductive Step where
  | startLoop
  | awaitLoop
  | publish
  | enterLoop
  | resetQuit
  | iterate
  | leaveLoop
  | clearLoop
  | endThread
  | holderQuit
  | destroy
  | testLoop
  | loadLoop
  | quit
  | join
  deriving DecidableEq, Repr

variable (thread : EventLoopThread)

def perform : Step → Checked EventLoopThread
  | .startLoop =>
    if thread.owner.isIdle then do
      check "!thread_" (thread.body = .absent)
      return { thread with owner := .starting, body := .spawned }
    else .error .disabled
  | .awaitLoop =>
    if thread.owner = .starting ∧ thread.loop then .ok { thread with owner := .started }
    else .error .disabled
  | .publish =>
    if thread.body = .spawned then .ok { thread with body := .published, loop := true }
    else .error .disabled
  | .enterLoop =>
    if thread.body = .published then do
      check "!looping_" (thread.looping = false)
      return { thread with body := .entered, looping := true }
    else .error .disabled
  | .resetQuit =>
    if thread.body = .entered then .ok { thread with body := .looping, quit := false }
    else .error .disabled
  | .iterate =>
    if thread.body = .looping ∧ thread.quit = false then .ok thread else .error .disabled
  | .leaveLoop =>
    if thread.body = .looping ∧ thread.quit then .ok { thread with body := .left, looping := false }
    else .error .disabled
  | .clearLoop =>
    if thread.body = .left then .ok { thread with body := .cleared, loop := false }
    else .error .disabled
  | .endThread =>
    if thread.body = .cleared then .ok { thread with body := .ended } else .error .disabled
  | .holderQuit =>
    if thread.owner.gaveLoop ∧ 0 < thread.pendingQuits then
      if thread.body.hasLoop then
        .ok { thread with quit := true, pendingQuits := thread.pendingQuits - 1 }
      else .error .danglingReference
    else .error .disabled
  | .destroy =>
    if thread.owner.isIdle then .ok { thread with owner := .exiting, exiting := true }
    else .error .disabled
  | .testLoop =>
    if thread.owner = .exiting then
      .ok { thread with owner := if thread.loop then .tested else .finished }
    else .error .disabled
  | .loadLoop =>
    if thread.owner = .tested then
      if thread.loop then .ok { thread with owner := .calling } else .error .danglingReference
    else .error .disabled
  | .quit =>
    if thread.owner = .calling then
      if thread.body.hasLoop then .ok { thread with owner := .joining, quit := true }
      else .error .danglingReference
    else .error .disabled
  | .join =>
    if thread.owner = .joining ∧ thread.body = .ended then
      .ok { thread with owner := .finished, joined := true }
    else .error .disabled

def machine : Machine EventLoopThread Step := .ofFunction perform

/-- The destructor waits for a thread that nobody will stop. -/
def Stuck : Prop := thread.owner = .joining ∧ thread.quit = false ∧ thread.pendingQuits = 0

/-- The destructor is through and the thread it started was never joined. -/
def Abandoned : Prop := thread.owner = .finished ∧ thread.body ≠ .absent ∧ thread.joined = false

instance : Decidable thread.Stuck := inferInstanceAs (Decidable (_ ∧ _ ∧ _))

instance : Decidable thread.Abandoned := inferInstanceAs (Decidable (_ ∧ _ ∧ _))

structure ShutsDown : Prop where
  unstuck : ¬ thread.Stuck
  joins : ¬ thread.Abandoned

/-- `loop()` does not take back the destructor's `quit()` unless another one is to come, and the
destructor does not look at `loop_` after the thread has cleared it. -/
def Careful : Step → Prop
  | .resetQuit => thread.owner = .joining → 0 < thread.pendingQuits
  | .testLoop => thread.body ≠ .cleared ∧ thread.body ≠ .ended
  | _ => True

/-- What holds as long as everybody is careful. -/
structure Sound : Prop where
  pointer : thread.loop = true ↔
    thread.body = .published ∨ thread.body = .entered ∨ thread.body = .looping ∨ thread.body = .left
  spawned : thread.body = .spawned → thread.owner = .starting
  absent : thread.body = .absent → thread.owner = .constructed ∨ thread.owner = .exiting ∨
    thread.owner = .finished
  stops : thread.owner = .joining → thread.quit = true ∨ 0 < thread.pendingQuits
  unjoined : thread.owner ≠ .finished → thread.joined = false
  finished : thread.owner = .finished → thread.body = .absent ∨ thread.joined = true

theorem create_sound (pendingQuits : Nat) : Sound (create pendingQuits) := by
  refine ⟨?_, ?_, ?_, ?_, ?_, ?_⟩ <;> simp [create]

variable {thread}

theorem Sound.shutsDown (sound : Sound thread) : ShutsDown thread := by
  refine ⟨?_, ?_⟩
  · rintro ⟨joining, running, none⟩
    rcases sound.stops joining with stopped | coming
    · rw [running] at stopped
      cases stopped
    · rw [none] at coming
      exact Nat.lt_irrefl 0 coming
  · rintro ⟨finished, started, alone⟩
    rcases sound.finished finished with absent | joined
    · exact started absent
    · rw [alone] at joined
      cases joined

/-- `loop_` is set only while the loop runs or may run. -/
theorem Sound.present (sound : Sound thread) (set : thread.loop = true) :
    thread.body ≠ .absent ∧ thread.body ≠ .spawned := by
  rcases sound.pointer.mp set with body | body | body | body
  all_goals
    rw [body]
    exact ⟨Body.noConfusion, Body.noConfusion⟩

/-- The thread goes on in `threadFunc`. -/
theorem Sound.setBody (sound : Sound thread) {body : Body} {loop looping : Bool}
    (pointer : loop = true ↔ body = .published ∨ body = .entered ∨ body = .looping ∨ body = .left)
    (running : thread.body ≠ .absent) (unspawned : body ≠ .spawned) (present : body ≠ .absent) :
    Sound { thread with body := body, loop := loop, looping := looping } := by
  refine ⟨pointer, ?_, ?_, sound.stops, sound.unjoined, ?_⟩
  · intro spawned
    exact absurd spawned unspawned
  · intro absent
    exact absurd absent present
  · intro finished
    rcases sound.finished finished with absent | joined
    · exact absurd absent running
    · exact .inr joined

/-- The owner goes on, and has not joined the thread. -/
theorem Sound.setOwner (sound : Sound thread) {owner : Owner} {exiting quit : Bool}
    (alone : thread.joined = false) (spawned : thread.body ≠ .spawned)
    (absent : thread.body = .absent → owner = .constructed ∨ owner = .exiting ∨ owner = .finished)
    (stops : owner = .joining → quit = true ∨ 0 < thread.pendingQuits)
    (finished : owner = .finished → thread.body = .absent) :
    Sound { thread with owner := owner, exiting := exiting, quit := quit } := by
  refine ⟨sound.pointer, ?_, absent, stops, fun _ => alone, ?_⟩
  · intro early
    exact absurd early spawned
  · intro ended
    exact .inl (finished ended)

/-- Between `startLoop` and the end of the destructor the thread is not joined
and not just spawned. -/
theorem Sound.alone (sound : Sound thread) {owner : Owner} (here : thread.owner = owner)
    (unfinished : owner ≠ .finished) (unstarted : owner ≠ .starting) :
    thread.joined = false ∧ thread.body ≠ .spawned := by
  refine ⟨sound.unjoined (here ▸ unfinished), ?_⟩
  intro spawned
  exact unstarted (here ▸ sound.spawned spawned)

theorem Sound.step {next : EventLoopThread} {step : Step} (sound : Sound thread)
    (performed : thread.perform step = .ok next) (careful : Careful thread step) : Sound next := by
  cases step with
  | startLoop =>
    simp only [perform] at performed
    split at performed
    · rename_i idle
      obtain ⟨fresh, returned⟩ := check_bind_eq_ok.mp performed
      cases returned
      have unfinished : thread.owner ≠ .finished := by
        intro finished
        rw [finished] at idle
        cases idle
      refine ⟨?_, fun _ => rfl, Body.noConfusion, Owner.noConfusion, fun _ =>
        sound.unjoined unfinished, Owner.noConfusion⟩
      rw [sound.pointer, fresh]
      simp
    · cases performed
  | awaitLoop =>
    obtain ⟨⟨starting, set⟩, rfl⟩ := guarded_eq_ok.mp performed
    obtain ⟨running, published⟩ := sound.present set
    have alone : thread.joined = false := sound.unjoined (by rw [starting]; exact Owner.noConfusion)
    exact sound.setOwner alone published (fun absent => absurd absent running) Owner.noConfusion
      Owner.noConfusion
  | publish =>
    obtain ⟨created, rfl⟩ := guarded_eq_ok.mp performed
    exact sound.setBody (by decide) (by rw [created]; decide) (by decide) (by decide)
  | enterLoop =>
    simp only [perform] at performed
    split at performed
    · rename_i published
      obtain ⟨_, returned⟩ := check_bind_eq_ok.mp performed
      cases returned
      refine sound.setBody ?_ (by rw [published]; decide) (by decide) (by decide)
      rw [sound.pointer, published]
      decide
    · cases performed
  | resetQuit =>
    obtain ⟨entered, rfl⟩ := guarded_eq_ok.mp performed
    have moved : Sound { thread with body := .looping } := by
      refine sound.setBody ?_ (by rw [entered]; decide) (by decide) (by decide)
      rw [sound.pointer, entered]
      decide
    exact ⟨moved.pointer, moved.spawned, moved.absent, fun joining =>
      .inr (careful joining), moved.unjoined, moved.finished⟩
  | iterate =>
    obtain ⟨_, rfl⟩ := guarded_eq_ok.mp performed
    exact sound
  | leaveLoop =>
    obtain ⟨looping, rfl⟩ := guarded_eq_ok.mp performed
    refine sound.setBody ?_ (by rw [looping.1]; decide) (by decide) (by decide)
    rw [sound.pointer, looping.1]
    decide
  | clearLoop =>
    obtain ⟨left, rfl⟩ := guarded_eq_ok.mp performed
    exact sound.setBody (by decide) (by rw [left]; decide) (by decide) (by decide)
  | endThread =>
    obtain ⟨cleared, rfl⟩ := guarded_eq_ok.mp performed
    refine sound.setBody ?_ (by rw [cleared]; decide) (by decide) (by decide)
    rw [sound.pointer, cleared]
    decide
  | holderQuit =>
    simp only [perform] at performed
    split at performed
    · obtain ⟨_, rfl⟩ := guarded_eq_ok.mp performed
      exact ⟨sound.pointer, sound.spawned, sound.absent, fun _ =>
        .inl rfl, sound.unjoined, sound.finished⟩
    · cases performed
  | destroy =>
    obtain ⟨idle, rfl⟩ := guarded_eq_ok.mp performed
    have constructed : thread.owner = .constructed ∨ thread.owner = .started := by
      simpa [Owner.isIdle] using idle
    have before : thread.joined = false ∧ thread.body ≠ .spawned := by
      rcases constructed with owner | owner
      · exact sound.alone owner Owner.noConfusion Owner.noConfusion
      · exact sound.alone owner Owner.noConfusion Owner.noConfusion
    exact sound.setOwner before.1 before.2 (fun _ => .inr (.inl rfl)) Owner.noConfusion
      Owner.noConfusion
  | testLoop =>
    obtain ⟨exiting, rfl⟩ := guarded_eq_ok.mp performed
    obtain ⟨alone, published⟩ := sound.alone exiting Owner.noConfusion Owner.noConfusion
    by_cases set : thread.loop = true
    · rw [if_pos set]
      obtain ⟨running, _⟩ := sound.present set
      exact sound.setOwner alone published (fun absent => absurd absent running) Owner.noConfusion
        Owner.noConfusion
    · rw [if_neg set]
      have unset : thread.body = .absent := by
        obtain ⟨uncleared, running⟩ := careful
        have stopped := set ∘ sound.pointer.mpr
        cases body : thread.body <;> simp_all
      exact sound.setOwner alone published (fun _ => .inr (.inr rfl)) Owner.noConfusion
        (fun _ => unset)
  | loadLoop =>
    simp only [perform] at performed
    split at performed
    · rename_i tested
      obtain ⟨set, rfl⟩ := guarded_eq_ok.mp performed
      obtain ⟨alone, published⟩ := sound.alone tested Owner.noConfusion Owner.noConfusion
      obtain ⟨running, _⟩ := sound.present set
      exact sound.setOwner alone published (fun absent => absurd absent running) Owner.noConfusion
        Owner.noConfusion
    · cases performed
  | quit =>
    simp only [perform] at performed
    split at performed
    · rename_i calling
      obtain ⟨alive, rfl⟩ := guarded_eq_ok.mp performed
      obtain ⟨alone, published⟩ := sound.alone calling Owner.noConfusion Owner.noConfusion
      refine sound.setOwner alone published ?_ (fun _ => .inl rfl) Owner.noConfusion
      intro absent
      rw [absent] at alive
      cases alive
    · cases performed
  | join =>
    obtain ⟨⟨joining, ended⟩, rfl⟩ := guarded_eq_ok.mp performed
    refine ⟨sound.pointer, ?_, ?_, Owner.noConfusion, fun unfinished =>
      absurd rfl unfinished, fun _ => .inr rfl⟩
    · intro spawned
      rw [ended] at spawned
      cases spawned
    · intro absent
      rw [ended] at absent
      cases absent

/-- A step that is not careful leaves the destructor stuck or the thread abandoned. -/
theorem Sound.careful_of_shutsDown {next : EventLoopThread} {step : Step} (sound : Sound thread)
    (performed : thread.perform step = .ok next) (shutsDown : ShutsDown next) :
    Careful thread step := by
  cases step with
  | resetQuit =>
    obtain ⟨_, rfl⟩ := guarded_eq_ok.mp performed
    intro joining
    apply Nat.pos_of_ne_zero
    intro none
    exact shutsDown.unstuck ⟨joining, rfl, none⟩
  | testLoop =>
    obtain ⟨exiting, rfl⟩ := guarded_eq_ok.mp performed
    have alone : thread.joined = false := sound.unjoined (by simp [exiting])
    have unset : thread.body = .cleared ∨ thread.body = .ended → thread.loop = false := by
      intro gone
      rw [← Bool.not_eq_true, sound.pointer]
      rcases gone with body | body <;> simp [body]
    refine ⟨?_, ?_⟩
    · intro cleared
      exact shutsDown.joins ⟨by simp [unset (.inl cleared)], by simp [cleared], alone⟩
    · intro ended
      exact shutsDown.joins ⟨by simp [unset (.inr ended)], by simp [ended], alone⟩
  | _ => trivial

/-- A thread can be shut down throughout exactly the runs of careful steps. -/
theorem shutsDown_iff_careful (pendingQuits : Nat) {steps : List Step} {finish : EventLoopThread} :
    machine.Throughout ShutsDown (create pendingQuits) steps finish ↔
      (machine.restrict Careful).Run (create pendingQuits) steps finish :=
  Machine.throughout_iff_restrict (create_sound pendingQuits) (fun _ sound => sound.shutsDown)
    (fun sound performed => ⟨sound.careful_of_shutsDown performed, sound.step performed⟩)

/-- The destructor calls `quit()` before the thread has entered `loop()`. -/
def earlyQuitSteps : List Step :=
  [.startLoop, .publish, .awaitLoop, .destroy, .testLoop, .loadLoop, .quit, .enterLoop, .resetQuit]

/-- A holder's `quit()` ends the loop before the destructor runs. -/
def holderQuitSteps : List Step :=
  [.startLoop, .publish, .awaitLoop, .enterLoop, .resetQuit, .holderQuit, .leaveLoop,
    .clearLoop, .destroy, .testLoop]

/-- The destructor runs before the thread has entered `loop()`, which then forgets the `quit()`;
or a holder's `quit()` ends the loop, and the destructor finds nothing to join. -/
theorem not_always_shutsDown :
    (∃ steps thread, machine.Run (create 0) steps thread ∧ Stuck thread) ∧
      ∃ steps thread, machine.Run (create 1) steps thread ∧ Abandoned thread := by
  refine ⟨?_, ?_⟩
  · have followed : (Machine.follow perform (fun _ _ => true) (create 0) earlyQuitSteps).any
        (fun thread => decide (Stuck thread)) = true := by
      decide +kernel
    obtain ⟨thread, run, final⟩ :=
      Machine.Run.ofFollowAny machine (fun _ performed => performed) followed
    exact ⟨_, thread, run, of_decide_eq_true final⟩
  · have followed : (Machine.follow perform (fun _ _ => true) (create 1) holderQuitSteps).any
        (fun thread => decide (Abandoned thread)) = true := by
      decide +kernel
    obtain ⟨thread, run, final⟩ :=
      Machine.Run.ofFollowAny machine (fun _ performed => performed) followed
    exact ⟨_, thread, run, of_decide_eq_true final⟩

end EventLoopThread

end FakeMuduo.Net
