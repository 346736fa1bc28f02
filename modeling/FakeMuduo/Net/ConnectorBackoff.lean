import FakeMuduo.Net.ConnectorRun

/-! How long a connector waits before it tries again. -/

namespace FakeMuduo.Net

open FakeMuduo.Base FakeMuduo.Util

namespace Connector

namespace World

variable (world : World)

/-- The connection attempt of a step fails in a way after which the connector tries again. -/
def fails : Step → Bool
  | .connect savedErrno => isRetryable savedErrno
  | .handleEvent probe =>
    match world.phase with
    | .handling (some revents) _ =>
      (revents.pollerr || revents.pollnval) ||
        (revents.pollout && (probe.soError != 0 || probe.selfConnect))
    | _ => false
  | _ => false

/-- The step belongs to a `stop()` call: it clears `connect_` or runs `stopInLoop`. -/
def stops : Step → Bool
  | .setConnect thread => match world.callOf thread with
    | .flagged (.stop _) => true
    | _ => false
  | .callFunctor => match world.phase with
    | .calling (.stopInLoop _ :: _) => true
    | _ => false
  | _ => false

/-- When the attempts are due that a step scheduled. -/
def scheduledUntil (after : World) : List Nat := after.timers.drop world.timers.length

/-- An attempt that is made or in progress is one that the client asked for. -/
def Wanted : Prop :=
  world.connector.connect = true ∨ world.call ≠ .connecting ∧ world.connector.state ≠ .kConnecting

end World

/-- A connector's world, with the times at which its attempts failed and those for
which new ones were scheduled. -/
structure History where
  world : World
  failures : List Nat
  schedule : List Nat

def History.perform (history : History) (step : Step) : Checked History := do
  let after ← history.world.perform step
  return ⟨after, if history.world.fails step then history.failures ++ [history.world.now]
    else history.failures, history.schedule ++ history.world.scheduledUntil after⟩

/-- The attempts of a connector, without a `stop()` and until the next `restart()`. -/
def attempting : Machine History Step :=
  (Machine.ofFunction History.perform).restrict (fun history step =>
    history.world.stops step = false ∧ step ≠ .restart)

/-- A connector that was just constructed, or that has just set its fields in `restart()`. -/
inductive Fresh : World → Prop where
  | constructed : Fresh .initial
  | restarted {steps : List Step} {world : World} (run : machine.Run .initial steps world)
      (restarting : world.call = .restarting) : Fresh world.restart

/-- The delay of the `n`-th retry, as a number of milliseconds. -/
def backoff (n : Nat) : Nat := min (kInitRetryDelayMs * Nat.pow 2 n) kMaxRetryDelayMs

theorem backoff_succ (n : Nat) : backoff (n + 1) = min (backoff n * 2) kMaxRetryDelayMs := by
  have doubled : Nat.pow 2 (n + 1) = Nat.pow 2 n * 2 := rfl
  rw [backoff, backoff, doubled, kInitRetryDelayMs, kMaxRetryDelayMs]
  omega

theorem backoff_le (n : Nat) : backoff n ≤ kMaxRetryDelayMs := Nat.min_le_right _ _

theorem backoff_pos (n : Nat) : 0 < backoff n := by
  have power : 0 < Nat.pow 2 n := Nat.pow_pos Nat.two_pos
  rw [backoff, kInitRetryDelayMs, kMaxRetryDelayMs]
  omega

variable {world after : World}

/-- A retry that is wanted is scheduled after the delay, which is doubled up to its limit. -/
structure Retries (world after : World) : Prop where
  timers : after.timers = world.timers ++ [world.now + world.connector.retryDelayMs]
  retryDelayMs : after.connector.retryDelayMs =
    min (world.connector.retryDelayMs * 2) kMaxRetryDelayMs
  connect : after.connector.connect = true

/-- Nothing is scheduled, and the delay is left as it is. -/
structure Waits (world after : World) : Prop where
  timers : after.timers.length ≤ world.timers.length
  retryDelayMs : after.connector.retryDelayMs = world.connector.retryDelayMs
  wanted : world.Wanted → after.Wanted

theorem Retries.scheduledUntil (retries : Retries world after) :
    world.scheduledUntil after = [world.now + world.connector.retryDelayMs] := by
  rw [World.scheduledUntil, retries.timers]
  exact List.drop_left

theorem Waits.scheduledUntil (waits : Waits world after) : world.scheduledUntil after = [] :=
  List.drop_eq_nil_of_le waits.timers

theorem retry_retries (world : World) (sockfd : Nat) (connect : world.connector.connect = true) :
    Retries world (world.retry sockfd) := by
  have retried : world.retry sockfd =
      { { world.close sockfd with connector.state := .kDisconnected }.runAfter
        world.connector.retryDelayMs with
        connector.retryDelayMs := min (world.connector.retryDelayMs * 2) kMaxRetryDelayMs } :=
          if_pos connect
  rw [retried]
  exact ⟨rfl, rfl, connect⟩

/-- What is retried differs from the world before in the connector's channel and the loop's list. -/
theorem Retries.congr {other : World} (retries : Retries other after)
    (timers : other.timers = world.timers) (now : other.now = world.now)
    (retryDelayMs : other.connector.retryDelayMs = world.connector.retryDelayMs) :
    Retries world after := by
  refine ⟨?_, ?_, retries.connect⟩
  · rw [retries.timers, timers, now, retryDelayMs]
  · rw [retries.retryDelayMs, retryDelayMs]

theorem not_isInProgress_of_isRetryable {errno : Errno}
    (retryable : World.isRetryable errno = true) :
    World.isInProgress errno = false := by
  simp only [World.isRetryable, Bool.or_eq_true, beq_iff_eq] at retryable
  rcases retryable with (((again | used) | unavailable) | refused) | unreachable <;>
    subst errno <;> decide

theorem connect_retries (wanted : world.Wanted) {savedErrno : Errno}
    (retryable : World.isRetryable savedErrno = true)
    (performed : world.perform (.connect savedErrno) = .ok after) : Retries world after := by
  rw [World.perform] at performed
  split at performed
  · rename_i connecting
    have connect : world.connector.connect = true :=
      wanted.resolve_right (fun other => other.1 connecting)
    simp only [World.connect, not_isInProgress_of_isRetryable retryable, retryable, if_true]
      at performed
    cases performed
    exact (retry_retries { world with created := world.created + 1, call := .idle }
      world.created connect).congr
      rfl rfl rfl
  · cases performed

/-- An attempt in progress ends in a retry, or in a way after which nothing is scheduled. -/
theorem Sound.ended (sound : Sound world) (connecting : world.connector.state = .kConnecting)
    (connect : world.connector.connect = true) :
    ∃ failed, Retries world failed ∧ failed.connector.state = .kDisconnected ∧
      world.handleError = .ok failed ∧
      ∀ probe : Probe, if probe.soError != 0 || probe.selfConnect then
        world.handleWrite probe = .ok failed
        else ∃ connected, world.handleWrite probe = .ok connected ∧ Waits world connected := by
  obtain ⟨attempt, holds, polled, _⟩ := sound.held.attempt connecting
  obtain ⟨removed, _, _, detached⟩ := removeAndResetChannel_eq holds polled
  refine ⟨(world.detached attempt.sockfd removed).retry attempt.sockfd, ?_,
    retry_disconnected _ _, ?_, ?_⟩
  · exact (retry_retries (world.detached attempt.sockfd removed) attempt.sockfd connect).congr rfl
      rfl rfl
  · rw [World.handleError, if_pos connecting, detached]
    rfl
  · intro probe
    rw [World.handleWrite, if_pos connecting, detached]
    simp only [ok_bind]
    by_cases error : probe.soError = 0
    · by_cases same : probe.selfConnect = true
      · have refused : (probe.soError != 0 || probe.selfConnect) = true := by simp [same]
        rw [if_pos refused, if_neg (not_not_intro error), if_pos same]
        rfl
      · have connected : ¬ (probe.soError != 0 || probe.selfConnect) = true := by simp [error, same]
        have connects : (world.detached attempt.sockfd removed).connector.connect = true := connect
        rw [if_neg connected, if_neg (not_not_intro error), if_neg same, if_pos connects]
        exact ⟨_, rfl, Nat.le_refl _, rfl, fun _ => .inl connects⟩
    · have refused : (probe.soError != 0 || probe.selfConnect) = true := by simp [error]
      rw [if_pos refused, if_pos error]
      rfl

theorem handleEvent_fails {revents : Revents} {hangup : Option Nat}
    (phase : world.phase = .handling (some revents) hangup) (probe : Probe) :
    world.fails (.handleEvent probe) = ((revents.pollerr || revents.pollnval) ||
      (revents.pollout && (probe.soError != 0 || probe.selfConnect))) := by
  simp only [World.fails, phase]

/-- An event of the connector's channel leads to a retry exactly if the attempt fails. -/
theorem handleEvent_paced (sound : Sound world) (wanted : world.Wanted) {probe : Probe}
    (performed : world.perform (.handleEvent probe) = .ok after) :
    if world.fails (.handleEvent probe) then Retries world after else Waits world after := by
  rw [World.perform] at performed
  split at performed
  · rename_i revents hangup phase
    have connecting := sound.placed.event revents hangup phase
    have connect : world.connector.connect = true :=
      wanted.resolve_right (fun other => other.2 connecting)
    obtain ⟨failed, retries, disconnected, errs, writes⟩ :=
      (sound.handled phase).ended connecting connect
    have retries : Retries world failed := retries.congr rfl rfl rfl
    have writes := writes probe
    split at performed
    · rw [handleEvent_fails phase]
      rw [World.handleEvent] at performed
      by_cases error : (revents.pollerr || revents.pollnval) = true
      · have again := handleWrite_disconnected disconnected probe
        simp only [if_pos error, errs, ok_bind, again] at performed
        have same : after = failed := by
          split at performed <;> cases performed <;> rfl
        subst after
        simpa [error] using retries
      · simp only [if_neg error, pure_bind] at performed
        by_cases writable : revents.pollout = true
        · rw [if_pos writable] at performed
          by_cases refused : (probe.soError != 0 || probe.selfConnect) = true
          · rw [if_pos refused, performed] at writes
            cases writes
            simpa [writable, refused] using retries
          · rw [if_neg refused] at writes
            obtain ⟨connected, wrote, waits⟩ := writes
            cases wrote.symm.trans performed
            simp only [error, refused, Bool.and_false, Bool.or_false]
            exact ⟨waits.timers, waits.retryDelayMs, fun _ => waits.wanted (.inl connect)⟩
        · rw [if_neg writable] at performed
          cases performed
          simp only [error, writable, Bool.false_and, Bool.or_false]
          exact ⟨Nat.le_refl _, rfl, fun _ => .inl connect⟩
    · cases performed
  · cases performed

/-- A step that leaves the connector and its timers alone and begins no attempt. -/
theorem Waits.of_same (timers : after.timers = world.timers)
    (connector : after.connector = world.connector)
    (call : after.call = .connecting → world.call = .connecting) : Waits world after := by
  refine ⟨Nat.le_of_eq (congrArg List.length timers), congrArg Connector.retryDelayMs connector, ?_⟩
  rw [World.Wanted, World.Wanted, connector]
  exact Or.imp_right (And.imp_left (fun idle connecting => idle (call connecting)))

theorem Waits.setCall (waits : Waits world after) {call : Call} (thread : Thread)
    (other : call ≠ .connecting) :
    Waits world (after.setCall call thread) := by
  cases thread with
  | none =>
    refine ⟨waits.timers, waits.retryDelayMs, ?_⟩
    intro wanted
    exact (waits.wanted wanted).imp_right (fun still => ⟨other, still.2⟩)
  | some thread => exact ⟨waits.timers, waits.retryDelayMs, waits.wanted⟩

theorem removeConnection_waits {sockfd : Nat}
    (returned : world.removeConnection sockfd = .ok after) :
    Waits world after := by
  obtain ⟨_, returned⟩ := check_bind_eq_ok.mp returned
  cases returned
  refine .of_same rfl rfl ?_
  intro connecting
  dsimp only at connecting
  split at connecting
  · cases connecting
  · cases connecting

theorem callFunctor_waits {functor : Functor} (unstopped : ∀ since, functor ≠ .stopInLoop since)
    (returned : world.callFunctor functor = .ok after) : Waits world after := by
  cases functor with
  | startInLoop =>
    cases returned
    exact .of_same rfl rfl Call.noConfusion
  | stopInLoop since => exact absurd rfl (unstopped since)
  | resetChannel =>
    rw [World.callFunctor, World.resetChannel] at returned
    split at returned
    · cases returned
      exact .of_same rfl rfl id
    · obtain ⟨_, returned⟩ := check_bind_eq_ok.mp returned
      obtain ⟨_, returned⟩ := check_bind_eq_ok.mp returned
      cases returned
      exact ⟨Nat.le_refl _, rfl, id⟩
  | forceClose sockfd =>
    rw [World.callFunctor] at returned
    split at returned
    · exact removeConnection_waits returned
    · cases returned
      exact .of_same rfl rfl id

/-- An attempt that does not fail, or fails for good. -/
theorem connect_waits (wanted : world.Wanted) {savedErrno : Errno}
    (final : World.isRetryable savedErrno = false)
    (performed : world.perform (.connect savedErrno) = .ok after) : Waits world after := by
  rw [World.perform] at performed
  split at performed
  · rename_i connecting
    have connect : world.connector.connect = true :=
      wanted.resolve_right (fun other => other.1 connecting)
    simp only [World.connect, final] at performed
    split at performed
    · simp only [World.connecting, check_bind_eq_ok] at performed
      obtain ⟨_, performed⟩ := performed
      obtain ⟨channel, _, performed⟩ := bind_eq_ok.mp performed
      cases performed
      exact ⟨Nat.le_refl _, rfl, fun _ => .inl connect⟩
    · cases performed
      exact ⟨Nat.le_refl _, rfl, fun _ => .inl connect⟩
  · cases performed

/-- A step in which no attempt fails, of a run without `stop()` and `restart()`. -/
theorem perform_waits (sound : Sound world) (wanted : world.Wanted) {step : Step}
    (fails : world.fails step = false) (unstopped : world.stops step = false)
    (running : step ≠ .restart) (performed : world.perform step = .ok after) :
    Waits world after := by
  cases step with
  | connectClient thread | stopClient thread =>
    obtain ⟨_, rfl⟩ := guarded_eq_ok.mp performed
    refine Waits.setCall ?_ thread Call.noConfusion
    exact .of_same rfl rfl id
  | setConnect thread =>
    rw [World.perform] at performed
    split at performed
    · cases performed
      refine Waits.setCall ?_ thread ?_
      · exact ⟨Nat.le_refl _, rfl, fun _ => .inl rfl⟩
      · split <;> exact Call.noConfusion
    · rename_i since call
      simp [World.stops, call] at unstopped
    · cases performed
  | post thread =>
    rw [World.perform] at performed
    split at performed
    · cases performed
      refine Waits.setCall ?_ thread Call.noConfusion
      exact .of_same rfl rfl id
    · cases performed
      refine Waits.setCall ?_ thread Call.noConfusion
      exact .of_same rfl rfl id
    · cases performed
  | disconnect | enableRetry | wait =>
    cases performed
    exact .of_same rfl rfl id
  | forceClose | loop | epollWait | doPendingFunctors | endFunctors | quit =>
    obtain ⟨_, rfl⟩ := guarded_eq_ok.mp performed
    exact .of_same rfl rfl id
  | handleEvent probe =>
    have paced := handleEvent_paced sound wanted performed
    rwa [if_neg (Bool.eq_false_iff.mp fails)] at paced
  | handleClose =>
    rw [World.perform] at performed
    split at performed
    · split at performed
      · have waits := removeConnection_waits performed
        exact ⟨waits.timers, waits.retryDelayMs, waits.wanted⟩
      · cases performed
    · cases performed
  | expire index =>
    rw [World.perform] at performed
    split at performed
    · obtain ⟨_, rfl⟩ := guarded_eq_ok.mp performed
      refine ⟨?_, rfl, Or.imp_right (fun still => ⟨Call.noConfusion, still.2⟩)⟩
      exact List.length_eraseIdx_le _ _
    · cases performed
  | callFunctor =>
    rw [World.perform] at performed
    split at performed
    · rename_i functor functors phase
      split at performed
      · have other : ∀ since, functor ≠ .stopInLoop since := by
          rintro since rfl
          simp [World.stops, phase] at unstopped
        have waits := callFunctor_waits other performed
        exact ⟨waits.timers, waits.retryDelayMs, waits.wanted⟩
      · cases performed
    · cases performed
  | restart => exact absurd rfl running
  | startInLoop =>
    rw [World.perform] at performed
    split at performed
    · obtain ⟨_, performed⟩ := check_bind_eq_ok.mp performed
      cases performed
      refine ⟨Nat.le_refl _, rfl, ?_⟩
      intro wanted
      by_cases connect : world.connector.connect = true
      · exact .inl connect
      · refine .inr ⟨?_, (wanted.resolve_left connect).2⟩
        simp [connect]
    · cases performed
  | connect savedErrno => exact connect_waits wanted fails performed

theorem perform_retries (sound : Sound world) (wanted : world.Wanted) {step : Step}
    (fails : world.fails step = true) (performed : world.perform step = .ok after) :
    Retries world after := by
  cases step with
  | connect savedErrno => exact connect_retries wanted fails performed
  | handleEvent probe =>
    have paced := handleEvent_paced sound wanted performed
    rwa [if_pos fails] at paced
  | _ => cases fails

/-- Each failure led to one new attempt, scheduled the delay after it, counted in a
unit of that many microseconds. -/
def History.Follows (history : History) (unit : Nat) : Prop :=
  history.schedule = history.failures.mapIdx (fun n failure => failure + backoff n * unit)

instance (history : History) (unit : Nat) : Decidable (history.Follows unit) :=
  inferInstanceAs (Decidable (_ = _))

/-- The delay is at most the limit, so that its double is an `int`. -/
def World.Limited (world : World) : Prop :=
  world.connector.retryDelayMs ≤ kMaxRetryDelayMs ∧ world.connector.retryDelayMs * 2 ≤ 2147483647

instance (world : World) : Decidable world.Limited := inferInstanceAs (Decidable (_ ∧ _))

/-- The attempts back off: the delays count milliseconds. -/
def History.BacksOff (history : History) : Prop := history.Follows 1000 ∧ history.world.Limited

instance (history : History) : Decidable history.BacksOff := inferInstanceAs (Decidable (_ ∧ _))

structure Paced (history : History) : Prop where
  sound : Sound history.world
  wanted : history.world.Wanted
  retryDelayMs : history.world.connector.retryDelayMs = backoff history.failures.length
  schedule : history.Follows 1

theorem Fresh.paced (fresh : Fresh world) : Paced ⟨world, [], []⟩ := by
  cases fresh with
  | constructed => exact ⟨initial_sound, .inr ⟨Call.noConfusion, State.noConfusion⟩, rfl, rfl⟩
  | restarted run restarting => exact ⟨(run_sound run).restart restarting, .inl rfl, rfl, rfl⟩

theorem Paced.step {history next : History} {step : Step} (paced : Paced history)
    (taken : attempting.step history step next) : Paced next := by
  obtain ⟨⟨unstopped, running⟩, recorded⟩ := taken
  obtain ⟨after, performed, same⟩ := bind_eq_ok.mp recorded
  cases same
  cases fails : history.world.fails step with
  | true =>
    have retries := perform_retries paced.sound paced.wanted fails performed
    refine ⟨paced.sound.step performed, .inl retries.connect, ?_, ?_⟩
    · dsimp only
      rw [retries.retryDelayMs, paced.retryDelayMs, if_pos rfl, List.length_append,
        List.length_singleton, backoff_succ]
    · rw [History.Follows, retries.scheduledUntil, if_pos rfl, List.mapIdx_concat, ← paced.schedule,
        paced.retryDelayMs, Nat.mul_one]
  | false =>
    have waits := perform_waits paced.sound paced.wanted fails unstopped running performed
    refine ⟨paced.sound.step performed, waits.wanted paced.wanted,
      waits.retryDelayMs.trans paced.retryDelayMs, ?_⟩
    rw [History.Follows, waits.scheduledUntil, List.append_nil]
    exact paced.schedule

theorem attempting_paced {steps : List Step} {history : History} (fresh : Fresh world)
    (run : attempting.Run ⟨world, [], []⟩ steps history) : Paced history :=
  run.invariant (fun _ history => Paced history) fresh.paced (fun paced taken => paced.step taken)

theorem Paced.limited {history : History} (paced : Paced history) : history.world.Limited := by
  have bounded := backoff_le history.failures.length
  rw [← paced.retryDelayMs] at bounded
  refine ⟨bounded, ?_⟩
  rw [kMaxRetryDelayMs] at bounded
  omega

/-- The same failures do not lead to two schedules. -/
theorem History.Follows.unit_unique {history : History} {unit other : Nat}
    (first : history.Follows unit) (second : history.Follows other)
    (failed : history.failures ≠ []) : unit = other := by
  obtain ⟨failure, failures, failed⟩ := List.exists_cons_of_ne_nil failed
  rw [Follows, failed, List.mapIdx_cons] at first second
  have same := List.head_eq_of_cons_eq (first.symm.trans second)
  exact Nat.eq_of_mul_eq_mul_left (backoff_pos 0) (Nat.add_left_cancel same)

/-- The delays count microseconds, so that no attempts that failed back off. -/
theorem never_backsOff {steps : List Step} {history : History} (fresh : Fresh world)
    (run : attempting.Run ⟨world, [], []⟩ steps history) (failed : history.failures ≠ []) :
    ¬ history.BacksOff ∧ history.Follows 1 ∧ history.world.Limited := by
  have paced := attempting_paced fresh run
  refine ⟨?_, paced.schedule, paced.limited⟩
  rintro ⟨follows, _⟩
  cases follows.unit_unique paced.schedule failed

/-- A first attempt that is refused at once, and a second one whose socket has an error. -/
def refusedSteps : List Step :=
  [.connectClient none, .setConnect none, .startInLoop, .connect ECONNREFUSED, .wait 500, .loop,
    .epollWait none false, .expire 0, .startInLoop, .connect EINPROGRESS,
    .doPendingFunctors, .endFunctors, .epollWait (some ⟨true, false, false, false⟩) false,
    .handleEvent ⟨ECONNREFUSED, false⟩]

theorem refused_run (found : History → Bool)
    (followed : (Machine.follow History.perform (fun history step =>
      !history.world.stops step && step != .restart)
      ⟨.initial, [], []⟩ refusedSteps).any found = true) :
    ∃ history, attempting.Run ⟨.initial, [], []⟩ refusedSteps history ∧ found history = true := by
  refine Machine.Run.ofFollowAny attempting ?_ followed
  intro history step after permitted performed
  simp only [Bool.and_eq_true, Bool.not_eq_true', bne_iff_ne] at permitted
  exact ⟨permitted, performed⟩

theorem never_backsOff_refused :
    ∃ history, attempting.Run ⟨.initial, [], []⟩ refusedSteps history ∧
      history.failures = [0, 500] ∧
      ¬ history.BacksOff ∧ history.Follows 1 ∧ history.world.Limited := by
  obtain ⟨history, run, final⟩ :=
    refused_run (fun history => decide (history.failures = [0, 500])) (by decide +kernel)
  have failures := of_decide_eq_true final
  refine ⟨history, run, failures, never_backsOff .constructed run ?_⟩
  rw [failures]
  exact List.cons_ne_nil 0 [500]

/-- The retries come after 500 and 1000 microseconds. -/
theorem refused_not_backsOff :
    ∃ history, attempting.Run ⟨.initial, [], []⟩ refusedSteps history ∧
      history.failures = [0, 500] ∧
      history.schedule = [500, 1500] ∧ ¬ history.BacksOff := by
  obtain ⟨history, run, final⟩ := refused_run (fun history =>
    decide (history.failures = [0, 500] ∧ history.schedule = [500, 1500] ∧ ¬ history.BacksOff))
      (by decide +kernel)
  exact ⟨history, run, of_decide_eq_true final⟩

end Connector

end FakeMuduo.Net
