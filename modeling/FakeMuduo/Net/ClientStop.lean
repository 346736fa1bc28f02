import FakeMuduo.Net.ConnectorRun

/-! What a client's `stop()` leaves behind. Two flags tell the wish, one in each object; it is kept
unless `restart()` writes the connector's after `stop()` did. -/

namespace FakeMuduo.Net

open FakeMuduo.Base FakeMuduo.Util

namespace Connector

/-- A call of `stop()` that has begun. -/
def Call.isStop : Call → Bool
  | .flagged (.stop _) | .written (.stop _) => true
  | _ => false

namespace World

variable (world : World)

/-- Both flags are clear, and the loop thread is not about to set one of them. -/
structure Told : Prop where
  client : world.client.connect = false
  connector : world.connector.connect = false
  away : world.call ≠ .restarting

/-- A `stop()` that has written the client's flag only. -/
def Flagged (since : Nat) : Prop := ∃ thread, world.callOf thread = .flagged (.stop since)

/-- A `stop()` that has written both flags and was not carried out. -/
def Written (since : Nat) : Prop :=
  (∃ thread, world.callOf thread = .written (.stop since)) ∨ .stopInLoop since ∈ world.outstanding

end World

/-- The calls of `stop()` since the last write of a `connect()` are heeded. -/
structure Heeds (world : World) : Prop where
  flagged : ∀ since, world.Flagged since →
    since ≤ world.connects ∧ (since = world.connects → world.client.connect = false)
  written : ∀ since, world.Written since → since ≤ world.connects ∧
    (since = world.connects → world.Told)
  stopped : world.stopped = true → world.Told
  handed : ∀ handover ∈ world.handed, handover.stopped = false

/-- No `stop()` writes the connector's flag between the client's test of its own flag in
`removeConnection` and the write of the connector's in `restart()`. -/
def Undisturbed (world : World) : Step → Prop
  | .setConnect thread => (world.callOf thread).isStop = true → world.call ≠ .restarting
  | _ => True

instance (world : World) (step : Step) : Decidable (Undisturbed world step) :=
  match step with
  | .setConnect thread =>
    inferInstanceAs (Decidable ((world.callOf thread).isStop = true → world.call ≠ .restarting))
  | .connectClient _ | .stopClient _ | .post _ | .disconnect | .enableRetry | .forceClose _
  | .wait _ | .loop
  | .epollWait _ _ | .handleEvent _ | .handleClose | .expire _ | .doPendingFunctors | .callFunctor
  | .endFunctors
  | .quit | .restart | .startInLoop | .connect _ => inferInstanceAs (Decidable True)

theorem initial_heeds : Heeds .initial := by
  refine ⟨?_, ?_, ?_, ?_⟩
  · rintro since ⟨thread, flagged⟩
    cases thread <;> cases flagged
  · rintro since (⟨thread, written⟩ | queued)
    · cases thread <;> cases written
    · cases queued
  · intro stopped
    cases stopped
  · intro handover member
    cases member

variable {world after : World}

/-- A step that takes no call of `stop()` further. -/
theorem Heeds.frame (heeds : Heeds world) (connects : after.connects = world.connects)
    (flagged : ∀ since, after.Flagged since → world.Flagged since)
    (written : ∀ since, after.Written since → world.Written since)
    (client : world.client.connect = false → after.client.connect = false)
    (told : world.Told → after.Told) (stopped : after.stopped = world.stopped)
    (handed : ∀ handover ∈ after.handed, handover ∈ world.handed ∨ handover.stopped = false) :
    Heeds after := by
  refine ⟨?_, ?_, ?_, ?_⟩
  · intro since began
    obtain ⟨bound, current⟩ := heeds.flagged since (flagged since began)
    rw [connects]
    exact ⟨bound, client ∘ current⟩
  · intro since began
    obtain ⟨bound, current⟩ := heeds.written since (written since began)
    rw [connects]
    exact ⟨bound, told ∘ current⟩
  · rw [stopped]
    exact told ∘ heeds.stopped
  · intro handover member
    rcases handed handover member with earlier | unstopped
    · exact heeds.handed handover earlier
    · exact unstopped

@[simp] theorem callOf_setCall_same (world : World) (call : Call) (thread : Thread) :
    (world.setCall call thread).callOf thread = call := by
  cases thread with
  | none => rfl
  | some thread => simp [World.setCall, World.callOf]

theorem callOf_setCall_other (world : World) (call : Call) {thread other : Thread}
    (apart : other ≠ thread) :
    (world.setCall call thread).callOf other = world.callOf other := by
  cases thread with
  | none =>
    cases other with
    | none => exact absurd rfl apart
    | some other => rfl
  | some thread =>
    cases other with
    | none => rfl
    | some other =>
      have different : other ≠ thread := fun same => apart (congrArg some same)
      simp [World.setCall, World.callOf, Function.update_of_ne different]

/-- Of the calls in a certain place only the one that moved can be new. -/
theorem callOf_of_setCall {call found : Call} {thread other : Thread}
    (there : (world.setCall call thread).callOf other = found) (apart : found ≠ call) :
    world.callOf other = found := by
  by_cases same : other = thread
  · rw [same, callOf_setCall_same] at there
    exact absurd there.symm apart
  · rw [callOf_setCall_other world call same] at there
    exact there

/-- A step of the loop thread that begins no `restart()` while the client's flag is clear. -/
theorem Heeds.move (heeds : Heeds world) (calls : after.calls = world.calls)
    (call : after.call = world.call ∨ after.call.isStop = false)
    (outstanding : ∀ since, .stopInLoop since ∈ after.outstanding →
      .stopInLoop since ∈ world.outstanding)
    (flags : after.connector.connect = world.connector.connect ∧
      after.client.connect = world.client.connect)
    (away : after.call = .restarting → world.call = .restarting ∨ world.client.connect = true)
    (counts : after.connects = world.connects ∧ after.stopped = world.stopped)
    (handed : ∀ handover ∈ after.handed, handover ∈ world.handed ∨ handover.stopped = false) :
    Heeds after := by
  have earlier : ∀ thread found, found.isStop = true → after.callOf thread = found →
      world.callOf thread = found := by
    intro thread found stop there
    cases thread with
    | none =>
      rcases call with same | other
      · exact same.symm.trans there
      · rw [← there] at stop
        exact absurd (stop.symm.trans other) Bool.noConfusion
    | some thread => exact (congrFun calls thread).symm.trans there
  refine heeds.frame counts.1 ?_ ?_ ?_ ?_ counts.2 handed
  · rintro since ⟨thread, flagged⟩
    exact ⟨thread, earlier thread _ rfl flagged⟩
  · rintro since (⟨thread, written⟩ | queued)
    · exact .inl ⟨thread, earlier thread _ rfl written⟩
    · exact .inr (outstanding since queued)
  · intro clear
    exact flags.2.trans clear
  · intro told
    refine ⟨flags.2.trans told.client, flags.1.trans told.connector, ?_⟩
    intro restarting
    rcases away restarting with already | wanted
    · exact told.away already
    · rw [told.client] at wanted
      cases wanted

theorem Heeds.ends (heeds : Heeds world) (ends : Ends world sockfd after) : Heeds after := by
  refine heeds.move ends.calls (.inl ends.call) ?_ ends.flags ?_ ⟨ends.connects, ends.stopped⟩ ?_
  · intro since queued
    rw [ends.asked, List.mem_append, List.mem_singleton] at queued
    rcases queued with queued | reset
    · exact queued
    · cases reset
  · intro restarting
    exact .inl (ends.call.symm.trans restarting)
  · intro handover member
    cases ends.outcome with
    | failed _ _ _ _ handed | dropped _ _ _ _ handed => exact .inl (handed ▸ member)
    | handed _ _ wanted _ handed =>
      rw [handed, List.mem_append, List.mem_singleton] at member
      rcases member with earlier | new
      · exact .inl earlier
      · right
        rw [new, ← Bool.not_eq_true]
        intro stopped
        have clear := (heeds.stopped stopped).connector
        rw [wanted] at clear
        cases clear

theorem Heeds.removeConnection (heeds : Heeds world) {sockfd : Nat}
    (performed : world.removeConnection sockfd = .ok after) : Heeds after := by
  obtain ⟨_, returned⟩ := check_bind_eq_ok.mp performed
  cases returned
  have unstopped : ∀ wanted : Bool, (if wanted then Call.restarting else .idle).isStop =
    false := by decide
  refine heeds.move rfl (.inr (unstopped _)) (fun _ queued => queued) ⟨rfl, rfl⟩ ?_
    ⟨rfl, rfl⟩ (fun _ => .inl)
  intro restarting
  dsimp only at restarting
  split at restarting
  · rename_i wanted
    exact .inr (Bool.and_eq_true_iff.mp wanted).2
  · cases restarting

theorem Heeds.connect (heeds : Heeds world) (savedErrno : Errno)
    (performed : world.connect savedErrno = .ok after) :
    Heeds after := by
  simp only [World.connect] at performed
  split at performed
  · obtain ⟨channel, created, _⟩ := Channel.enableWriting_create
    simp only [World.connecting, check_bind_eq_ok, created, ok_bind] at performed
    obtain ⟨_, returned⟩ := performed
    cases returned
    exact heeds.move rfl (.inr rfl) (fun _ queued => queued) ⟨rfl, rfl⟩ Call.noConfusion
      ⟨rfl, rfl⟩ (fun _ => .inl)
  · split at performed
    · obtain ⟨timers, retryDelayMs, retried⟩ := retry_eq
        { world with created := world.created + 1, call := .idle } world.created
      cases performed
      rw [retried]
      exact heeds.move rfl (.inr rfl) (fun _ queued => queued) ⟨rfl, rfl⟩ Call.noConfusion
        ⟨rfl, rfl⟩ (fun _ => .inl)
    · cases performed
      exact heeds.move rfl (.inr rfl) (fun _ queued => queued) ⟨rfl, rfl⟩ Call.noConfusion
        ⟨rfl, rfl⟩ (fun _ => .inl)

/-- A `stop()` is carried out. -/
theorem Heeds.carryOut (heeds : Heeds world) {since : Nat}
    (told : since = world.connects → world.Told) :
    Heeds { world with stopped := world.stopped || since == world.connects } := by
  refine ⟨heeds.flagged, ?_, ?_, heeds.handed⟩
  · intro other written
    obtain ⟨bound, current⟩ := heeds.written other written
    refine ⟨bound, ?_⟩
    intro same
    obtain ⟨client, connector, away⟩ := current same
    exact ⟨client, connector, away⟩
  · intro stopped
    have known : world.Told := by
      rcases Bool.or_eq_true_iff.mp stopped with already | current
      · exact heeds.stopped already
      · exact told (beq_iff_eq.mp current)
    exact ⟨known.client, known.connector, known.away⟩

theorem Heeds.callFunctor (heeds : Heeds world) (sound : Sound world) {functor : Functor}
    {functors : List Functor} (calling : world.phase = .calling (functor :: functors))
    (performed : { world with phase := .calling functors }.callFunctor functor = .ok after) :
    Heeds after := by
  have fewer : ∀ since, .stopInLoop since ∈ { world with phase := .calling functors }.outstanding →
      .stopInLoop since ∈ world.outstanding := by
    intro since queued
    simp only [World.outstanding, calling, Phase.functors, List.cons_append] at queued ⊢
    exact List.mem_cons_of_mem _ queued
  have popped : Heeds { world with phase := .calling functors } :=
    heeds.move rfl (.inl rfl) fewer ⟨rfl, rfl⟩ .inl ⟨rfl, rfl⟩ (fun _ => .inl)
  cases functor with
  | startInLoop =>
    cases performed
    exact popped.move rfl (.inr rfl) (fun _ queued => queued) ⟨rfl, rfl⟩ Call.noConfusion
      ⟨rfl, rfl⟩ (fun _ => .inl)
  | stopInLoop since =>
    have queued : .stopInLoop since ∈ world.outstanding := by
      simp [World.outstanding, calling, Phase.functors]
    have told := (heeds.written since (.inr queued)).2
    by_cases connecting : world.connector.state = .kConnecting
    · obtain ⟨sockfd, next, stopped, _, ends⟩ :=
        (sound.pop calling Functor.noConfusion).stopInLoop connecting
      rw [World.callFunctor, stopped, ok_bind] at performed
      cases performed
      apply (popped.ends ends).carryOut
      intro current
      obtain ⟨client, connector, away⟩ := told (current.trans ends.connects)
      exact ⟨ends.flags.2.trans client, ends.flags.1.trans connector, ends.call ▸ away⟩
    · rw [World.callFunctor, World.stopInLoop, if_neg connecting, pure_bind] at performed
      cases performed
      apply popped.carryOut
      intro current
      obtain ⟨client, connector, away⟩ := told current
      exact ⟨client, connector, away⟩
  | resetChannel =>
    rw [World.callFunctor, World.resetChannel] at performed
    split at performed
    · cases performed
      exact popped
    · simp only [check_bind_eq_ok] at performed
      obtain ⟨_, _, returned⟩ := performed
      cases returned
      exact popped.move rfl (.inl rfl) (fun _ queued => queued) ⟨rfl, rfl⟩ .inl
        ⟨rfl, rfl⟩ (fun _ => .inl)
  | forceClose sockfd =>
    rw [World.callFunctor] at performed
    split at performed
    · exact popped.removeConnection performed
    · cases performed
      exact popped

/-- The calls of `stop()` that began before a write of a `connect()` no longer count. -/
theorem Heeds.renew (heeds : Heeds world) (connects : after.connects = world.connects + 1)
    (flagged : ∀ since, after.Flagged since → world.Flagged since)
    (written : ∀ since, after.Written since → world.Written since) (stopped : after.stopped = false)
    (handed : after.handed = world.handed) : Heeds after := by
  refine ⟨?_, ?_, ?_, ?_⟩
  · intro since began
    have bound := (heeds.flagged since (flagged since began)).1
    exact ⟨by omega, fun current => by omega⟩
  · intro since began
    have bound := (heeds.written since (written since began)).1
    exact ⟨by omega, fun current => by omega⟩
  · rw [stopped]
    exact Bool.noConfusion
  · rw [handed]
    exact heeds.handed

/-- What a thread's progress in its call leaves as it was. -/
theorem setCall_frame (world : World) (call : Call) (thread : Thread) :
    (world.setCall call thread).connector = world.connector ∧
      (world.setCall call thread).client = world.client ∧
      (world.setCall call thread).outstanding = world.outstanding ∧
      (world.setCall call thread).connects = world.connects ∧
        (world.setCall call thread).stopped = world.stopped ∧
      (world.setCall call thread).handed = world.handed := by
  cases thread with
  | none | some => exact ⟨rfl, rfl, rfl, rfl, rfl, rfl⟩

theorem Heeds.setCall_connect (heeds : Heeds world) {changed : World} {call : Call}
    (thread : Thread)
    (same : changed.callOf = world.callOf ∧ changed.outstanding = world.outstanding)
    (connects : changed.connects = world.connects + 1) (stopped : changed.stopped = false)
    (handed : changed.handed = world.handed) (other : call.isStop = false) :
    Heeds (changed.setCall call thread) := by
  obtain ⟨_, _, queue, count, stop, hands⟩ := setCall_frame changed call thread
  have earlier : ∀ {found : Call} {on : Thread}, found.isStop = true →
      (changed.setCall call thread).callOf on = found → world.callOf on = found := by
    intro found on isStop there
    rw [← same.1]
    apply callOf_of_setCall there
    intro equal
    rw [equal, other] at isStop
    cases isStop
  refine heeds.renew (count.trans connects) ?_ ?_ (stop.trans stopped) (hands.trans handed)
  · rintro since ⟨on, flagged⟩
    exact ⟨on, earlier rfl flagged⟩
  · rintro since (⟨on, written⟩ | queued)
    · exact .inl ⟨on, earlier rfl written⟩
    · rw [queue, same.2] at queued
      exact .inr queued

/-- A call other than `restart()` that goes on leaves the loop thread away from `restart()`. -/
theorem setCall_away (world : World) (away : world.call ≠ .restarting) {call : Call}
    (other : call ≠ .restarting) (thread : Thread) :
    (world.setCall call thread).call ≠ .restarting := by
  cases thread with
  | none => exact other
  | some => exact away

theorem Heeds.stopClient (heeds : Heeds world) (thread : Thread) :
    Heeds ({ world with client.connect := false }.setCall
      (.flagged (.stop world.connects)) thread) := by
  obtain ⟨connector, client, queue, connects, stopped, handed⟩ :=
    setCall_frame { world with client.connect := false } (.flagged (.stop world.connects)) thread
  have told : world.Told →
      ({ world with client.connect := false }.setCall
        (.flagged (.stop world.connects)) thread).Told := by
    intro told
    refine ⟨by rw [client], by rw [connector]; exact told.connector, ?_⟩
    exact setCall_away { world with client.connect := false } told.away Call.noConfusion thread
  refine ⟨?_, ?_, ?_, ?_⟩
  · rintro since ⟨on, flagged⟩
    rw [connects, client]
    refine ⟨?_, fun _ => rfl⟩
    by_cases same : on = thread
    · rw [same, callOf_setCall_same] at flagged
      cases flagged
      exact Nat.le_refl _
    · rw [callOf_setCall_other _ _ same] at flagged
      exact (heeds.flagged since ⟨on, flagged⟩).1
  · intro since began
    have earlier : world.Written since := by
      rcases began with ⟨on, written⟩ | queued
      · have earlier := callOf_of_setCall written Call.noConfusion
        exact .inl ⟨on, earlier⟩
      · exact .inr (queue ▸ queued)
    obtain ⟨bound, current⟩ := heeds.written since earlier
    rw [connects]
    exact ⟨bound, told ∘ current⟩
  · rw [stopped]
    exact told ∘ heeds.stopped
  · rw [handed]
    exact heeds.handed

/-- A call of `stop()` writes the connector's flag while the loop thread is not about to restart. -/
theorem Heeds.setConnect (heeds : Heeds world) {thread : Thread} {since : Nat}
    (flagged : world.callOf thread = .flagged (.stop since)) (away : world.call ≠ .restarting) :
    Heeds ({ world with connector.connect := false }.setCall (.written (.stop since)) thread) := by
  obtain ⟨connector, client, queue, connects, stopped, handed⟩ :=
    setCall_frame { world with connector.connect := false } (.written (.stop since)) thread
  have told : world.client.connect = false →
      ({ world with connector.connect := false }.setCall (.written (.stop since)) thread).Told := by
    intro clear
    refine ⟨by rw [client]; exact clear, by rw [connector], ?_⟩
    exact setCall_away { world with connector.connect := false } away Call.noConfusion thread
  refine ⟨?_, ?_, ?_, ?_⟩
  · rintro other ⟨on, began⟩
    rw [connects, client]
    have earlier := callOf_of_setCall began Call.noConfusion
    exact heeds.flagged other ⟨on, earlier⟩
  · intro other began
    rw [connects]
    by_cases same : ∃ on, world.callOf on = .flagged (.stop other)
    · obtain ⟨bound, clear⟩ := heeds.flagged other same
      exact ⟨bound, told ∘ clear⟩
    · have earlier : world.Written other := by
        rcases began with ⟨on, written⟩ | queued
        · have earlier := callOf_of_setCall written (by
            intro equal
            cases equal
            exact same ⟨thread, flagged⟩)
          exact .inl ⟨on, earlier⟩
        · exact .inr (queue ▸ queued)
      obtain ⟨bound, current⟩ := heeds.written other earlier
      exact ⟨bound, fun now => told (current now).client⟩
  · rw [stopped]
    intro already
    exact told (heeds.stopped already).client
  · rw [handed]
    exact heeds.handed

/-- A call ends with its functor queued. -/
theorem Heeds.post (heeds : Heeds world) (thread : Thread) {functor : Functor}
    (known : ∀ since, functor = .stopInLoop since → world.Written since) :
    Heeds ((world.queueInLoop functor).setCall .idle thread) := by
  obtain ⟨connector, client, queue, connects, stopped, handed⟩ :=
    setCall_frame (world.queueInLoop functor) .idle thread
  refine heeds.frame connects ?_ ?_ ?_ ?_ stopped ?_
  · rintro since ⟨on, flagged⟩
    have earlier := callOf_of_setCall flagged Call.noConfusion
    exact ⟨on, earlier⟩
  · rintro since (⟨on, written⟩ | queued)
    · have earlier := callOf_of_setCall written Call.noConfusion
      exact .inl ⟨on, earlier⟩
    · rw [queue, queueInLoop_outstanding, List.mem_append, List.mem_singleton] at queued
      rcases queued with earlier | new
      · exact .inr earlier
      · exact known since new.symm
  · rw [client]
    exact id
  · intro told
    refine ⟨by rw [client]; exact told.client, by rw [connector]; exact told.connector, ?_⟩
    exact setCall_away (world.queueInLoop functor) told.away Call.noConfusion thread
  · intro handover member
    exact .inl (handed ▸ member)

/-- The loop thread goes on without touching what a `stop()` says. -/
theorem Heeds.proceed (heeds : Heeds world) (calls : after.calls = world.calls)
    (call : after.call = world.call ∨ after.call.isStop = false ∧ after.call ≠ .restarting)
    (outstanding : after.outstanding = world.outstanding)
    (flags : after.connector.connect = world.connector.connect ∧
      after.client.connect = world.client.connect)
    (counts : after.connects = world.connects ∧ after.stopped = world.stopped)
    (handed : after.handed = world.handed) :
    Heeds after := by
  refine heeds.move calls (call.imp_right And.left) ?_ flags ?_ counts ?_
  · intro since queued
    exact outstanding ▸ queued
  · intro restarting
    rcases call with same | away
    · exact .inl (same.symm.trans restarting)
    · exact absurd restarting away.2
  · intro handover member
    exact .inl (handed ▸ member)

theorem Heeds.step (heeds : Heeds world) (sound : Sound world) {step : Step}
    (undisturbed : Undisturbed world step) (performed : world.perform step = .ok after) :
    Heeds after := by
  cases step with
  | connectClient thread =>
    obtain ⟨_, rfl⟩ := guarded_eq_ok.mp performed
    exact heeds.setCall_connect thread ⟨rfl, rfl⟩ rfl rfl rfl rfl
  | stopClient thread =>
    obtain ⟨_, rfl⟩ := guarded_eq_ok.mp performed
    exact heeds.stopClient thread
  | setConnect thread =>
    rw [World.perform] at performed
    split at performed
    · cases performed
      refine heeds.setCall_connect thread ⟨rfl, rfl⟩ rfl rfl rfl ?_
      cases thread with
      | none | some => rfl
    · rename_i since flagged
      cases performed
      exact heeds.setConnect flagged (undisturbed (by rw [flagged]; rfl))
    · cases performed
  | post thread =>
    rw [World.perform] at performed
    split at performed
    · cases performed
      exact heeds.post thread (fun _ => Functor.noConfusion)
    · rename_i since written
      cases performed
      apply heeds.post thread
      intro other same
      cases same
      exact .inl ⟨thread, written⟩
    · cases performed
  | disconnect =>
    cases performed
    refine heeds.frame rfl (fun _ => id) (fun _ => id) (fun _ => rfl) ?_ rfl (fun _ => .inl)
    intro told
    exact ⟨rfl, told.connector, told.away⟩
  | enableRetry | wait =>
    cases performed
    exact heeds.proceed rfl (.inl rfl) rfl ⟨rfl, rfl⟩ ⟨rfl, rfl⟩ rfl
  | forceClose sockfd =>
    obtain ⟨_, rfl⟩ := guarded_eq_ok.mp performed
    refine heeds.move rfl (.inl rfl) ?_ ⟨rfl, rfl⟩ .inl ⟨rfl, rfl⟩ (fun _ => .inl)
    intro since queued
    rw [queueInLoop_outstanding, List.mem_append, List.mem_singleton] at queued
    rcases queued with earlier | new
    · exact earlier
    · cases new
  | loop =>
    obtain ⟨outside, rfl⟩ := guarded_eq_ok.mp performed
    refine heeds.proceed rfl (.inl rfl) ?_ ⟨rfl, rfl⟩ ⟨rfl, rfl⟩ rfl
    simp [World.outstanding, outside.1, Phase.functors]
  | epollWait event hangup =>
    obtain ⟨polling, rfl⟩ := guarded_eq_ok.mp performed
    refine heeds.proceed rfl (.inl rfl) ?_ ⟨rfl, rfl⟩ ⟨rfl, rfl⟩ rfl
    simp [World.outstanding, polling.1, Phase.functors]
  | handleEvent probe =>
    rw [World.perform] at performed
    split at performed
    · rename_i revents hangup phase
      split at performed
      · have handled := sound.handled phase
        have kept : Heeds { world with phase := .handling none hangup } := by
          refine heeds.proceed rfl (.inl rfl) ?_ ⟨rfl, rfl⟩ ⟨rfl, rfl⟩ rfl
          simp [World.outstanding, phase, Phase.functors]
        obtain ⟨next, returned, _, same | ⟨sockfd, _, ends⟩⟩ :=
          handled.handleEvent (sound.placed.event _ _ phase)
          (fun _ _ => by rintro ⟨⟩) revents probe
        · cases returned.symm.trans performed
          rw [same]
          exact kept
        · cases returned.symm.trans performed
          exact kept.ends ends
      · cases performed
    · cases performed
  | handleClose =>
    rw [World.perform] at performed
    split at performed
    · rename_i event sockfd phase
      split at performed
      · have kept : Heeds { world with phase := .handling event none } := by
          refine heeds.proceed rfl (.inl rfl) ?_ ⟨rfl, rfl⟩ ⟨rfl, rfl⟩ rfl
          simp [World.outstanding, phase, Phase.functors]
        exact kept.removeConnection performed
      · cases performed
    · cases performed
  | expire index =>
    rw [World.perform] at performed
    split at performed
    · obtain ⟨_, rfl⟩ := guarded_eq_ok.mp performed
      exact heeds.proceed rfl (.inr ⟨rfl, Call.noConfusion⟩) rfl ⟨rfl, rfl⟩ ⟨rfl, rfl⟩ rfl
    · cases performed
  | doPendingFunctors =>
    obtain ⟨handled, rfl⟩ := guarded_eq_ok.mp performed
    refine heeds.proceed rfl (.inl rfl) ?_ ⟨rfl, rfl⟩ ⟨rfl, rfl⟩ rfl
    simp [World.outstanding, handled.1, Phase.functors]
  | callFunctor =>
    rw [World.perform] at performed
    split at performed
    · rename_i functor functors phase
      split at performed
      · exact heeds.callFunctor sound phase performed
      · cases performed
    · cases performed
  | endFunctors | quit =>
    obtain ⟨called, rfl⟩ := guarded_eq_ok.mp performed
    refine heeds.proceed rfl (.inl rfl) ?_ ⟨rfl, rfl⟩ ⟨rfl, rfl⟩ rfl
    simp [World.outstanding, called.1, Phase.functors]
  | restart =>
    obtain ⟨restarting, rfl⟩ := guarded_eq_ok.mp performed
    refine heeds.frame rfl ?_ ?_ id (fun told => absurd restarting told.away) rfl (fun _ => .inl)
    · rintro since ⟨thread, flagged⟩
      cases thread with
      | none => cases flagged
      | some thread => exact ⟨some thread, flagged⟩
    · rintro since (⟨thread, written⟩ | queued)
      · cases thread with
        | none => cases written
        | some thread => exact .inl ⟨some thread, written⟩
      · exact .inr queued
  | startInLoop =>
    rw [World.perform] at performed
    split at performed
    · obtain ⟨_, returned⟩ := check_bind_eq_ok.mp performed
      cases returned
      refine heeds.proceed rfl (.inr ?_) rfl ⟨rfl, rfl⟩ ⟨rfl, rfl⟩ rfl
      cases world.connector.connect with
      | true | false => exact ⟨rfl, Call.noConfusion⟩
    · cases performed
  | connect savedErrno =>
    rw [World.perform] at performed
    split at performed
    · exact heeds.connect savedErrno performed
    · cases performed

/-- In every run without such a disturbance no connection is handed over after a `stop()` was
carried out, until `connect()` is called again. -/
theorem stop_not_lost {steps : List Step}
    (run : (machine.restrict Undisturbed).Run .initial steps world) :
    ∀ handover ∈ world.handed, handover.stopped = false := by
  have kept : Sound world ∧ Heeds world := by
    refine run.invariant (fun _ world => Sound world ∧ Heeds world)
      ⟨initial_sound, initial_heeds⟩ ?_
    rintro _ current step next ⟨sound, heeds⟩ ⟨undisturbed, performed⟩
    exact ⟨sound.step performed, heeds.step sound undisturbed performed⟩
  exact kept.2.handed

/-- A client with retries is connected and its connection is lost. -/
def connectedSteps : List Step :=
  [.enableRetry, .connectClient none, .setConnect none, .startInLoop, .connect EINPROGRESS, .loop,
    .epollWait (some ⟨true, false, false, false⟩) false, .handleEvent ⟨0, false⟩,
    .doPendingFunctors, .callFunctor, .endFunctors, .epollWait none true, .handleClose]

/-- Another thread stops the client as soon as `restart()` has written the connector's flag. -/
def heededStopSteps : List Step :=
  [.stopClient (some 0), .restart, .setConnect (some 0), .startInLoop, .post (some 0),
    .doPendingFunctors, .callFunctor, .endFunctors]

/-- Another thread stops the client just before, and the attempt of the next timer succeeds. -/
def lostStopSteps : List Step :=
  [.stopClient (some 0), .setConnect (some 0), .restart, .startInLoop,
    .connect EINPROGRESS, .post (some 0), .doPendingFunctors, .callFunctor, .endFunctors,
    .epollWait none false, .doPendingFunctors, .callFunctor, .endFunctors, .wait 500,
    .epollWait none false, .expire 0, .startInLoop, .connect EINPROGRESS, .doPendingFunctors,
    .endFunctors, .epollWait (some ⟨true, false, false, false⟩) false, .handleEvent ⟨0, false⟩]

theorem stop_not_lost_heeded :
    ∃ world, (machine.restrict Undisturbed).Run .initial (connectedSteps ++ heededStopSteps) world ∧
      world.stopped = true ∧ world.handed ≠ [] ∧ ∀ handover ∈ world.handed,
        handover.stopped = false := by
  have followed :
      (Machine.follow World.perform (fun world step => decide (Undisturbed world step)) .initial
      (connectedSteps ++ heededStopSteps)).any (fun world =>
        decide (world.stopped = true ∧ world.handed ≠ [])) =
        true := by
    decide +kernel
  obtain ⟨world, run, final⟩ := Machine.Run.ofFollowAny (machine.restrict Undisturbed)
    (fun allowed performed => ⟨of_decide_eq_true allowed, performed⟩) followed
  obtain ⟨stopped, some⟩ := of_decide_eq_true final
  exact ⟨world, run, stopped, some, stop_not_lost run⟩

theorem stop_lost :
    ∃ world, machine.Run .initial (connectedSteps ++ lostStopSteps) world ∧
      ∃ handover ∈ world.handed, handover.stopped = true := by
  have followed :
    (Machine.follow World.perform (fun _ _ => true) .initial (connectedSteps ++ lostStopSteps)).any
      (fun world => decide (∃ handover ∈ world.handed, handover.stopped = true)) = true := by
    decide +kernel
  obtain ⟨world, run, final⟩ :=
    Machine.Run.ofFollowAny machine (fun _ performed => performed) followed
  exact ⟨world, run, of_decide_eq_true final⟩

end Connector

end FakeMuduo.Net
