import FakeMuduo.Net.ConnectorInvariant

/-! The runs of a connector: no assertion fails as long as its attempts do not meet, and every
socket is accounted for. -/

namespace FakeMuduo.Net

open FakeMuduo.Base FakeMuduo.Util

namespace Connector

variable {world after : World}

/-- No attempt is in progress, and none has succeeded since the last `restart()`. -/
def World.Idle (world : World) : Prop :=
  (∀ sockfd < world.created, sockfd ∈ world.closed ∨ sockfd ∈ world.handed.map Handover.sockfd) ∧
    world.established = false

/-- `startInLoop` is entered only when the connector is idle, and an attempt stays in progress only
when no earlier `resetChannel` has still to run. -/
def Careful (world : World) : Step → Prop
  | .startInLoop => world.Idle
  | .connect savedErrno => World.isInProgress savedErrno = true → .resetChannel ∉ world.outstanding
  | _ => True

theorem Sound.idle_iff (sound : Sound world) : world.Idle ↔
    world.connector.state = .kDisconnected := by
  constructor
  · rintro ⟨settled, unestablished⟩
    cases state : world.connector.state with
    | kDisconnected => rfl
    | kConnected =>
      rw [sound.placed.established.mpr state] at unestablished
      cases unestablished
    | kConnecting =>
      obtain ⟨attempt, holds, _⟩ := sound.held.attempt state
      have counted := sound.sockets.once attempt.sockfd
      rw [if_pos (World.Owns.of_channel state holds)] at counted
      split at counted
      · rename_i made
        rcases settled attempt.sockfd made with closed | handed
        · have some : 0 < world.closes attempt.sockfd := List.count_pos_iff.mpr closed
          omega
        · have some : 0 < world.handovers attempt.sockfd := List.count_pos_iff.mpr handed
          omega
      · omega
  · intro disconnected
    refine ⟨?_, (sound.placed.disconnected disconnected).1⟩
    intro sockfd made
    have finished := not_connecting_of_disconnected disconnected
    have counted := sound.sockets.once sockfd
    rw [if_neg (not_owns_of_finished finished sockfd), if_pos made] at counted
    rw [← List.count_pos_iff, ← List.count_pos_iff]
    change 0 < world.closes sockfd ∨ 0 < world.handovers sockfd
    omega

theorem Held.connecting_of_watched (held : Held world) (watched : world.isWatched = true) :
    world.connector.state = .kConnecting := by
  cases held with
  | watched _ connecting => exact connecting
  | removed _ _ holds unregistered =>
    simp [World.isWatched, holds, unregistered.unwatched] at watched
  | empty _ holds => simp [World.isWatched, holds] at watched

theorem Sound.startInLoop (sound : Sound world)
    (disconnected : world.connector.state = .kDisconnected) :
    ∃ after, world.startInLoop = .ok after ∧ Sound after := by
  refine ⟨_, by rw [World.startInLoop, check_pass _ disconnected]; rfl, ?_⟩
  refine sound.move rfl rfl sound.placed.event sound.placed.hangup ?_ (fun _ => disconnected)
  intro restarting
  dsimp only at restarting
  split at restarting
  · cases restarting
  · cases restarting

theorem Sound.restart (sound : Sound world) (restarting : world.call = .restarting) :
    Sound world.restart := by
  obtain ⟨connected, alone⟩ := sound.placed.restarting restarting
  have finished : world.connector.state ≠ .kConnecting := by
    rw [connected]
    decide
  have owns : ∀ sockfd, world.restart.Owns sockfd ↔ world.Owns sockfd := by
    intro sockfd
    exact iff_of_false (fun owns => State.noConfusion owns.1) (not_owns_of_finished finished sockfd)
  refine ⟨sound.sockets.congr owns rfl rfl rfl,
    sound.held.congr (iff_of_false State.noConfusion finished) rfl rfl, ?_⟩
  refine ⟨iff_of_false Bool.noConfusion State.noConfusion, ?_, ?_, sound.placed.hangup,
    Call.noConfusion, fun _ => rfl⟩
  · intro sockfd some
    rw [World.restart, alone] at some
    cases some
  · intro revents hangup phase
    exact absurd (sound.placed.event revents hangup phase) finished

/-- A careful step cannot be taken, or it returns and keeps everything sound. -/
theorem Sound.perform (sound : Sound world) (step : Step) (careful : Careful world step) :
    world.perform step = .error .disabled ∨ ∃ after, world.perform step = .ok after ∧
      Sound after := by
  cases step with
  | connectClient thread =>
    apply guarded_returns
    intro _
    refine Sound.setCall ?_ thread Call.noConfusion Call.noConfusion
    exact sound.quiet rfl rfl rfl rfl
  | stopClient thread =>
    apply guarded_returns
    intro _
    refine Sound.setCall ?_ thread Call.noConfusion Call.noConfusion
    exact sound.quiet rfl rfl rfl rfl
  | setConnect thread =>
    rw [World.perform]
    split
    · refine .inr ⟨_, rfl, Sound.setCall ?_ thread ?_ ?_⟩
      · exact sound.quiet rfl rfl rfl rfl
      · split <;> exact Call.noConfusion
      · split <;> exact Call.noConfusion
    · refine .inr ⟨_, rfl, Sound.setCall ?_ thread ?_ ?_⟩
      · exact sound.quiet rfl rfl rfl rfl
      · exact Call.noConfusion
      · exact Call.noConfusion
    · exact .inl rfl
  | post thread =>
    rw [World.perform]
    split
    · exact .inr ⟨_, rfl, (sound.queueInLoop Functor.noConfusion).setCall thread Call.noConfusion
        Call.noConfusion⟩
    · exact .inr ⟨_, rfl, (sound.queueInLoop Functor.noConfusion).setCall thread Call.noConfusion
        Call.noConfusion⟩
    · exact .inl rfl
  | disconnect => exact .inr ⟨_, rfl, sound.quiet rfl rfl rfl rfl⟩
  | enableRetry => exact .inr ⟨_, rfl, sound.quiet rfl rfl rfl rfl⟩
  | wait duration => exact .inr ⟨_, rfl, sound.quiet rfl rfl rfl rfl⟩
  | forceClose sockfd =>
    apply guarded_returns
    intro _
    exact sound.queueInLoop Functor.noConfusion
  | loop =>
    apply guarded_returns
    rintro ⟨outside, _⟩
    refine sound.setPhase _ world.pending ?_ (fun _ _ => Phase.noConfusion)
      (fun _ _ => Phase.noConfusion)
    simp [World.resets, World.outstanding, outside, Phase.functors]
  | epollWait event hangup =>
    apply guarded_returns
    rintro ⟨polling, watched⟩
    refine sound.setPhase _ world.pending ?_ ?_ ?_
    · simp [World.resets, World.outstanding, polling, Phase.functors]
    · intro revents other phase
      cases phase
      exact sound.held.connecting_of_watched (watched rfl)
    · intro other sockfd phase
      cases hangup with
      | true => exact (Phase.handling.inj phase).2
      | false => cases phase
  | handleEvent probe =>
    rw [World.perform]
    split
    · rename_i revents hangup phase
      split
      · obtain ⟨after, returned, kept, _⟩ :=
          (sound.handled phase).handleEvent (sound.placed.event _ _ phase)
          (fun _ _ => by rintro ⟨⟩) revents probe
        exact .inr ⟨after, returned, kept⟩
      · exact .inl rfl
    · exact .inl rfl
  | handleClose =>
    rw [World.perform]
    split
    · rename_i event sockfd phase
      split
      · have handled : Sound { world with phase := .handling event none } := by
          refine sound.setPhase _ world.pending ?_ ?_ (fun _ _ => by rintro ⟨⟩)
          · simp [World.resets, World.outstanding, phase, Phase.functors]
          · intro revents hangup same
            cases same
            exact sound.placed.event _ _ phase
        obtain ⟨after, returned, kept⟩ := handled.removeConnection (sound.placed.hangup _ _ phase)
          (fun _ _ => by rintro ⟨⟩)
        exact .inr ⟨after, returned, kept⟩
      · exact .inl rfl
    · exact .inl rfl
  | expire index =>
    rw [World.perform]
    split
    · apply guarded_returns
      intro _
      exact sound.move rfl rfl sound.placed.event sound.placed.hangup Call.noConfusion
        Call.noConfusion
    · exact .inl rfl
  | doPendingFunctors =>
    apply guarded_returns
    rintro ⟨handled, _⟩
    refine sound.setPhase _ [] ?_ (fun _ _ => Phase.noConfusion) (fun _ _ => Phase.noConfusion)
    simp [World.resets, World.outstanding, handled, Phase.functors]
  | callFunctor =>
    rw [World.perform]
    split
    · rename_i functor functors phase
      split
      · obtain ⟨after, returned, kept⟩ := sound.callFunctor phase
        exact .inr ⟨after, returned, kept⟩
      · exact .inl rfl
    · exact .inl rfl
  | endFunctors | quit =>
    apply guarded_returns
    rintro ⟨called, _⟩
    refine sound.setPhase _ world.pending ?_ (fun _ _ => Phase.noConfusion)
      (fun _ _ => Phase.noConfusion)
    simp [World.resets, World.outstanding, called, Phase.functors]
  | restart =>
    apply guarded_returns
    intro restarting
    exact sound.restart restarting
  | startInLoop =>
    rw [World.perform]
    split
    · exact .inr (sound.startInLoop (sound.idle_iff.mp careful))
    · exact .inl rfl
  | connect savedErrno =>
    rw [World.perform]
    split
    · rename_i connecting
      have returned : ∃ after, world.connect savedErrno = .ok after := by
        simp only [World.connect]
        split
        · rename_i inProgress
          exact (sound.connecting (sound.placed.connecting connecting)).mpr (careful inProgress)
        · split
          · exact ⟨_, rfl⟩
          · exact ⟨_, rfl⟩
      obtain ⟨after, performed⟩ := returned
      exact .inr ⟨after, performed, sound.connect connecting savedErrno after performed⟩
    · exact .inl rfl

theorem Sound.careful (sound : Sound world) {step : Step}
    (performed : world.perform step = .ok after) :
    Careful world step := by
  cases step with
  | startInLoop =>
    rw [World.perform] at performed
    split at performed
    · obtain ⟨disconnected, _⟩ := check_bind_eq_ok.mp performed
      exact sound.idle_iff.mpr disconnected
    · cases performed
  | connect savedErrno =>
    intro inProgress
    rw [World.perform] at performed
    split at performed
    · rename_i connecting
      simp only [World.connect, inProgress, if_true] at performed
      exact (sound.connecting (sound.placed.connecting connecting)).mp ⟨after, performed⟩
    · cases performed
  | _ => trivial

theorem Sound.step (sound : Sound world) {step : Step}
    (performed : world.perform step = .ok after) : Sound after := by
  rcases sound.perform step (sound.careful performed) with disabled | ⟨next, returned, kept⟩
  · cases disabled.symm.trans performed
  · cases returned.symm.trans performed
    exact kept

theorem run_sound {steps : List Step} (run : machine.Run .initial steps world) : Sound world :=
  run.invariant (fun _ world => Sound world) initial_sound
    (fun sound performed => sound.step performed)

/-- No assertion fails in exactly the runs of careful steps. -/
theorem consistent_iff_careful {steps : List Step} {result : Checked World} :
    (Machine.untilFault World.perform .disabled).Throughout
      (fun result => ∃ world, result = .ok world)
        (.ok .initial) steps result ↔
      ((Machine.untilFault World.perform .disabled).restrict (fun current step =>
        ∀ world, current = .ok world → Careful world step)).Run (.ok .initial) steps result := by
  refine Machine.untilFault_iff_restrict initial_sound ?_
  intro world step sound taken
  constructor
  · rintro ⟨after, performed⟩
    exact sound.careful performed
  · intro careful
    rcases sound.perform step careful with disabled | returned
    · exact absurd disabled taken
    · exact returned

/-- A retry timer outlives a `stop()` and expires in the attempt of the next `start()`. -/
def staleRetrySteps : List Step :=
  [.connectClient none, .setConnect none, .startInLoop, .connect ECONNREFUSED, .stopClient none,
    .setConnect none, .post none, .connectClient none, .setConnect none, .startInLoop,
    .connect EINPROGRESS, .wait 500, .loop, .epollWait none false, .expire 0]

/-- A retry timer expires in the iteration in which the attempt has failed. -/
def earlyRetrySteps : List Step :=
  [.connectClient none, .setConnect none, .startInLoop, .connect EINPROGRESS, .loop,
    .epollWait (some ⟨true, false, true, false⟩) false, .handleEvent ⟨ECONNREFUSED, false⟩,
    .wait 500, .expire 0, .startInLoop]

theorem not_always_consistent :
    (Machine.untilFault World.perform .disabled).Run (.ok .initial)
      (staleRetrySteps ++ [.startInLoop])
        (.error (.assertion "state_ == State::kDisconnected")) ∧
      (Machine.untilFault World.perform .disabled).Run (.ok .initial)
        (earlyRetrySteps ++ [.connect EINPROGRESS])
        (.error (.assertion "!channel_")) := by
  refine ⟨?_, ?_⟩
  · apply Machine.Run.untilFaultOfFollow Fault.noConfusion
    decide +kernel
  · apply Machine.Run.untilFaultOfFollow Fault.noConfusion
    decide +kernel

/-- A socket is owned by the channel of the attempt in progress, or was closed once, or was handed
over once, while `connect_` was set. -/
def Accounted (world : World) (sockfd : Nat) : Prop :=
  (world.Owns sockfd ∧ world.closes sockfd = 0 ∧ world.handovers sockfd = 0) ∨
    (¬ world.Owns sockfd ∧ world.closes sockfd = 1 ∧ world.handovers sockfd = 0) ∨
    (¬ world.Owns sockfd ∧ world.closes sockfd = 0 ∧ world.handovers sockfd = 1 ∧
      ∀ handover ∈ world.handed, handover.sockfd = sockfd → handover.connect = true)

theorem sockets_accounted {steps : List Step}
    (run : machine.Run .initial steps world) {sockfd : Nat} (created : sockfd < world.created) :
    Accounted world sockfd := by
  have sound := run_sound run
  have counted := sound.sockets.once sockfd
  rw [if_pos created] at counted
  by_cases owns : world.Owns sockfd
  · rw [if_pos owns] at counted
    exact .inl ⟨owns, by omega, by omega⟩
  · rw [if_neg owns] at counted
    rcases Nat.eq_zero_or_pos (world.closes sockfd) with unclosed | closed
    · exact .inr (.inr ⟨owns, unclosed, by omega, fun handover member _ =>
        sound.sockets.wanted handover member⟩)
    · exact .inr (.inl ⟨owns, by omega, by omega⟩)

/-- The first attempt is refused, the second succeeds, and the third is in progress after the
connection was lost. -/
def reconnectSteps : List Step :=
  [.enableRetry, .connectClient none, .setConnect none, .startInLoop, .connect ECONNREFUSED,
    .wait 500, .loop, .epollWait none false, .expire 0, .startInLoop, .connect EINPROGRESS,
    .doPendingFunctors, .endFunctors, .epollWait (some ⟨true, false, false, false⟩) false,
    .handleEvent ⟨0, false⟩, .doPendingFunctors, .callFunctor, .endFunctors, .epollWait none true,
    .handleClose, .restart, .startInLoop, .connect EINPROGRESS]

theorem sockets_accounted_reconnect :
    ∃ world, machine.Run .initial reconnectSteps world ∧
      (world.closes 0 = 1 ∧ world.handovers 1 = 1 ∧ world.Owns 2) ∧
        ∀ sockfd < 3, Accounted world sockfd := by
  have followed :
      (Machine.follow World.perform (fun _ _ => true) .initial reconnectSteps).any (fun world =>
      decide (world.created = 3 ∧ world.closes 0 = 1 ∧ world.handovers 1 = 1 ∧ world.Owns 2)) =
        true := by
    decide +kernel
  obtain ⟨world, run, final⟩ :=
    Machine.Run.ofFollowAny machine (fun _ performed => performed) followed
  obtain ⟨created, situations⟩ := of_decide_eq_true final
  refine ⟨world, run, situations, ?_⟩
  intro sockfd made
  exact sockets_accounted run (created ▸ made)

end Connector

end FakeMuduo.Net
