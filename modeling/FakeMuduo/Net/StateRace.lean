import FakeMuduo.Base.Machine
import FakeMuduo.Net.OutputStream

/-! `shutdown()` and `forceClose()` on other threads. Every read and every write
of `state_` is a step of its own. -/

namespace FakeMuduo.Net.StateRace

open FakeMuduo.Base

/-- Where another thread is: before the second test of `forceClose()`, about to
set the state, or about to post. -/
inductive Caller where
  | idle
  | forceClosing
  | setting (functor : Functor)
  | posting (functor : Functor)
  deriving DecidableEq, Repr

/-- Where the loop's thread is: after the assertion of `connectEstablished`, before the first
or the second test of `forceCloseInLoop` or of the assertion of `handleClose`, after that
assertion, or in `connectDestroyed` after it found the connection `kConnected`. -/
inductive LoopCall where
  | idle
  | establishing
  | forceCloseInLoop (second : Bool)
  | handleClose (second : Bool)
  | closing
  | destroying
  deriving DecidableEq, Repr

/-- `closes` counts the calls of `handleClose` that passed its assertion. -/
structure World where
  conn : TcpConnection
  callers : Nat → Caller
  pending : List Functor
  loopCall : LoopCall
  closes : Nat

def World.initial (writeCompleteCallback highWaterMarkCallback : Bool) : World where
  conn := .create writeCompleteCallback highWaterMarkCallback
  callers := fun _ => .idle
  pending := []
  loopCall := .idle
  closes := 0

/-- The first eight are the loop's thread. `handleEvent` is an event that calls
`handleClose`. -/
inductive Step where
  | connectEstablished
  | setConnected
  | handleEvent
  | runFunctor
  | test
  | setDisconnected
  | connectDestroyed
  | destroy
  | callShutdown (thread : Nat)
  | callForceClose (thread : Nat)
  | testAgain (thread : Nat)
  | setState (thread : Nat)
  | queueInLoop (thread : Nat)
  deriving DecidableEq, Repr

def World.setCaller (world : World) (thread : Nat) (caller : Caller) : World :=
  { world with callers := Function.update world.callers thread caller }

/-- The next read of `state_` by the loop's thread. -/
def test (world : World) : Checked World :=
  match world.loopCall with
  | .forceCloseInLoop false =>
    .ok { world with
      loopCall := if world.conn.state = .kConnected then .handleClose false
        else .forceCloseInLoop true }
  | .forceCloseInLoop true =>
    .ok { world with
      loopCall := if world.conn.state = .kDisconnecting then .handleClose false else .idle }
  | .handleClose false =>
    .ok { world with
      loopCall := if world.conn.state = .kConnected then .closing else .handleClose true }
  | .handleClose true => do
    check "state_ == kConnected || state_ == kDisconnecting" (world.conn.state = .kDisconnecting)
    return { world with loopCall := .closing }
  | _ => .error .disabled

def Step.perform (world : World) : Step → Checked World
  | connectEstablished =>
    if world.loopCall = .idle then do
      check "state_ == kConnecting" (world.conn.state = .kConnecting)
      return { world with loopCall := .establishing }
    else .error .disabled
  | setConnected =>
    if world.loopCall = .establishing then do
      let channel ← world.conn.channel.tie.enableReading
      return { world with
        conn := { world.conn.setState .kConnected with channel }, loopCall := .idle }
    else .error .disabled
  | handleEvent =>
    if world.loopCall = .idle ∧ world.conn.channel.interest.isSome then
      .ok { world with loopCall := .handleClose false }
    else .error .disabled
  | runFunctor =>
    match world.loopCall, world.pending with
    | .idle, .forceCloseInLoop :: pending =>
      .ok { world with pending, loopCall := .forceCloseInLoop false }
    | .idle, .shutdownInLoop :: pending =>
      .ok { world with pending, conn := world.conn.shutdownInLoop }
    | _, _ => .error .disabled
  | test => StateRace.test world
  | setDisconnected =>
    if world.loopCall = .closing then do
      let conn ← world.conn.disconnect
      return { world with conn, loopCall := .idle, closes := world.closes + 1 }
    else .error .disabled
  | connectDestroyed =>
    if world.loopCall = .idle then
      if world.conn.state = .kConnected then .ok { world with loopCall := .destroying }
      else do
        let conn ← world.conn.removeChannel
        return { world with conn }
    else .error .disabled
  | destroy =>
    if world.loopCall = .destroying then do
      let conn ← world.conn.disconnect
      let conn ← conn.removeChannel
      return { world with conn, loopCall := .idle }
    else .error .disabled
  | callShutdown thread =>
    if world.callers thread = .idle then
      .ok (if world.conn.state = .kConnected then
        world.setCaller thread (.setting .shutdownInLoop) else world)
    else .error .disabled
  | callForceClose thread =>
    if world.callers thread = .idle then
      .ok (world.setCaller thread
        (if world.conn.state = .kConnected then .setting .forceCloseInLoop else .forceClosing))
    else .error .disabled
  | testAgain thread =>
    if world.callers thread = .forceClosing then
      .ok (world.setCaller thread
        (if world.conn.state = .kDisconnecting then .setting .forceCloseInLoop else .idle))
    else .error .disabled
  | setState thread =>
    match world.callers thread with
    | .setting functor =>
      .ok ({ world with conn := world.conn.setState .kDisconnecting }.setCaller thread
        (.posting functor))
    | _ => .error .disabled
  | queueInLoop thread =>
    match world.callers thread with
    | .posting functor =>
      .ok ({ world with pending := world.pending ++ [functor] }.setCaller thread .idle)
    | _ => .error .disabled

def machine : Machine World Step := .ofFunction Step.perform

/-- The steps that do not reach the defect: a thread sets the state while the connection is
still as open as the thread found it. -/
def Careful (world : World) : Step → Prop
  | .setState _ => world.conn.state ≠ .kDisconnected
  | _ => True

instance (world : World) : (step : Step) → Decidable (Careful world step)
  | .setState _ => inferInstanceAs (Decidable (_ ≠ _))
  | .connectEstablished | .setConnected | .handleEvent | .runFunctor | .test | .setDisconnected
  | .connectDestroyed
  | .destroy | .callShutdown _ | .callForceClose _ | .testAgain _ | .queueInLoop _ => isTrue trivial

/-- Between a test and the write that follows it, the loop's thread is alone to close. -/
def LoopCall.sawOpen : LoopCall → Bool
  | establishing | closing | destroying => true
  | _ => false

structure Final (world : World) : Prop where
  once : world.closes ≤ 1
  closed : 0 < world.closes → world.conn.state = .kDisconnected
  sawOpen : world.loopCall.sawOpen = true → world.conn.state ≠ .kDisconnected

theorem unseen {loopCall : LoopCall} {conclusion : Prop} (blind : loopCall.sawOpen = false)
    (saw : loopCall.sawOpen = true) : conclusion := by
  cases blind.symm.trans saw

theorem initial_final (writeCompleteCallback highWaterMarkCallback : Bool) :
    Final (.initial writeCompleteCallback highWaterMarkCallback) :=
  ⟨Nat.zero_le _, fun some => (Nat.lt_irrefl 0 some).elim, unseen rfl⟩

variable {world after : World} {step : Step}

/-- A step that writes nothing to `state_`. -/
theorem Final.read (final : Final world) (state : after.conn.state = world.conn.state)
    (closes : after.closes = world.closes)
    (sawOpen : after.loopCall.sawOpen = true → world.conn.state ≠ .kDisconnected) :
    Final after ∧ (world.conn.state = .kDisconnected → after.conn.state = .kDisconnected) := by
  refine ⟨⟨?_, ?_, ?_⟩, ?_⟩
  · rw [closes]
    exact final.once
  · rw [closes, state]
    exact final.closed
  · rw [state]
    exact sawOpen
  · rw [state]
    exact id

theorem disconnect_state {conn next : TcpConnection} (returned : conn.disconnect = .ok next) :
    next.state = .kDisconnected := by
  obtain ⟨channel, _, returned⟩ := bind_eq_ok.mp returned
  cases returned
  rfl

theorem removeChannel_state {conn next : TcpConnection} (returned : conn.removeChannel = .ok next) :
    next.state = conn.state := by
  obtain ⟨channel, _, returned⟩ := bind_eq_ok.mp returned
  cases returned
  rfl

theorem test_final (final : Final world) (performed : test world = .ok after) :
    Final after ∧ (world.conn.state = .kDisconnected → after.conn.state = .kDisconnected) := by
  unfold test at performed
  split at performed
  · cases performed
    refine final.read rfl rfl ?_
    dsimp only
    split <;> exact unseen rfl
  · cases performed
    refine final.read rfl rfl ?_
    dsimp only
    split <;> exact unseen rfl
  · cases performed
    refine final.read rfl rfl ?_
    dsimp only
    split
    · rename_i connected
      intro _
      rw [connected]
      decide
    · exact unseen rfl
  · obtain ⟨disconnecting, performed⟩ := check_bind_eq_ok.mp performed
    cases performed
    refine final.read rfl rfl ?_
    intro _
    rw [disconnecting]
    decide
  · cases performed

theorem perform_final (final : Final world) (careful : Careful world step)
    (performed : step.perform world = .ok after) :
    Final after ∧ (world.conn.state = .kDisconnected → after.conn.state = .kDisconnected) := by
  cases step with
  | connectEstablished =>
    simp only [Step.perform] at performed
    split at performed
    · obtain ⟨connecting, performed⟩ := check_bind_eq_ok.mp performed
      cases performed
      refine final.read rfl rfl ?_
      intro _
      rw [connecting]
      decide
    · cases performed
  | setConnected =>
    simp only [Step.perform] at performed
    split at performed
    · rename_i establishing
      obtain ⟨channel, _, performed⟩ := bind_eq_ok.mp performed
      cases performed
      have connecting := final.sawOpen (by rw [establishing]; rfl)
      refine ⟨⟨final.once, ?_, unseen rfl⟩, fun disconnected => (connecting disconnected).elim⟩
      intro some
      exact (connecting (final.closed some)).elim
    · cases performed
  | handleEvent =>
    obtain ⟨_, rfl⟩ := guarded_eq_ok.mp performed
    exact final.read rfl rfl (unseen rfl)
  | runFunctor =>
    simp only [Step.perform] at performed
    split at performed
    · cases performed
      exact final.read rfl rfl (unseen rfl)
    · rename_i idle _
      cases performed
      refine final.read (TcpConnection.shutdownInLoop_state _) rfl ?_
      rw [show world.loopCall = .idle from idle]
      exact unseen rfl
    · cases performed
  | test => exact test_final final performed
  | setDisconnected =>
    simp only [Step.perform] at performed
    split at performed
    · rename_i closing
      obtain ⟨conn, returned, performed⟩ := bind_eq_ok.mp performed
      cases performed
      have isOpen := final.sawOpen (by rw [closing]; rfl)
      have first : world.closes = 0 := by
        by_contra some
        exact isOpen (final.closed (Nat.pos_of_ne_zero some))
      have state := disconnect_state returned
      exact ⟨⟨by simp [first], fun _ => state, unseen rfl⟩, fun _ => state⟩
    · cases performed
  | connectDestroyed =>
    simp only [Step.perform] at performed
    split at performed
    · rename_i idle
      split at performed
      · rename_i connected
        cases performed
        refine final.read rfl rfl ?_
        intro _
        rw [connected]
        decide
      · obtain ⟨conn, returned, performed⟩ := bind_eq_ok.mp performed
        cases performed
        refine final.read (removeChannel_state returned) rfl ?_
        rw [show world.loopCall = .idle from idle]
        exact unseen rfl
    · cases performed
  | destroy =>
    simp only [Step.perform] at performed
    split at performed
    · obtain ⟨conn, returned, performed⟩ := bind_eq_ok.mp performed
      obtain ⟨removed, channel, performed⟩ := bind_eq_ok.mp performed
      cases performed
      have state : removed.state = .kDisconnected :=
        (removeChannel_state channel).trans (disconnect_state returned)
      exact ⟨⟨final.once, fun _ => state, unseen rfl⟩, fun _ => state⟩
    · cases performed
  | callShutdown thread =>
    obtain ⟨_, rfl⟩ := guarded_eq_ok.mp performed
    split
    · exact final.read rfl rfl final.sawOpen
    · exact final.read rfl rfl final.sawOpen
  | callForceClose thread =>
    obtain ⟨_, rfl⟩ := guarded_eq_ok.mp performed
    exact final.read rfl rfl final.sawOpen
  | testAgain thread =>
    obtain ⟨_, rfl⟩ := guarded_eq_ok.mp performed
    exact final.read rfl rfl final.sawOpen
  | setState thread =>
    simp only [Step.perform] at performed
    split at performed
    · cases performed
      refine ⟨⟨final.once, ?_, ?_⟩, fun disconnected => (careful disconnected).elim⟩
      · intro some
        exact (careful (final.closed some)).elim
      · intro _ disconnected
        cases disconnected
    · cases performed
  | queueInLoop thread =>
    simp only [Step.perform] at performed
    split at performed
    · cases performed
      exact final.read rfl rfl final.sawOpen
    · cases performed

/-- In every run that avoids the defect, `kDisconnected` is final and the
connection is closed at most once. -/
theorem careful_disconnected_final {writeCompleteCallback highWaterMarkCallback : Bool}
    {steps : List Step}
    (run : (machine.restrict Careful).Run
      (.initial writeCompleteCallback highWaterMarkCallback) steps world) :
    world.closes ≤ 1 ∧ (0 < world.closes → world.conn.state = .kDisconnected) ∧
      ∀ step after, Careful world step → step.perform world = .ok after →
        world.conn.state = .kDisconnected → after.conn.state = .kDisconnected := by
  have final : Final world := by
    refine run.invariant (fun _ current => Final current) (initial_final _ _) ?_
    rintro _ current step after final ⟨careful, performed⟩
    exact (perform_final final careful performed).1
  refine ⟨final.once, final.closed, ?_⟩
  intro step after careful performed
  exact (perform_final final careful performed).2

/-- Another thread's `forceClose()` and `shutdown()` end before the loop's thread closes. -/
theorem careful_disconnected_final_sample :
    ∃ world, (machine.restrict Careful).Run (.initial false false)
        [.connectEstablished, .setConnected, .callForceClose 1, .callShutdown 2,
          .setState 1, .setState 2, .queueInLoop 1, .queueInLoop 2, .runFunctor, .test, .test,
          .test, .test, .setDisconnected, .callForceClose 1, .testAgain 1, .runFunctor] world ∧
      world.closes = 1 ∧ world.conn.state = .kDisconnected := by
  have followed : (Machine.follow Step.perform (fun world step => decide (Careful world step))
      (.initial false false)
      [.connectEstablished, .setConnected, .callForceClose 1, .callShutdown 2,
        .setState 1, .setState 2, .queueInLoop 1, .queueInLoop 2, .runFunctor, .test, .test, .test,
        .test, .setDisconnected, .callForceClose 1, .testAgain 1, .runFunctor]).any
          (fun world => world.closes == 1) = true := by
    decide +kernel
  obtain ⟨world, run, final⟩ := Machine.Run.ofFollowAny (machine.restrict Careful)
    (fun allowed performed => ⟨of_decide_eq_true allowed, performed⟩) followed
  have once : world.closes = 1 := beq_iff_eq.mp final
  exact ⟨world, run, once, (careful_disconnected_final run).2.1 (by rw [once]; decide)⟩

/-- `shutdown()` finds the connection `kConnected` and sets the state after the loop's thread has
closed it; a `forceClose()` then closes it again. -/
theorem shutdown_reopens_closed :
    ∃ closed reopened, machine.Run (.initial false false)
        [.connectEstablished, .setConnected, .callShutdown 1, .handleEvent, .test,
          .setDisconnected] closed ∧
      closed.conn.state = .kDisconnected ∧ Step.perform closed (.setState 1) = .ok reopened ∧
      reopened.conn.state = .kDisconnecting ∧
      ∃ world, machine.Run reopened
        [.callForceClose 2, .testAgain 2, .setState 2, .queueInLoop 2, .runFunctor, .test,
          .test, .test, .test, .setDisconnected] world ∧ world.closes = 2 := by
  have followed : (Machine.follow Step.perform (fun _ _ => true) (.initial false false)
      [.connectEstablished, .setConnected, .callShutdown 1, .handleEvent, .test,
        .setDisconnected]).any
      (fun closed => closed.conn.state == .kDisconnected &&
        match Step.perform closed (.setState 1) with
        | .ok reopened => reopened.conn.state == .kDisconnecting &&
          (Machine.follow Step.perform (fun _ _ => true) reopened
            [.callForceClose 2, .testAgain 2, .setState 2, .queueInLoop 2, .runFunctor, .test,
              .test, .test, .test, .setDisconnected]).any (fun world => world.closes == 2)
        | .error _ => false) = true := by
    decide +kernel
  obtain ⟨closed, run, final⟩ :=
    Machine.Run.ofFollowAny machine (fun _ performed => performed) followed
  rw [Bool.and_eq_true, beq_iff_eq] at final
  obtain ⟨disconnected, rest⟩ := final
  split at rest
  · rename_i reopened returned
    rw [Bool.and_eq_true, beq_iff_eq] at rest
    obtain ⟨world, rerun, twice⟩ :=
      Machine.Run.ofFollowAny machine (fun _ performed => performed) rest.2
    exact ⟨closed, reopened, run, disconnected, returned, rest.1, world, rerun, beq_iff_eq.mp twice⟩
  · cases rest

end FakeMuduo.Net.StateRace
