import FakeMuduo.Net.CrossThreadSend

/-! `send` and `shutdown()` on the loop's thread, `shutdown()` on any number of other threads,
and writable events, up to the close of the connection. -/

namespace FakeMuduo.Net.GracefulShutdown

open FakeMuduo.Base FakeMuduo.Util CrossThread

/-- Where another thread is in `shutdown()`: it found the connection `kConnected`, or has set
the state and is about to post. -/
inductive Caller where
  | idle | tested | stateSet
  deriving DecidableEq, Repr

/-- The same for the loop's thread, which may also be in `send`. -/
inductive LoopCall where
  | idle
  | sending (msg : List Byte)
  | tested
  | stateSet
  deriving DecidableEq, Repr

/-- `posted` are the calls of `shutdownInLoop` in the loop's queue, and `ran` those that ran,
at once or from the queue. -/
structure World where
  conn : TcpConnection
  loopCall : LoopCall
  callers : Nat → Caller
  posted : Nat
  ran : Nat

def World.initial (writeCompleteCallback highWaterMarkCallback : Bool) : World where
  conn := .established writeCompleteCallback highWaterMarkCallback
  loopCall := .idle
  callers := fun _ => .idle
  posted := 0
  ran := 0

/-- A thread calls `send` or `shutdown()` when it finds the state to be `kConnected`; otherwise
the call does nothing. -/
inductive Step where
  | callSend (msg : List Byte)
  | sendInLoop (answer : WriteAnswer)
  | callShutdown
  | setState
  | shutdownInLoop
  | handleWrite (answer : WriteAnswer)
  | runFunctor
  | foreignShutdown (thread : Nat)
  | foreignSetState (thread : Nat)
  | foreignQueueInLoop (thread : Nat)

/-- The functors that `send` and `handleWrite` queue only call the user back. -/
def Step.perform (log : Log) (world : World) : Step → Checked World
  | callSend msg =>
    if world.loopCall = .idle ∧ world.conn.state = .kConnected then
      .ok { world with loopCall := .sending msg }
    else .error .disabled
  | sendInLoop answer =>
    match world.loopCall with
    | .sending msg => do
      let (conn, _) ← world.conn.sendInLoop log msg answer
      return { world with conn, loopCall := .idle }
    | _ => .error .disabled
  | callShutdown =>
    if world.loopCall = .idle ∧ world.conn.state = .kConnected then
      .ok { world with loopCall := .tested }
    else .error .disabled
  | setState =>
    if world.loopCall = .tested then
      .ok { world with conn := world.conn.setState .kDisconnecting, loopCall := .stateSet }
    else .error .disabled
  | shutdownInLoop =>
    if world.loopCall = .stateSet then
      .ok { world with conn := world.conn.shutdownInLoop, loopCall := .idle, ran := world.ran + 1 }
    else .error .disabled
  | handleWrite answer =>
    if world.loopCall = .idle then do
      let (conn, _) ← world.conn.handleWrite answer
      return { world with conn }
    else .error .disabled
  | runFunctor =>
    if world.loopCall = .idle ∧ 0 < world.posted then
      .ok { world with
        conn := world.conn.shutdownInLoop, posted := world.posted - 1, ran := world.ran + 1 }
    else .error .disabled
  | foreignShutdown thread =>
    if world.callers thread = .idle ∧ world.conn.state = .kConnected then
      .ok { world with callers := Function.update world.callers thread .tested }
    else .error .disabled
  | foreignSetState thread =>
    if world.callers thread = .tested then
      .ok { world with
        conn := world.conn.setState .kDisconnecting,
        callers := Function.update world.callers thread .stateSet }
    else .error .disabled
  | foreignQueueInLoop thread =>
    if world.callers thread = .stateSet then
      .ok { world with
        callers := Function.update world.callers thread .idle, posted := world.posted + 1 }
    else .error .disabled

def machine (log : Log) : Machine World Step := .ofFunction (Step.perform log)

/-- Nobody has changed the state yet. -/
structure Untouched (world : World) : Prop where
  unshut : world.conn.socket.shutdownAt = none
  unran : world.ran = 0
  unposted : world.posted = 0
  loopThread : world.loopCall ≠ .stateSet
  others : ∀ thread, world.callers thread ≠ .stateSet

structure Graceful (world : World) : Prop where
  live : world.conn.Live
  shut : ShutClean world.conn
  connected : world.conn.state = .kConnected → Untouched world
  sending : ∀ msg, world.loopCall = .sending msg →
    world.conn.socket.shutdownAt = none ∧ world.ran = 0
  requested : 0 < world.ran → world.conn.channel.isWriting = true ∨
    world.conn.socket.shutdownAt ≠ none

theorem initial_graceful (writeCompleteCallback highWaterMarkCallback : Bool) :
    Graceful (.initial writeCompleteCallback highWaterMarkCallback) where
  live := TcpConnection.established_live _ _
  shut := by
    intro count found
    cases found
  connected := by
    intro _
    exact ⟨rfl, rfl, rfl, nofun, nofun⟩
  sending := nofun
  requested := nofun

variable {world after : World} {log : Log} {step : Step}

theorem Graceful.setState (graceful : Graceful world) (loopCall : LoopCall) (callers : Nat → Caller)
    (silent : ∀ msg, loopCall = .sending msg → world.loopCall = .sending msg) :
    Graceful { world with conn := world.conn.setState .kDisconnecting, loopCall, callers } where
  live := graceful.live.setState rfl
  shut := graceful.shut
  connected := nofun
  sending := fun msg now => graceful.sending msg (silent msg now)
  requested := graceful.requested

/-- `shutdownInLoop` runs once the state was set. -/
theorem Graceful.shutdownInLoop (graceful : Graceful world) (touched : ¬ Untouched world)
    (posted : Nat) :
    Graceful { world with
      conn := world.conn.shutdownInLoop, loopCall := .idle, posted, ran := world.ran + 1 } where
  live := graceful.live.shutdownInLoop
  shut := shutdownInLoop_shut graceful.live graceful.shut
  connected := by
    intro connected
    rw [TcpConnection.shutdownInLoop_state] at connected
    exact (touched (graceful.connected connected)).elim
  sending := nofun
  requested := fun _ => shutdownInLoop_done world.conn

theorem Graceful.perform (graceful : Graceful world)
    (performed : step.perform log world = .ok after) :
    Graceful after := by
  cases step with
  | callSend msg =>
    obtain ⟨⟨_, connected⟩, rfl⟩ := guarded_eq_ok.mp performed
    have untouched := graceful.connected connected
    exact ⟨graceful.live, graceful.shut, fun _ =>
      ⟨untouched.unshut, untouched.unran, untouched.unposted, nofun, untouched.others⟩, fun _ _ =>
        ⟨untouched.unshut, untouched.unran⟩, graceful.requested⟩
  | sendInLoop answer =>
    simp only [Step.perform] at performed
    split at performed
    · rename_i msg sending
      obtain ⟨unshut, unran⟩ := graceful.sending msg sending
      obtain ⟨conn, queued, returned, live, state, shutdownAt, _⟩ :=
        TcpConnection.sendInLoop_live log graceful.live msg answer
      rw [returned] at performed
      cases performed
      have still : conn.socket.shutdownAt = none := shutdownAt.trans unshut
      refine ⟨live, ?_, ?_, nofun, ?_⟩
      · intro count found
        cases still.symm.trans found
      · intro connected
        have untouched := graceful.connected (state.symm.trans connected)
        exact ⟨still, unran, untouched.unposted, nofun, untouched.others⟩
      · intro some
        rw [unran] at some
        cases some
    · cases performed
  | callShutdown =>
    obtain ⟨⟨_, connected⟩, rfl⟩ := guarded_eq_ok.mp performed
    have untouched := graceful.connected connected
    exact ⟨graceful.live, graceful.shut, fun _ =>
      ⟨untouched.unshut, untouched.unran, untouched.unposted, nofun, untouched.others⟩, nofun,
        graceful.requested⟩
  | setState =>
    obtain ⟨_, rfl⟩ := guarded_eq_ok.mp performed
    exact graceful.setState .stateSet world.callers nofun
  | shutdownInLoop =>
    obtain ⟨stateSet, rfl⟩ := guarded_eq_ok.mp performed
    exact graceful.shutdownInLoop (fun untouched => untouched.loopThread stateSet) world.posted
  | handleWrite answer =>
    simp only [Step.perform] at performed
    split at performed
    · rename_i idle
      obtain ⟨conn, queued, returned, live, state, _⟩ :=
        TcpConnection.handleWrite_live graceful.live answer
      obtain ⟨shut, open', done⟩ := handleWrite_shut graceful.live graceful.shut returned
      rw [returned] at performed
      cases performed
      refine ⟨live, shut, ?_, ?_, ?_⟩
      · intro connected
        have before : world.conn.state = .kConnected := state.symm.trans connected
        have untouched := graceful.connected before
        refine ⟨?_, untouched.unran, untouched.unposted, untouched.loopThread, untouched.others⟩
        exact (open' (by rw [before]; decide)).trans untouched.unshut
      · intro msg sending
        cases idle.symm.trans sending
      · intro some
        have disconnecting : world.conn.state = .kDisconnecting := by
          rcases (TcpConnection.isOpen_iff _).mp graceful.live.isOpen with connected | disconnecting
          · have positive : 0 < world.ran := some
            rw [(graceful.connected connected).unran] at positive
            cases positive
          · exact disconnecting
        rcases done disconnecting with same | shutOrWriting
        · rw [same]
          exact graceful.requested some
        · exact shutOrWriting
    · cases performed
  | runFunctor =>
    obtain ⟨⟨idle, posted⟩, rfl⟩ := guarded_eq_ok.mp performed
    have touched : ¬ Untouched world := by
      intro untouched
      have none := untouched.unposted
      omega
    have ran := graceful.shutdownInLoop touched (world.posted - 1)
    rwa [← idle] at ran
  | foreignShutdown thread =>
    obtain ⟨⟨_, connected⟩, rfl⟩ := guarded_eq_ok.mp performed
    have untouched := graceful.connected connected
    refine ⟨graceful.live, graceful.shut, fun _ =>
      ⟨untouched.unshut, untouched.unran, untouched.unposted, untouched.loopThread, ?_⟩,
        graceful.sending, graceful.requested⟩
    intro other
    by_cases same : other = thread
    · simp [same]
    · simpa [same] using untouched.others other
  | foreignSetState thread =>
    obtain ⟨_, rfl⟩ := guarded_eq_ok.mp performed
    exact graceful.setState world.loopCall _ (fun _ same => same)
  | foreignQueueInLoop thread =>
    obtain ⟨stateSet, rfl⟩ := guarded_eq_ok.mp performed
    refine ⟨graceful.live, graceful.shut, ?_, graceful.sending, graceful.requested⟩
    intro connected
    exact ((graceful.connected connected).others thread stateSet).elim

/-- Until the connection is closed, the write side is shut down only when nothing is buffered,
nothing is written after that, and a `shutdown()` whose `shutdownInLoop` ran is not forgotten. -/
theorem graceful_shutdown {writeCompleteCallback highWaterMarkCallback : Bool} {steps : List Step}
    (run : (machine log).Run (.initial writeCompleteCallback highWaterMarkCallback) steps world) :
    (∀ count, world.conn.socket.shutdownAt = some count →
        world.conn.outputBuffer.readableBytes = 0 ∧ world.conn.socket.accepted.length = count) ∧
      (0 < world.ran → world.conn.outputBuffer.readableBytes = 0 →
        world.conn.socket.shutdownAt ≠ none) := by
  have graceful : Graceful world := by
    refine run.invariant (fun _ current => Graceful current) (initial_graceful _ _) ?_
    intro _ current step after graceful performed
    exact graceful.perform performed
  refine ⟨?_, ?_⟩
  · intro count shutdownAt
    obtain ⟨length, empty⟩ := graceful.shut count shutdownAt
    exact ⟨empty, length.symm⟩
  · intro ran empty
    rcases graceful.requested ran with writing | shut
    · have filled := graceful.live.writing.mp writing
      omega
    · exact shut

/-- Another thread's `shutdown()` comes while half of a message is still buffered. -/
def sampleSteps : List Step :=
  [.callSend [104, 105], .foreignShutdown 4, .foreignSetState 4, .sendInLoop (.wrote 1),
    .foreignQueueInLoop 4, .runFunctor, .handleWrite (.wrote 9)]

theorem graceful_shutdown_sample :
    ∃ world, (machine ⟨.kINFO, none⟩).Run (.initial false false) sampleSteps world ∧ world.ran = 1 ∧
      world.conn.socket.accepted = [104, 105] ∧ world.conn.outputBuffer.readableBytes = 0 ∧
      world.conn.socket.shutdownAt ≠ none := by
  have followed :
      (Machine.follow (Step.perform ⟨.kINFO, none⟩) (fun _ _ => true) (.initial false false)
      sampleSteps).any (fun world => world.ran == 1 && world.conn.socket.accepted == [104, 105] &&
        world.conn.outputBuffer.readableBytes == 0) = true := by
    decide +kernel
  obtain ⟨world, run, final⟩ := Machine.Run.ofFollowAny (machine ⟨.kINFO, none⟩)
    (fun _ performed => performed) followed
  simp only [Bool.and_eq_true, beq_iff_eq] at final
  obtain ⟨⟨ran, accepted⟩, empty⟩ := final
  exact ⟨world, run, ran, accepted, empty, (graceful_shutdown run).2 (by rw [ran]; decide) empty⟩

end FakeMuduo.Net.GracefulShutdown
