import FakeMuduo.Net.ReadControl

namespace FakeMuduo.Net

open FakeMuduo.Base FakeMuduo.Util

namespace Channel

variable {channel result : Channel}

/-- A channel in use: the kernel watches it with some interest, or it has none. -/
def Watched (channel : Channel) : Prop :=
  channel.Polled ∧ channel.events ≠ .kNoneEvent ∨ channel.Parked

theorem Watched.enable (watched : channel.Watched) (events : Events) (some : events ≠ .kNoneEvent) :
    ∃ result, { channel with events }.update = .ok result ∧ result.Watched ∧
      result.events = events := by
  rcases watched with ⟨polled, _⟩ | parked
  · have registered : { channel with events }.registered = true := polled.registered
    obtain ⟨result, updated, polled, same⟩ :=
      update_polled registered polled.added (by simp [polled.mirrored]) some
    exact ⟨result, updated, .inl ⟨polled, by rwa [same]⟩, same⟩
  · rcases channel with ⟨_, index, tied, addedToLoop, mapped, interest⟩
    obtain ⟨rfl, rfl, rfl, rfl⟩ := parked
    exact ⟨_, rfl, .inl ⟨⟨rfl, rfl, rfl⟩, some⟩, rfl⟩

/-- Interest that a channel has can be taken away. -/
theorem Watched.disable (watched : channel.Watched) (some : channel.events ≠ .kNoneEvent)
    (events : Events) :
    ∃ result, { channel with events }.update = .ok result ∧ result.Watched ∧
      result.events = events := by
  rcases watched with ⟨polled, _⟩ | parked
  · by_cases none : events = .kNoneEvent
    · subst none
      obtain ⟨result, updated, parked⟩ := disableAll_parked polled
      exact ⟨result, updated, .inr parked, parked.silent⟩
    · exact Watched.enable (.inl ⟨polled, some⟩) events none
  · exact (some parked.silent).elim

theorem Watched.disableAll (watched : channel.Watched) (some : channel.events ≠ .kNoneEvent) :
    ∃ result, channel.disableAll = .ok result ∧ result.Parked := by
  rcases watched with ⟨polled, _⟩ | parked
  · exact disableAll_parked polled
  · exact (some parked.silent).elim

theorem events_ne_of_reading (reading : channel.isReading = true) :
    channel.events ≠ .kNoneEvent := by
  intro none
  rw [isReading, none] at reading
  cases reading

theorem events_ne_of_writing (writing : channel.isWriting = true) :
    channel.events ≠ .kNoneEvent := by
  intro none
  rw [isWriting, none] at writing
  cases writing

end Channel

namespace TcpConnection

variable {conn next : TcpConnection} {log : Log}

/-- An open connection, which may have stopped reading. -/
structure Steady (conn : TcpConnection) : Prop where
  isOpen : conn.isOpen = true
  watched : conn.channel.Watched
  reading : conn.reading = conn.channel.isReading
  output : conn.outputBuffer.Valid

theorem Steady.congr (steady : Steady conn) (isOpen : next.isOpen = true)
    (channel : next.channel = conn.channel) (reading : next.reading = conn.reading)
    (output : next.outputBuffer.Valid) :
    Steady next where
  isOpen := isOpen
  watched := by
    rw [channel]
    exact steady.watched
  reading := by
    rw [channel, reading]
    exact steady.reading
  output := output

theorem Steady.setInput (steady : Steady conn) (inputBuffer : Buffer) :
    Steady { conn with inputBuffer } :=
  ⟨steady.isOpen, steady.watched, steady.reading, steady.output⟩

theorem established_steady (writeCompleteCallback highWaterMarkCallback : Bool) :
    Steady (established writeCompleteCallback highWaterMarkCallback) :=
  ⟨rfl, .inl ⟨⟨rfl, rfl, rfl⟩, nofun⟩, rfl, Buffer.create_valid _⟩

theorem Steady.shutdownInLoop (steady : Steady conn) : Steady conn.shutdownInLoop := by
  unfold TcpConnection.shutdownInLoop
  split
  · exact steady
  · exact steady.congr steady.isOpen rfl rfl steady.output

theorem Steady.bufferRemaining (steady : Steady conn) (remaining : List Byte) :
    ∃ next queued, conn.bufferRemaining remaining = .ok (next, queued) ∧ Steady next := by
  obtain ⟨outputBuffer, appended, valid, _⟩ := Buffer.append_returns steady.output remaining
  simp only [TcpConnection.bufferRemaining, appended, ok_bind]
  by_cases awaiting : conn.channel.isWriting = true
  · simp only [awaiting, if_true]
    exact ⟨_, _, rfl, steady.congr steady.isOpen rfl rfl valid⟩
  · obtain ⟨channel, enabled, watched, events⟩ :=
      steady.watched.enable { conn.channel.events with write := true } (by simp [Events.kNoneEvent])
    have enabled : conn.channel.enableWriting = .ok channel := enabled
    simp only [awaiting, enabled, ok_bind]
    refine ⟨_, _, rfl, steady.isOpen, watched, ?_, valid⟩
    simpa [Channel.isReading, events] using steady.reading

theorem Steady.writeDirect (steady : Steady conn) (log : Log) (msg : List Byte)
    (answer : WriteAnswer) :
    Steady (TcpConnection.writeDirect log conn msg answer).conn := by
  unfold TcpConnection.writeDirect
  split
  · cases answer with
    | wrote count => exact steady.congr steady.isOpen rfl rfl steady.output
    | failed errno => exact steady
  · exact steady

theorem Steady.sendString (steady : Steady conn) (log : Log) (msg : List Byte)
    (answer : WriteAnswer) :
    ∃ next queued, conn.sendString log msg answer = .ok (next, queued) ∧ Steady next := by
  unfold TcpConnection.sendString
  split
  · rename_i connected
    have fits : msg.length - (TcpConnection.writeDirect log conn msg answer).nwrote ≤ msg.length :=
      Nat.sub_le _ _
    have direct := steady.writeDirect log msg answer
    simp only [sendInLoop, connected, reduceCtorEq, if_false, check_pass _ fits, ok_bind]
    split
    · obtain ⟨next, queued, buffered, kept⟩ := direct.bufferRemaining
        (msg.drop (TcpConnection.writeDirect log conn msg answer).nwrote)
      rw [buffered]
      exact ⟨next, _, rfl, kept⟩
    · exact ⟨_, _, rfl, direct⟩
  · exact ⟨conn, [], rfl, steady⟩

theorem Steady.handleWrite (steady : Steady conn) (answer : WriteAnswer) :
    ∃ next queued, conn.handleWrite answer = .ok (next, queued) ∧ Steady next := by
  unfold TcpConnection.handleWrite
  by_cases awaiting : conn.channel.isWriting = true
  · rw [if_pos awaiting]
    cases answer with
    | failed errno => exact ⟨conn, [], rfl, steady⟩
    | wrote count =>
      simp only
      have enough : min count conn.outputBuffer.readableBytes ≤ conn.outputBuffer.readableBytes :=
        Nat.min_le_right _ _
      generalize min count conn.outputBuffer.readableBytes = taken at *
      split
      · obtain ⟨outputBuffer, retrieved, valid, _⟩ := Buffer.retrieve_returns steady.output enough
        have unread : (conn.accept (conn.outputBuffer.toString.take taken)).outputBuffer =
          conn.outputBuffer := rfl
        have drained : Steady (conn.drainedTo taken outputBuffer) :=
          steady.congr steady.isOpen rfl rfl valid
        simp only [unread, retrieved, ok_bind]
        split
        · obtain ⟨channel, disabled, watched, events⟩ :=
            steady.watched.disable (Channel.events_ne_of_writing awaiting)
              { conn.channel.events with write := false }
          have disabled :
              (conn.accept (conn.outputBuffer.toString.take taken)).channel.disableWriting =
              .ok channel :=
            disabled
          have silent : Steady { conn.drainedTo taken outputBuffer with channel } :=
            ⟨steady.isOpen, watched, by simpa [drainedTo, accept, Channel.isReading, events]
              using steady.reading, valid⟩
          simp only [disabled, ok_bind]
          refine ⟨_, _, rfl, ?_⟩
          split
          · exact silent.shutdownInLoop
          · exact silent
        · exact ⟨_, _, rfl, drained⟩
      · exact ⟨conn, [], rfl, steady⟩
  · rw [if_neg awaiting]
    exact ⟨conn, [], rfl, steady⟩

theorem Steady.startReadInLoop (steady : Steady conn) :
    ∃ next, conn.startReadInLoop = .ok next ∧ Steady next := by
  unfold TcpConnection.startReadInLoop
  split
  · obtain ⟨channel, enabled, watched, events⟩ :=
      steady.watched.enable { conn.channel.events with read := true } (by simp [Events.kNoneEvent])
    have enabled : conn.channel.enableReading = .ok channel := enabled
    simp only [enabled, ok_bind]
    exact ⟨_, rfl, steady.isOpen, watched, by simp [Channel.isReading, events], steady.output⟩
  · exact ⟨conn, rfl, steady⟩

theorem Steady.stopReadInLoop (steady : Steady conn) :
    ∃ next, conn.stopReadInLoop = .ok next ∧ Steady next := by
  unfold TcpConnection.stopReadInLoop
  split
  · rename_i effective
    have reading : conn.channel.isReading = true := by simpa [steady.reading] using effective
    obtain ⟨channel, disabled, watched, events⟩ :=
      steady.watched.disable (Channel.events_ne_of_reading reading)
        { conn.channel.events with read := false }
    have disabled : conn.channel.disableReading = .ok channel := disabled
    simp only [disabled, ok_bind]
    exact ⟨_, rfl, steady.isOpen, watched, by simp [Channel.isReading, events], steady.output⟩
  · exact ⟨conn, rfl, steady⟩

theorem Steady.handleClose (steady : Steady conn) (some : conn.channel.events ≠ .kNoneEvent) :
    ∃ next, conn.handleClose = .ok next ∧ next.Closed := by
  obtain ⟨channel, disabled, parked⟩ := steady.watched.disableAll some
  refine ⟨{ conn.setState .kDisconnected with channel }, ?_, ⟨rfl, parked⟩⟩
  simp only [TcpConnection.handleClose, check_pass _ steady.isOpen, ok_bind, disabled]
  rfl

end TcpConnection

namespace ReadControl

open TcpServer (Work Revents)

variable {world after : World} {log : Log}

/-- The handler may call `handleClose`. -/
def mayClose : Work → Bool
  | .handleClose _ | .handleRead _ => true
  | _ => false

structure Good (world : World) : Prop where
  once : world.works.countP mayClose + world.closes ≤ 1
  before : world.closes = 0 → world.conn.Steady ∧ world.destroyed = false
  closed : 0 < world.closes → world.conn.state = .kDisconnected ∧
    if world.destroyed then world.conn.channel.Unregistered else world.conn.channel.Parked

theorem initial_good (writeCompleteCallback highWaterMarkCallback : Bool) :
    Good (.initial writeCompleteCallback highWaterMarkCallback) where
  once := Nat.zero_le _
  before := fun _ => ⟨TcpConnection.established_steady _ _, rfl⟩
  closed := nofun

/-- A step is taken and keeps the invariant, or cannot be taken now. -/
def Settles (result : Checked World) : Prop :=
  result = .error .disabled ∨ ∃ after, result = .ok after ∧ Good after

/-- A step of an open connection that does not close it. -/
theorem Good.steady (good : Good world) (unclosed : world.closes = 0) {conn : TcpConnection}
    (steady : conn.Steady) (queue : List Functor) {works : List Work}
    (fewer : works.countP mayClose ≤ world.works.countP mayClose) :
    Good { world with conn, queue, works } where
  once := Nat.le_trans (Nat.add_le_add_right fewer _) good.once
  before := fun _ => ⟨steady, (good.before unclosed).2⟩
  closed := fun some => absurd some (by rw [unclosed]; exact Nat.lt_irrefl 0)

/-- A step that finds the connection closed and leaves it so. -/
theorem Good.stays (good : Good world) (queue : List Functor) {works : List Work}
    (fewer : works.countP mayClose ≤ world.works.countP mayClose) :
    Good { world with queue, works } where
  once := Nat.le_trans (Nat.add_le_add_right fewer _) good.once
  before := good.before
  closed := good.closed

theorem handleClose_good (good : Good world) (unclosed : world.closes = 0)
    (interested : world.conn.channel.isNoneEvent = false) (last : world.works.countP mayClose = 0) :
    Settles (handleClose world) := by
  obtain ⟨steady, alive⟩ := good.before unclosed
  have some : world.conn.channel.events ≠ .kNoneEvent := by
    intro none
    rw [Channel.isNoneEvent, none] at interested
    cases interested
  obtain ⟨conn, returned, closed⟩ := steady.handleClose some
  refine .inr ⟨{ world with conn, closes := world.closes + 1 }, ?_, ?_⟩
  · rw [handleClose, returned]
    rfl
  · refine ⟨?_, fun none => (Nat.succ_ne_zero _ none).elim, fun _ => ⟨closed.disconnected, ?_⟩⟩
    · simp [last, unclosed]
    · rw [alive]
      exact closed.parked

/-- No event leads to two handlers that may close. -/
theorem handleEvent_once (revents : Revents) :
    (TcpServer.handleEvent 0 revents).countP mayClose ≤ 1 := by
  obtain ⟨pollin, pollpri, pollout, pollhup, pollrdhup, pollerr, pollnval, unasked, readable⟩ :=
    revents
  subst unasked
  cases pollin <;> cases pollpri <;> cases pollout <;> cases pollhup <;>
    simp [TcpServer.handleEvent, List.countP_cons, mayClose] at readable ⊢

theorem handle_steady {work : Work} {works : List Work} (good : Good world)
    (unclosed : world.closes = 0) (next : world.works = work :: works) (readAnswer : ReadAnswer)
    (writeAnswer : WriteAnswer) (careful : Careful world (.handle readAnswer writeAnswer)) :
    Settles (handle { world with works } readAnswer writeAnswer work) := by
  obtain ⟨steady, alive⟩ := good.before unclosed
  have fewer : works.countP mayClose ≤ world.works.countP mayClose := by
    rw [next, List.countP_cons]
    exact Nat.le_add_right _ _
  have popped : Good { world with works } := good.stays world.queue fewer
  have last : mayClose work = true → works.countP mayClose = 0 := by
    intro closer
    have once := good.once
    rw [next, List.countP_cons, if_pos closer] at once
    omega
  cases work with
  | handleClose id =>
    exact handleClose_good popped unclosed (careful (by simp [Step.closes, next])) (last rfl)
  | handleRead id =>
    cases readAnswer with
    | data first rest =>
      obtain ⟨inputBuffer, received⟩ := world.conn.receive_returns (first :: rest)
      refine .inr ⟨{ world with works, conn := { world.conn with inputBuffer } }, ?_,
        good.steady unclosed (steady.setInput inputBuffer) world.queue fewer⟩
      simp only [handle, handleRead, received, ok_bind]
      rfl
    | endOfStream =>
      have never := careful (by simp [Step.closes, next])
      exact handleClose_good popped unclosed never (last rfl)
    | failed errno => exact .inr ⟨{ world with works }, rfl, popped⟩
  | handleWrite id =>
    obtain ⟨conn, queued, returned, kept⟩ := steady.handleWrite writeAnswer
    refine .inr ⟨{ world with works, conn, queue := world.queue ++ queued }, ?_,
      good.steady unclosed kept (world.queue ++ queued) fewer⟩
    simp only [handle, handleWrite, returned, ok_bind]
    rfl
  | closeCallback id => exact .inl rfl
  | removeChannel id => exact .inl rfl
  | callback => exact .inl rfl

theorem perform_steady (good : Good world) (unclosed : world.closes = 0) (step : Step)
    (careful : Careful world step) :
    Settles (step.perform log world) := by
  obtain ⟨steady, alive⟩ := good.before unclosed
  cases step with
  | send msg answer =>
    obtain ⟨conn, queued, returned, kept⟩ := steady.sendString log msg answer
    refine .inr ⟨{ world with conn, queue := world.queue ++ queued }, ?_,
      good.steady unclosed kept (world.queue ++ queued) (Nat.le_refl _)⟩
    simp only [Step.perform, returned, ok_bind]
    rfl
  | shutdown =>
    refine .inr ⟨_, rfl, good.steady unclosed ?_ world.queue (Nat.le_refl _)⟩
    unfold TcpConnection.shutdown
    split
    · exact TcpConnection.Steady.shutdownInLoop (steady.congr rfl rfl rfl steady.output)
    · exact steady
  | forceClose =>
    refine .inr ⟨_, rfl, good.steady unclosed ?_ (world.queue ++ world.conn.forceClose.2)
      (Nat.le_refl _)⟩
    rw [TcpConnection.forceClose, if_pos steady.isOpen]
    exact steady.congr rfl rfl rfl steady.output
  | startRead =>
    obtain ⟨conn, returned, kept⟩ := steady.startReadInLoop
    refine .inr ⟨{ world with conn }, ?_, good.steady unclosed kept world.queue (Nat.le_refl _)⟩
    simp only [Step.perform, returned, ok_bind]
    rfl
  | stopRead =>
    obtain ⟨conn, returned, kept⟩ := steady.stopReadInLoop
    refine .inr ⟨{ world with conn }, ?_, good.steady unclosed kept world.queue (Nat.le_refl _)⟩
    simp only [Step.perform, returned, ok_bind]
    rfl
  | consume inputBuffer =>
    exact .inr ⟨_, rfl, good.steady unclosed (steady.setInput inputBuffer) world.queue
      (Nat.le_refl _)⟩
  | poll revents =>
    simp only [Step.perform]
    split
    · refine .inr ⟨_, rfl, ?_, good.before, good.closed⟩
      rw [unclosed]
      exact handleEvent_once revents
    · exact .inl rfl
  | handle readAnswer writeAnswer =>
    simp only [Step.perform]
    split
    · rename_i work works next
      exact handle_steady good unclosed next readAnswer writeAnswer careful
    · exact .inl rfl
  | runFunctor =>
    simp only [Step.perform]
    split
    · rename_i functor queue idle queued
      have popped : Good { world with queue } := good.stays queue (Nat.le_refl _)
      cases functor with
      | forceCloseInLoop =>
        simp only [runFunctor, steady.isOpen, if_true]
        refine handleClose_good popped unclosed (careful ?_) (by simp [idle])
        simp [Step.closes, idle, queued, steady.isOpen]
      | _ => exact .inr ⟨_, rfl, popped⟩
    · exact .inl rfl
  | connectDestroyed =>
    left
    simp [Step.perform, unclosed]

/-- A closed connection takes no step that changes it but its destruction. -/
theorem perform_closed (good : Good world) (some : 0 < world.closes) (step : Step)
    (careful : Careful world step) :
    Settles (step.perform log world) := by
  obtain ⟨disconnected, channel⟩ := good.closed some
  have idle : world.conn.isOpen = false := by
    rw [TcpConnection.isOpen, disconnected]
    rfl
  have silent : world.conn.channel.events = .kNoneEvent ∧ world.conn.channel.interest = none := by
    split at channel
    · exact ⟨channel.silent, channel.unwatched⟩
    · exact ⟨channel.silent, channel.unwatched⟩
  have once := good.once
  cases step with
  | send msg answer =>
    refine .inr ⟨{ world with queue := world.queue ++ [] }, ?_,
      good.stays (world.queue ++ []) (Nat.le_refl _)⟩
    simp only [Step.perform, (TcpConnection.not_open_idle idle log msg answer).1, ok_bind]
    rfl
  | shutdown =>
    refine .inr ⟨world, ?_, good⟩
    rw [Step.perform, (TcpConnection.not_open_idle idle log [] (.wrote 0)).2.1]
  | forceClose =>
    refine .inr ⟨{ world with queue := world.queue ++ [] }, ?_,
      good.stays (world.queue ++ []) (Nat.le_refl _)⟩
    rw [Step.perform, (TcpConnection.not_open_idle idle log [] (.wrote 0)).2.2]
  | startRead => exact (careful disconnected).elim
  | stopRead =>
    refine .inr ⟨world, ?_, good⟩
    have still : world.conn.stopReadInLoop = .ok world.conn := by
      simp only [TcpConnection.stopReadInLoop, careful disconnected, Channel.isReading, silent.1]
      rfl
    simp only [Step.perform, still, ok_bind]
    rfl
  | consume inputBuffer =>
    refine .inr ⟨_, rfl, once, fun none => ?_, fun _ => ⟨disconnected, channel⟩⟩
    exact absurd some (by rw [none]; exact Nat.lt_irrefl 0)
  | poll revents =>
    left
    simp [Step.perform, silent.2]
  | handle readAnswer writeAnswer =>
    simp only [Step.perform]
    split
    · rename_i work works next
      have none : mayClose work = false := by
        by_contra closer
        rw [next, List.countP_cons, if_pos (by simpa using closer)] at once
        omega
      have fewer : works.countP mayClose ≤ world.works.countP mayClose := by
        rw [next, List.countP_cons]
        exact Nat.le_add_right _ _
      cases work with
      | handleClose id => cases none
      | handleRead id => cases none
      | handleWrite id =>
        refine .inr ⟨{ world with works, queue := world.queue ++ [] }, ?_,
          good.stays (world.queue ++ []) fewer⟩
        simp only [handle, handleWrite,
          TcpConnection.handleWrite_silent silent.1 writeAnswer, ok_bind]
        rfl
      | closeCallback id => exact .inl rfl
      | removeChannel id => exact .inl rfl
      | callback => exact .inl rfl
    · exact .inl rfl
  | runFunctor =>
    simp only [Step.perform]
    split
    · rename_i functor queue _ _
      have popped : Good { world with queue } := good.stays queue (Nat.le_refl _)
      cases functor with
      | forceCloseInLoop =>
        refine .inr ⟨{ world with queue }, ?_, popped⟩
        simp [runFunctor, idle]
      | _ => exact .inr ⟨_, rfl, popped⟩
    · exact .inl rfl
  | connectDestroyed =>
    simp only [Step.perform]
    split
    · rename_i now
      rw [now.2.2] at channel
      have closed : world.conn.Closed := ⟨disconnected, channel⟩
      obtain ⟨conn, removed, gone⟩ := TcpConnection.removeChannel_gone closed
      refine .inr ⟨{ world with conn, destroyed := true }, ?_, once,
        fun none => absurd some (by rw [none]; exact Nat.lt_irrefl 0), fun _ =>
          ⟨gone.disconnected, gone.unregistered⟩⟩
      simp only [connectDestroyed, closed.unconnected, if_false, removed, ok_bind, pure_bind]
      rfl
    · exact .inl rfl

/-- In every run that avoids the defect a closed connection stays closed: its descriptor is out
of the kernel's set, its channel has no interest, and no assertion fails. -/
theorem careful_stays_closed {writeCompleteCallback highWaterMarkCallback : Bool}
    {steps : List Step}
    (run : ((machine log).restrict Careful).Run
      (.initial writeCompleteCallback highWaterMarkCallback) steps world) :
    world.closes ≤ 1 ∧
      (0 < world.closes → world.conn.channel.interest = none ∧
        world.conn.channel.isNoneEvent = true) ∧
      ∀ step, Careful world step → ∀ fault, step.perform log world = .error fault →
        fault = .disabled := by
  have settles : ∀ {world : World}, Good world → ∀ step, Careful world step →
      Settles (step.perform log world) := by
    intro world good step careful
    rcases Nat.eq_zero_or_pos world.closes with unclosed | some
    · exact perform_steady good unclosed step careful
    · exact perform_closed good some step careful
  have good : Good world := by
    refine run.invariant (fun _ current => Good current) (initial_good _ _) ?_
    rintro _ current step after good ⟨careful, performed⟩
    rcases settles good step careful with disabled | ⟨next, returned, kept⟩
    · cases disabled.symm.trans performed
    · cases returned.symm.trans performed
      exact kept
  refine ⟨Nat.le_trans (Nat.le_add_left _ _) good.once, ?_, ?_⟩
  · intro some
    obtain ⟨_, channel⟩ := good.closed some
    split at channel
    · exact ⟨channel.unwatched, by rw [Channel.isNoneEvent, channel.silent]; rfl⟩
    · exact ⟨channel.unwatched, by rw [Channel.isNoneEvent, channel.silent]; rfl⟩
  · intro step careful fault failed
    rcases settles good step careful with disabled | ⟨next, returned, _⟩
    · cases disabled.symm.trans failed
      rfl
    · cases returned.symm.trans failed

/-- Reading is stopped while something is still to be written, before the close and after it. -/
def carefulSteps : List Step :=
  [.stopRead, .send [104] (.wrote 0), .forceClose, .runFunctor, .stopRead, .connectDestroyed]

theorem careful_stays_closed_sample :
    ∃ world, ((machine ⟨.kINFO, none⟩).restrict Careful).Run
      (.initial false false) carefulSteps world ∧
      world.closes = 1 ∧ world.destroyed = true ∧ world.conn.channel.interest = none ∧
      world.conn.channel.isNoneEvent = true := by
  have followed :
      (Machine.follow (Step.perform ⟨.kINFO, none⟩) (fun world step => decide (Careful world step))
      (.initial false false) carefulSteps).any (fun world =>
        world.closes == 1 && world.destroyed) = true := by
    decide +kernel
  obtain ⟨world, run, final⟩ := Machine.Run.ofFollowAny ((machine ⟨.kINFO, none⟩).restrict Careful)
    (fun allowed performed => ⟨of_decide_eq_true allowed, performed⟩) followed
  simp only [Bool.and_eq_true, beq_iff_eq] at final
  obtain ⟨silent, none⟩ := (careful_stays_closed run).2.1 (by rw [final.1]; decide)
  exact ⟨world, run, final.1, final.2, silent, none⟩

/-- Reading is stopped after the close: the descriptor is back in the kernel's set, a hang-up is
reported for it and the connection is closed again. -/
theorem stopRead_revives_closed :
    ∃ world, (machine ⟨.kINFO, none⟩).Run (.initial false false)
        [.forceClose, .runFunctor, .stopRead,
          .poll ⟨false, false, false, true, false, false, false, rfl, by decide⟩] world ∧
      world.closes = 1 ∧ world.conn.channel.interest ≠ none ∧
      Step.perform ⟨.kINFO, none⟩ world (.handle .endOfStream (.wrote 0)) =
        .error (.assertion "state_ == kConnected || state_ == kDisconnecting") := by
  have followed :
      (Machine.follow (Step.perform ⟨.kINFO, none⟩) (fun _ _ => true) (.initial false false)
      [.forceClose, .runFunctor, .stopRead,
        .poll ⟨false, false, false, true, false, false, false, rfl, by decide⟩]).any (fun world =>
          world.closes == 1 && world.conn.channel.interest.isSome &&
            match Step.perform ⟨.kINFO, none⟩ world (.handle .endOfStream (.wrote 0)) with
            | .error fault => fault == .assertion "state_ == kConnected || state_ == kDisconnecting"
            | .ok _ => false) = true := by
    decide +kernel
  obtain ⟨world, run, final⟩ := Machine.Run.ofFollowAny (machine ⟨.kINFO, none⟩)
    (fun _ performed => performed) followed
  simp only [Bool.and_eq_true, beq_iff_eq] at final
  obtain ⟨⟨once, watched⟩, failed⟩ := final
  refine ⟨world, run, once, Option.isSome_iff_ne_none.mp watched, ?_⟩
  split at failed
  · rename_i fault returned
    rw [returned, beq_iff_eq.mp failed]
  · cases failed

end ReadControl

end FakeMuduo.Net
