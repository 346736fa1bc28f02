import FakeMuduo.Base.Machine
import FakeMuduo.Net.OutputStream

/-! When the user is told that all output was written, and that too much of it is buffered. -/

namespace FakeMuduo.Net

open FakeMuduo.Base FakeMuduo.Util

/-- The size that a high-water-mark notice tells. -/
def Functor.size? : Functor → Option Nat
  | .highWaterMark size => some size
  | _ => none

namespace TcpConnection

/-- A step, with the functors it queues. -/
def OutputStep.act (log : Log) (conn : TcpConnection) :
    OutputStep → Checked (TcpConnection × List Functor)
  | sendString msg answer => conn.sendString log msg answer
  | sendBytes msg answer => conn.sendBytes log msg answer
  | sendBuffer buf answer => do
    let (next, queued, _) ← conn.sendBuffer log buf answer
    return (next, queued)
  | handleWrite answer => conn.handleWrite answer
  | shutdown => .ok (conn.shutdown, [])
  | forceClose => .ok conn.forceClose
  | forceCloseInLoop => do
    let next ← if conn.isOpen then conn.handleClose else .ok conn
    return (next, [])
  | peerClosed => do
    let next ← if conn.watchedForReading then conn.handleClose else .ok conn
    return (next, [])

/-- The step adds bytes to the output. -/
def OutputStep.adds (log : Log) (conn : TcpConnection) (step : OutputStep) : Bool :=
  match step.message with
  | some (msg, answer) => msg != [] && conn.isConnected && !givesUp log conn answer
  | none => false

/-- `owed` says whether bytes were added since the last write-complete notice, `backlogs` how many
bytes were buffered at first and after each step, and `told` the sizes
of the high-water-mark notices. -/
structure Watch where
  conn : TcpConnection
  owed : Bool
  backlogs : List Nat
  told : List Nat

def Watch.initial (writeCompleteCallback highWaterMarkCallback : Bool)
    (highWaterMark : Nat) : Watch :=
  ⟨{ established writeCompleteCallback highWaterMarkCallback with highWaterMark }, false, [0], []⟩

def Watch.perform (log : Log) (watch : Watch) (step : OutputStep) : Checked Watch := do
  let (conn, queued) ← step.act log watch.conn
  return {
    conn
    owed := !queued.contains .writeComplete && (watch.owed || step.adds log watch.conn)
    backlogs := watch.backlogs ++ [conn.outputBuffer.readableBytes]
    told := watch.told ++ queued.filterMap Functor.size? }

def watching (log : Log) : Machine Watch OutputStep := .ofFunction (Watch.perform log)

/-- The values at which a sequence rises to the mark. -/
def crossings (mark : Nat) : List Nat → List Nat
  | before :: after :: rest =>
    (if before < mark ∧ mark ≤ after then [after] else []) ++ crossings mark (after :: rest)
  | _ => []

theorem crossings_append (mark : Nat) (values : List Nat) (before after : Nat) :
    crossings mark (values ++ [before] ++ [after]) =
      crossings mark (values ++ [before]) ++ if before < mark ∧ mark ≤ after then
        [after] else [] := by
  induction values with
  | nil => simp [crossings]
  | cons first values ih =>
    cases values with
    | nil => simp [crossings]
    | cons second values =>
      simp only [List.cons_append] at ih ⊢
      rw [crossings, ih, crossings, List.append_assoc]

/-- What the user asked to be told. -/
def settings (conn : TcpConnection) : Bool × Bool × Nat :=
  (conn.writeCompleteCallback, conn.highWaterMarkCallback, conn.highWaterMark)

/-- What a step tells the user, given whether it adds bytes. -/
structure Tells (conn next : TcpConnection) (queued : List Functor) (adds : Bool) : Prop where
  settings : next.settings = conn.settings
  complete : conn.writeCompleteCallback = true → .writeComplete ∈ queued →
    next.outputBuffer.readableBytes = 0
  owed : conn.writeCompleteCallback = true → .writeComplete ∉ queued →
    (0 < next.outputBuffer.readableBytes ↔ 0 < conn.outputBuffer.readableBytes ∨ adds = true)
  overrun : queued.filterMap Functor.size? =
    if conn.highWaterMarkCallback = true ∧ conn.outputBuffer.readableBytes < conn.highWaterMark ∧
      conn.highWaterMark ≤ next.outputBuffer.readableBytes then
        [next.outputBuffer.readableBytes] else []

section Tells

variable {log : Log} {conn next : TcpConnection} {queued : List Functor} {msg : List Byte}
  {answer : WriteAnswer}

/-- A step that leaves the output alone. -/
theorem tells_nothing (settings : next.settings = conn.settings)
    (same : next.outputBuffer = conn.outputBuffer)
    (silent : ∀ functor ∈ queued, functor ≠ .writeComplete ∧ functor.size? = none) :
    Tells conn next queued false where
  settings := settings
  complete := fun _ told => absurd rfl (silent _ told).1
  owed := fun _ _ => by simp [same]
  overrun := by
    rw [List.filterMap_eq_nil_iff.mpr fun functor member => (silent functor member).2, if_neg]
    rintro ⟨_, below, above⟩
    rw [same] at above
    omega

theorem tells_none (settings : next.settings = conn.settings)
    (same : next.outputBuffer = conn.outputBuffer) :
    Tells conn next [] false :=
  tells_nothing settings same fun _ member => absurd member List.not_mem_nil

theorem bufferRemaining_tells (live : Live conn) {remaining : List Byte} (some : remaining ≠ [])
    (returned : conn.bufferRemaining remaining = .ok (next, queued)) :
    Tells conn next queued true := by
  obtain ⟨outputBuffer, appended, valid, content⟩ := Buffer.append_returns live.output remaining
  have length : outputBuffer.readableBytes = conn.outputBuffer.readableBytes +
      remaining.length := by
    rw [← Buffer.toString_length valid, content, List.length_append,
      Buffer.toString_length live.output]
  have positive := List.length_pos_iff.mpr some
  obtain ⟨channel, rfl, rfl⟩ : ∃ channel, { conn with outputBuffer, channel } = next ∧
      (if conn.highWaterMark ≤ conn.outputBuffer.readableBytes + remaining.length ∧
        conn.outputBuffer.readableBytes < conn.highWaterMark ∧
          conn.highWaterMarkCallback = true then
        [.highWaterMark (conn.outputBuffer.readableBytes + remaining.length)]
          else []) = queued := by
    simp only [bufferRemaining, appended, ok_bind] at returned
    split at returned
    · cases returned
      exact ⟨_, rfl, rfl⟩
    · obtain ⟨channel, _, returned⟩ := bind_eq_ok.mp returned
      cases returned
      exact ⟨_, rfl, rfl⟩
  refine ⟨rfl, ?_, ?_, ?_⟩
  · intro _ told
    split at told
    · cases List.mem_singleton.mp told
    · cases told
  · intro _ _
    rw [length]
    exact iff_of_true (by omega) (.inr rfl)
  · rw [length]
    by_cases crosses : conn.highWaterMark ≤ conn.outputBuffer.readableBytes + remaining.length ∧
        conn.outputBuffer.readableBytes < conn.highWaterMark ∧ conn.highWaterMarkCallback = true
    · rw [if_pos crosses, if_pos ⟨crosses.2.2, crosses.2.1, crosses.1⟩]
      rfl
    · rw [if_neg crosses, if_neg fun told => crosses ⟨told.2.2, told.2.1, told.1⟩]
      rfl

/-- The bytes that the kernel takes at once were never buffered. -/
theorem Tells.after_accept {adds : Bool} {data : List Byte}
    (tells : Tells (conn.accept data) next queued adds) :
    Tells conn next queued adds := ⟨tells.settings, tells.complete, tells.owed, tells.overrun⟩

theorem sendInLoop_tells (live : Live conn)
    (returned : conn.sendInLoop log msg answer = .ok (next, queued)) :
    Tells conn next queued (msg != [] && !givesUp log conn answer) := by
  have fits : msg.length - (writeDirect log conn msg answer).nwrote ≤ msg.length := Nat.sub_le _ _
  simp only [sendInLoop, live.not_disconnected, if_false, check_pass _ fits, ok_bind] at returned
  by_cases directly : conn.writesDirectly = true
  · obtain ⟨_, empty⟩ := (writesDirectly_iff conn).mp directly
    cases answer with
    | wrote count =>
      simp only [writeDirect, directly, if_true] at returned
      split at returned
      case isTrue buffered =>
        obtain ⟨⟨buffer, more⟩, kept, returned⟩ := bind_eq_ok.mp returned
        cases returned
        have some : msg ≠ [] := by
          rintro rfl
          simp at buffered
        have left : msg.drop (min count msg.length) ≠ [] := by
          rw [Ne, List.drop_eq_nil_iff]
          omega
        have tells := (bufferRemaining_tells (live.accept _) left kept).after_accept
        rw [if_neg (show ¬(msg.length - min count msg.length = 0 ∧
          conn.writeCompleteCallback = true) by omega), List.nil_append, givesUp,
            bne_iff_ne.mpr some]
        exact tells
      case isFalse whole =>
        cases returned
        have all : msg.length - min count msg.length = 0 := by
          by_contra more
          exact whole ⟨trivial, Nat.pos_of_ne_zero more⟩
        refine ⟨rfl, fun _ _ => empty, ?_, ?_⟩
        · intro callback silent
          exact absurd (by simp [all, callback]) silent
        · rw [show List.filterMap Functor.size? _ = [] by split <;> rfl, if_neg]
          rintro ⟨_, below, above⟩
          change conn.highWaterMark ≤ conn.outputBuffer.readableBytes at above
          omega
    | failed errno =>
      simp only [writeDirect, directly, if_true, givesUp, Bool.true_and] at returned ⊢
      split at returned
      case isTrue buffered =>
        obtain ⟨⟨buffer, more⟩, kept, returned⟩ := bind_eq_ok.mp returned
        cases returned
        have some : msg ≠ [] := by
          rintro rfl
          simp at buffered
        have tells := bufferRemaining_tells live some kept
        rw [List.nil_append, buffered.1, bne_iff_ne.mpr some]
        exact tells
      case isFalse unbuffered =>
        cases returned
        have nothing : (msg != [] && !isFaultError log errno) = false := by
          by_contra adds
          simp only [Bool.not_eq_false, Bool.and_eq_true, bne_iff_ne, Bool.not_eq_true'] at adds
          exact unbuffered ⟨adds.2, by simpa using List.length_pos_iff.mpr adds.1⟩
        rw [nothing]
        exact tells_none rfl rfl
  · have keeps : givesUp log conn answer = false := by
      cases answer <;> simp [givesUp, directly]
    simp only [writeDirect, directly, if_false, Bool.false_eq_true, keeps] at returned ⊢
    split at returned
    case isTrue buffered =>
      obtain ⟨⟨buffer, more⟩, kept, returned⟩ := bind_eq_ok.mp returned
      cases returned
      have some : msg ≠ [] := by
        rintro rfl
        simp at buffered
      have tells := bufferRemaining_tells live some kept
      rw [bne_iff_ne.mpr some]
      exact tells
    case isFalse unbuffered =>
      cases returned
      have none : msg = [] := by
        by_contra some
        exact unbuffered ⟨trivial, by simpa using List.length_pos_iff.mpr some⟩
      rw [none]
      exact tells_none rfl rfl

theorem handleWrite_tells (live : Live conn)
    (returned : conn.handleWrite answer = .ok (next, queued)) :
    Tells conn next queued false := by
  rcases handleWrite_cases live answer with
    idle | ⟨taken, outputBuffer, awaiting, valid, content, rest⟩
  · cases idle.symm.trans returned
    exact tells_none rfl rfl
  · have filled := live.writing.mp awaiting
    have less : outputBuffer.readableBytes ≤ conn.outputBuffer.readableBytes := by
      rw [← Buffer.toString_length valid, content, List.length_drop,
        Buffer.toString_length live.output]
      exact Nat.sub_le _ _
    rcases rest with ⟨left, partly⟩ | ⟨channel, empty, _, _, wholly⟩
    · cases partly.symm.trans returned
      refine ⟨rfl, fun _ told => absurd told List.not_mem_nil, fun _ _ =>
        iff_of_true left (.inl filled), ?_⟩
      rw [if_neg]
      · rfl
      · rintro ⟨_, below, above⟩
        change conn.highWaterMark ≤ outputBuffer.readableBytes at above
        omega
    · cases wholly.symm.trans returned
      have same : (conn.drainedOut taken outputBuffer channel).outputBuffer = outputBuffer := by
        unfold drainedOut shutdownInLoop
        dsimp only
        split <;> try split
        all_goals rfl
      have kept : (conn.drainedOut taken outputBuffer channel).settings = conn.settings := by
        unfold drainedOut shutdownInLoop
        dsimp only
        split <;> try split
        all_goals rfl
      refine ⟨kept, fun _ _ => by rw [same, empty], ?_, ?_⟩
      · intro callback silent
        exact absurd (by simp [callback]) silent
      · rw [show List.filterMap Functor.size? _ = [] by split <;> rfl, if_neg]
        rintro ⟨_, below, above⟩
        rw [same, empty] at above
        omega

theorem sendString_tells (settled : Settled conn)
    (returned : conn.sendString log msg answer = .ok (next, queued)) :
    Tells conn next queued (msg != [] && conn.isConnected && !givesUp log conn answer) := by
  unfold sendString at returned
  split at returned
  case isTrue connected =>
    rcases settled with live | closed
    · rw [show conn.isConnected = true from beq_iff_eq.mpr connected, Bool.and_true]
      exact sendInLoop_tells live returned
    · exact absurd connected closed.unconnected
  case isFalse unconnected =>
    cases returned
    rw [show conn.isConnected = false from beq_eq_false_iff_ne.mpr unconnected,
      Bool.and_false, Bool.false_and]
    exact tells_none rfl rfl

theorem handleClose_tells (returned : conn.handleClose = .ok next) : Tells conn next [] false := by
  obtain ⟨_, returned⟩ := check_bind_eq_ok.mp returned
  obtain ⟨channel, _, returned⟩ := bind_eq_ok.mp returned
  cases returned
  exact tells_none rfl rfl

end Tells

theorem sendString_settles {log : Log} {conn : TcpConnection} (settled : Settled conn)
    (msg : List Byte) (answer : WriteAnswer) :
    ∃ next queued, conn.sendString log msg answer = .ok (next, queued) ∧ Settled next := by
  unfold sendString
  split
  case isTrue connected =>
    rcases settled with live | closed
    · obtain ⟨next, queued, returned, nextLive, _⟩ := sendInLoop_live log live msg answer
      exact ⟨next, queued, returned, .inl nextLive⟩
    · exact absurd connected closed.unconnected
  case isFalse => exact ⟨conn, [], rfl, settled⟩

theorem Settled.live {conn : TcpConnection} (settled : Settled conn)
    (isOpen : conn.isOpen = true) : Live conn := by
  rcases settled with live | closed
  · exact live
  · simp [isOpen_iff, closed.disconnected] at isOpen

theorem OutputStep.act_settles {log : Log} {conn : TcpConnection} (settled : Settled conn)
    (step : OutputStep) :
    ∃ next queued, step.act log conn = .ok (next, queued) ∧ Settled next := by
  cases step with
  | sendString msg answer => exact sendString_settles settled msg answer
  | sendBytes msg answer => exact sendString_settles settled msg answer
  | sendBuffer buf answer =>
    obtain ⟨next, queued, returned, kept⟩ :=
      @sendString_settles log conn settled buf.1.toString answer
    refine ⟨next, queued, ?_, kept⟩
    unfold TcpConnection.sendString at returned
    simp only [act, TcpConnection.sendBuffer]
    split at returned
    case isTrue connected =>
      rw [if_pos connected, returned]
      rfl
    case isFalse unconnected =>
      cases returned
      rw [if_neg unconnected]
      rfl
  | handleWrite answer =>
    rcases settled with live | closed
    · obtain ⟨next, queued, returned, nextLive, _⟩ := handleWrite_live live answer
      exact ⟨next, queued, returned, .inl nextLive⟩
    · exact ⟨conn, [], handleWrite_silent closed.parked.silent answer, .inr closed⟩
  | shutdown =>
    refine ⟨_, _, rfl, ?_⟩
    unfold TcpConnection.shutdown
    split
    case isTrue connected =>
      have live := settled.live ((isOpen_iff conn).mpr (.inl connected))
      exact .inl (live.setState rfl).shutdownInLoop
    case isFalse => exact settled
  | forceClose =>
    simp only [act, TcpConnection.forceClose]
    split
    case isTrue isOpen => exact ⟨_, _, rfl, .inl ((settled.live isOpen).setState rfl)⟩
    case isFalse => exact ⟨_, _, rfl, settled⟩
  | forceCloseInLoop =>
    simp only [act]
    split
    case isTrue isOpen =>
      obtain ⟨next, returned, closed, _⟩ := handleClose_closed (settled.live isOpen)
      exact ⟨next, [], by rw [returned]; rfl, .inr closed⟩
    case isFalse => exact ⟨_, _, rfl, settled⟩
  | peerClosed =>
    simp only [act]
    split
    case isTrue watched =>
      have live : Live conn := by
        rcases settled with live | closed
        · exact live
        · simp [watchedForReading, closed.parked.unwatched] at watched
      obtain ⟨next, returned, closed, _⟩ := handleClose_closed live
      exact ⟨next, [], by rw [returned]; rfl, .inr closed⟩
    case isFalse => exact ⟨_, _, rfl, settled⟩

theorem OutputStep.act_tells {log : Log} {conn next : TcpConnection} {queued : List Functor}
    {step : OutputStep} (settled : Settled conn)
    (returned : step.act log conn = .ok (next, queued)) :
    Tells conn next queued (step.adds log conn) := by
  cases step with
  | sendString msg answer => exact sendString_tells settled returned
  | sendBytes msg answer => exact sendString_tells settled returned
  | sendBuffer buf answer =>
    obtain ⟨⟨after, notices, left⟩, sent, same⟩ := bind_eq_ok.mp returned
    cases same
    refine sendString_tells settled ?_
    unfold TcpConnection.sendBuffer at sent
    unfold TcpConnection.sendString
    split at sent
    case isTrue connected =>
      obtain ⟨⟨final, more⟩, inLoop, sent⟩ := bind_eq_ok.mp sent
      cases sent
      rw [if_pos connected]
      exact inLoop
    case isFalse unconnected =>
      cases sent
      rw [if_neg unconnected]
  | handleWrite answer =>
    rcases settled with live | closed
    · exact handleWrite_tells live returned
    · cases (handleWrite_silent closed.parked.silent answer).symm.trans returned
      exact tells_none rfl rfl
  | shutdown =>
    cases returned
    refine tells_none ?_ ?_
    · unfold TcpConnection.shutdown shutdownInLoop
      split <;> try split
      all_goals rfl
    · unfold TcpConnection.shutdown shutdownInLoop
      split <;> try split
      all_goals rfl
  | forceClose =>
    simp only [act, TcpConnection.forceClose] at returned
    split at returned
    · cases returned
      refine tells_nothing rfl rfl ?_
      intro functor member
      rw [List.mem_singleton.mp member]
      exact ⟨by decide, rfl⟩
    · cases returned
      exact tells_none rfl rfl
  | forceCloseInLoop =>
    simp only [act] at returned
    split at returned
    · obtain ⟨after, closed, same⟩ := bind_eq_ok.mp returned
      cases same
      exact handleClose_tells closed
    · cases returned
      exact tells_none rfl rfl
  | peerClosed =>
    simp only [act] at returned
    split at returned
    · obtain ⟨after, closed, same⟩ := bind_eq_ok.mp returned
      cases same
      exact handleClose_tells closed
    · cases returned
      exact tells_none rfl rfl

/-- Notices are in step with the output. -/
structure Informed (writeCompleteCallback highWaterMarkCallback : Bool) (highWaterMark : Nat)
    (watch : Watch) :
    Prop where
  settled : Settled watch.conn
  settings : watch.conn.settings = (writeCompleteCallback, highWaterMarkCallback, highWaterMark)
  owed : writeCompleteCallback = true →
    (watch.owed = true ↔ 0 < watch.conn.outputBuffer.readableBytes)
  newest : ∃ earlier, watch.backlogs = earlier ++ [watch.conn.outputBuffer.readableBytes]
  told : watch.told = if highWaterMarkCallback then crossings highWaterMark watch.backlogs else []

section Run

variable {log : Log} {writeCompleteCallback highWaterMarkCallback : Bool} {highWaterMark : Nat}
  {watch after : Watch} {step : OutputStep}

theorem initial_informed : Informed writeCompleteCallback highWaterMarkCallback highWaterMark
    (.initial writeCompleteCallback highWaterMarkCallback highWaterMark) := by
  have live := established_live writeCompleteCallback highWaterMarkCallback
  have empty : (established writeCompleteCallback
    highWaterMarkCallback).outputBuffer.readableBytes = 0 := rfl
  refine ⟨.inl (live.congr rfl rfl rfl), rfl, fun _ => ?_, ⟨[], rfl⟩, ?_⟩
  · exact iff_of_false (by simp [Watch.initial]) (Nat.lt_irrefl 0)
  · cases highWaterMarkCallback <;> rfl

theorem Informed.returns
    (informed : Informed writeCompleteCallback highWaterMarkCallback highWaterMark watch)
    (step : OutputStep) : ∃ after, watch.perform log step = .ok after := by
  obtain ⟨next, queued, acted, _⟩ := step.act_settles informed.settled
  exact ⟨_, by rw [Watch.perform, acted]; rfl⟩

theorem Informed.perform
    (informed : Informed writeCompleteCallback highWaterMarkCallback highWaterMark watch)
    (performed : watch.perform log step = .ok after) :
    Informed writeCompleteCallback highWaterMarkCallback highWaterMark after := by
  obtain ⟨⟨next, queued⟩, acted, same⟩ := bind_eq_ok.mp performed
  cases same
  obtain ⟨_, _, returned, settled⟩ := step.act_settles informed.settled
  cases returned.symm.trans acted
  have tells := OutputStep.act_tells informed.settled acted
  obtain ⟨complete, highWater, mark⟩ : watch.conn.writeCompleteCallback = writeCompleteCallback ∧
      watch.conn.highWaterMarkCallback = highWaterMarkCallback ∧
        watch.conn.highWaterMark = highWaterMark := by
    simpa [TcpConnection.settings] using informed.settings
  obtain ⟨earlier, backlogs⟩ := informed.newest
  refine ⟨settled, tells.settings.trans informed.settings, ?_, ⟨_, rfl⟩, ?_⟩
  · intro callback
    by_cases told : .writeComplete ∈ queued
    · have drained := tells.complete (complete.trans callback) told
      simp [told, drained]
    · have owes := tells.owed (complete.trans callback) told
      rw [owes, ← informed.owed callback]
      simp [told]
  · rw [informed.told, tells.overrun, backlogs, crossings_append, highWater, mark]
    cases highWaterMarkCallback <;> simp

/-- Over every run of sends, writable events, shutdowns and closes: while a write-complete callback
is set, bytes were added since its last notice exactly while some are buffered; and the
high-water-mark notices are exactly the moments at which the buffered bytes rise to the mark. -/
theorem notices_exact {steps : List OutputStep}
    (run : (watching log).Run
      (.initial writeCompleteCallback highWaterMarkCallback highWaterMark) steps watch) :
    (writeCompleteCallback = true →
      (watch.owed = true ↔ 0 < watch.conn.outputBuffer.readableBytes)) ∧
      watch.told = (if highWaterMarkCallback then crossings highWaterMark watch.backlogs else []) ∧
      ∀ step, ∃ after, watch.perform log step = .ok after := by
  have informed : Informed writeCompleteCallback highWaterMarkCallback highWaterMark watch :=
    run.invariant (fun _ watch =>
      Informed writeCompleteCallback highWaterMarkCallback highWaterMark watch)
      initial_informed fun informed performed => informed.perform performed
  exact ⟨informed.owed, informed.told, informed.returns⟩

/-- The mark is two: it is reached twice, with a drain in between. -/
def twiceFull : List OutputStep :=
  [.sendString [1, 2, 3] (.wrote 1), .sendString [4] (.wrote 0), .handleWrite (.wrote 2),
    .sendString [] (.wrote 0), .sendBytes [5] (.wrote 0), .handleWrite (.wrote 9),
    .sendString [6] (.wrote 1)]

theorem notices_exact_twiceFull :
    ∃ watch, (watching ⟨.kINFO, some .async⟩).Run (.initial true true 2) twiceFull watch ∧
      watch.told = [2, 2] ∧
      watch.backlogs = [0, 2, 3, 1, 1, 2, 0, 0] ∧ watch.told = crossings 2 watch.backlogs ∧
      (watch.owed = true ↔ 0 < watch.conn.outputBuffer.readableBytes) := by
  have followed :
      (Machine.follow (Watch.perform ⟨.kINFO, some .async⟩) (fun _ _ => true) (.initial true true 2)
      twiceFull).any (fun watch =>
        decide (watch.told = [2, 2] ∧ watch.backlogs = [0, 2, 3, 1, 1, 2, 0, 0])) = true := by
    decide +kernel
  obtain ⟨watch, run, final⟩ := Machine.Run.ofFollowAny (watching ⟨.kINFO, some .async⟩)
    (fun _ performed => performed) followed
  obtain ⟨told, backlogs⟩ := of_decide_eq_true final
  obtain ⟨owed, exactly, _⟩ := notices_exact run
  exact ⟨watch, run, told, backlogs, exactly, owed rfl⟩

end Run

end TcpConnection

end FakeMuduo.Net
