import FakeMuduo.Base.Machine
import FakeMuduo.Net.OutputStream

/-! A thread that is not the loop's sends messages and then shuts the connection
down, while the loop's thread runs the posted functors and writable events. -/

namespace FakeMuduo.Net.CrossThread

open FakeMuduo.Base FakeMuduo.Util

/-- An object of the calling thread that a posted functor may refer to. -/
inductive Object where
  | string (value : List Byte)
  | buffer (buf : Buffer)
  deriving DecidableEq, Repr

def Object.message : Object → List Byte
  | string value => value
  | buffer buf => buf.toString

def Object.isBuffer : Object → Bool
  | string _ => false
  | buffer _ => true

def Object.Valid : Object → Prop
  | string _ => True
  | buffer buf => buf.Valid

/-- What `send` posts: the string overload captures `&msg`, the buffer overload
the pointer `buf`. -/
def Object.functor (which : Nat) : Object → Functor
  | string _ => .sendString which
  | buffer _ => .sendBuffer which

/-- Where the calling thread is: between calls, about to push a send functor,
inside `shutdown()` before the state change, after it, or done. -/
inductive Caller where
  | ready
  | posting (functor : Functor)
  | closing
  | closed
  | finished
  deriving DecidableEq, Repr

/-- `batch` holds the functors `doPendingFunctors` swapped out and has yet to run;
`sent` records the value each message had when `send` was called. -/
structure World where
  conn : TcpConnection
  objects : Nat → Option Object
  caller : Caller
  pending : List Functor
  batch : List Functor
  sent : List (List Byte)

def World.initial (writeCompleteCallback highWaterMarkCallback : Bool) : World where
  conn := .established writeCompleteCallback highWaterMarkCallback
  objects := fun _ => none
  caller := .ready
  pending := []
  batch := []
  sent := []

/-- The first six steps are the calling thread's; `assign` creates, changes or
destroys one of its objects. Kernel writes take any part of the request. -/
inductive Step where
  | assign (which : Nat) (object : Option Object)
  | callSend (which : Nat)
  | postSend
  | callShutdown
  | setState
  | postShutdown
  | swap
  | runFunctor (count : Nat)
  | handleWrite (count : Nat)

/-- One functor on the loop's thread, with the caller's objects after it. The
string overload reads its referent now; the buffer overload empties it now. -/
def runFunctor (log : Log) (world : World) (count : Nat) :
    Functor → Checked (TcpConnection × List Functor × (Nat → Option Object))
  | .sendString which =>
    match world.objects which with
    | some (.string value) => do
      let (conn, queued) ← world.conn.sendString log value (.wrote count)
      return (conn, queued, world.objects)
    | _ => .error .danglingReference
  | .sendBuffer which =>
    match world.objects which with
    | some (.buffer buf) => do
      let (value, rest) ← buf.retrieveAllAsString
      let (conn, queued) ← world.conn.sendString log value (.wrote count)
      return (conn, queued, Function.update world.objects which (some (.buffer rest)))
    | _ => .error .danglingReference
  | .shutdownInLoop => .ok (world.conn.shutdownInLoop, [], world.objects)
  | _ => .ok (world.conn, [], world.objects)

def Step.perform (log : Log) (world : World) : Step → Checked World
  | assign which object =>
    if world.caller = .ready ∨ world.caller = .finished then
      .ok { world with objects := Function.update world.objects which object }
    else .error .disabled
  | callSend which =>
    match world.objects which with
    | some object =>
      if world.caller = .ready ∧ world.conn.state = .kConnected then
        .ok { world with
          caller := .posting (object.functor which), sent := world.sent ++ [object.message] }
      else .error .disabled
    | none => .error .disabled
  | postSend =>
    match world.caller with
    | .posting functor => .ok { world with caller := .ready, pending := world.pending ++ [functor] }
    | _ => .error .disabled
  | callShutdown =>
    if world.caller = .ready then
      .ok { world with caller := if world.conn.state = .kConnected then .closing else .finished }
    else .error .disabled
  | setState =>
    if world.caller = .closing then
      .ok { world with caller := .closed, conn := world.conn.setState .kDisconnecting }
    else .error .disabled
  | postShutdown =>
    if world.caller = .closed then
      .ok { world with caller := .finished, pending := world.pending ++ [.shutdownInLoop] }
    else .error .disabled
  | swap =>
    if world.batch = [] then .ok { world with batch := world.pending, pending := [] }
    else .error .disabled
  | runFunctor count =>
    match world.batch with
    | functor :: rest => do
      let (conn, queued, objects) ← CrossThread.runFunctor log world count functor
      return { world with conn, objects, batch := rest, pending := world.pending ++ queued }
    | [] => .error .disabled
  | handleWrite count =>
    if world.batch = [] then do
      let (conn, queued) ← world.conn.handleWrite (.wrote count)
      return { world with conn, pending := world.pending ++ queued }
    else .error .disabled

/-- The objects a caller makes are well formed. -/
def Step.WellFormed : Step → Prop
  | assign _ (some object) => object.Valid
  | _ => True

def machine (log : Log) : Machine World Step :=
  (Machine.ofFunction (Step.perform log)).restrict fun _ step => step.WellFormed

/-- The functor the caller has made and not yet pushed. -/
def Caller.inHand : Caller → List Functor
  | posting functor => [functor]
  | _ => []

/-- The functors on their way to the loop, in the order in which they will run. -/
def World.queued (world : World) : List Functor :=
  world.batch ++ world.pending ++ world.caller.inHand

/-- What a queued functor would send if it ran now. -/
def queuedMessage (objects : Nat → Option Object) : Functor → List Byte
  | .sendString which =>
    match objects which with
    | some (.string value) => value
    | _ => []
  | .sendBuffer which =>
    match objects which with
    | some (.buffer buf) => buf.toString
    | _ => []
  | _ => []

def refersTo (which : Nat) (functor : Functor) : Prop :=
  functor = .sendString which ∨ functor = .sendBuffer which

/-- What an object means to a functor that refers to it. -/
def Object.view (object : Option Object) : Option (Bool × List Byte) :=
  object.map fun object => (object.isBuffer, object.message)

/-- The steps that do not reach the defect: an object a queued functor refers to
keeps its value, a buffer is not sent again before the loop has emptied it, and
`shutdown()` changes the state only when no queued functor has anything to send. -/
def Careful (world : World) : Step → Prop
  | .assign which object =>
    (∀ functor ∈ world.queued, ¬ refersTo which functor) ∨
      Object.view object = Object.view (world.objects which)
  | .callSend which =>
    Functor.sendBuffer which ∈ world.queued → queuedMessage world.objects (.sendBuffer which) = []
  | .setState => ∀ functor ∈ world.queued, queuedMessage world.objects functor = []
  | _ => True

/-- The caller has not yet changed the state. -/
def Caller.isSending : Caller → Bool
  | ready | posting _ | closing => true
  | closed | finished => false

/-- Once shut down, the socket got everything and nothing is buffered. -/
def ShutClean (conn : TcpConnection) : Prop :=
  ∀ count, conn.socket.shutdownAt = some count →
    count = conn.socket.accepted.length ∧ conn.outputBuffer.readableBytes = 0

/-- What holds along every careful run. -/
structure Lossless (world : World) : Prop where
  live : world.conn.Live
  valid : ∀ which buf, world.objects which = some (.buffer buf) → buf.Valid
  once : ∀ which, queuedMessage world.objects (.sendBuffer which) ≠ [] →
    world.queued.count (.sendBuffer which) ≤ 1
  stream : world.sent.flatten =
    world.conn.stream ++ (world.queued.map (queuedMessage world.objects)).flatten
  sending : world.caller.isSending = true → world.conn.state = .kConnected ∧
    world.conn.socket.shutdownAt = none ∧ Functor.shutdownInLoop ∉ world.queued
  closing : world.caller.isSending = false → world.conn.state = .kDisconnecting ∧
    ∀ functor ∈ world.queued, queuedMessage world.objects functor = []
  shut : ShutClean world.conn
  requested : world.caller = .finished → Functor.shutdownInLoop ∈ world.queued ∨
    world.conn.channel.isWriting = true ∨ world.conn.socket.shutdownAt ≠ none

theorem queuedMessage_notice (notice : Functor.IsNotice functor) (objects : Nat → Option Object) :
    queuedMessage objects functor = [] := by
  cases functor <;> simp_all [Functor.IsNotice, queuedMessage]

theorem queuedMessage_functor {objects : Nat → Option Object}
    (found : objects which = some object) :
    queuedMessage objects (object.functor which) = object.message := by
  cases object <;> simp [Object.functor, queuedMessage, found, Object.message]

theorem queuedMessage_update_of_view {objects : Nat → Option Object}
    (same : Object.view object = Object.view (objects which)) (functor : Functor) :
    queuedMessage (Function.update objects which object) functor =
      queuedMessage objects functor := by
  cases functor with
  | sendString other =>
    by_cases here : other = which
    · subst here
      simp only [queuedMessage, Function.update_self]
      rcases object with _ | (value | buf) <;> rcases found : objects other with
        _ | (value' | buf') <;>
        simp_all [Object.view, Object.message, Object.isBuffer]
    · simp [queuedMessage, here]
  | sendBuffer other =>
    by_cases here : other = which
    · subst here
      simp only [queuedMessage, Function.update_self]
      rcases object with _ | (value | buf) <;> rcases found : objects other with
        _ | (value' | buf') <;>
        simp_all [Object.view, Object.message, Object.isBuffer]
    · simp [queuedMessage, here]
  | _ => rfl

theorem queuedMessage_update_of_not_refersTo (objects : Nat → Option Object)
    (object : Option Object) (elsewhere : ¬ refersTo which functor) :
    queuedMessage (Function.update objects which object) functor =
      queuedMessage objects functor := by
  cases functor with
  | sendString other =>
    have different : other ≠ which := fun same => elsewhere (.inl (same ▸ rfl))
    simp [queuedMessage, different]
  | sendBuffer other =>
    have different : other ≠ which := fun same => elsewhere (.inr (same ▸ rfl))
    simp [queuedMessage, different]
  | _ => rfl

/-- Replacing an object keeps the invariant when every queued functor still
sends what it would have sent. -/
theorem Lossless.assign (lossless : Lossless world) (which : Nat) (object : Option Object)
    (wellFormed : (Step.assign which object).WellFormed)
    (careful : Careful world (.assign which object)) :
    Lossless { world with objects := Function.update world.objects which object } := by
  have kept : ∀ functor ∈ world.queued,
      queuedMessage (Function.update world.objects which object) functor =
        queuedMessage world.objects functor := by
    intro functor member
    rcases careful with unreferenced | same
    · exact queuedMessage_update_of_not_refersTo _ _ (unreferenced functor member)
    · exact queuedMessage_update_of_view same functor
  refine ⟨lossless.live, ?_, ?_, ?_, lossless.sending, ?_, lossless.shut, lossless.requested⟩
  · intro other buf found
    by_cases here : other = which
    · subst here
      simp only [Function.update_self] at found
      subst found
      exact wellFormed
    · exact lossless.valid other buf (by simpa [here] using found)
  · intro other some
    by_cases queued : Functor.sendBuffer other ∈ world.queued
    · exact lossless.once other (by rwa [← kept _ queued])
    · have absent : world.queued.count (.sendBuffer other) = 0 :=
        List.count_eq_zero_of_not_mem queued
      exact absent ▸ Nat.zero_le 1
  · rw [lossless.stream]
    exact congrArg (world.conn.stream ++ List.flatten ·) (List.map_congr_left kept).symm
  · intro done
    obtain ⟨state, empty⟩ := lossless.closing done
    exact ⟨state, fun functor member => (kept functor member).trans (empty functor member)⟩

theorem Lossless.callSend (lossless : Lossless world) (found : world.objects which = some object)
    (ready : world.caller = .ready) (careful : Careful world (.callSend which)) :
    Lossless { world with
      caller := .posting (object.functor which), sent := world.sent ++ [object.message] } := by
  have queued : World.queued { world with
      caller := .posting (object.functor which), sent := world.sent ++ [object.message] } =
      world.queued ++ [object.functor which] := by
    simp [World.queued, ready, Caller.inHand]
  have message := queuedMessage_functor found
  have sending := lossless.sending (by rw [ready]; rfl)
  refine ⟨lossless.live, lossless.valid, ?_, ?_, ?_, ?_, lossless.shut, by simp⟩
  · intro other some
    rw [queued, List.count_append]
    by_cases here : object.functor which = .sendBuffer other
    · have same : other = which := by
        cases object with
        | string value => cases here
        | buffer buf => exact (Functor.sendBuffer.inj here).symm
      subst same
      have absent : Functor.sendBuffer other ∉ world.queued := fun member => some (careful member)
      rw [List.count_eq_zero_of_not_mem absent, here]
      simp
    · have bound := lossless.once other some
      have apart : [object.functor which].count (.sendBuffer other) = 0 :=
        List.count_eq_zero_of_not_mem (by simpa using Ne.symm here)
      omega
  · rw [queued]
    simp [lossless.stream, message]
  · intro _
    refine ⟨sending.1, sending.2.1, ?_⟩
    rw [queued]
    intro member
    rcases List.mem_append.mp member with earlier | here
    · exact sending.2.2 earlier
    · have same := List.mem_singleton.mp here
      cases object <;> cases same
  · intro done
    cases done

/-- A step that only moves the caller and the queues, without reordering what is
queued, keeps the invariant. -/
theorem Lossless.requeue {world other : World} (lossless : Lossless world)
    (queued : other.queued = world.queued) (conn : other.conn = world.conn)
    (objects : other.objects = world.objects) (sent : other.sent = world.sent)
    (sending : other.caller.isSending = world.caller.isSending)
    (finished : other.caller = .finished → world.caller = .finished) : Lossless other where
  live := conn ▸ lossless.live
  valid := objects ▸ lossless.valid
  once := by rw [queued, objects]; exact lossless.once
  stream := by rw [queued, objects, conn, sent]; exact lossless.stream
  sending := by rw [queued, conn, sending]; exact lossless.sending
  closing := by rw [queued, conn, objects, sending]; exact lossless.closing
  shut := conn ▸ lossless.shut
  requested := by rw [queued, conn]; exact fun done => lossless.requested (finished done)

theorem Lossless.postSend (lossless : Lossless world) (posting : world.caller = .posting functor) :
    Lossless { world with caller := .ready, pending := world.pending ++ [functor] } :=
  lossless.requeue (by simp [World.queued, posting, Caller.inHand]) rfl rfl rfl
    (by rw [posting]; rfl) (by simp)

theorem Lossless.callShutdown (lossless : Lossless world) (ready : world.caller = .ready) :
    Lossless { world with
      caller := if world.conn.state = .kConnected then .closing else .finished } := by
  have sending := lossless.sending (by rw [ready]; rfl)
  rw [if_pos sending.1]
  exact lossless.requeue (by simp [World.queued, ready, Caller.inHand]) rfl rfl rfl
    (by rw [ready]; rfl) (by simp)

theorem Lossless.swap (lossless : Lossless world) (finished : world.batch = []) :
    Lossless { world with batch := world.pending, pending := [] } :=
  lossless.requeue (by simp [World.queued, finished]) rfl rfl rfl rfl id

theorem Lossless.setState (lossless : Lossless world) (closing : world.caller = .closing)
    (careful : Careful world .setState) :
    Lossless { world with caller := .closed, conn := world.conn.setState .kDisconnecting } := by
  have queued : World.queued { world with
      caller := .closed, conn := world.conn.setState .kDisconnecting } = world.queued := by
    simp [World.queued, closing, Caller.inHand]
  refine ⟨lossless.live.setState rfl, lossless.valid, ?_, ?_, ?_, ?_, lossless.shut, by simp⟩
  · rw [queued]
    exact lossless.once
  · rw [queued]
    exact lossless.stream
  · intro sending
    cases sending
  · rw [queued]
    exact fun _ => ⟨rfl, careful⟩

theorem Lossless.postShutdown (lossless : Lossless world) (closed : world.caller = .closed) :
    Lossless { world with caller := .finished, pending := world.pending ++ [.shutdownInLoop] } := by
  have queued : World.queued { world with
      caller := .finished, pending := world.pending ++ [.shutdownInLoop] } =
      world.queued ++ [.shutdownInLoop] := by
    simp [World.queued, closed, Caller.inHand]
  obtain ⟨state, empty⟩ := lossless.closing (by rw [closed]; rfl)
  refine ⟨lossless.live, lossless.valid, ?_, ?_, ?_, ?_, lossless.shut, ?_⟩
  · intro which some
    rw [queued, List.count_append]
    simpa using lossless.once which some
  · rw [queued]
    simp [lossless.stream, queuedMessage]
  · intro sending
    cases sending
  · intro _
    refine ⟨state, fun functor member => ?_⟩
    rw [queued] at member
    rcases List.mem_append.mp member with earlier | last
    · exact empty functor earlier
    · rw [List.mem_singleton.mp last]
      rfl
  · intro _
    rw [queued]
    simp

/-- What the loop's thread leaves when it has run the functors `done` at the head
of its batch, which posted only notices. -/
structure Ran (world : World) (done rest : List Functor) (conn : TcpConnection)
    (objects : Nat → Option Object) (notices : List Functor) : Prop where
  batch : world.batch = done ++ rest
  live : conn.Live
  state : conn.state = world.conn.state
  notices : ∀ functor ∈ notices, functor.IsNotice
  valid : ∀ which buf, objects which = some (.buffer buf) → buf.Valid
  messages : ∀ functor ∈ rest ++ world.pending ++ world.caller.inHand,
    queuedMessage objects functor = queuedMessage world.objects functor
  nonempty : ∀ which, queuedMessage objects (.sendBuffer which) ≠ [] →
    queuedMessage world.objects (.sendBuffer which) ≠ []
  stream : conn.stream = world.conn.stream ++ (done.map (queuedMessage world.objects)).flatten
  sending : world.caller.isSending = true → conn.socket.shutdownAt = none
  shut : ShutClean conn
  requested : world.caller = .finished →
    Functor.shutdownInLoop ∈ rest ++ world.pending ++ world.caller.inHand ∨
      conn.channel.isWriting = true ∨ conn.socket.shutdownAt ≠ none

theorem Lossless.ran (lossless : Lossless world) (ran : Ran world done rest conn objects notices) :
    Lossless { world with conn, objects, batch := rest, pending := world.pending ++ notices } := by
  have before : world.queued = done ++ (rest ++ world.pending ++ world.caller.inHand) := by
    simp [World.queued, ran.batch]
  have after : World.queued { world with
        conn, objects, batch := rest, pending := world.pending ++ notices } =
      rest ++ world.pending ++ notices ++ world.caller.inHand := by
    simp [World.queued]
  have kept : ∀ functor ∈ rest ++ world.pending ++ world.caller.inHand, functor ∈ world.queued := by
    intro functor member
    rw [before]
    exact List.mem_append_right done member
  have origin : ∀ functor ∈ rest ++ world.pending ++ notices ++ world.caller.inHand,
      functor ∈ rest ++ world.pending ++ world.caller.inHand ∨ functor.IsNotice := by
    intro functor member
    simp only [List.mem_append] at member ⊢
    rcases member with ((inRest | inPending) | inNotices) | inHand
    · exact .inl (.inl (.inl inRest))
    · exact .inl (.inl (.inr inPending))
    · exact .inr (ran.notices functor inNotices)
    · exact .inl (.inr inHand)
  have silent : (notices.map (queuedMessage objects)).flatten = [] := by
    simp only [List.flatten_eq_nil_iff, List.mem_map]
    rintro message ⟨functor, member, rfl⟩
    exact queuedMessage_notice (ran.notices functor member) objects
  refine ⟨ran.live, ran.valid, ?_, ?_, ?_, ?_, ran.shut, ?_⟩
  · intro which some
    have bound := lossless.once which (ran.nonempty which some)
    have absent : notices.count (.sendBuffer which) = 0 :=
      List.count_eq_zero_of_not_mem fun member => ran.notices _ member
    rw [before] at bound
    rw [after]
    simp only [List.count_append] at bound ⊢
    omega
  · have same :
        ((rest ++ world.pending ++ world.caller.inHand).map (queuedMessage objects)).flatten =
          ((rest ++ world.pending ++ world.caller.inHand).map
            (queuedMessage world.objects)).flatten :=
      congrArg List.flatten (List.map_congr_left ran.messages)
    have total := lossless.stream
    rw [before, List.map_append, List.flatten_append, ← same, ← List.append_assoc, ← ran.stream]
      at total
    rw [after, total]
    simp [silent]
  · intro sending
    obtain ⟨state, _, absent⟩ := lossless.sending sending
    refine ⟨ran.state.trans state, ran.sending sending, ?_⟩
    rw [after]
    intro member
    rcases origin _ member with old | notice
    · exact absent (kept _ old)
    · exact notice
  · intro closing
    obtain ⟨state, empty⟩ := lossless.closing closing
    refine ⟨ran.state.trans state, fun functor member => ?_⟩
    rw [after] at member
    rcases origin functor member with old | notice
    · exact (ran.messages functor old).trans (empty functor (kept functor old))
    · exact queuedMessage_notice notice objects
  · intro finished
    rw [after]
    rcases ran.requested finished with member | other
    · left
      simp only [List.mem_append] at member ⊢
      rcases member with (inRest | inPending) | inHand
      · exact .inl (.inl (.inl inRest))
      · exact .inl (.inl (.inr inPending))
      · exact .inr inHand
    · exact .inr other

theorem shutdownInLoop_shut (live : TcpConnection.Live conn) (shut : ShutClean conn) :
    ShutClean conn.shutdownInLoop := by
  intro count found
  by_cases awaiting : conn.channel.isWriting = true
  · rw [TcpConnection.shutdownInLoop, if_pos awaiting] at found ⊢
    exact shut count found
  · rw [TcpConnection.shutdownInLoop, if_neg awaiting] at found ⊢
    simp only [TcpConnection.shutdownWrite] at found ⊢
    have drained : conn.outputBuffer.readableBytes = 0 := by
      by_contra some
      exact awaiting (live.writing.mpr (Nat.pos_of_ne_zero some))
    cases earlier : conn.socket.shutdownAt with
    | none =>
      rw [earlier] at found
      exact ⟨(Option.some.inj found).symm, drained⟩
    | some earlierCount =>
      rw [earlier] at found
      have same : earlierCount = count := Option.some.inj found
      exact shut count (same ▸ earlier)

theorem shutdownInLoop_done (conn : TcpConnection) :
    conn.shutdownInLoop.channel.isWriting = true ∨
      conn.shutdownInLoop.socket.shutdownAt ≠ none := by
  by_cases awaiting : conn.channel.isWriting = true
  · left
    rwa [TcpConnection.shutdownInLoop, if_pos awaiting]
  · right
    rw [TcpConnection.shutdownInLoop, if_neg awaiting]
    simp only [TcpConnection.shutdownWrite]
    cases conn.socket.shutdownAt <;> simp

/-- What a writable event does to a connection that may be shut down. -/
theorem handleWrite_shut {next : TcpConnection} {queued : List Functor} {answer : WriteAnswer}
    (live : TcpConnection.Live conn) (shut : ShutClean conn)
    (returned : conn.handleWrite answer = .ok (next, queued)) :
    ShutClean next ∧ (conn.state ≠ .kDisconnecting →
      next.socket.shutdownAt = conn.socket.shutdownAt) ∧
      (conn.state = .kDisconnecting → next = conn ∨ next.channel.isWriting = true ∨
        next.socket.shutdownAt ≠ none) := by
  -- a connection that still awaits a writable event has not been shut down
  have unshut : conn.channel.isWriting = true → conn.socket.shutdownAt = none := by
    intro awaiting
    cases found : conn.socket.shutdownAt with
    | none => rfl
    | some length =>
      have filled := live.writing.mp awaiting
      have drained := (shut length found).2
      omega
  rcases TcpConnection.handleWrite_cases live answer with
    idle | ⟨taken, outputBuffer, awaiting, valid, _, rest⟩
  · cases idle.symm.trans returned
    exact ⟨shut, fun _ => rfl, fun _ => .inl rfl⟩
  · have open' := unshut awaiting
    rcases rest with ⟨left, partly⟩ | ⟨channel, empty, polled, events, wholly⟩
    · cases partly.symm.trans returned
      refine ⟨?_, fun _ => rfl, fun _ => .inr (.inl awaiting)⟩
      intro length shut
      exact nomatch open'.symm.trans shut
    · cases wholly.symm.trans returned
      have unshutNext : ShutClean { conn.drainedTo taken outputBuffer with channel } := by
        intro length shut
        exact nomatch open'.symm.trans shut
      have nextLive : TcpConnection.Live { conn.drainedTo taken outputBuffer with channel } :=
        ⟨live.isOpen, polled, by simpa [Channel.isReading, events] using live.reading, valid, by
          simp [Channel.isWriting, events, TcpConnection.drainedTo, empty]⟩
      refine ⟨?_, fun connected => ?_, fun disconnecting => ?_⟩
      · unfold TcpConnection.drainedOut
        split
        · exact shutdownInLoop_shut nextLive unshutNext
        · exact unshutNext
      · rw [TcpConnection.drainedOut, if_neg connected]
        rfl
      · rw [TcpConnection.drainedOut, if_pos disconnecting]
        exact .inr (shutdownInLoop_done _)

/-- A queued message reaches the stream, or there is nothing to send any more. -/
theorem Lossless.send (lossless : Lossless world) (log : Log) (count : Nat)
    (batch : world.batch = functor :: rest) (other : functor ≠ .shutdownInLoop)
    (objects : Nat → Option Object)
    (valid : ∀ which buf, objects which = some (.buffer buf) → buf.Valid)
    (messages : ∀ functor ∈ rest ++ world.pending ++ world.caller.inHand,
      queuedMessage objects functor = queuedMessage world.objects functor)
    (nonempty : ∀ which, queuedMessage objects (.sendBuffer which) ≠ [] →
      queuedMessage world.objects (.sendBuffer which) ≠ []) :
    ∃ conn notices,
      world.conn.sendString log (queuedMessage world.objects functor) (.wrote count) =
        .ok (conn, notices) ∧
        Ran world [functor] rest conn objects notices := by
  have queued : world.queued = functor :: (rest ++ world.pending ++ world.caller.inHand) := by
    simp [World.queued, batch]
  have requested : world.caller = .finished →
      Functor.shutdownInLoop ∈ rest ++ world.pending ++ world.caller.inHand ∨
        world.conn.channel.isWriting = true ∨ world.conn.socket.shutdownAt ≠ none := by
    intro finished
    rcases lossless.requested finished with member | done
    · rw [queued] at member
      rcases List.mem_cons.mp member with same | later
      · exact False.elim (other same.symm)
      · exact .inl later
    · exact .inr done
  by_cases sending : world.caller.isSending = true
  · obtain ⟨state, unshut, _⟩ := lossless.sending sending
    obtain ⟨conn, notices, returned, live, sameState, sameShut, stream, areNotices⟩ :=
      TcpConnection.sendInLoop_live log lossless.live
        (queuedMessage world.objects functor) (.wrote count)
    refine ⟨conn, notices, by rw [TcpConnection.sendString, if_pos state, returned], batch,
      live, sameState, areNotices, valid, messages, nonempty, ?_, fun _ =>
        sameShut.trans unshut, ?_, ?_⟩
    · simpa [TcpConnection.givesUp] using stream
    · intro length shut
      rw [sameShut, unshut] at shut
      cases shut
    · intro finished
      rw [finished] at sending
      cases sending
  · have closing : world.caller.isSending = false := by simpa using sending
    obtain ⟨state, empty⟩ := lossless.closing closing
    have nothing := empty functor (by rw [queued]; exact List.mem_cons_self)
    refine ⟨world.conn, [], ?_, batch, lossless.live, rfl, by
      simp, valid, messages, nonempty, ?_, ?_, lossless.shut, requested⟩
    · rw [TcpConnection.sendString, if_neg (by rw [state]; decide)]
    · simp [nothing]
    · exact fun sending' => False.elim (sending sending')

/-- A buffer that is emptied for its first functor changes no other message in the queue. -/
theorem Lossless.messages_emptied (lossless : Lossless world) {which : Nat} {buf left : Buffer}
    {later : List Functor} (queued : world.queued = .sendBuffer which :: later)
    (found : world.objects which = some (.buffer buf)) (empty : left.toString = [])
    (member : functor ∈ later) :
    queuedMessage (Function.update world.objects which (some (.buffer left))) functor =
      queuedMessage world.objects functor := by
  by_cases here : refersTo which functor
  · rcases here with asString | asBuffer
    · simp [asString, queuedMessage, found]
    · -- a second functor for the same buffer: the buffer was empty already
      have twice : 2 ≤ world.queued.count (.sendBuffer which) := by
        rw [queued, List.count_cons_self]
        have again := List.count_pos_iff.mpr (asBuffer ▸ member)
        omega
      have nothing : queuedMessage world.objects (.sendBuffer which) = [] := by
        by_contra some
        have bound := lossless.once which some
        omega
      rw [asBuffer, nothing]
      simp [queuedMessage, empty]
  · exact queuedMessage_update_of_not_refersTo _ _ here

theorem Lossless.valid_update (lossless : Lossless world) {which : Nat} {left : Buffer}
    (valid : left.Valid) :
    ∀ other buf, Function.update world.objects which (some (.buffer left)) other =
      some (.buffer buf) →
      buf.Valid := by
  intro other buf found
  by_cases same : other = which
  · subst same
    simp only [Function.update_self, Option.some.injEq, Object.buffer.injEq] at found
    exact found ▸ valid
  · rw [Function.update_of_ne same] at found
    exact lossless.valid other buf found

theorem Lossless.runFunctor (lossless : Lossless world) (log : Log) (count : Nat)
    (batch : world.batch = functor :: rest)
    (returned : CrossThread.runFunctor log world count functor = .ok (conn, notices, objects)) :
    Ran world [functor] rest conn objects notices := by
  have queued : world.queued = functor :: (rest ++ world.pending ++ world.caller.inHand) := by
    simp [World.queued, batch]
  cases functor with
  | sendString which =>
    cases found : world.objects which with
    | none => simp [CrossThread.runFunctor, found] at returned
    | some object =>
      cases object with
      | buffer buf => simp [CrossThread.runFunctor, found] at returned
      | string value =>
        obtain ⟨next, posted, sent, ran⟩ := lossless.send log count batch (by simp) world.objects
          lossless.valid (fun _ _ => rfl) (fun _ => id)
        have message : queuedMessage world.objects (.sendString which) = value := by
          simp [queuedMessage, found]
        rw [message] at sent
        simp only [CrossThread.runFunctor, found, sent, ok_bind] at returned
        cases returned
        exact ran
  | sendBuffer which =>
    cases found : world.objects which with
    | none => simp [CrossThread.runFunctor, found] at returned
    | some object =>
      cases object with
      | string value => simp [CrossThread.runFunctor, found] at returned
      | buffer buf =>
        have valid := lossless.valid which buf found
        obtain ⟨left, retrieved, leftValid, leftContent⟩ := Buffer.retrieveAllAsString_returns valid
        have message : queuedMessage world.objects (.sendBuffer which) = buf.toString := by
          simp [queuedMessage, found]
        have emptied : queuedMessage (Function.update world.objects which (some (.buffer left)))
            (.sendBuffer which) = [] := by
          simp [queuedMessage, leftContent]
        have nonempty :
            ∀ other, queuedMessage (Function.update world.objects which (some (.buffer left)))
              (.sendBuffer other) ≠ [] → queuedMessage world.objects (.sendBuffer other) ≠ [] := by
          intro other some
          by_cases same : other = which
          · subst same
            exact absurd emptied some
          · simpa [queuedMessage, same] using some
        obtain ⟨next, posted, sent, ran⟩ := lossless.send log count batch (by simp)
          (Function.update world.objects which (some (.buffer left)))
            (lossless.valid_update leftValid)
          (fun _ => lossless.messages_emptied queued found leftContent) nonempty
        rw [message] at sent
        simp only [CrossThread.runFunctor, found, retrieved, sent, ok_bind] at returned
        cases returned
        exact ran
  | shutdownInLoop =>
    cases returned
    have closing : world.caller.isSending = false := by
      by_contra sending
      exact (lossless.sending (by simpa using sending)).2.2
        (by rw [queued]; exact List.mem_cons_self)
    refine ⟨batch, lossless.live.shutdownInLoop, TcpConnection.shutdownInLoop_state _, by simp,
      lossless.valid, fun _ _ => rfl, fun _ => id, ?_, ?_, ?_, ?_⟩
    · simp [TcpConnection.shutdownInLoop_stream, queuedMessage]
    · intro sending
      rw [closing] at sending
      cases sending
    · exact shutdownInLoop_shut lossless.live lossless.shut
    · exact fun _ => .inr (shutdownInLoop_done world.conn)
  | _ =>
    cases returned
    refine ⟨batch, lossless.live, rfl, by simp, lossless.valid, fun _ _ => rfl, fun _ => id,
      by simp [queuedMessage], fun sending => (lossless.sending sending).2.1, lossless.shut, ?_⟩
    intro finished
    rcases lossless.requested finished with member | done
    · rw [queued] at member
      exact .inl (by simpa using member)
    · exact .inr done

theorem Lossless.handleWrite (lossless : Lossless world) (batch : world.batch = [])
    (returned : world.conn.handleWrite (.wrote count) = .ok (conn, notices)) :
    Ran world [] [] conn world.objects notices := by
  obtain ⟨next, posted, same, live, state, stream, areNotices⟩ :=
    TcpConnection.handleWrite_live lossless.live (.wrote count)
  rw [returned] at same
  cases same
  have queued : world.queued = [] ++ world.pending ++ world.caller.inHand := by
    simp [World.queued, batch]
  obtain ⟨shut, open', done⟩ := handleWrite_shut lossless.live lossless.shut returned
  refine ⟨batch, live, state, areNotices, lossless.valid, fun _ _ => rfl, fun _ => id, by
    simp [stream], ?_, shut, ?_⟩
  · intro sending
    obtain ⟨connected, unshut, _⟩ := lossless.sending sending
    rw [open' (by rw [connected]; decide)]
    exact unshut
  · intro finished
    rcases done (lossless.closing (by rw [finished]; rfl)).1 with idle | shutOrWriting
    · rw [idle, ← queued]
      exact lossless.requested finished
    · exact .inr shutOrWriting

theorem Lossless.perform (lossless : Lossless world) (log : Log) (step : Step)
    (wellFormed : step.WellFormed) (careful : Careful world step)
    (returned : step.perform log world = .ok after) : Lossless after := by
  cases step with
  | assign which object =>
    simp only [Step.perform] at returned
    split at returned
    · cases returned
      exact lossless.assign which object wellFormed careful
    · cases returned
  | callSend which =>
    cases found : world.objects which with
    | none => simp [Step.perform, found] at returned
    | some object =>
      simp only [Step.perform, found] at returned
      split at returned
      · rename_i enabled
        cases returned
        exact lossless.callSend found enabled.1 careful
      · cases returned
  | postSend =>
    cases caller : world.caller with
    | posting functor =>
      simp only [Step.perform, caller] at returned
      cases returned
      exact lossless.postSend caller
    | _ => simp [Step.perform, caller] at returned
  | callShutdown =>
    simp only [Step.perform] at returned
    split at returned
    · rename_i ready
      cases returned
      exact lossless.callShutdown ready
    · cases returned
  | setState =>
    simp only [Step.perform] at returned
    split at returned
    · rename_i closing
      cases returned
      exact lossless.setState closing careful
    · cases returned
  | postShutdown =>
    simp only [Step.perform] at returned
    split at returned
    · rename_i closed
      cases returned
      exact lossless.postShutdown closed
    · cases returned
  | swap =>
    simp only [Step.perform] at returned
    split at returned
    · rename_i finished
      cases returned
      exact lossless.swap finished
    · cases returned
  | runFunctor count =>
    cases batch : world.batch with
    | nil => simp [Step.perform, batch] at returned
    | cons functor rest =>
      simp only [Step.perform, batch] at returned
      obtain ⟨⟨conn, notices, objects⟩, ran, same⟩ := bind_eq_ok.mp returned
      cases same
      exact lossless.ran (lossless.runFunctor log count batch ran)
  | handleWrite count =>
    simp only [Step.perform] at returned
    split at returned
    · rename_i batch
      obtain ⟨⟨conn, notices⟩, written, same⟩ := bind_eq_ok.mp returned
      cases same
      have kept := lossless.ran (lossless.handleWrite batch written)
      rwa [← batch] at kept
    · cases returned

theorem initial_lossless (writeCompleteCallback highWaterMarkCallback : Bool) :
    Lossless (World.initial writeCompleteCallback highWaterMarkCallback) where
  live := TcpConnection.established_live writeCompleteCallback highWaterMarkCallback
  valid := by simp [World.initial]
  once := by simp [World.initial, World.queued, Caller.inHand]
  stream := by
    simp [World.initial, World.queued, Caller.inHand, TcpConnection.stream,
      TcpConnection.established, TcpConnection.create]
  sending := by
    simp [World.initial, World.queued, Caller.inHand, TcpConnection.established,
      TcpConnection.create]
  closing := by simp [World.initial, Caller.isSending]
  shut := by simp [ShutClean, World.initial, TcpConnection.established, TcpConnection.create]
  requested := by simp [World.initial]

/-- In every run of careful steps the socket got exactly the messages, with the
values they had when they were sent, before its write side was shut down; and once
nothing is queued or buffered after `shutdown()`, it has been shut down. -/
theorem careful_sends_reach_socket (log : Log) (writeCompleteCallback highWaterMarkCallback : Bool)
    (steps : List Step) (world : World)
    (run : ((machine log).restrict Careful).Run
      (.initial writeCompleteCallback highWaterMarkCallback) steps world) :
    (∀ count, world.conn.socket.shutdownAt = some count →
      world.conn.socket.accepted.take count = world.sent.flatten) ∧
    (world.caller = .finished → world.queued = [] → world.conn.outputBuffer.readableBytes = 0 →
      world.conn.socket.shutdownAt ≠ none) := by
  have lossless : Lossless world := by
    apply run.invariant fun _ world => Lossless world
    · exact initial_lossless writeCompleteCallback highWaterMarkCallback
    · rintro _ current step after kept ⟨careful, wellFormed, returned⟩
      exact kept.perform log step wellFormed careful returned
  constructor
  · intro count shut
    obtain ⟨whole, drained⟩ := lossless.shut count shut
    have closing : world.caller.isSending = false := by
      by_contra sending
      have unshut := (lossless.sending (by simpa using sending)).2.1
      exact nomatch unshut.symm.trans shut
    have silent : (world.queued.map (queuedMessage world.objects)).flatten = [] := by
      simp only [List.flatten_eq_nil_iff, List.mem_map]
      rintro message ⟨functor, member, rfl⟩
      exact (lossless.closing closing).2 functor member
    rw [lossless.stream, silent, TcpConnection.stream, Buffer.toString_of_empty drained, whole]
    simp
  · intro finished none drained
    rcases lossless.requested finished with member | awaiting | shut
    · simp [none] at member
    · have filled := lossless.live.writing.mp awaiting
      omega
    · exact shut

instance : DecidablePred Step.WellFormed
  | .assign _ (some (.buffer buf)) => inferInstanceAs (Decidable buf.Valid)
  | .assign _ (some (.string _)) | .assign _ none | .callSend _ | .postSend | .callShutdown
  | .setState
  | .postShutdown | .swap | .runFunctor _ | .handleWrite _ => inferInstanceAs (Decidable True)

instance (which : Nat) (functor : Functor) : Decidable (refersTo which functor) :=
  inferInstanceAs (Decidable (_ ∨ _))

instance (world : World) : DecidablePred (Careful world)
  | .assign which object =>
    inferInstanceAs (Decidable ((∀ functor ∈ world.queued, ¬ refersTo which functor) ∨
      Object.view object = Object.view (world.objects which)))
  | .callSend which =>
    inferInstanceAs (Decidable (Functor.sendBuffer which ∈ world.queued →
      queuedMessage world.objects (.sendBuffer which) = []))
  | .setState =>
    inferInstanceAs (Decidable (∀ functor ∈ world.queued, queuedMessage world.objects functor = []))
  | .postSend | .callShutdown | .postShutdown | .swap | .runFunctor _ | .handleWrite _ =>
    inferInstanceAs (Decidable True)

/-- A caller that waits for its functor before it drops the string and shuts down. -/
theorem careful_sends_reach_socket_partial_write :
    ∃ world : World,
      ((machine ⟨.kINFO, none⟩).restrict Careful).Run (.initial false false)
        [.assign 0 (some (.string [104, 105])), .callSend 0, .postSend, .swap,
          .runFunctor 1, .assign 0 none, .callShutdown, .setState, .postShutdown, .swap,
          .runFunctor 0, .handleWrite 9] world ∧
      world.conn.socket.shutdownAt = some 2 ∧
      world.conn.socket.accepted.take 2 = world.sent.flatten ∧ world.sent = [[104, 105]] := by
  have followed : (Machine.follow (Step.perform ⟨.kINFO, none⟩)
      (fun world step => decide (step.WellFormed ∧ Careful world step)) (.initial false false)
      [.assign 0 (some (.string [104, 105])), .callSend 0, .postSend, .swap,
        .runFunctor 1, .assign 0 none, .callShutdown, .setState, .postShutdown, .swap,
        .runFunctor 0, .handleWrite 9]).any
      (fun world => world.conn.socket.shutdownAt == some 2 && world.sent == [[104, 105]]) =
        true := by
    decide +kernel
  obtain ⟨world, run, final⟩ := Machine.Run.ofFollowAny ((machine ⟨.kINFO, none⟩).restrict Careful)
    (fun allowed performed =>
      ⟨(of_decide_eq_true allowed).2, (of_decide_eq_true allowed).1, performed⟩) followed
  simp only [Bool.and_eq_true, beq_iff_eq] at final
  exact ⟨world, run, final.1, (careful_sends_reach_socket _ _ _ _ world run).1 2 final.1, final.2⟩

/-- A message sent from another thread and still queued when `shutdown()` is called
is dropped, and the write side is shut down without it. -/
theorem crossThread_send_lost :
    ∃ world : World,
      (machine ⟨.kINFO, none⟩).Run (.initial false false)
        [.assign 0 (some (.string [104, 105])), .callSend 0, .postSend, .callShutdown,
          .setState, .postShutdown, .swap, .runFunctor 2, .runFunctor 0] world ∧
      world.conn.socket.shutdownAt = some 0 ∧ world.conn.socket.accepted.take 0 ≠
        world.sent.flatten := by
  have followed :
      (Machine.follow (Step.perform ⟨.kINFO, none⟩) (fun _ step => decide step.WellFormed)
      (.initial false false)
      [.assign 0 (some (.string [104, 105])), .callSend 0, .postSend, .callShutdown,
        .setState, .postShutdown, .swap, .runFunctor 2, .runFunctor 0]).any
      (fun world => world.conn.socket.shutdownAt == some 0 && world.sent == [[104, 105]]) =
        true := by
    decide +kernel
  obtain ⟨world, run, final⟩ := Machine.Run.ofFollowAny (machine ⟨.kINFO, none⟩)
    (fun allowed performed => ⟨of_decide_eq_true allowed, performed⟩) followed
  simp only [Bool.and_eq_true, beq_iff_eq] at final
  exact ⟨world, run, final.1, by simp [final.2]⟩

end FakeMuduo.Net.CrossThread
