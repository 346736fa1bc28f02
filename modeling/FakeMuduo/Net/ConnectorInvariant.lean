import FakeMuduo.Net.TcpClient
import Mathlib.Data.List.Count

/-! What holds of a connector between the steps of its client's threads: where each socket is,
what the channel waits for, and when an assertion fails. -/

namespace FakeMuduo.Net

open FakeMuduo.Base FakeMuduo.Util

namespace Connector

namespace World

/-- The channel of the attempt in progress owns the socket. -/
def Owns (world : World) (sockfd : Nat) : Prop :=
  world.connector.state = .kConnecting ∧ world.connector.channel.map Attempt.sockfd = some sockfd

instance (world : World) (sockfd : Nat) : Decidable (world.Owns sockfd) :=
  inferInstanceAs (Decidable (_ ∧ _))

/-- How often the connector closed a socket. -/
def closes (world : World) (sockfd : Nat) : Nat := world.closed.count sockfd

/-- How often the connector handed a socket over. -/
def handovers (world : World) (sockfd : Nat) : Nat :=
  (world.handed.map Handover.sockfd).count sockfd

/-- The `resetChannel` functors that have still to run. -/
def resets (world : World) : Nat := world.outstanding.count .resetChannel

end World

/-- Each socket is owned, closed or handed over, once. -/
structure Sockets (world : World) : Prop where
  once : ∀ sockfd, world.closes sockfd + world.handovers sockfd +
    (if world.Owns sockfd then 1 else 0) =
    if sockfd < world.created then 1 else 0
  wanted : ∀ handover ∈ world.handed, handover.connect = true

/-- The channel is watched while an attempt is in progress. Afterwards it waits, removed, for the
one `resetChannel` that was queued for it. -/
inductive Held (world : World) : Prop where
  | watched (attempt : Attempt) (connecting : world.connector.state = .kConnecting)
      (holds : world.connector.channel = some attempt) (polled : attempt.channel.Polled)
      (unasked : world.resets = 0)
  | removed (attempt : Attempt) (finished : world.connector.state ≠ .kConnecting)
      (holds : world.connector.channel = some attempt) (unregistered : attempt.channel.Unregistered)
      (apart : attempt.channel.addedToLoop = false) (asked : world.resets = 1)
  | empty (finished : world.connector.state ≠ .kConnecting) (holds : world.connector.channel = none)
      (unasked : world.resets = 0)

/-- Where the loop thread can be in each state of the connector. -/
structure Placed (world : World) : Prop where
  established : world.established = true ↔ world.connector.state = .kConnected
  connected : ∀ sockfd, world.client.connection = some sockfd → world.connector.state = .kConnected
  event : ∀ revents hangup, world.phase = .handling (some revents) hangup →
    world.connector.state = .kConnecting
  hangup : ∀ event sockfd, world.phase = .handling event (some sockfd) →
    world.client.connection = some sockfd
  restarting : world.call = .restarting → world.connector.state = .kConnected ∧
    world.client.connection = none
  connecting : world.call = .connecting → world.connector.state = .kDisconnected

structure Sound (world : World) : Prop where
  sockets : Sockets world
  held : Held world
  placed : Placed world

theorem initial_sound : Sound .initial := by
  refine ⟨⟨?_, ?_⟩, .empty (by decide) rfl rfl, ⟨?_, ?_, ?_, ?_, ?_, ?_⟩⟩
  · intro sockfd
    rfl
  · intro handover member
    cases member
  all_goals simp [World.initial]

/-- How an attempt in progress ends: it fails, or it succeeds and its socket is handed over, or
closed because of a `stop()`. -/
inductive Outcome (world : World) (sockfd : Nat) (after : World) : Prop where
  | failed (state : after.connector.state = .kDisconnected)
      (established : after.established = world.established)
      (connection : after.client.connection = world.client.connection)
      (closed : after.closed = world.closed ++ [sockfd]) (handed : after.handed = world.handed)
  | dropped (state : after.connector.state = .kConnected) (established : after.established = true)
      (connection : after.client.connection = world.client.connection)
      (closed : after.closed = world.closed ++ [sockfd]) (handed : after.handed = world.handed)
  | handed (state : after.connector.state = .kConnected) (established : after.established = true)
      (wanted : world.connector.connect = true) (closed : after.closed = world.closed)
      (handed : after.handed = world.handed ++ [⟨sockfd, world.connector.connect, world.stopped⟩])

structure Ends (world : World) (sockfd : Nat) (after : World) : Prop where
  outcome : Outcome world sockfd after
  channel : ∃ removed, after.connector.channel = some ⟨sockfd, removed⟩ ∧ removed.Unregistered ∧
    removed.addedToLoop = false
  asked : after.outstanding = world.outstanding ++ [.resetChannel]
  created : after.created = world.created
  phase : after.phase = world.phase
  call : after.call = world.call
  calls : after.calls = world.calls
  flags : after.connector.connect = world.connector.connect ∧
    after.client.connect = world.client.connect
  connects : after.connects = world.connects
  stopped : after.stopped = world.stopped

variable {world after : World}

theorem Outcome.finished (outcome : Outcome world sockfd after) :
    after.connector.state ≠ .kConnecting := by
  cases outcome with
  | failed state | dropped state | handed state =>
    rw [state]
    decide

/-- A retry closes the socket and disconnects; what else changes is when it will be tried again. -/
theorem retry_eq (world : World) (sockfd : Nat) : ∃ timers retryDelayMs, world.retry sockfd =
    { world with
      closed := world.closed ++ [sockfd]
      timers := timers
      connector :=
        { world.connector with state := .kDisconnected, retryDelayMs := retryDelayMs } } := by
  unfold World.retry
  by_cases connect : world.connector.connect = true
  · exact ⟨_, _, if_pos connect⟩
  · exact ⟨_, _, if_neg connect⟩

theorem retry_disconnected (world : World) (sockfd : Nat) :
    (world.retry sockfd).connector.state = .kDisconnected := by
  obtain ⟨timers, retryDelayMs, retried⟩ := retry_eq world sockfd
  rw [retried]

theorem not_connecting_of_disconnected (disconnected : world.connector.state = .kDisconnected) :
    world.connector.state ≠ .kConnecting := by
  rw [disconnected]
  decide

/-- An attempt that has failed takes no notice of a writable socket. -/
theorem handleWrite_disconnected (disconnected : world.connector.state = .kDisconnected)
    (probe : Probe) :
    world.handleWrite probe = .ok world := by
  rw [World.handleWrite, if_neg (not_connecting_of_disconnected disconnected),
    check_pass _ disconnected]
  rfl

theorem queueInLoop_outstanding (world : World) (functor : Functor) :
    (world.queueInLoop functor).outstanding = world.outstanding ++ [functor] :=
  (List.append_assoc _ _ _).symm

/-- The world after `removeAndResetChannel`. -/
def World.detached (world : World) (sockfd : Nat) (removed : Channel) : World :=
  { world with connector.channel := some ⟨sockfd, removed⟩ }.queueInLoop .resetChannel

theorem removeAndResetChannel_eq {attempt : Attempt}
    (holds : world.connector.channel = some attempt) (polled : attempt.channel.Polled) :
    ∃ removed : Channel, removed.Unregistered ∧ removed.addedToLoop = false ∧
      world.removeAndResetChannel =
        .ok (attempt.sockfd, world.detached attempt.sockfd removed) := by
  obtain ⟨disabled, disables, parked⟩ := Channel.disableAll_parked polled
  obtain ⟨removed, removes, unregistered⟩ := Channel.remove_unregistered parked
  refine ⟨removed, unregistered, Channel.remove_addedToLoop removes, ?_⟩
  rw [World.removeAndResetChannel, holds]
  simp only [disables, removes, ok_bind]
  rfl

theorem Held.attempt (held : Held world) (connecting : world.connector.state = .kConnecting) :
    ∃ attempt, world.connector.channel = some attempt ∧ attempt.channel.Polled ∧
      world.resets = 0 := by
  cases held with
  | watched attempt _ holds polled unasked => exact ⟨attempt, holds, polled, unasked⟩
  | removed _ finished | empty finished => exact absurd connecting finished

theorem World.Owns.of_channel {attempt : Attempt}
    (connecting : world.connector.state = .kConnecting)
    (holds : world.connector.channel = some attempt) : world.Owns attempt.sockfd :=
  ⟨connecting, by rw [holds]; rfl⟩

theorem retry_ends (world : World) (sockfd : Nat) {removed : Channel}
    (unregistered : removed.Unregistered) (apart : removed.addedToLoop = false) :
    Ends world sockfd ((world.detached sockfd removed).retry sockfd) := by
  obtain ⟨timers, retryDelayMs, retried⟩ := retry_eq (world.detached sockfd removed) sockfd
  rw [retried]
  exact ⟨.failed rfl rfl rfl rfl rfl, ⟨removed, rfl, unregistered, apart⟩,
    queueInLoop_outstanding world .resetChannel, rfl, rfl, rfl, rfl, ⟨rfl, rfl⟩, rfl, rfl⟩

theorem Sound.handleError (sound : Sound world)
    (connecting : world.connector.state = .kConnecting) :
    ∃ sockfd after, world.handleError = .ok after ∧ world.Owns sockfd ∧ Ends world sockfd after ∧
      after.connector.state = .kDisconnected := by
  obtain ⟨attempt, holds, polled, _⟩ := sound.held.attempt connecting
  obtain ⟨removed, unregistered, apart, detached⟩ := removeAndResetChannel_eq holds polled
  refine ⟨attempt.sockfd, (world.detached attempt.sockfd removed).retry attempt.sockfd, ?_,
    .of_channel connecting holds, retry_ends world _ unregistered apart, retry_disconnected _ _⟩
  rw [World.handleError, if_pos connecting, detached]
  rfl

theorem Sound.stopInLoop (sound : Sound world) (connecting : world.connector.state = .kConnecting) :
    ∃ sockfd after, world.stopInLoop = .ok after ∧ world.Owns sockfd ∧ Ends world sockfd after := by
  obtain ⟨attempt, holds, polled, _⟩ := sound.held.attempt connecting
  have attached : ({ world with connector.state := .kDisconnected } : World).connector.channel =
    some attempt := holds
  obtain ⟨removed, unregistered, apart, detached⟩ := removeAndResetChannel_eq attached polled
  refine ⟨attempt.sockfd, (world.detached attempt.sockfd removed).retry attempt.sockfd, ?_,
    .of_channel connecting holds, retry_ends world _ unregistered apart⟩
  rw [World.stopInLoop, if_pos connecting, detached]
  rfl

theorem Sound.handleWrite (sound : Sound world) (connecting : world.connector.state = .kConnecting)
    (probe : Probe) :
    ∃ sockfd after, world.handleWrite probe = .ok after ∧ world.Owns sockfd ∧
      Ends world sockfd after := by
  obtain ⟨attempt, holds, polled, _⟩ := sound.held.attempt connecting
  obtain ⟨removed, unregistered, apart, detached⟩ := removeAndResetChannel_eq holds polled
  have owns : world.Owns attempt.sockfd := .of_channel connecting holds
  have failed := retry_ends world attempt.sockfd unregistered apart
  rw [World.handleWrite, if_pos connecting, detached]
  simp only [ok_bind]
  split
  · exact ⟨_, _, rfl, owns, failed⟩
  · split
    · exact ⟨_, _, rfl, owns, failed⟩
    · split
      · rename_i connect
        exact ⟨_, _, rfl, owns, .handed rfl rfl connect rfl rfl,
          ⟨removed, rfl, unregistered, apart⟩, queueInLoop_outstanding world .resetChannel, rfl,
          rfl, rfl, rfl, ⟨rfl, rfl⟩, rfl, rfl⟩
      · exact ⟨_, _, rfl, owns, .dropped rfl rfl rfl rfl rfl, ⟨removed, rfl, unregistered, apart⟩,
          queueInLoop_outstanding world .resetChannel, rfl, rfl, rfl, rfl, ⟨rfl, rfl⟩, rfl, rfl⟩

theorem World.Owns.unique {other : Nat} (owns : world.Owns sockfd) :
    world.Owns other ↔ other = sockfd := by
  constructor
  · intro owned
    exact Option.some.inj (owned.2.symm.trans owns.2)
  · intro same
    rw [same]
    exact owns

theorem not_owns_of_finished (finished : world.connector.state ≠ .kConnecting) (sockfd : Nat) :
    ¬ world.Owns sockfd :=
  fun owns => finished owns.1

theorem Sockets.ends (sockets : Sockets world) (owns : world.Owns sockfd)
    (ends : Ends world sockfd after) :
    Sockets after := by
  have finished := not_owns_of_finished ends.outcome.finished
  have once : ∀ other, (world.closes other + if other = sockfd then 1 else 0) +
      world.handovers other =
        if other < world.created then 1 else 0 := by
    intro other
    have counted := sockets.once other
    simp only [owns.unique] at counted
    omega
  cases ends.outcome with
  | failed _ _ _ closed handed | dropped _ _ _ closed handed =>
    refine ⟨?_, ?_⟩
    · intro other
      have counted := once other
      simp only [World.closes, World.handovers, closed, handed, ends.created, finished,
        List.count_append, List.count_singleton] at counted ⊢
      grind
    · rw [handed]
      exact sockets.wanted
  | handed _ _ wanted closed handed =>
    refine ⟨?_, ?_⟩
    · intro other
      have counted := once other
      simp only [World.closes, World.handovers, closed, handed, ends.created, finished,
        List.count_append, List.count_singleton, List.map_append, List.map_cons, List.map_nil]
          at counted ⊢
      grind
    · rw [handed]
      intro handover member
      rcases List.mem_append.mp member with earlier | new
      · exact sockets.wanted handover earlier
      · rw [List.mem_singleton.mp new]
        exact wanted

theorem Held.ends (held : Held world) (owns : world.Owns sockfd) (ends : Ends world sockfd after) :
    Held after := by
  obtain ⟨_, _, _, unasked⟩ := held.attempt owns.1
  obtain ⟨removed, channel, unregistered, apart⟩ := ends.channel
  refine .removed _ ends.outcome.finished channel unregistered apart ?_
  rw [World.resets, ends.asked, List.count_append]
  exact congrArg (· + 1) unasked

theorem Placed.ends (placed : Placed world) (owns : world.Owns sockfd)
    (ends : Ends world sockfd after)
    (handled : ∀ revents hangup, world.phase ≠ .handling (some revents) hangup) : Placed after := by
  have unconnected : world.connector.state ≠ .kConnected := by
    rw [owns.1]
    decide
  have alone : ∀ other, world.client.connection ≠ some other :=
    fun other some => unconnected (placed.connected other some)
  have established : world.established = false := by
    rw [← Bool.not_eq_true, placed.established]
    exact unconnected
  refine ⟨?_, ?_, ?_, ?_, ?_, ?_⟩
  · cases ends.outcome with
    | failed state same => rw [state, same, established]; decide
    | dropped state same | handed state same => rw [state, same]; decide
  · intro other some
    cases ends.outcome with
    | failed _ _ connection => exact absurd (connection ▸ some) (alone other)
    | dropped state | handed state => exact state
  · intro revents hangup phase
    exact absurd (ends.phase ▸ phase) (handled revents hangup)
  · intro event other phase
    exact absurd (placed.hangup event other (ends.phase ▸ phase)) (alone other)
  · intro restarting
    exact absurd (placed.restarting (ends.call ▸ restarting)).1 unconnected
  · intro connecting
    have disconnected := placed.connecting (ends.call ▸ connecting)
    rw [owns.1] at disconnected
    cases disconnected

/-- The end of an attempt keeps everything sound. -/
theorem Sound.ends (sound : Sound world) (owns : world.Owns sockfd) (ends : Ends world sockfd after)
    (handled : ∀ revents hangup, world.phase ≠ .handling (some revents) hangup) : Sound after :=
  ⟨sound.sockets.ends owns ends, sound.held.ends owns ends, sound.placed.ends owns ends handled⟩

theorem Sound.handleEvent (sound : Sound world) (connecting : world.connector.state = .kConnecting)
    (handled : ∀ revents hangup, world.phase ≠ .handling (some revents) hangup) (revents : Revents)
    (probe : Probe) :
    ∃ after, world.handleEvent revents probe = .ok after ∧ Sound after ∧
      (after = world ∨ ∃ sockfd, world.Owns sockfd ∧ Ends world sockfd after) := by
  rw [World.handleEvent]
  by_cases error : (revents.pollerr || revents.pollnval) = true
  · obtain ⟨sockfd, after, failed, owns, ends, disconnected⟩ := sound.handleError connecting
    have again := handleWrite_disconnected disconnected probe
    refine ⟨after, ?_, sound.ends owns ends handled, .inr ⟨sockfd, owns, ends⟩⟩
    rw [if_pos error, failed, ok_bind]
    split
    · exact again
    · rfl
  · rw [if_neg error]
    simp only [pure_bind]
    by_cases writable : revents.pollout = true
    · obtain ⟨sockfd, after, wrote, owns, ends⟩ := sound.handleWrite connecting probe
      rw [if_pos writable]
      exact ⟨after, wrote, sound.ends owns ends handled, .inr ⟨sockfd, owns, ends⟩⟩
    · rw [if_neg writable]
      exact ⟨world, rfl, sound, .inl rfl⟩

/-- A socket that is closed as soon as it is created. -/
theorem Sockets.discard (sockets : Sockets world)
    (disconnected : world.connector.state ≠ .kConnecting)
    (finished : after.connector.state ≠ .kConnecting) (created : after.created = world.created + 1)
    (closed : after.closed = world.closed ++ [world.created])
    (handed : after.handed = world.handed) :
    Sockets after := by
  refine ⟨?_, ?_⟩
  · intro sockfd
    have counted := sockets.once sockfd
    simp only [World.closes, World.handovers, not_owns_of_finished disconnected,
      not_owns_of_finished finished, created, closed, handed, List.count_append,
      List.count_singleton] at counted ⊢
    grind
  · rw [handed]
    exact sockets.wanted

/-- A socket that an attempt takes as soon as it is created. -/
theorem Sockets.take (sockets : Sockets world) (disconnected : world.connector.state ≠ .kConnecting)
    (owns : after.Owns world.created) (created : after.created = world.created + 1)
    (closed : after.closed = world.closed) (handed : after.handed = world.handed) :
    Sockets after := by
  refine ⟨?_, ?_⟩
  · intro sockfd
    have counted := sockets.once sockfd
    simp only [World.closes, World.handovers, not_owns_of_finished disconnected, owns.unique,
      created, closed, handed] at counted ⊢
    grind
  · rw [handed]
    exact sockets.wanted

theorem Held.channel_eq_none (held : Held world) (finished : world.connector.state ≠ .kConnecting) :
    world.connector.channel = none ↔ Functor.resetChannel ∉ world.outstanding := by
  rw [← List.count_eq_zero]
  cases held with
  | watched _ connecting => exact absurd connecting finished
  | removed _ _ holds _ _ asked =>
    rw [World.resets] at asked
    simp [holds, asked]
  | empty _ holds unasked => exact ⟨fun _ => unasked, fun _ => holds⟩

/-- What is said of the loop thread while no attempt is in progress and none has succeeded. -/
theorem Placed.disconnected (placed : Placed world)
    (disconnected : world.connector.state = .kDisconnected) :
    world.established = false ∧ (∀ sockfd, world.client.connection ≠ some sockfd) ∧
      (∀ revents hangup, world.phase ≠ .handling (some revents) hangup) ∧
      ∀ event sockfd, world.phase ≠ .handling event (some sockfd) := by
  have unconnected : world.connector.state ≠ .kConnected := by
    rw [disconnected]
    decide
  have alone : ∀ sockfd, world.client.connection ≠ some sockfd :=
    fun sockfd some => unconnected (placed.connected sockfd some)
  refine ⟨?_, alone, ?_, ?_⟩
  · rw [← Bool.not_eq_true, placed.established]
    exact unconnected
  · intro revents hangup phase
    have connecting := placed.event revents hangup phase
    rw [disconnected] at connecting
    cases connecting
  · intro event sockfd phase
    exact alone sockfd (placed.hangup event sockfd phase)

/-- An attempt that is in progress at once is taken exactly if no earlier channel
waits to be reset. -/
theorem Sound.connecting (sound : Sound world)
    (disconnected : world.connector.state = .kDisconnected) :
    (∃ after, { world with created := world.created + 1, call := .idle }.connecting world.created =
      .ok after) ↔
      Functor.resetChannel ∉ world.outstanding := by
  have finished := not_connecting_of_disconnected disconnected
  obtain ⟨channel, created, _⟩ := Channel.enableWriting_create
  simp only [World.connecting, check_bind_eq_ok, created,
    ok_bind, ← sound.held.channel_eq_none finished]
  constructor
  · rintro ⟨_, empty, _⟩
    exact empty
  · intro empty
    exact ⟨_, empty, rfl⟩

theorem Held.congr (held : Held world)
    (state : after.connector.state = .kConnecting ↔ world.connector.state = .kConnecting)
    (channel : after.connector.channel = world.connector.channel)
    (resets : after.resets = world.resets) :
    Held after := by
  cases held with
  | watched attempt connecting holds polled unasked =>
    exact .watched attempt (state.mpr connecting) (channel.trans holds) polled
      (resets.trans unasked)
  | removed attempt finished holds unregistered apart asked =>
    exact .removed attempt (finished ∘ state.mp) (channel.trans holds) unregistered apart
      (resets.trans asked)
  | empty finished holds unasked =>
    exact .empty (finished ∘ state.mp) (channel.trans holds) (resets.trans unasked)

theorem Sockets.congr (sockets : Sockets world)
    (owns : ∀ sockfd, after.Owns sockfd ↔ world.Owns sockfd)
    (created : after.created = world.created) (closed : after.closed = world.closed)
    (handed : after.handed = world.handed) : Sockets after := by
  refine ⟨?_, ?_⟩
  · intro sockfd
    have counted := sockets.once sockfd
    simp only [World.closes, World.handovers, owns, created, closed, handed] at counted ⊢
    exact counted
  · rw [handed]
    exact sockets.wanted

/-- An attempt that fails at once. -/
theorem Sound.discard (sound : Sound world) (disconnected : world.connector.state = .kDisconnected)
    (timers : List Nat) (retryDelayMs : Nat) : Sound { world with
      created := world.created + 1
      call := .idle
      closed := world.closed ++ [world.created]
      timers := timers
      connector := { world.connector with
        state := world.connector.state, retryDelayMs := retryDelayMs } } := by
  have finished := not_connecting_of_disconnected disconnected
  refine ⟨sound.sockets.discard finished finished rfl rfl rfl, sound.held.congr Iff.rfl rfl rfl, ?_⟩
  refine ⟨sound.placed.established, sound.placed.connected, sound.placed.event,
    sound.placed.hangup, ?_, ?_⟩
  · intro restarting
    cases restarting
  · intro connecting
    cases connecting

theorem Sound.connect (sound : Sound world) (connecting : world.call = .connecting)
    (savedErrno : Errno) (after : World) (performed : world.connect savedErrno = .ok after) :
    Sound after := by
  have disconnected := sound.placed.connecting connecting
  have finished := not_connecting_of_disconnected disconnected
  obtain ⟨unestablished, alone, noEvent, noHangup⟩ := sound.placed.disconnected disconnected
  simp only [World.connect] at performed
  split at performed
  · obtain ⟨channel, created, polled⟩ := Channel.enableWriting_create
    simp only [World.connecting, check_bind_eq_ok, created, ok_bind] at performed
    obtain ⟨empty, returned⟩ := performed
    cases returned
    have unasked := List.count_eq_zero.mpr ((sound.held.channel_eq_none finished).mp empty)
    refine ⟨sound.sockets.take finished ⟨rfl, rfl⟩ rfl rfl rfl,
      .watched ⟨world.created, channel⟩ rfl rfl polled unasked, ?_⟩
    refine ⟨?_, ?_, ?_, ?_, ?_, ?_⟩
    · simp [unestablished]
    · intro sockfd some
      exact absurd some (alone sockfd)
    · intro revents hangup phase
      rfl
    · exact sound.placed.hangup
    · intro restarting
      cases restarting
    · intro starting
      cases starting
  · split at performed
    · obtain ⟨timers, retryDelayMs, retried⟩ := retry_eq
        { world with created := world.created + 1, call := .idle } world.created
      cases performed
      rw [retried, ← disconnected]
      exact sound.discard disconnected timers retryDelayMs
    · cases performed
      exact sound.discard disconnected world.timers world.connector.retryDelayMs

/-- What is known of the connector's attempts and of the client's connection. -/
def World.attempts (world : World) :
    State × Option Attempt × Nat × List Nat × List Handover × Bool × Option Nat :=
  (world.connector.state, world.connector.channel, world.created, world.closed, world.handed,
    world.established, world.client.connection)

/-- A step that leaves the attempts alone and moves the loop thread where it may be. -/
theorem Sound.move (sound : Sound world) (same : after.attempts = world.attempts)
    (resets : after.resets = world.resets)
    (event : ∀ revents hangup, after.phase = .handling (some revents) hangup →
      world.connector.state = .kConnecting)
    (hangup : ∀ event sockfd, after.phase = .handling event (some sockfd) →
      world.client.connection = some sockfd)
    (restarting : after.call = .restarting →
      world.connector.state = .kConnected ∧ world.client.connection = none)
    (connecting : after.call = .connecting → world.connector.state = .kDisconnected) :
    Sound after := by
  simp only [World.attempts, Prod.mk.injEq] at same
  obtain ⟨state, channel, created, closed, handed, established, connection⟩ := same
  have owns : ∀ sockfd, after.Owns sockfd ↔ world.Owns sockfd := by
    intro sockfd
    rw [World.Owns, World.Owns, state, channel]
  refine ⟨sound.sockets.congr owns created closed handed,
    sound.held.congr (by rw [state]) channel resets, ?_⟩
  refine ⟨?_, ?_, ?_, ?_, ?_, ?_⟩
  · rw [established, state]
    exact sound.placed.established
  · rw [connection, state]
    exact sound.placed.connected
  · rw [state]
    exact event
  · rw [connection]
    exact hangup
  · rw [state, connection]
    exact restarting
  · rw [state]
    exact connecting

/-- A step that changes flags, calls of other threads, timers or the clock only. -/
theorem Sound.quiet (sound : Sound world) (same : after.attempts = world.attempts)
    (resets : after.resets = world.resets) (phase : after.phase = world.phase)
    (call : after.call = world.call) : Sound after := by
  refine sound.move same resets ?_ ?_ ?_ ?_
  · rw [phase]
    exact sound.placed.event
  · rw [phase]
    exact sound.placed.hangup
  · rw [call]
    exact sound.placed.restarting
  · rw [call]
    exact sound.placed.connecting

theorem Sound.setCall (sound : Sound world) (thread : Thread) {call : Call}
    (unstarted : call ≠ .restarting) (unconnected : call ≠ .connecting) :
    Sound (world.setCall call thread) := by
  cases thread with
  | none =>
    exact sound.move rfl rfl sound.placed.event sound.placed.hangup
      (fun restarting => absurd restarting unstarted)
      (fun connecting => absurd connecting unconnected)
  | some thread =>
    exact sound.quiet rfl rfl rfl rfl

theorem Sound.queueInLoop (sound : Sound world) {functor : Functor}
    (other : functor ≠ .resetChannel) :
    Sound (world.queueInLoop functor) := by
  refine sound.move rfl ?_ sound.placed.event sound.placed.hangup sound.placed.restarting
    sound.placed.connecting
  rw [World.resets, queueInLoop_outstanding, List.count_append, List.count_singleton,
    if_neg (by simpa using other)]
  rfl

/-- The loop thread goes on to another place of its loop, with nothing left to handle there. -/
theorem Sound.setPhase (sound : Sound world) (phase : Phase) (pending : List Functor)
    (resets : { world with phase := phase, pending := pending }.resets = world.resets)
    (event : ∀ revents hangup, phase = .handling (some revents) hangup →
      world.connector.state = .kConnecting)
    (hangup : ∀ event sockfd, phase = .handling event (some sockfd) →
      world.client.connection = some sockfd) :
    Sound { world with phase := phase, pending := pending } :=
  sound.move rfl resets event hangup sound.placed.restarting sound.placed.connecting

/-- The event of the connector's channel is taken from the loop's list. -/
theorem Sound.handled (sound : Sound world) {revents : Revents} {hangup : Option Nat}
    (phase : world.phase = .handling (some revents) hangup) :
    Sound { world with phase := .handling none hangup } := by
  refine sound.setPhase _ world.pending ?_ ?_ ?_
  · simp [World.resets, World.outstanding, phase, Phase.functors]
  · intro revents hangup same
    cases same
  · intro event sockfd same
    cases same
    exact sound.placed.hangup _ _ phase

theorem Sound.removeConnection (sound : Sound world) {sockfd : Nat}
    (current : world.client.connection = some sockfd)
    (handled : ∀ event sockfd, world.phase ≠ .handling event (some sockfd)) :
    ∃ after, world.removeConnection sockfd = .ok after ∧ Sound after := by
  have connected := sound.placed.connected sockfd current
  refine ⟨_, by rw [World.removeConnection, check_pass _ current]; rfl, ?_⟩
  refine ⟨⟨sound.sockets.once, sound.sockets.wanted⟩, sound.held.congr Iff.rfl rfl rfl, ?_⟩
  refine ⟨sound.placed.established, ?_, sound.placed.event, ?_, ?_, ?_⟩
  · intro other some
    cases some
  · intro event other phase
    exact absurd phase (handled event other)
  · intro restarting
    exact ⟨connected, rfl⟩
  · intro connecting
    dsimp only at connecting
    split at connecting
    · cases connecting
    · cases connecting

/-- The functor that the loop calls is the one for which the removed channel waited. -/
theorem Sound.resetChannel (sound : Sound world) {functors : List Functor}
    (calling : world.phase = .calling (.resetChannel :: functors)) :
    ∃ after, { world with phase := .calling functors }.resetChannel = .ok after ∧ Sound after := by
  have counted : world.resets = { world with phase := .calling functors }.resets + 1 := by
    simp [World.resets, World.outstanding, calling, Phase.functors]
  cases sound.held with
  | watched _ _ _ _ unasked | empty _ _ unasked =>
    rw [unasked] at counted
    cases counted
  | removed attempt finished holds unregistered apart asked =>
    have none : { world with phase := .calling functors }.resets = 0 := by
      rw [asked] at counted
      omega
    refine ⟨{ world with phase := .calling functors, connector.channel := .none }, ?_, ?_⟩
    · simp only [World.resetChannel, holds, apart, unregistered.unmapped, check_pass, ok_bind]
      rfl
    · have owns : ∀ sockfd,
        { world with phase := .calling functors, connector.channel := .none }.Owns sockfd ↔
          world.Owns sockfd := by
        intro sockfd
        exact iff_of_false (fun owns => finished owns.1) (not_owns_of_finished finished sockfd)
      refine ⟨sound.sockets.congr owns rfl rfl rfl, .empty finished rfl none, ?_⟩
      refine ⟨sound.placed.established, sound.placed.connected, ?_, ?_, sound.placed.restarting,
        sound.placed.connecting⟩
      · intro revents hangup phase
        cases phase
      · intro event sockfd phase
        cases phase

/-- A functor other than `resetChannel` leaves the loop's list. -/
theorem Sound.pop (sound : Sound world) {functor : Functor} {functors : List Functor}
    (calling : world.phase = .calling (functor :: functors)) (other : functor ≠ .resetChannel) :
    Sound { world with phase := .calling functors } := by
  refine sound.setPhase _ world.pending ?_ (fun _ _ => Phase.noConfusion)
    (fun _ _ => Phase.noConfusion)
  simp [World.resets, World.outstanding, calling, Phase.functors, other]

theorem Sound.callFunctor (sound : Sound world) {functor : Functor} {functors : List Functor}
    (calling : world.phase = .calling (functor :: functors)) :
    ∃ after, { world with phase := .calling functors }.callFunctor functor = .ok after ∧
      Sound after := by
  cases functor with
  | startInLoop =>
    exact ⟨_, rfl, (sound.pop calling Functor.noConfusion).setCall none Call.noConfusion
      Call.noConfusion⟩
  | stopInLoop since =>
    have sound := sound.pop calling Functor.noConfusion
    by_cases connecting : world.connector.state = .kConnecting
    · obtain ⟨sockfd, after, stopped, owns, ends⟩ := sound.stopInLoop connecting
      have kept := sound.ends owns ends (fun _ _ => Phase.noConfusion)
      refine ⟨_, by rw [World.callFunctor, stopped, ok_bind]; rfl, ?_⟩
      exact kept.quiet rfl rfl rfl rfl
    · refine ⟨_, by rw [World.callFunctor, World.stopInLoop, if_neg connecting, pure_bind]; rfl, ?_⟩
      exact sound.quiet rfl rfl rfl rfl
  | resetChannel => exact sound.resetChannel calling
  | forceClose sockfd =>
    have sound := sound.pop calling Functor.noConfusion
    rw [World.callFunctor]
    by_cases current : world.client.connection = some sockfd
    · rw [if_pos current]
      exact sound.removeConnection current (fun _ _ => Phase.noConfusion)
    · rw [if_neg current]
      exact ⟨_, rfl, sound⟩

end Connector

end FakeMuduo.Net
