import Mathlib.Data.Int.CardIntervalMod
import FakeMuduo.Net.LifecycleRun

/-! How the connections of a server are spread over its I/O loops. -/

namespace FakeMuduo.Net.TcpServer

open FakeMuduo.Base FakeMuduo.Util

/-- The loop a connection was given. -/
def World.home (world : World) (id : Nat) : Option Nat := (world.links id).map Link.loop

/-- How many of the connections accepted so far were given to the loop. -/
def World.load (world : World) (loop : Nat) : Nat :=
  Nat.count (fun id => world.home id = some loop) world.nextConnId

/-- The loop whose turn it is at the connection with this number. -/
def Config.turn (config : Config) (id : Nat) : Nat :=
  if config.numThreads = 0 then 0 else (id - 1) % config.numThreads + 1

/-- No connection is accepted and none moves. -/
structure Undisturbed (world after : World) : Prop where
  nextConnId : after.nextConnId = world.nextConnId
  next : after.next = world.next
  home : ∀ id, after.home id = world.home id

/-- One connection is accepted, and none of the others moves. -/
structure Accepts (config : Config) (world after : World) : Prop where
  nextConnId : after.nextConnId = world.nextConnId + 1
  next : after.next = (getNextLoop config world).2
  home : ∀ id, after.home id = if id = world.nextConnId then some (getNextLoop config world).1
    else world.home id

variable {config : Config} {world middle after : World} {loop id : Nat} {link : Link}

section Frame

theorem Undisturbed.refl (world : World) : Undisturbed world world := ⟨rfl, rfl, fun _ => rfl⟩

theorem Undisturbed.trans (first : Undisturbed world middle) (second : Undisturbed middle after) :
    Undisturbed world after :=
  ⟨second.nextConnId.trans first.nextConnId, second.next.trans first.next, fun id =>
    (second.home id).trans (first.home id)⟩

theorem link_eq_ok : world.link id = .ok link ↔ world.links id = some link := by
  unfold World.link
  split
  case h_1 found =>
    rw [found]
    simp
  case h_2 missing =>
    rw [missing]
    simp

/-- The loop's own state is no part of where connections are. -/
theorem undisturbed_setLoop (world : World) (loop : Nat) (thread : LoopThread) :
    Undisturbed world (world.setLoop loop thread) := ⟨rfl, rfl, fun _ => rfl⟩

theorem undisturbed_queueInLoop (world : World) (loop : Nat) (tasks : List Task) :
    Undisturbed world (world.queueInLoop loop tasks) := undisturbed_setLoop world loop _

theorem undisturbed_call (world : World) (loop : Nat) (works : List Work) :
    Undisturbed world (world.call loop works) := undisturbed_setLoop world loop _

theorem undisturbed_update (found : world.link id = .ok link) (conn : TcpConnection)
    (happenings : List Happening) :
    Undisturbed world (world.setLink id (link.update conn happenings)) := by
  refine ⟨rfl, rfl, ?_⟩
  intro other
  by_cases same : other = id
  · subst same
    change (Function.update world.links other _ other).map Link.loop = _
    rw [Function.update_self, World.home, link_eq_ok.mp found]
    rfl
  · change (Function.update world.links id _ other).map Link.loop = _
    rw [Function.update_of_ne same]
    rfl

end Frame

section Handlers

theorem connectEstablished_undisturbed (done : connectEstablished world loop id = .ok after) :
    Undisturbed world after := by
  obtain ⟨link, found, done⟩ := bind_eq_ok.mp done
  obtain ⟨_, _, done⟩ := bind_eq_ok.mp done
  obtain ⟨conn, _, done⟩ := bind_eq_ok.mp done
  cases done
  exact (undisturbed_update found conn _).trans (undisturbed_call _ _ _)

theorem handleClose_undisturbed {first : List Happening}
    (done : handleClose world loop id first = .ok after) :
    Undisturbed world after := by
  obtain ⟨link, found, done⟩ := bind_eq_ok.mp done
  obtain ⟨_, _, done⟩ := bind_eq_ok.mp done
  obtain ⟨conn, _, done⟩ := bind_eq_ok.mp done
  cases done
  exact (undisturbed_update found conn _).trans (undisturbed_call _ _ _)

theorem handleRead_undisturbed {answer : ReadAnswer}
    (done : handleRead world loop id answer = .ok after) :
    Undisturbed world after := by
  obtain ⟨link, found, done⟩ := bind_eq_ok.mp done
  obtain ⟨_, _, done⟩ := bind_eq_ok.mp done
  cases answer with
  | data first rest =>
    obtain ⟨conn, _, done⟩ := bind_eq_ok.mp done
    cases done
    exact (undisturbed_update found conn _).trans (undisturbed_call _ _ _)
  | endOfStream => exact handleClose_undisturbed done
  | failed errno =>
    cases done
    exact undisturbed_update found _ _

theorem handleWrite_undisturbed {answer : WriteAnswer}
    (done : handleWrite world loop id answer = .ok after) :
    Undisturbed world after := by
  obtain ⟨link, found, done⟩ := bind_eq_ok.mp done
  obtain ⟨_, _, done⟩ := bind_eq_ok.mp done
  obtain ⟨⟨conn, queued⟩, _, done⟩ := bind_eq_ok.mp done
  cases done
  exact (undisturbed_update found conn _).trans (undisturbed_queueInLoop _ _ _)

theorem forceCloseInLoop_undisturbed (done : forceCloseInLoop world loop id = .ok after) :
    Undisturbed world after := by
  obtain ⟨link, found, done⟩ := bind_eq_ok.mp done
  obtain ⟨_, _, done⟩ := bind_eq_ok.mp done
  split at done
  · exact handleClose_undisturbed done
  · cases done
    exact undisturbed_update found _ _

theorem removeConnectionInLoop_undisturbed
    (done : removeConnectionInLoop config world loop id = .ok after) :
    Undisturbed world after := by
  obtain ⟨_, done⟩ := check_bind_eq_ok.mp done
  obtain ⟨link, found, done⟩ := bind_eq_ok.mp done
  obtain ⟨_, done⟩ := check_bind_eq_ok.mp done
  cases done
  have erased : Undisturbed world
      { world with connections := world.connections.filter (·.1 ≠ connName config id) } :=
    ⟨rfl, rfl, fun _ => rfl⟩
  refine (erased.trans (undisturbed_update (?_ : World.link _ id = .ok link) _ _)).trans
    (undisturbed_queueInLoop _ _ _)
  exact found

theorem removeConnection_undisturbed (done : removeConnection config world loop id = .ok after) :
    Undisturbed world after := by
  obtain ⟨link, found, done⟩ := bind_eq_ok.mp done
  have noted := undisturbed_update found link.conn [.removeConnection]
  split at done
  · exact noted.trans (removeConnectionInLoop_undisturbed done)
  · cases done
    exact noted.trans (undisturbed_queueInLoop _ _ _)

theorem removeChannel_undisturbed (done : removeChannel world loop id = .ok after) :
    Undisturbed world after := by
  obtain ⟨link, found, done⟩ := bind_eq_ok.mp done
  obtain ⟨_, done⟩ := check_bind_eq_ok.mp done
  obtain ⟨conn, _, done⟩ := bind_eq_ok.mp done
  cases done
  exact undisturbed_update found conn _

theorem connectDestroyed_undisturbed (done : connectDestroyed world loop id = .ok after) :
    Undisturbed world after := by
  obtain ⟨link, found, done⟩ := bind_eq_ok.mp done
  obtain ⟨_, _, done⟩ := bind_eq_ok.mp done
  split at done
  · obtain ⟨conn, _, done⟩ := bind_eq_ok.mp done
    cases done
    exact (undisturbed_update found conn _).trans (undisturbed_call _ _ _)
  · exact (undisturbed_update found _ _).trans (removeChannel_undisturbed done)

theorem Accepts.after_undisturbed (accepts : Accepts config world middle)
    (later : Undisturbed middle after) :
    Accepts config world after :=
  ⟨later.nextConnId.trans accepts.nextConnId, later.next.trans accepts.next, fun id =>
    (later.home id).trans (accepts.home id)⟩

theorem Accepts.of_undisturbed (before : Undisturbed world middle)
    (accepts : Accepts config middle after) :
    Accepts config world after := by
  have turn : getNextLoop config middle = getNextLoop config world := by
    rw [getNextLoop, getNextLoop, before.next]
  refine ⟨?_, ?_, ?_⟩
  · rw [accepts.nextConnId, before.nextConnId]
  · rw [accepts.next, turn]
  · intro id
    rw [accepts.home, turn, before.nextConnId, before.home]

theorem newConnection_accepts (done : newConnection config world loop = .ok after) :
    Accepts config world after := by
  obtain ⟨_, done⟩ := check_bind_eq_ok.mp done
  let grown : World := { world with
    nextConnId := world.nextConnId + 1
    next := (getNextLoop config world).2
    connections := world.connections.filter (·.1 ≠ connName config world.nextConnId) ++
      [(connName config world.nextConnId, world.nextConnId)] }
  have born : Accepts config world (grown.setLink world.nextConnId
      ⟨.create config.writeCompleteCallback config.highWaterMarkCallback,
        (getNextLoop config world).1, []⟩) := by
    refine ⟨rfl, rfl, ?_⟩
    intro id
    change (Function.update world.links world.nextConnId _ id).map Link.loop = _
    by_cases same : id = world.nextConnId
    · rw [same, Function.update_self, if_pos rfl]
      rfl
    · rw [Function.update_of_ne same, if_neg same]
      rfl
  dsimp only at done
  by_cases base : (getNextLoop config world).1 = loop
  · rw [if_pos base] at done
    exact born.after_undisturbed (connectEstablished_undisturbed done)
  · rw [if_neg base] at done
    cases done
    exact born.after_undisturbed (undisturbed_queueInLoop _ _ _)

end Handlers

/-- What a step does to the homes of the connections. -/
def Homes (config : Config) (world after : World) : Prop :=
  Undisturbed world after ∨ Accepts config world after

section Step

theorem handle_homes {accepted : Bool} {channel : ActiveChannel}
    (done : handle config world loop accepted channel = .ok after) : Homes config world after := by
  cases channel with
  | connection id revents =>
    cases done
    exact .inl (undisturbed_call _ _ _)
  | acceptor =>
    cases accepted with
    | true => exact .inr (newConnection_accepts done)
    | false =>
      cases done
      exact .inl (.refl world)
  | other =>
    cases done
    exact .inl (undisturbed_call _ _ _)

theorem runFunctor_undisturbed {task : Task}
    (done : runFunctor config world loop task = .ok after) :
    Undisturbed world after := by
  cases task with
  | connectEstablished id => exact connectEstablished_undisturbed done
  | removeConnectionInLoop id => exact removeConnectionInLoop_undisturbed done
  | connectDestroyed id => exact connectDestroyed_undisturbed done
  | functor id functor =>
    cases functor with
    | forceCloseInLoop => exact forceCloseInLoop_undisturbed done
    | _ =>
      cases done
      exact undisturbed_call _ _ _
  | user =>
    cases done
    exact undisturbed_call _ _ _

theorem resume_undisturbed {readAnswer : ReadAnswer} {writeAnswer : WriteAnswer} {work : Work}
    (done : resume config world loop readAnswer writeAnswer work = .ok after) :
    Undisturbed world after := by
  cases work with
  | handleClose id => exact handleClose_undisturbed done
  | handleRead id => exact handleRead_undisturbed done
  | handleWrite id => exact handleWrite_undisturbed done
  | closeCallback id => exact removeConnection_undisturbed done
  | removeChannel id => exact removeChannel_undisturbed done
  | callback =>
    cases done
    exact .refl _

theorem perform_homes {action : Action} (done : perform config world loop action = .ok after) :
    Homes config world after := by
  simp only [perform] at done
  split at done
  case h_1 =>
    split at done
    · cases done
      exact .inl (undisturbed_setLoop _ _ _)
    · cases done
  case h_2 =>
    split at done
    · rcases handle_homes done with quiet | accepts
      · exact .inl ((undisturbed_setLoop _ _ _).trans quiet)
      · exact .inr (.of_undisturbed (undisturbed_setLoop _ _ _) accepts)
    · cases done
  case h_3 =>
    cases done
    exact .inl (undisturbed_setLoop _ _ _)
  case h_4 => exact .inl ((undisturbed_setLoop _ _ _).trans (runFunctor_undisturbed done))
  case h_5 =>
    cases done
    exact .inl (undisturbed_setLoop _ _ _)
  case h_6 => exact .inl ((undisturbed_setLoop _ _ _).trans (resume_undisturbed done))
  case h_7 =>
    split at done
    case h_1 link found =>
      split at done
      · obtain ⟨⟨conn, queued⟩, _, done⟩ := bind_eq_ok.mp done
        cases done
        exact .inl ((undisturbed_update (link_eq_ok.mpr found) conn _).trans
          (undisturbed_queueInLoop _ _ _))
      · cases done
    case h_2 => cases done
  case h_8 =>
    cases done
    exact .inl (undisturbed_queueInLoop _ _ _)
  case h_9 => cases done

end Step

/-- The loops take turns. -/
structure Balanced (config : Config) (world : World) : Prop where
  positive : 0 < world.nextConnId
  next : config.numThreads ≠ 0 → world.next = (world.nextConnId - 1) % config.numThreads
  home : ∀ id, world.home id = if 0 < id ∧ id < world.nextConnId then
    some (config.turn id) else none

theorem initial_balanced (config : Config) : Balanced config .initial := by
  refine ⟨Nat.one_pos, fun _ => (Nat.zero_mod _).symm, ?_⟩
  intro id
  have none : ¬(0 < id ∧ id < World.initial.nextConnId) := by
    simp only [World.initial]
    omega
  rw [if_neg none]
  rfl

theorem Balanced.undisturbed (balanced : Balanced config world) (quiet : Undisturbed world after) :
    Balanced config after := by
  refine ⟨?_, ?_, ?_⟩
  · rw [quiet.nextConnId]
    exact balanced.positive
  · rw [quiet.next, quiet.nextConnId]
    exact balanced.next
  · intro id
    rw [quiet.home, quiet.nextConnId]
    exact balanced.home id

/-- `next_` wraps when the loops have all had their turn. -/
theorem Balanced.accepts (balanced : Balanced config world) (accepts : Accepts config world after) :
    Balanced config after := by
  have positive := balanced.positive
  have before : world.nextConnId = (world.nextConnId - 1) + 1 :=
    (Nat.succ_pred_eq_of_pos positive).symm
  refine ⟨?_, ?_, ?_⟩
  · rw [accepts.nextConnId]
    exact Nat.succ_pos _
  · intro threads
    rw [accepts.next, accepts.nextConnId, getNextLoop, if_neg threads, balanced.next threads,
      Nat.add_sub_cancel]
    rw [Nat.mod_add_mod, ← before]
  · intro id
    rw [accepts.home, accepts.nextConnId]
    split
    case isTrue newest =>
      subst newest
      rw [if_pos ⟨positive, Nat.lt_succ_self _⟩, getNextLoop, Config.turn]
      split
      · rfl
      · rw [balanced.next (by assumption)]
    case isFalse older =>
      rw [balanced.home]
      refine if_congr ?_ rfl rfl
      omega

theorem run_balanced {steps : List Step} (run : (machine config).Run .initial steps world) :
    Balanced config world := by
  refine run.invariant (fun _ current => Balanced config current) (initial_balanced config) ?_
  intro _ current step after balanced taken
  rcases perform_homes taken.2 with quiet | accepts
  · exact balanced.undisturbed quiet
  · exact balanced.accepts accepts

/-- The connections given to a loop, counted by their turns. -/
theorem Balanced.load_eq (balanced : Balanced config world)
    (threads : config.numThreads ≠ 0) {turn : Nat} (inside : turn < config.numThreads) :
    world.load (turn + 1) = (world.nextConnId - 1) / config.numThreads +
      if turn < (world.nextConnId - 1) % config.numThreads then 1 else 0 := by
  obtain ⟨accepted, next⟩ : ∃ accepted, world.nextConnId = accepted + 1 :=
    ⟨world.nextConnId - 1, (Nat.succ_pred_eq_of_pos balanced.positive).symm⟩
  have nobody : ¬ world.home 0 = some (turn + 1) := by
    rw [balanced.home, if_neg (fun both => Nat.lt_irrefl 0 both.1)]
    exact nofun
  have turns : ∀ number ∈ Finset.range accepted,
      world.home (number + 1) = some (turn + 1) ↔ number ≡ turn [MOD config.numThreads] := by
    intro number early
    have range : 0 < number + 1 ∧ number + 1 < world.nextConnId := by
      rw [next]
      exact ⟨Nat.succ_pos _, Nat.succ_lt_succ (Finset.mem_range.mp early)⟩
    rw [balanced.home, if_pos range, Config.turn, if_neg threads, Nat.add_sub_cancel,
      Option.some.injEq, Nat.add_right_cancel_iff, Nat.ModEq, Nat.mod_eq_of_lt inside]
  rw [World.load, next, Nat.count_succ', if_neg nobody, Nat.add_zero,
    Nat.count_eq_card_filter_range, Finset.filter_congr turns, ← Nat.count_eq_card_filter_range,
    Nat.count_modEq_card _ (Nat.pos_of_ne_zero threads), Nat.mod_eq_of_lt inside,
    Nat.add_sub_cancel]

/-- Whatever the threads do, a connection stays on the loop whose turn it was when it was accepted,
and of two I/O loops neither was given more than one connection more than the other. -/
theorem connections_balanced {steps : List Step} (run : (machine config).Run .initial steps world) :
    (∀ id link, world.links id = some link → link.loop = config.turn id) ∧
      ∀ loop other, 0 < loop → loop ≤ config.numThreads → 0 < other → other ≤ config.numThreads →
        world.load loop ≤ world.load other + 1 := by
  have balanced := run_balanced run
  refine ⟨?_, ?_⟩
  · intro id link found
    have home := balanced.home id
    rw [World.home, found, Option.map_some] at home
    split at home
    · exact Option.some.inj home
    · cases home
  · intro loop other first inside second bound
    obtain ⟨turn, rfl⟩ : ∃ turn, loop = turn + 1 := ⟨loop - 1, by omega⟩
    obtain ⟨elsewhere, rfl⟩ : ∃ turn, other = turn + 1 := ⟨other - 1, by omega⟩
    have threads : config.numThreads ≠ 0 := by omega
    rw [balanced.load_eq threads inside, balanced.load_eq threads bound]
    split <;> split <;> omega

/-- Three connections on two I/O loops. -/
def Config.twoLoops : Config := { Config.sample with numThreads := 2 }

def threeClients : List Step :=
  [⟨0, .poll [.acceptor, .acceptor, .acceptor]⟩, ⟨0, .handle true⟩, ⟨0, .handle true⟩,
    ⟨0, .handle true⟩]

theorem connections_balanced_threeClients :
    ∃ world, (machine .twoLoops).Run .initial threeClients world ∧ world.load 1 = 2 ∧
      world.load 2 = 1 ∧
      world.load 1 ≤ world.load 2 + 1 := by
  have followed : (Machine.follow (fun world step => perform .twoLoops world step.loop step.action)
      (fun _ step => decide (step.loop ≤ Config.twoLoops.numThreads)) .initial threeClients).any
      (fun world => decide (world.load 1 = 2 ∧ world.load 2 = 1)) = true := by
    decide +kernel
  obtain ⟨world, run, final⟩ := Machine.Run.ofFollowAny (machine .twoLoops)
    (fun allowed performed => ⟨of_decide_eq_true allowed, performed⟩) followed
  obtain ⟨first, second⟩ := of_decide_eq_true final
  exact ⟨world, run, first, second, (connections_balanced run).2 1 2 (by decide) (by decide)
    (by decide) (by decide)⟩

end FakeMuduo.Net.TcpServer
