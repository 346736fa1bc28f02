import FakeMuduo.Net.Lifecycle

/-! What is on its way to a connection: the functors in the loops' queues, the active channels
not handled yet and the handlers not finished. Each is a token of one kind, and the stage of
the connection says how many tokens of each kind there are and at which loop. -/

namespace FakeMuduo.Net.TcpServer

open FakeMuduo.Base

/-- `read` stands for all that may end in `handleClose` during event handling. The acceptor's
tokens, of kind `accept`, go to no connection. -/
inductive Kind where
  | accept | establish | remove | destroy | functor | read | write | close | detach
  deriving DecidableEq, Repr

abbrev Token := Nat × Kind

def Task.token : Task → Option Token
  | connectEstablished id => some (id, .establish)
  | removeConnectionInLoop id => some (id, .remove)
  | connectDestroyed id => some (id, .destroy)
  | functor id _ => some (id, .functor)
  | user => none

def Work.token : Work → Option Token
  | handleClose id => some (id, .read)
  | handleRead id => some (id, .read)
  | handleWrite id => some (id, .write)
  | closeCallback id => some (id, .close)
  | removeChannel id => some (id, .detach)
  | callback => none

def ActiveChannel.token : ActiveChannel → Option Token
  | connection id _ => some (id, .read)
  | acceptor => some (0, .accept)
  | other => none

def Phase.tokens : Phase → List Token
  | polling => []
  | handling _ _ remaining => remaining.filterMap ActiveChannel.token
  | calling functors => functors.filterMap Task.token

def LoopThread.tokens (thread : LoopThread) : List Token :=
  thread.phase.tokens ++ thread.pending.filterMap Task.token ++ thread.stack.filterMap Work.token

/-- The token that the running thread took and has not used yet, with its loop. -/
abbrev Hand := Option (Nat × Token)

/-- How many such tokens there are at a loop. -/
def World.tally (world : World) (hand : Hand) (loop : Nat) (token : Token) : Nat :=
  (world.loops loop).tokens.count token + if hand = some (loop, token) then 1 else 0

/-- How many tokens of a kind a connection of loop `own` may have at `loop`. -/
def Stage.Allows (stage : Stage) (own loop count : Nat) : Kind → Prop
  | .establish => count = if stage = .accepted ∧ loop = own then 1 else 0
  | .close => count = if stage = .closing ∧ loop = own then 1 else 0
  | .remove => count = if stage = .leaving ∧ loop = 0 then 1 else 0
  | .destroy => count = if stage = .removed ∧ loop = own then 1 else 0
  | .accept | .detach => count = 0
  | .read => count ≤ if stage = .opened ∧ loop = own then 1 else 0
  | .write | .functor => 0 < count → stage.isEstablished = true ∧ loop = own

/-- What is allowed at one place only is at that place. -/
theorem only_there {place : Prop} [Decidable place] {count : Nat}
    (here : count + 1 ≤ if place then 1 else 0) :
    place := by
  by_contra elsewhere
  rw [if_neg elsewhere] at here
  cases here

section Tally

variable {world after : World} {hand : Hand} {loop other id : Nat} {token held : Token}

theorem tally_congr (loops : after.loops = world.loops) (hand : Hand) (loop : Nat) (token : Token) :
    after.tally hand loop token = world.tally hand loop token := by
  rw [World.tally, World.tally, loops]

theorem tally_hold (world : World) (loop other : Nat) (token held : Token) :
    world.tally (some (other, held)) loop token =
      world.tally none loop token + if loop = other ∧ token = held then 1 else 0 := by
  have same : (other, held) = (loop, token) ↔ loop = other ∧ token = held := by
    rw [Prod.mk.injEq]
    exact ⟨fun ⟨first, second⟩ => ⟨first.symm, second.symm⟩, fun ⟨first, second⟩ =>
      ⟨first.symm, second.symm⟩⟩
  simp [World.tally, same]

theorem tally_hold_one (world : World) (loop other : Nat) (token : Token) (id : Nat) (kind : Kind) :
    world.tally (some (other, (id, kind))) loop token =
      world.tally none loop token + if loop = other then [(id, kind)].count token else 0 := by
  rw [tally_hold]
  by_cases here : loop = other
  · by_cases same : token = (id, kind)
    · simp [here, same]
    · simp [here, same, Ne.symm same]
  · simp [here]

theorem tally_setLoop_same (thread : LoopThread) (hand : Hand) (token : Token) :
    (world.setLoop loop thread).tally hand loop token =
      thread.tokens.count token + if hand = some (loop, token) then 1 else 0 := by
  simp [World.tally, World.setLoop]

theorem tally_setLoop_other (elsewhere : other ≠ loop) (thread : LoopThread) (hand : Hand)
    (token : Token) :
    (world.setLoop loop thread).tally hand other token = world.tally hand other token := by
  simp [World.tally, World.setLoop, elsewhere]

theorem tally_setLink (world : World) (id : Nat) (link : Link) (hand : Hand) (loop : Nat)
    (token : Token) :
    (world.setLink id link).tally hand loop token = world.tally hand loop token := rfl

theorem tally_queueInLoop (world : World) (other : Nat) (tasks : List Task)
    (hand : Hand) (loop : Nat) (token : Token) :
    (world.queueInLoop other tasks).tally hand loop token =
      world.tally hand loop token + if loop = other then
        (tasks.filterMap Task.token).count token else 0 := by
  by_cases here : loop = other
  · subst here
    rw [World.queueInLoop, tally_setLoop_same, World.tally, if_pos rfl]
    simp only [LoopThread.tokens, List.filterMap_append, List.count_append]
    omega
  · rw [World.queueInLoop, tally_setLoop_other here, if_neg here, Nat.add_zero]

theorem tally_call (world : World) (other : Nat) (works : List Work) (hand : Hand) (loop : Nat)
    (token : Token) :
    (world.call other works).tally hand loop token =
      world.tally hand loop token + if loop = other then
        (works.filterMap Work.token).count token else 0 := by
  by_cases here : loop = other
  · subst here
    rw [World.call, tally_setLoop_same, World.tally, if_pos rfl]
    simp only [LoopThread.tokens, List.filterMap_append, List.count_append]
    omega
  · rw [World.call, tally_setLoop_other here, if_neg here, Nat.add_zero]

theorem tally_callback (world : World) (other : Nat) (hand : Hand) (loop : Nat) (token : Token) :
    (world.call other [.callback]).tally hand loop token = world.tally hand loop token := by
  rw [tally_call, show [Work.callback].filterMap Work.token = [] from
    rfl, List.count_nil, ite_self, Nat.add_zero]

/-- The tokens of a thread that has taken one of them. -/
theorem tally_take {thread : LoopThread} {taken : Option Token}
    (split : ∀ token, (world.loops loop).tokens.count token =
      thread.tokens.count token + if taken = some token then 1 else 0) (other : Nat)
        (token : Token) :
    (world.setLoop loop thread).tally (taken.map (loop, ·)) other token =
      world.tally none other token := by
  by_cases here : other = loop
  · subst here
    have same : taken.map (other, ·) = some (other, token) ↔ taken = some token := by
      cases taken <;> simp
    rw [tally_setLoop_same, World.tally, split token]
    simp only [same]
    rfl
  · rw [tally_setLoop_other here, World.tally, World.tally]
    have elsewhere : taken.map (loop, ·) ≠ some (other, token) := by
      cases taken with
      | none => simp
      | some held => simp [Ne.symm here]
    rw [if_neg elsewhere, if_neg (by simp)]

end Tally

section Transitions

variable {stage : Stage} {own other count : Nat} {spent kind : Kind} {gained : List Kind}

theorem Stage.Allows.establish
    (allowed : Stage.accepted.Allows own other (count + if other = own ∧ kind = .establish then
      1 else 0) kind) :
    Stage.opened.Allows own other (count + if other = own then [].count kind else 0) kind := by
  cases kind <;> simp [Stage.Allows, Stage.isEstablished] at allowed ⊢ <;> grind

theorem Stage.Allows.close (quiet : kind = .read → count = 0)
    (allowed : Stage.opened.Allows own other (count + if other = own ∧ kind = spent then
      1 else 0) kind) :
    Stage.closing.Allows own other (count + if other = own then [Kind.close].count kind
      else 0) kind := by
  cases kind <;> simp [Stage.Allows, Stage.isEstablished] at allowed quiet ⊢ <;> grind

theorem Stage.Allows.leave
    (allowed : Stage.closing.Allows own other (count + if other = own ∧ kind = .close then
      1 else 0) kind) :
    Stage.leaving.Allows own other (count + if other = 0 then [Kind.remove].count kind
      else 0) kind := by
  cases kind <;> simp [Stage.Allows, Stage.isEstablished] at allowed ⊢ <;> grind

theorem Stage.Allows.remove
    (allowed : Stage.leaving.Allows own other (count + if other = 0 ∧ kind = .remove then
      1 else 0) kind) :
    Stage.removed.Allows own other (count + if other = own then [Kind.destroy].count kind
      else 0) kind := by
  cases kind <;> simp [Stage.Allows, Stage.isEstablished] at allowed ⊢ <;> grind

theorem Stage.Allows.destroy
    (allowed : Stage.removed.Allows own other (count + if other = own ∧ kind = .destroy then
      1 else 0) kind) :
    Stage.destroyed.Allows own other (count + if other = own then [].count kind else 0) kind := by
  cases kind <;> simp [Stage.Allows, Stage.isEstablished] at allowed ⊢ <;> grind

/-- Handlers come and go in every stage from the first on, but no second one that may close. -/
theorem Stage.Allows.work (established : stage.isEstablished = true)
    (spends : spent = .read ∨ spent = .write ∨ spent = .functor)
    (gains : ∀ kind ∈ gained, kind = .read ∨ kind = .write ∨ kind = .functor)
    (reads : gained.count .read ≤ if spent = .read then 1 else 0)
    (allowed : stage.Allows own other (count + if other = own ∧ kind = spent then 1 else 0) kind) :
    stage.Allows own other (count + if other = own then gained.count kind else 0) kind := by
  have free : kind ≠ .read → kind ≠ .write → kind ≠ .functor → gained.count kind = 0 := by
    intro notRead notWrite notFunctor
    refine List.count_eq_zero_of_not_mem fun member => ?_
    rcases gains kind member with is | is | is
    · exact notRead is
    · exact notWrite is
    · exact notFunctor is
  cases kind <;> simp [Stage.Allows, established] at allowed free ⊢ <;> grind

/-- A connection may get functors once it is established. -/
theorem Stage.Allows.post {posted : Nat} (may : 0 < posted → stage.isEstablished = true)
    (allowed : stage.Allows own other count kind) :
    stage.Allows own other (count + if other = own ∧ kind = .functor then posted else 0) kind := by
  cases kind with
  | functor =>
    intro some
    by_cases here : other = own
    · by_cases new : 0 < posted
      · exact ⟨may new, here⟩
      · refine allowed ?_
        rw [Nat.eq_zero_of_not_pos new] at some
        simpa using some
    · refine allowed ?_
      simpa [here] using some
  | _ => simpa using allowed

end Transitions

end FakeMuduo.Net.TcpServer
