import FakeMuduo.Net.TcpServer
import Mathlib.Data.List.Induction

/-! What the life of a connection looks like: the order in which things may happen to it, as
an automaton, and what follows for a history that the automaton accepts. -/

namespace FakeMuduo.Net.TcpServer

/-- `greeting` and `parting` end with the connection callback, `closing` with the close
callback, `leaving` when the base loop forgets the connection. -/
inductive Stage where
  | accepted | greeting | opened | parting | closing | leaving | removed | destroyed
  deriving DecidableEq, Repr

namespace Stage

def isEstablished : Stage → Bool
  | accepted | greeting | parting => false
  | _ => true

/-- The happenings that move a connection `id` of loop `loop` on, and those it
may see on the way. -/
def next (id loop : Nat) : Stage → Happening → Option Stage
  | accepted, .connectEstablished => some greeting
  | greeting, .connectionCallback true false => some opened
  | opened, .messageCallback => some opened
  | opened, .handleRead => some opened
  | opened, .handleClose => some parting
  | parting, .connectionCallback false true => some closing
  | closing, .removeConnection => some leaving
  | leaving, .removeConnectionInLoop erased => if erased = [id] then some removed else none
  | removed, .connectDestroyed thread eventHandling =>
    if thread = loop ∧ eventHandling = false then some destroyed else none
  | stage, .handleWrite => if stage.isEstablished then some stage else none
  | stage, .forceCloseInLoop => if stage.isEstablished then some stage else none
  | _, _ => none

def follow (id loop : Nat) (history : List Happening) : Option Stage :=
  history.foldlM (next id loop) accepted

def rank : Stage → Nat
  | accepted => 0
  | greeting => 1
  | opened => 2
  | parting => 3
  | closing => 4
  | leaving => 5
  | removed => 6
  | destroyed => 7

/-- A whole life. -/
def milestones (id loop : Nat) : List Happening :=
  [.connectEstablished, .connectionCallback true false, .handleClose,
    .connectionCallback false true, .removeConnection, .removeConnectionInLoop [id],
    .connectDestroyed loop false]

/-- The happenings that lead to a stage. -/
def path (id loop : Nat) (stage : Stage) : List Happening := (milestones id loop).take stage.rank

end Stage

def Happening.isMilestone : Happening → Bool
  | messageCallback | handleRead | handleWrite | forceCloseInLoop => false
  | _ => true

def Happening.isConnectionCallback : Happening → Bool
  | connectionCallback _ _ => true
  | _ => false

def Happening.isRemoval : Happening → Bool
  | removeConnectionInLoop _ => true
  | _ => false

def Happening.isDestruction : Happening → Bool
  | connectDestroyed _ _ => true
  | _ => false

/-- The life cycle as a user of the connection and the server relies on it. -/
structure Lawful (id loop : Nat) (history : List Happening) : Prop where
  establishedOnce : history.count .connectEstablished ≤ 1
  establishedFirst : ∀ first rest, history = first :: rest → first = .connectEstablished
  callbacks : history.filter Happening.isConnectionCallback <+:
    [.connectionCallback true false, .connectionCallback false true]
  messages : ∀ before after, history = before ++ .messageCallback :: after →
    before.filter Happening.isConnectionCallback = [.connectionCallback true false]
  closedOnce : history.count .handleClose ≤ 1
  removedItself : history.filter Happening.isRemoval <+: [.removeConnectionInLoop [id]]
  destroyedOnce : history.filter Happening.isDestruction <+: [.connectDestroyed loop false]
  destroyedAfterClose : ∀ before after thread eventHandling,
    history = before ++ .connectDestroyed thread eventHandling :: after → .handleClose ∈ before

namespace Stage

variable {id loop : Nat} {stage after : Stage} {happening : Happening} {history : List Happening}

theorem next_path (moved : stage.next id loop happening = some after) :
    after.path id loop = stage.path id loop ++ [happening].filter Happening.isMilestone := by
  unfold next at moved
  split at moved
  case h_8 =>
    split at moved
    · rename_i itself
      cases moved
      rw [itself]
      rfl
    · cases moved
  case h_9 =>
    split at moved
    · rename_i own
      cases moved
      rw [own.1, own.2]
      rfl
    · cases moved
  case h_10 | h_11 =>
    split at moved
    · cases moved
      simp [Happening.isMilestone]
    · cases moved
  all_goals
    cases moved
    try rfl

theorem next_work (established : stage.isEstablished = true) :
    stage.next id loop .handleWrite = some stage ∧ stage.next id loop .forceCloseInLoop =
      some stage := by
  cases stage <;> simp_all [isEstablished, next]

theorem follow_append (history later : List Happening) :
    follow id loop (history ++ later) = (follow id loop history).bind fun stage =>
      later.foldlM (next id loop) stage :=
  List.foldlM_append

/-- The milestones of an accepted history are those that lead to its stage. -/
theorem follow_path (followed : follow id loop history = some stage) :
    history.filter Happening.isMilestone = stage.path id loop := by
  induction history using List.reverseRecOn generalizing stage with
  | nil =>
    cases followed
    rfl
  | append_singleton before happening ih =>
    rw [follow_append] at followed
    obtain ⟨middle, earlier, moved⟩ := Option.bind_eq_some_iff.mp followed
    obtain ⟨last, moved, same⟩ := Option.bind_eq_some_iff.mp moved
    cases same
    rw [List.filter_append, ih earlier, next_path moved]

theorem follow_filter (followed : follow id loop history = some stage) (kind : Happening → Bool)
    (milestone : ∀ happening, kind happening = true → happening.isMilestone = true) :
    history.filter kind = (stage.path id loop).filter kind := by
  rw [← follow_path followed, List.filter_filter]
  refine List.filter_congr ?_
  intro happening _
  rcases same : kind happening with _ | _
  · rfl
  · simp [milestone happening same]

theorem follow_count (followed : follow id loop history = some stage)
    (milestone : happening.isMilestone = true) :
    history.count happening = (stage.path id loop).count happening := by
  rw [← follow_path followed, List.count_filter milestone]

theorem connectionCallback_milestone (happening : Happening)
    (is : happening.isConnectionCallback = true) :
    happening.isMilestone = true := by
  cases happening <;> first | rfl | cases is

theorem path_prefix (stage : Stage) : stage.path id loop <+: milestones id loop :=
  List.take_prefix _ _

theorem follow_lawful (followed : follow id loop history = some stage) :
    Lawful id loop history where
  establishedOnce := by
    rw [follow_count followed rfl]
    exact Nat.le_trans (List.Sublist.count_le _ stage.path_prefix.sublist) (by simp [milestones])
  establishedFirst := by
    rintro first rest rfl
    obtain ⟨second, moved, _⟩ := Option.bind_eq_some_iff.mp followed
    cases first <;> first | rfl | cases moved
  callbacks := by
    rw [follow_filter followed _ connectionCallback_milestone]
    exact stage.path_prefix.filter _
  messages := by
    rintro before after rfl
    rw [follow_append] at followed
    obtain ⟨middle, earlier, later⟩ := Option.bind_eq_some_iff.mp followed
    obtain ⟨second, moved, _⟩ := Option.bind_eq_some_iff.mp later
    rw [follow_filter earlier _ connectionCallback_milestone]
    cases middle <;> first | rfl | cases moved
  closedOnce := by
    rw [follow_count followed rfl]
    exact Nat.le_trans (List.Sublist.count_le _ stage.path_prefix.sublist) (by simp [milestones])
  removedItself := by
    rw [follow_filter followed _ (by intro happening is; cases happening <;>
      first | rfl | cases is)]
    exact stage.path_prefix.filter _
  destroyedOnce := by
    rw [follow_filter followed _ (by intro happening is; cases happening <;>
      first | rfl | cases is)]
    exact stage.path_prefix.filter _
  destroyedAfterClose := by
    rintro before after thread eventHandling rfl
    rw [follow_append] at followed
    obtain ⟨middle, earlier, later⟩ := Option.bind_eq_some_iff.mp followed
    obtain ⟨second, moved, _⟩ := Option.bind_eq_some_iff.mp later
    have closed : .handleClose ∈ middle.path id loop := by
      cases middle <;> first | cases moved | simp [path, milestones, rank]
    rw [← follow_path earlier] at closed
    exact (List.mem_filter.mp closed).1

end Stage

end FakeMuduo.Net.TcpServer
