import FakeMuduo.Net.LifecycleRun

/-! The destructor of a server whose connections are on its own loop. -/

namespace FakeMuduo.Net

open FakeMuduo.Base FakeMuduo.Util

namespace TcpServer

/-- One turn of the destructor's loop: `connectDestroyed` runs at once, and its connection
callback makes no call. -/
def destroyEntry (world : World) (id : Nat) : Checked World := do
  let world ← connectDestroyed world 0 id
  match (world.loops 0).stack with
  | .callback :: .removeChannel other :: stack =>
    removeChannel (world.setLoop 0 { world.loops 0 with stack }) 0 other
  | _ => return world

/-- The destructor, for the order in which the map gives its entries. -/
def destroy (world : World) (entries : List (Text × Nat)) : Checked World :=
  entries.foldlM (fun world entry => destroyEntry world entry.2) world

/-- An established connection of the server's map, on its own loop. -/
structure Entered (world : World) (id : Nat) (link : Link) : Prop where
  found : world.links id = some link
  own : link.loop = 0
  established : link.conn.state ≠ .kConnecting
  listed : ∃ stage, Stage.follow id link.loop link.history = some stage ∧ stage.Fits link.conn ∧
    stage.isListed = true

variable {world after : World} {id : Nat} {link : Link}

/-- The connection is live, or closed already. -/
theorem Entered.cases (entered : Entered world id link) :
    link.conn.Live ∧ link.history.count (.connectionCallback false true) = 0 ∨
      link.conn.Closed ∧ link.history.count (.connectionCallback false true) = 1 := by
  obtain ⟨stage, followed, fits, listed⟩ := entered.listed
  have count :=
    Stage.follow_count followed (rfl : (Happening.connectionCallback false true).isMilestone = true)
  rw [count]
  cases stage with
  | accepted => exact (entered.established fits.connecting).elim
  | greeting | parting => exact fits.elim
  | opened => exact .inl ⟨fits, by simp [Stage.path, Stage.milestones, Stage.rank]⟩
  | closing => exact .inr ⟨fits, by simp [Stage.path, Stage.milestones, Stage.rank]⟩
  | leaving => exact .inr ⟨fits, by simp [Stage.path, Stage.milestones, Stage.rank]⟩
  | removed | destroyed => cases listed

/-- The link when `connectDestroyed` comes to `channel_->remove()`. -/
def parting (world : World) (link : Link) : Checked Link :=
  let first := Happening.connectDestroyed 0 (world.loops 0).phase.eventHandling
  if link.conn.state = .kConnected then do
    let conn ← link.conn.disconnect
    return link.update conn [first, .connectionCallback conn.isConnected conn.isDisconnected]
  else return link.update link.conn [first]

theorem Entered.setLink {other : Nat} (entered : Entered world id link) (different : id ≠ other)
    (moved : Link) :
    Entered (world.setLink other moved) id link :=
  ⟨(Function.update_of_ne different _ _).trans entered.found, entered.own,
    entered.established, entered.listed⟩

section Run

variable {config : Config} {hand : Hand}

theorem Sound.distinct (sound : Sound config world none) :
    (world.connections.map Prod.snd).Nodup := by
  rw [List.nodup_iff_count]
  intro id
  have counted : (world.connections.map Prod.snd).count id = world.entries id := by
    rw [List.count, List.countP_map]
    rfl
  rw [counted]
  rcases found : world.links id with _ | link
  · rw [(sound.absent id found).2]
    exact Nat.zero_le 1
  · obtain ⟨stage, placed⟩ := sound.placed id link found
    rw [placed.listed]
    split
    · exact Nat.le_refl 1
    · exact Nat.zero_le 1

theorem Sound.entered (sound : Sound config world none) (single : config.numThreads = 0)
    {entry : Text × Nat} (member : entry ∈ world.connections)
    (established : ∀ link, world.links entry.2 = some link → link.conn.state ≠ .kConnecting) :
    ∃ link, Entered world entry.2 link := by
  have listed : 0 < world.entries entry.2 :=
    List.countP_pos_iff.mpr ⟨entry, member, decide_eq_true rfl⟩
  rcases found : world.links entry.2 with _ | link
  · rw [(sound.absent entry.2 found).2] at listed
    exact (Nat.lt_irrefl 0 listed).elim
  · obtain ⟨stage, placed⟩ := sound.placed entry.2 link found
    rw [placed.listed] at listed
    have own : link.loop = 0 := Nat.le_zero.mp (single ▸ placed.home)
    refine ⟨link, found, own, established link found, stage, placed.followed, placed.fits, ?_⟩
    by_contra unlisted
    simp [unlisted] at listed

/-- A server without I/O loops. -/
def Config.single : Config := { Config.sample with numThreads := 0 }

end Run

end TcpServer

end FakeMuduo.Net
