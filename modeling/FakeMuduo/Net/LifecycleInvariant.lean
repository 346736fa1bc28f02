import FakeMuduo.Net.LifecycleTokens
import FakeMuduo.Net.TcpConnectionInvariant
import Mathlib.Data.List.Count

namespace FakeMuduo.Net.TcpServer

open FakeMuduo.Base FakeMuduo.Util

/-- What the connection itself looks like; it rests in neither of the other stages. -/
def Stage.Fits : Stage → TcpConnection → Prop
  | accepted, conn => conn.Fresh
  | opened, conn => conn.Live
  | closing, conn | leaving, conn | removed, conn => conn.Closed
  | destroyed, conn => conn.Gone
  | greeting, _ | parting, _ => False

def Stage.isListed : Stage → Bool
  | removed | destroyed => false
  | _ => true

/-- The entries of the map for a connection. -/
def World.entries (world : World) (id : Nat) : Nat := world.connections.countP (·.2 = id)

structure Placed (config : Config) (world : World) (hand : Hand) (id : Nat) (link : Link)
    (stage : Stage) : Prop where
  followed : Stage.follow id link.loop link.history = some stage
  fits : stage.Fits link.conn
  home : link.loop ≤ config.numThreads
  held : ∀ loop kind, stage.Allows link.loop loop (world.tally hand loop (id, kind)) kind
  listed : world.entries id = if stage.isListed then 1 else 0

/-- State, registration, map entry and everything in flight agree, for every connection. -/
structure Sound (config : Config) (world : World) (hand : Hand) : Prop where
  born : ∀ id, (world.links id).isSome ↔ 0 < id ∧ id < world.nextConnId
  bound : 0 < world.nextConnId ∧ world.nextConnId ≤ 2147483648
  pool : config.numThreads = 0 ∨ world.next < config.numThreads
  named : ∀ entry ∈ world.connections, entry.1 = connName config entry.2 ∧ entry.2 < 2147483648
  absent : ∀ id, world.links id = none →
    (∀ loop kind, 0 < world.tally hand loop (id, kind) → (id, kind) = (0, .accept) ∧ loop = 0) ∧
      world.entries id = 0
  placed : ∀ id link, world.links id = some link → ∃ stage, Placed config world hand id link stage

variable {config : Config} {world after : World} {hand next : Hand} {id loop : Nat}
  {link : Link} {stage : Stage}

theorem initial_sound (config : Config) : Sound config .initial none where
  born := by
    intro id
    simp only [World.initial]
    constructor
    · intro some
      cases some
    · intro range
      omega
  bound := by simp [World.initial]
  pool := Nat.eq_zero_or_pos _
  named := by simp [World.initial]
  absent := by
    intro id _
    exact ⟨fun loop kind some => (Nat.lt_irrefl 0 some).elim, rfl⟩
  placed := by
    intro id link found
    cases found

section Frame

/-- A step that only changes what is in flight. -/
theorem Sound.recount (sound : Sound config world hand) (links : after.links = world.links)
    (connections : after.connections = world.connections)
    (nextConnId : after.nextConnId = world.nextConnId) (pool : after.next = world.next)
    (nothing : ∀ id, world.links id = none →
      ∀ loop kind, 0 < after.tally next loop (id, kind) → (id, kind) = (0, .accept) ∧ loop = 0)
    (held : ∀ id link stage, world.links id = some link → Placed config world hand id link stage →
      ∀ loop kind, stage.Allows link.loop loop (after.tally next loop (id, kind)) kind) :
    Sound config after next where
  born := by
    rw [links, nextConnId]
    exact sound.born
  bound := by
    rw [nextConnId]
    exact sound.bound
  pool := by
    rw [pool]
    exact sound.pool
  named := by
    rw [connections]
    exact sound.named
  absent := by
    intro id free
    rw [links] at free
    refine ⟨nothing id free, ?_⟩
    rw [World.entries, connections]
    exact (sound.absent id free).2
  placed := by
    intro id link found
    rw [links] at found
    obtain ⟨stage, placed⟩ := sound.placed id link found
    refine ⟨stage, placed.followed, placed.fits, placed.home, held id link stage found placed, ?_⟩
    rw [World.entries, connections]
    exact placed.listed

/-- A step that only moves tokens between a thread and its hand. -/
theorem Sound.retally (sound : Sound config world hand) (links : after.links = world.links)
    (connections : after.connections = world.connections)
    (nextConnId : after.nextConnId = world.nextConnId) (pool : after.next = world.next)
    (tally : ∀ loop token, after.tally next loop token = world.tally hand loop token) :
    Sound config after next := by
  refine sound.recount links connections nextConnId pool ?_ ?_
  · intro id free loop kind
    rw [tally]
    exact (sound.absent id free).1 loop kind
  · intro id link stage found placed loop kind
    rw [tally]
    exact placed.held loop kind

/-- A step of one connection: what is in flight to the others stays. -/
theorem Sound.move (sound : Sound config world hand)
    (found : world.links id = some link) {moved : Link}
    (links : after.links = Function.update world.links id (some moved))
    (nextConnId : after.nextConnId = world.nextConnId) (pool : after.next = world.next)
    (named : ∀ entry ∈ after.connections, entry.1 = connName config entry.2 ∧ entry.2 < 2147483648)
    (entries : ∀ other, other ≠ id → after.entries other = world.entries other)
    (tally : ∀ loop token, token.1 ≠ id → after.tally next loop token =
      world.tally hand loop token) (placed : Placed config after next id moved stage) :
    Sound config after next where
  born := by
    intro other
    rw [links, nextConnId, ← sound.born other]
    by_cases same : other = id
    · subst same
      simp [found]
    · simp [same]
  bound := by
    rw [nextConnId]
    exact sound.bound
  pool := by
    rw [pool]
    exact sound.pool
  named := named
  absent := by
    intro other free
    have different : other ≠ id := by
      intro same
      subst same
      simp [links] at free
    rw [links, Function.update_of_ne different] at free
    obtain ⟨none, unlisted⟩ := sound.absent other free
    refine ⟨fun loop kind => ?_, ?_⟩
    · rw [tally loop (other, kind) different]
      exact none loop kind
    · rw [entries other different]
      exact unlisted
  placed := by
    intro other link present
    by_cases same : other = id
    · subst same
      rw [links, Function.update_self] at present
      cases present
      exact ⟨stage, placed⟩
    · rw [links, Function.update_of_ne same] at present
      obtain ⟨stage, others⟩ := sound.placed other link present
      refine ⟨stage, others.followed, others.fits, others.home, fun loop kind => ?_, ?_⟩
      · rw [tally loop (other, kind) same]
        exact others.held loop kind
      · rw [entries other same]
        exact others.listed

/-- A token in the hand belongs to a connection that exists. -/
theorem Sound.holder {kind : Kind} (sound : Sound config world (some (loop, (id, kind))))
    (real : kind ≠ .accept) :
    ∃ link stage, world.links id = some link ∧
      Placed config world (some (loop, (id, kind))) id link stage ∧
      stage.Allows link.loop loop (world.tally none loop (id, kind) + 1) kind := by
  have count : world.tally (some (loop, (id, kind))) loop (id, kind) =
      world.tally none loop (id, kind) + 1 := by
    rw [tally_hold, if_pos ⟨rfl, rfl⟩]
  rcases found : world.links id with _ | link
  · obtain ⟨acceptor, _⟩ := (sound.absent id found).1 loop kind (by omega)
    exact (real (congrArg Prod.snd acceptor)).elim
  · obtain ⟨stage, placed⟩ := sound.placed id link found
    refine ⟨link, stage, rfl, placed, ?_⟩
    rw [← count]
    exact placed.held loop kind

/-- A connection spends the token in the hand and gains others. -/
theorem Sound.spend {spent : Kind} (sound : Sound config world (some (loop, (id, spent))))
    (found : world.links id = some link)
    (placed : Placed config world (some (loop, (id, spent))) id link stage) {moved : Link}
    (later : Stage) (target : Nat) (gained : List Kind)
    (links : after.links = Function.update world.links id (some moved))
    (nextConnId : after.nextConnId = world.nextConnId) (pool : after.next = world.next)
    (named : ∀ entry ∈ after.connections, entry.1 = connName config entry.2 ∧ entry.2 < 2147483648)
    (entries : ∀ other, other ≠ id → after.entries other = world.entries other)
    (listed : after.entries id = if later.isListed then 1 else 0)
    (tally : ∀ loop token, after.tally next loop token =
      world.tally none loop token + if loop = target then
        (gained.map (Prod.mk id)).count token else 0)
    (home : moved.loop = link.loop)
    (followed : Stage.follow id link.loop moved.history = some later) (fits : later.Fits moved.conn)
    (passes : ∀ other kind,
      stage.Allows link.loop other
        (world.tally none other (id, kind) + if other = loop ∧ kind = spent then 1 else 0) kind →
      later.Allows link.loop other
        (world.tally none other (id, kind) + if other = target then
          gained.count kind else 0) kind) :
    Sound config after next := by
  refine sound.move found links nextConnId pool named entries ?_
    ⟨by rw [home]; exact followed, fits, by rw [home]; exact placed.home, ?_, listed⟩
  · intro other token different
    have unspent : token ≠ (id, spent) := fun same => different (by rw [same])
    have ungained : (gained.map (Prod.mk id)).count token = 0 := by
      refine List.count_eq_zero_of_not_mem ?_
      intro member
      obtain ⟨kind, _, same⟩ := List.mem_map.mp member
      exact different (by rw [← same])
    rw [tally, tally_hold, ungained]
    simp [unspent]
  · intro other kind
    have old := placed.held other kind
    rw [tally_hold] at old
    have injective : Function.Injective (Prod.mk id : Kind → Token) :=
      fun _ _ same => congrArg Prod.snd same
    rw [tally, home, List.count_map_of_injective gained _ injective]
    refine passes other kind ?_
    simpa using old

/-- The same for a step that leaves the map alone. -/
theorem Sound.advance {spent : Kind} (sound : Sound config world (some (loop, (id, spent))))
    (found : world.links id = some link)
    (placed : Placed config world (some (loop, (id, spent))) id link stage) {moved : Link}
    (later : Stage) (target : Nat) (gained : List Kind)
    (links : after.links = Function.update world.links id (some moved))
    (nextConnId : after.nextConnId = world.nextConnId) (pool : after.next = world.next)
    (connections : after.connections = world.connections)
    (listed : later.isListed = stage.isListed) (tally : ∀ loop token, after.tally next loop token =
      world.tally none loop token + if loop = target then
        (gained.map (Prod.mk id)).count token else 0)
    (home : moved.loop = link.loop)
    (followed : Stage.follow id link.loop moved.history = some later) (fits : later.Fits moved.conn)
    (passes : ∀ other kind,
      stage.Allows link.loop other
        (world.tally none other (id, kind) + if other = loop ∧ kind = spent then 1 else 0) kind →
      later.Allows link.loop other
        (world.tally none other (id, kind) + if other = target then
          gained.count kind else 0) kind) :
    Sound config after next := by
  refine sound.spend found placed later target gained links nextConnId pool ?_ ?_ ?_ tally home
    followed fits passes
  · rw [connections]
    exact sound.named
  · intro other _
    rw [World.entries, World.entries, connections]
  · rw [World.entries, connections, listed]
    exact placed.listed

end Frame

section Handlers

theorem link_found (found : world.links id = some link) : world.link id = .ok link := by
  rw [World.link, found]

theorem inLoopThread (link : Link) : assertInLoopThread link link.loop = .ok () := check_pass _ rfl

theorem connectEstablished_sound (sound : Sound config world (some (loop, (id, .establish)))) :
    ∃ after, connectEstablished world loop id = .ok after ∧ Sound config after none := by
  obtain ⟨link, stage, found, placed, here⟩ := sound.holder (by decide)
  obtain ⟨rfl, rfl⟩ : stage = .accepted ∧ loop = link.loop := only_there (Nat.le_of_eq here)
  obtain ⟨conn, established, live, state⟩ := TcpConnection.connectEstablished_live placed.fits
  refine ⟨(world.setLink id (link.update conn
    [.connectEstablished, .connectionCallback conn.isConnected conn.isDisconnected])).call
      link.loop [.callback], ?_, ?_⟩
  · simp only [connectEstablished, link_found found, ok_bind, inLoopThread, established]
    rfl
  · refine sound.advance found placed .opened link.loop [] rfl rfl rfl rfl rfl ?_ rfl ?_ live ?_
    · intro other token
      exact tally_call _ _ _ _ _ _
    · simp only [Link.update, Stage.follow_append, placed.followed, Option.bind_some,
        TcpConnection.isConnected, TcpConnection.isDisconnected, state]
      rfl
    · intro other kind
      exact Stage.Allows.establish

theorem handleClose_sound {spent : Kind} (sound : Sound config world (some (loop, (id, spent))))
    (found : world.links id = some link)
    (placed : Placed config world (some (loop, (id, spent))) id link .opened)
    (own : loop = link.loop) (quiet : ∀ other, world.tally none other (id, .read) = 0)
    (first : List Happening) (led : first.foldlM (Stage.next id link.loop) .opened = some .opened) :
    ∃ after, handleClose world loop id first = .ok after ∧ Sound config after none := by
  subst own
  obtain ⟨conn, returned, closed, _⟩ := TcpConnection.handleClose_closed placed.fits
  refine ⟨(world.setLink id (link.update conn (first ++
      [.handleClose, .connectionCallback conn.isConnected conn.isDisconnected]))).call link.loop
        [.callback, .closeCallback id], ?_, ?_⟩
  · simp only [handleClose, link_found found, ok_bind, inLoopThread, returned]
    rfl
  · refine sound.advance found placed .closing link.loop
      [.close] rfl rfl rfl rfl rfl ?_ rfl ?_ closed ?_
    · intro other token
      exact tally_call _ _ _ _ _ _
    · simp only [Link.update, Stage.follow_append, placed.followed, Option.bind_some,
        List.foldlM_append, led, Option.bind_eq_bind, TcpConnection.isConnected,
        TcpConnection.isDisconnected, closed.disconnected]
      rfl
    · intro other kind
      exact Stage.Allows.close (fun read => by rw [read, quiet])

/-- A handler that leaves the connection in its stage. -/
theorem Sound.work {spent : Kind} (sound : Sound config world (some (loop, (id, spent))))
    (found : world.links id = some link)
    (placed : Placed config world (some (loop, (id, spent))) id link stage)
    (own : loop = link.loop) (spends : spent = .read ∨ spent = .write ∨ spent = .functor)
    (established : stage.isEstablished = true) {conn : TcpConnection} (happenings : List Happening)
    (gained : List Kind) (gains : ∀ kind ∈ gained, kind = .read ∨ kind = .write ∨ kind = .functor)
    (reads : gained.count .read ≤ if spent = .read then 1 else 0)
    (links : after.links = Function.update world.links id (some (link.update conn happenings)))
    (nextConnId : after.nextConnId = world.nextConnId) (pool : after.next = world.next)
    (connections : after.connections = world.connections)
    (tally : ∀ other token, after.tally none other token =
      world.tally none other token + if other = loop then
        (gained.map (Prod.mk id)).count token else 0)
    (led : happenings.foldlM (Stage.next id link.loop) stage = some stage) (fits : stage.Fits conn)
: Sound config after none := by
  subst own
  refine sound.advance found placed stage link.loop gained links nextConnId pool connections rfl
    tally rfl ?_ fits
    ?_
  · simp only [Link.update, Stage.follow_append, placed.followed, Option.bind_some, led]
  · intro other kind
    exact Stage.Allows.work established spends gains reads

/-- The handler in the hand is the only one that may close the connection. -/
theorem Placed.read_held (placed : Placed config world (some (loop, (id, .read))) id link .opened)
    (own : loop = link.loop) (other : Nat) : world.tally none other (id, .read) = 0 := by
  subst own
  have most := placed.held other .read
  rw [tally_hold, Stage.Allows] at most
  by_cases here : other = link.loop
  · simp only [here, and_self, if_true] at most ⊢
    omega
  · simpa [here] using most

theorem handleRead_sound (sound : Sound config world (some (loop, (id, .read))))
    (answer : ReadAnswer) :
    ∃ after, handleRead world loop id answer = .ok after ∧ Sound config after none := by
  obtain ⟨link, stage, found, placed, here⟩ := sound.holder (by decide)
  obtain ⟨rfl, rfl⟩ : stage = .opened ∧ loop = link.loop := only_there here
  simp only [handleRead, link_found found, ok_bind, inLoopThread]
  cases answer with
  | data first rest =>
    obtain ⟨inputBuffer, received⟩ := link.conn.receive_returns (first :: rest)
    refine ⟨(world.setLink id (link.update { link.conn with inputBuffer }
      [.handleRead, .messageCallback])).call link.loop [.callback], ?_, ?_⟩
    · simp only [received, ok_bind]
      rfl
    · refine sound.work found placed rfl (.inl rfl) rfl [.handleRead, .messageCallback] []
        (by simp) (by simp) rfl rfl
        rfl rfl ?_ rfl ?_
      · intro other token
        exact tally_call _ _ _ _ _ _
      · exact TcpConnection.Live.congr placed.fits rfl rfl rfl
  | endOfStream =>
    exact handleClose_sound sound found placed rfl (placed.read_held rfl) [.handleRead] rfl
  | failed errno =>
    refine ⟨world.setLink id (link.update link.conn [.handleRead]), rfl, ?_⟩
    refine sound.work found placed rfl (.inl rfl) rfl [.handleRead] [] (by simp)
      (by simp) rfl rfl rfl rfl ?_ rfl
      placed.fits
    intro other token
    simp [tally_setLink]

/-- A writable event; one that comes late finds no interest in it. -/
theorem Stage.Fits.handleWrite {conn : TcpConnection} (fits : stage.Fits conn)
    (established : stage.isEstablished = true) (answer : WriteAnswer) :
    ∃ next queued, conn.handleWrite answer = .ok (next, queued) ∧ stage.Fits next := by
  cases stage with
  | accepted | greeting | parting => cases established
  | opened =>
    obtain ⟨next, queued, returned, live, _⟩ := TcpConnection.handleWrite_live fits answer
    exact ⟨next, queued, returned, live⟩
  | closing | leaving | removed =>
    exact ⟨conn, [], TcpConnection.handleWrite_silent fits.parked.silent answer, fits⟩
  | destroyed =>
    exact ⟨conn, [], TcpConnection.handleWrite_silent fits.unregistered.silent answer, fits⟩

theorem functor_tokens (id : Nat) (queued : List Functor) :
    (queued.map (Task.functor id)).filterMap Task.token =
      (List.replicate queued.length Kind.functor).map (Prod.mk id) := by
  induction queued with
  | nil => rfl
  | cons functor rest ih => simpa [Task.token, List.replicate_succ] using ih

theorem handleWrite_sound (sound : Sound config world (some (loop, (id, .write))))
    (answer : WriteAnswer) :
    ∃ after, handleWrite world loop id answer = .ok after ∧ Sound config after none := by
  obtain ⟨link, stage, found, placed, here⟩ := sound.holder (by decide)
  obtain ⟨established, rfl⟩ := here (Nat.succ_pos _)
  obtain ⟨conn, queued, returned, fits⟩ := placed.fits.handleWrite established answer
  refine ⟨(world.setLink id (link.update conn [.handleWrite])).queueInLoop link.loop
    (queued.map (.functor id)), ?_, ?_⟩
  · simp only [handleWrite, link_found found, ok_bind, inLoopThread, returned]
    rfl
  · refine sound.work found placed rfl (.inr (.inl rfl)) established [.handleWrite]
      (List.replicate queued.length .functor) (by simp)
        (by simp [List.count_replicate]) rfl rfl rfl rfl ?_ ?_ fits
    · intro other token
      rw [tally_queueInLoop, functor_tokens, tally_setLink]
    · simp [Stage.next_work established]

theorem Stage.Fits.isOpen {conn : TcpConnection} (fits : stage.Fits conn) :
    conn.isOpen = true ↔ stage = .opened := by
  cases stage with
  | accepted => simp [TcpConnection.isOpen, fits.connecting]
  | opened => simp [TcpConnection.Live.isOpen fits]
  | closing | leaving | removed | destroyed => simp [TcpConnection.isOpen, fits.disconnected]
  | greeting | parting => exact fits.elim

theorem Stage.Fits.consume {conn : TcpConnection} (fits : stage.Fits conn) (inputBuffer : Buffer) :
    stage.Fits { conn with inputBuffer } := by
  cases stage with
  | accepted => exact ⟨fits.connecting, fits.unregistered, fits.output, fits.unsent⟩
  | opened => exact TcpConnection.Live.congr fits rfl rfl rfl
  | closing | leaving | removed => exact ⟨fits.disconnected, fits.parked⟩
  | destroyed => exact ⟨fits.disconnected, fits.unregistered⟩
  | greeting | parting => exact fits.elim

/-- No handler of an event is under way when a functor runs. -/
theorem forceCloseInLoop_sound (sound : Sound config world (some (loop, (id, .functor))))
    (quiet : world.tally none loop (id, .read) = 0) :
    ∃ after, forceCloseInLoop world loop id = .ok after ∧ Sound config after none := by
  obtain ⟨link, stage, found, placed, here⟩ := sound.holder (by decide)
  obtain ⟨established, rfl⟩ := here (Nat.succ_pos _)
  simp only [forceCloseInLoop, link_found found, ok_bind, inLoopThread]
  split
  · rename_i isOpen
    obtain rfl := placed.fits.isOpen.mp isOpen
    refine handleClose_sound sound found placed rfl ?_ [.forceCloseInLoop] rfl
    intro other
    by_cases here : other = link.loop
    · rw [here]
      exact quiet
    · have most := placed.held other .read
      rw [tally_hold, Stage.Allows] at most
      simpa [here] using most
  · refine ⟨world.setLink id (link.update link.conn [.forceCloseInLoop]), rfl, ?_⟩
    refine sound.work found placed rfl (.inr (.inr rfl)) established [.forceCloseInLoop] []
      (by simp) (by simp) rfl rfl
      rfl rfl ?_ ?_ placed.fits
    · intro other token
      simp [tally_setLink]
    · simp [Stage.next_work established]

theorem connName_injective {first second : Nat} (firstBound : first < 2147483648)
    (secondBound : second < 2147483648) (same : connName config first = connName config second) :
    first = second := by
  have whole : ∀ number, number < 2147483648 →
      snprintf 64 (ascii "-" ++ config.ipPort ++ ascii "#" ++ decimal number) =
        ascii "-" ++ config.ipPort ++ ascii "#" ++ decimal number := by
    intro number bound
    have digits : (decimal number).length ≤ 10 :=
      decimal_length (by decide) (Nat.lt_trans bound (by decide))
    have address := config.fits
    refine snprintf_fits ?_
    simp only [List.length_append]
    have dash : (ascii "-").length = 1 := rfl
    have hash : (ascii "#").length = 1 := rfl
    omega
  have texts := List.append_cancel_left same
  rw [whole first firstBound, whole second secondBound] at texts
  exact decimal_injective (List.append_cancel_left texts)

theorem Sound.id_bound (sound : Sound config world hand) (found : world.links id = some link) :
    id < 2147483648 := by
  have range := (sound.born id).mp (by rw [found]; rfl)
  have bound := sound.bound
  omega

/-- The entries with a connection's name are its own. -/
theorem Sound.named_iff (sound : Sound config world hand) (bound : id < 2147483648)
    {entry : Text × Nat} (member : entry ∈ world.connections) :
    entry.1 = connName config id ↔ entry.2 = id := by
  obtain ⟨name, small⟩ := sound.named entry member
  constructor
  · intro same
    exact connName_injective small bound (name.symm.trans same)
  · intro same
    rw [name, same]

theorem removeConnectionInLoop_sound (sound : Sound config world (some (0, (id, .remove)))) :
    ∃ after, removeConnectionInLoop config world 0 id = .ok after ∧ Sound config after none := by
  obtain ⟨link, stage, found, placed, here⟩ := sound.holder (by decide)
  obtain ⟨rfl, _⟩ : stage = .leaving ∧ (0 : Nat) = 0 := only_there (Nat.le_of_eq here)
  have bound := sound.id_bound found
  have own : world.connections.filter (·.1 = connName config id) =
      world.connections.filter (·.2 = id) :=
    List.filter_congr fun entry member => decide_eq_decide.mpr (sound.named_iff bound member)
  have others : world.connections.filter (·.1 ≠ connName config id) =
      world.connections.filter (·.2 ≠ id) :=
    List.filter_congr fun entry member =>
      decide_eq_decide.mpr (not_congr (sound.named_iff bound member))
  have one : (world.connections.filter (·.2 = id)).length = 1 := by
    rw [← List.countP_eq_length_filter]
    exact placed.listed
  have itself : (world.connections.filter (·.2 = id)).map Prod.snd = [id] := by
    obtain ⟨entry, single⟩ := List.length_eq_one_iff.mp one
    have member : entry ∈ world.connections.filter (·.2 = id) := by
      rw [single]; exact List.mem_singleton_self entry
    rw [single, List.map_singleton, of_decide_eq_true (List.mem_filter.mp member).2]
  refine ⟨({ world with connections := world.connections.filter (·.2 ≠ id) }.setLink id
    (link.update link.conn [.removeConnectionInLoop [id]])).queueInLoop link.loop
      [.connectDestroyed id], ?_, ?_⟩
  · simp only [removeConnectionInLoop, own, others, itself, check_pass _ one,
      link_found found, ok_bind]
    rfl
  · refine sound.spend found placed .removed link.loop
      [.destroy] rfl rfl rfl ?_ ?_ ?_ ?_ rfl ?_ placed.fits ?_
    · intro entry member
      exact sound.named entry (List.mem_filter.mp member).1
    · intro other different
      refine List.countP_filter.trans (List.countP_congr ?_)
      intro entry _
      simp only [Bool.and_eq_true, decide_eq_true_eq, and_iff_left_iff_imp]
      intro same
      rwa [same]
    · refine List.countP_eq_zero.mpr ?_
      intro entry member
      simpa using (List.mem_filter.mp member).2
    · intro other token
      exact tally_queueInLoop _ _ _ _ _ _
    · simp only [Link.update, Stage.follow_append, placed.followed, Option.bind_some]
      simp [Stage.next]
    · intro other kind
      exact Stage.Allows.remove

theorem removeConnection_sound (sound : Sound config world (some (loop, (id, .close)))) :
    ∃ after, removeConnection config world loop id = .ok after ∧ Sound config after none := by
  obtain ⟨link, stage, found, placed, here⟩ := sound.holder (by decide)
  obtain ⟨rfl, rfl⟩ : stage = .closing ∧ loop = link.loop := only_there (Nat.le_of_eq here)
  have leaving : Sound config (world.setLink id (link.update link.conn [.removeConnection]))
      (some (0, (id, .remove))) := by
    refine sound.advance found placed .leaving 0 [.remove] rfl rfl rfl rfl rfl ?_ rfl
      ?_ placed.fits ?_
    · intro other token
      rw [tally_hold_one, tally_setLink]
      rfl
    · simp only [Link.update, Stage.follow_append, placed.followed, Option.bind_some]
      rfl
    · intro other kind
      exact Stage.Allows.leave
  simp only [removeConnection, link_found found, ok_bind]
  split
  · rename_i base
    rw [base]
    exact removeConnectionInLoop_sound leaving
  · refine ⟨_, rfl, leaving.retally rfl rfl rfl rfl ?_⟩
    intro other token
    rw [tally_queueInLoop, tally_hold_one]
    rfl

theorem connectDestroyed_sound (sound : Sound config world (some (loop, (id, .destroy))))
    {functors : List Task} (calling : (world.loops loop).phase = .calling functors) :
    ∃ after, connectDestroyed world loop id = .ok after ∧ Sound config after none := by
  obtain ⟨link, stage, found, placed, here⟩ := sound.holder (by decide)
  obtain ⟨rfl, rfl⟩ : stage = .removed ∧ loop = link.loop := only_there (Nat.le_of_eq here)
  have closed : link.conn.Closed := placed.fits
  obtain ⟨conn, removed, gone⟩ := TcpConnection.removeChannel_gone closed
  let destroyed := link.update link.conn [.connectDestroyed link.loop false]
  have links : ((world.setLink id destroyed).setLink id (destroyed.update conn [])).links =
      Function.update world.links id (some (destroyed.update conn [])) := Function.update_idem _ _ _
  have kept : (world.setLink id destroyed).link id = .ok destroyed :=
    link_found (Function.update_self _ _ _)
  refine ⟨(world.setLink id destroyed).setLink id (destroyed.update conn []), ?_, ?_⟩
  · have phase : ((world.setLink id destroyed).loops link.loop).phase.mayRemove id = true := by
      rw [World.setLink, calling]
      rfl
    have taken : destroyed.conn.removeChannel = .ok conn := removed
    simp only [connectDestroyed, link_found found, ok_bind, inLoopThread, calling,
      Phase.eventHandling, closed.unconnected, if_false, removeChannel]
    rw [kept, ok_bind, check_pass _ phase, ok_bind, taken, ok_bind]
    rfl
  · refine sound.advance found placed .destroyed link.loop
      [] links rfl rfl rfl rfl ?_ rfl ?_ gone ?_
    · intro other token
      simp [tally_setLink]
    · simp only [destroyed, Link.update, List.append_nil, Stage.follow_append, placed.followed,
        Option.bind_some]
      simp [Stage.next]
    · intro other kind
      exact Stage.Allows.destroy

end Handlers

end FakeMuduo.Net.TcpServer
