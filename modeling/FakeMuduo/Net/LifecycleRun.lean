import FakeMuduo.Net.LifecycleInvariant

namespace FakeMuduo.Net.TcpServer

open FakeMuduo.Base FakeMuduo.Util

variable {config : Config} {world after : World} {hand : Hand} {id loop : Nat}
  {link : Link} {stage : Stage}

section Accept

theorem getNextLoop_home (sound : Sound config world hand) :
    (getNextLoop config world).1 ≤ config.numThreads ∧
      (config.numThreads = 0 ∨ (getNextLoop config world).2 < config.numThreads) := by
  unfold getNextLoop
  split
  · rename_i none
    exact ⟨Nat.zero_le _, .inl none⟩
  · rename_i some
    rcases sound.pool with none | inside
    · exact (some none).elim
    · exact ⟨inside, .inr (Nat.mod_lt _ (Nat.pos_of_ne_zero some))⟩

theorem Sound.fresh_id (sound : Sound config world hand) : world.links world.nextConnId = none := by
  rcases found : world.links world.nextConnId with _ | link
  · rfl
  · have range := (sound.born world.nextConnId).mp (by rw [found]; rfl)
    omega

/-- The name of a new connection is new. -/
theorem Sound.fresh_name (sound : Sound config world hand) (room : world.nextConnId < 2147483648) :
    world.connections.filter (·.1 ≠ connName config world.nextConnId) = world.connections := by
  refine List.filter_eq_self.mpr ?_
  intro entry member
  refine decide_eq_true ?_
  intro same
  have own := (sound.named_iff room member).mp same
  exact List.countP_eq_zero.mp (sound.absent _ sound.fresh_id).2 entry member (decide_eq_true own)

/-- A connection is born with the functor that will establish it. -/
theorem Sound.birth (sound : Sound config world none) (room : world.nextConnId < 2147483648)
    {created : Link}
    (links : after.links = Function.update world.links world.nextConnId (some created))
    (loops : after.loops = world.loops)
    (connections : after.connections = world.connections ++
      [(connName config world.nextConnId, world.nextConnId)])
    (nextConnId : after.nextConnId = world.nextConnId + 1)
    (pool : config.numThreads = 0 ∨ after.next < config.numThreads)
    (home : created.loop ≤ config.numThreads) (new : created.history = [])
    (fresh : created.conn.Fresh) :
    Sound config after (some (created.loop, (world.nextConnId, .establish))) := by
  have entries : ∀ other, after.entries other = world.entries other + if other =
      world.nextConnId then 1 else 0 := by
    intro other
    by_cases same : other = world.nextConnId
    · simp [World.entries, connections, same]
    · simp [World.entries, connections, same, Ne.symm same]
  have tally : ∀ other token,
      after.tally (some (created.loop, (world.nextConnId, .establish))) other token =
        world.tally none other token + if other = created.loop ∧
          token = (world.nextConnId, .establish) then 1 else 0 := by
    intro other token
    rw [tally_hold, tally_congr loops]
  obtain ⟨nowhere, unlisted⟩ := sound.absent _ sound.fresh_id
  have positive := sound.bound.1
  have none : ∀ loop kind, world.tally none loop (world.nextConnId, kind) = 0 := by
    intro loop kind
    by_contra some
    obtain ⟨acceptor, _⟩ := nowhere loop kind (Nat.pos_of_ne_zero some)
    have zero : world.nextConnId = 0 := congrArg Prod.fst acceptor
    omega
  refine ⟨?_, ?_, pool, ?_, ?_, ?_⟩
  · intro other
    rw [links, nextConnId]
    by_cases same : other = world.nextConnId
    · simp [same, positive]
    · rw [Function.update_of_ne same, sound.born other]
      omega
  · rw [nextConnId]
    exact ⟨Nat.succ_pos _, room⟩
  · intro entry member
    rw [connections] at member
    rcases List.mem_append.mp member with old | added
    · exact sound.named entry old
    · rw [List.mem_singleton.mp added]
      exact ⟨rfl, room⟩
  · intro other free
    have different : other ≠ world.nextConnId := by
      intro same
      rw [links, same, Function.update_self] at free
      cases free
    rw [links, Function.update_of_ne different] at free
    obtain ⟨nowhere, unlisted⟩ := sound.absent other free
    refine ⟨fun loop kind => ?_, ?_⟩
    · rw [tally, if_neg (fun both => different (congrArg Prod.fst both.2))]
      exact nowhere loop kind
    · rw [entries, if_neg different]
      exact unlisted
  · intro other link present
    rw [links] at present
    by_cases same : other = world.nextConnId
    · subst same
      rw [Function.update_self] at present
      cases present
      refine ⟨.accepted, by rw [new]; rfl, fresh, home, fun loop kind => ?_, ?_⟩
      · rw [tally, none loop kind]
        cases kind <;> simp [Stage.Allows]
      · rw [entries, unlisted, if_pos rfl]
        rfl
    · rw [Function.update_of_ne same] at present
      obtain ⟨stage, others⟩ := sound.placed other link present
      refine ⟨stage, others.followed, others.fits, others.home, fun loop kind => ?_, ?_⟩
      · rw [tally, if_neg (fun both => same (congrArg Prod.fst both.2))]
        exact others.held loop kind
      · rw [entries, if_neg same]
        exact others.listed

theorem newConnection_sound (sound : Sound config world none)
    (room : world.nextConnId < 2147483648) :
    ∃ after, newConnection config world 0 = .ok after ∧ Sound config after none := by
  obtain ⟨home, inside⟩ := getNextLoop_home sound
  let created : Link :=
    ⟨.create config.writeCompleteCallback config.highWaterMarkCallback,
      (getNextLoop config world).1, []⟩
  let grown : World :=
    { world with
      nextConnId := world.nextConnId + 1
      next := (getNextLoop config world).2
      connections := world.connections ++ [(connName config world.nextConnId, world.nextConnId)] }
  have born : Sound config (grown.setLink world.nextConnId created)
      (some (created.loop, (world.nextConnId, .establish))) :=
    sound.birth room rfl rfl rfl rfl inside home rfl (TcpConnection.create_fresh _ _)
  simp only [newConnection, sound.fresh_name room]
  split
  · rename_i base
    rw [show created.loop = 0 from base] at born
    exact connectEstablished_sound born
  · refine ⟨_, rfl, born.retally rfl rfl rfl rfl ?_⟩
    intro other token
    rw [tally_queueInLoop, tally_hold_one]
    rfl

end Accept

section Events

/-- The handlers an event leads to. -/
def Revents.kinds (revents : Revents) : List Kind :=
  (if revents.pollhup && !revents.pollin then [.read] else []) ++
    (if revents.pollin || revents.pollpri || revents.pollrdhup then [.read] else []) ++
    (if revents.pollout then [.write] else [])

theorem handleEvent_tokens (id : Nat) (revents : Revents) :
    (handleEvent id revents).filterMap Work.token = revents.kinds.map (Prod.mk id) := by
  simp only [handleEvent, Revents.kinds, List.filterMap_append, List.map_append]
  congr 1
  · congr 1
    · split <;> rfl
    · split <;> rfl
  · split <;> rfl

theorem Revents.kinds_work (revents : Revents) (kind : Kind) (member : kind ∈ revents.kinds) :
    kind = .read ∨ kind = .write ∨ kind = .functor := by
  simp only [kinds, List.mem_append] at member
  rcases member with (hup | readable) | writable
  · split at hup
    · exact .inl (List.mem_singleton.mp hup)
    · cases hup
  · split at readable
    · exact .inl (List.mem_singleton.mp readable)
    · cases readable
  · split at writable
    · exact .inr (.inl (List.mem_singleton.mp writable))
    · cases writable

/-- No event leads to two handlers that may close. -/
theorem Revents.kinds_read (revents : Revents) : revents.kinds.count .read ≤ 1 := by
  obtain ⟨pollin, pollpri, pollout, pollhup, pollrdhup, pollerr, pollnval, unasked, readable⟩ :=
    revents
  subst unasked
  cases pollin <;> cases pollpri <;> cases pollout <;> cases pollhup <;> simp [kinds] at readable ⊢

/-- A connection with a handler under way is established, and the handler is on its loop. -/
theorem Stage.Allows.established {own count : Nat} {kind : Kind}
    (works : kind = .read ∨ kind = .write ∨ kind = .functor)
    (allowed : stage.Allows own loop (count + 1) kind) :
    stage.isEstablished = true ∧ loop = own := by
  rcases works with rfl | rfl | rfl
  · by_cases here : stage = .opened ∧ loop = own
    · exact ⟨by rw [here.1]; rfl, here.2⟩
    · rw [Stage.Allows, if_neg here] at allowed
      cases allowed
  · exact allowed (Nat.succ_pos _)
  · exact allowed (Nat.succ_pos _)

/-- The handlers of an event take its place. -/
theorem Sound.replace {spent : Kind} (sound : Sound config world (some (loop, (id, spent))))
    (spends : spent = .read ∨ spent = .write ∨ spent = .functor) (gained : List Kind)
    (gains : ∀ kind ∈ gained, kind = .read ∨ kind = .write ∨ kind = .functor)
    (reads : gained.count .read ≤ if spent = .read then 1 else 0)
    (links : after.links = world.links) (nextConnId : after.nextConnId = world.nextConnId)
    (pool : after.next = world.next) (connections : after.connections = world.connections)
    (tally : ∀ other token, after.tally none other token =
      world.tally none other token + if other = loop then
        (gained.map (Prod.mk id)).count token else 0) :
    Sound config after none := by
  have real : spent ≠ .accept := by
    rintro rfl
    simp at spends
  obtain ⟨link, stage, found, placed, here⟩ := sound.holder real
  obtain ⟨established, own⟩ := here.established spends
  have same : link.update link.conn [] = link := by
    rw [Link.update, List.append_nil]
  refine sound.work found placed own spends established [] gained gains reads ?_ nextConnId pool
    connections tally rfl placed.fits
  rw [links, same, ← found, Function.update_eq_self]

/-- Only the base loop's thread accepts. -/
theorem Sound.acceptor (sound : Sound config world (some (loop, (0, .accept)))) :
    loop = 0 ∧ Sound config world none := by
  have nobody : world.links 0 = none := by
    rcases found : world.links 0 with _ | link
    · rfl
    · exact (Nat.lt_irrefl 0 ((sound.born 0).mp (by rw [found]; rfl)).1).elim
  refine ⟨((sound.absent 0 nobody).1 loop .accept (by simp [tally_hold])).2,
    sound.recount rfl rfl rfl rfl ?_ ?_⟩
  · intro id free other kind some
    refine (sound.absent id free).1 other kind ?_
    rw [tally_hold]
    omega
  · intro id link stage found placed other kind
    have different : (id, kind) ≠ (0, .accept) := by
      intro same
      cases same
      rw [nobody] at found
      cases found
    have allowed := placed.held other kind
    rwa [tally_hold, if_neg (fun both => different both.2)] at allowed

theorem handle_sound {channel : ActiveChannel}
    (sound : Sound config world (channel.token.map (loop, ·))) {accepted : Bool}
    (room : world.nextConnId < 2147483648 ∨ accepted = false) :
    ∃ after, handle config world loop accepted channel = .ok after ∧ Sound config after none := by
  cases channel with
  | connection id revents =>
    refine ⟨_, rfl, sound.replace (.inl rfl) revents.kinds revents.kinds_work revents.kinds_read
      rfl rfl rfl rfl ?_⟩
    intro other token
    rw [tally_call, handleEvent_tokens]
  | acceptor =>
    obtain ⟨rfl, idle⟩ := sound.acceptor
    cases accepted with
    | true => exact newConnection_sound idle (room.resolve_right (by decide))
    | false => exact ⟨world, rfl, idle⟩
  | other =>
    refine ⟨_, rfl, sound.retally rfl rfl rfl rfl ?_⟩
    intro other token
    exact tally_callback _ _ _ _ _

end Events

section Functors

theorem task_tokens_quiet (tasks : List Task) (id : Nat) :
    (tasks.filterMap Task.token).count (id, .read) = 0 := by
  refine List.count_eq_zero_of_not_mem ?_
  intro member
  obtain ⟨task, _, same⟩ := List.mem_filterMap.mp member
  cases task <;> cases same

/-- No handler of an event is left when the functors run. -/
theorem tally_read_quiet {functors : List Task}
    (calling : (world.loops loop).phase = .calling functors) (idle : (world.loops loop).stack = [])
    (id : Nat) : world.tally none loop (id, .read) = 0 := by
  rw [World.tally, LoopThread.tokens, calling, idle]
  simp [Phase.tokens, List.count_append, task_tokens_quiet]

/-- A notice is called back and is done with. -/
theorem notice_sound (sound : Sound config world (some (loop, (id, .functor)))) :
    Sound config (world.call loop [.callback]) none := by
  refine sound.replace (.inr (.inr rfl)) [] (by simp) (by simp) rfl rfl rfl rfl ?_
  intro other token
  rw [tally_callback]
  simp

theorem runFunctor_sound {task : Task} (sound : Sound config world (task.token.map (loop, ·)))
    {functors : List Task} (calling : (world.loops loop).phase = .calling functors)
    (idle : (world.loops loop).stack = []) :
    ∃ after, runFunctor config world loop task = .ok after ∧ Sound config after none := by
  cases task with
  | connectEstablished id => exact connectEstablished_sound sound
  | removeConnectionInLoop id =>
    obtain ⟨link, stage, _, _, here⟩ := sound.holder (by decide)
    obtain ⟨_, rfl⟩ : stage = .leaving ∧ loop = 0 := only_there (Nat.le_of_eq here)
    exact removeConnectionInLoop_sound sound
  | connectDestroyed id => exact connectDestroyed_sound sound calling
  | functor id functor =>
    cases functor with
    | forceCloseInLoop => exact forceCloseInLoop_sound sound (tally_read_quiet calling idle id)
    | _ => exact ⟨_, rfl, notice_sound sound⟩
  | user =>
    refine ⟨_, rfl, sound.retally rfl rfl rfl rfl ?_⟩
    intro other token
    exact tally_callback _ _ _ _ _

theorem resume_sound {work : Work} (sound : Sound config world (work.token.map (loop, ·)))
    (readAnswer : ReadAnswer) (writeAnswer : WriteAnswer) :
    ∃ after, resume config world loop readAnswer writeAnswer work = .ok after ∧
      Sound config after none := by
  cases work with
  | handleClose id =>
    obtain ⟨link, stage, found, placed, here⟩ := sound.holder (by decide)
    obtain ⟨rfl, own⟩ : stage = .opened ∧ loop = link.loop := only_there here
    exact handleClose_sound sound found placed own (placed.read_held own) [] rfl
  | handleRead id => exact handleRead_sound sound readAnswer
  | handleWrite id => exact handleWrite_sound sound writeAnswer
  | closeCallback id => exact removeConnection_sound sound
  | removeChannel id =>
    obtain ⟨link, stage, _, _, here⟩ := sound.holder (by decide)
    cases here
  | callback => exact ⟨world, rfl, sound⟩

end Functors

section Calls

variable {conn : TcpConnection}

/-- A user's call leaves the connection in its stage, and queues nothing before it is
established. -/
theorem UserCall.perform_fits (fits : stage.Fits conn) (log : Log) (call : UserCall) :
    ∃ next queued, call.perform log conn = .ok (next, queued) ∧ stage.Fits next ∧
      (0 < queued.length → stage.isEstablished = true) := by
  by_cases opened : stage = .opened
  · subst opened
    have live : conn.Live := fits
    cases call with
    | send msg answer =>
      by_cases connected : conn.state = .kConnected
      · obtain ⟨next, queued, returned, nextLive, _⟩ :=
          TcpConnection.sendInLoop_live log live msg answer
        refine ⟨next, queued, ?_, nextLive, fun _ => rfl⟩
        rw [UserCall.perform, TcpConnection.sendString, if_pos connected, returned]
      · refine ⟨conn, [], ?_, live, fun _ => rfl⟩
        rw [UserCall.perform, TcpConnection.sendString, if_neg connected]
    | shutdown =>
      refine ⟨conn.shutdown, [], rfl, ?_, fun _ => rfl⟩
      unfold TcpConnection.shutdown
      split
      · exact (live.setState rfl).shutdownInLoop
      · exact live
    | forceClose =>
      refine ⟨conn.setState .kDisconnecting, [.forceCloseInLoop], ?_,
        live.setState rfl, fun _ => rfl⟩
      rw [UserCall.perform, TcpConnection.forceClose, if_pos live.isOpen]
    | consume inputBuffer => exact ⟨_, [], rfl, live.congr rfl rfl rfl, fun _ => rfl⟩
  · have idle : conn.isOpen = false := Bool.eq_false_iff.mpr (mt fits.isOpen.mp opened)
    cases call with
    | send msg answer =>
      exact ⟨conn, [], (TcpConnection.not_open_idle idle log msg answer).1, fits, fun none =>
        (by cases none)⟩
    | shutdown =>
      refine ⟨conn, [], ?_, fits, fun none => (by cases none)⟩
      rw [UserCall.perform, (TcpConnection.not_open_idle idle log [] (.wrote 0)).2.1]
    | forceClose =>
      refine ⟨conn, [], ?_, fits, fun none => (by cases none)⟩
      rw [UserCall.perform, (TcpConnection.not_open_idle idle log [] (.wrote 0)).2.2]
    | consume inputBuffer =>
      exact ⟨_, [], rfl, fits.consume inputBuffer, fun none => (by cases none)⟩

theorem user_sound (sound : Sound config world none) (found : world.links id = some link)
    (own : link.loop = loop) (call : UserCall) :
    ∃ conn queued, call.perform config.log link.conn = .ok (conn, queued) ∧
      Sound config ((world.setLink id (link.update conn [])).queueInLoop loop
        (queued.map (.functor id))) none := by
  subst own
  obtain ⟨stage, placed⟩ := sound.placed id link found
  obtain ⟨conn, queued, returned, fits, may⟩ := UserCall.perform_fits placed.fits config.log call
  have tally : ∀ other token,
      ((world.setLink id (link.update conn [])).queueInLoop link.loop
        (queued.map (.functor id))).tally none other token =
        world.tally none other token + if other = link.loop ∧ token = (id, .functor) then
          queued.length else 0 := by
    intro other token
    rw [tally_queueInLoop, functor_tokens, tally_setLink, List.map_replicate, List.count_replicate]
    by_cases here : other = link.loop
    · by_cases same : token = (id, .functor)
      · simp [here, same]
      · simp [here, same, Ne.symm same]
    · simp [here]
  refine ⟨conn, queued, returned, sound.move found rfl rfl rfl sound.named (fun _ _ => rfl) ?_
    ⟨?_, fits, placed.home, ?_, placed.listed⟩⟩
  · intro other token different
    rw [tally, if_neg (fun both => different (by rw [both.2])), Nat.add_zero]
  · rw [Link.update, List.append_nil]
    exact placed.followed
  · intro other kind
    have allowed := (placed.held other kind).post may
    rw [tally]
    simpa [Link.update] using allowed

end Calls

section Poll

variable {active : List ActiveChannel}

theorem active_token (active : List ActiveChannel) (id : Nat) :
    (active.filterMap ActiveChannel.token).count (id, .read) =
      (active.filterMap ActiveChannel.conn?).count id := by
  induction active with
  | nil => rfl
  | cons channel rest ih =>
    cases channel with
    | connection other revents =>
      simpa [ActiveChannel.token, ActiveChannel.conn?, List.count_cons] using ih
    | acceptor => exact (List.count_cons_of_ne (by simp)).trans ih
    | other => exact ih

/-- What an active channel's token can be. -/
theorem mem_active_token {token : Token} (member : token ∈ active.filterMap ActiveChannel.token) :
    (∃ id revents, .connection id revents ∈ active ∧ token = (id, .read)) ∨
      .acceptor ∈ active ∧ token = (0, .accept) := by
  obtain ⟨channel, present, same⟩ := List.mem_filterMap.mp member
  cases channel with
  | connection id revents =>
    cases same
    exact .inl ⟨id, revents, present, rfl⟩
  | acceptor =>
    cases same
    exact .inr ⟨present, rfl⟩
  | other => cases same

/-- The kernel reports only open connections. -/
theorem Stage.Fits.reported {conn : TcpConnection} (fits : stage.Fits conn)
    (watched : conn.channel.interest.isSome) : stage = .opened := by
  cases stage with
  | opened => rfl
  | accepted | destroyed => simp [fits.unregistered.unwatched] at watched
  | closing | leaving | removed => simp [fits.parked.unwatched] at watched
  | greeting | parting => exact fits.elim

theorem World.reports_link {revents : Revents}
    (reported : world.reports loop (.connection id revents) = true) :
    ∃ link, world.links id = some link ∧ link.loop = loop ∧ link.conn.channel.interest.isSome := by
  rcases found : world.links id with _ | link
  · simp [World.reports, found] at reported
  · simp only [World.reports, found, Option.any_some, Bool.and_eq_true, beq_iff_eq] at reported
    refine ⟨link, rfl, reported.1, ?_⟩
    cases watched : link.conn.channel.interest with
    | none => simp [watched] at reported
    | some interest => rfl

/-- The poller fills the list of active channels. -/
theorem poll_sound (sound : Sound config world none)
    (reported : active.all (world.reports loop) = true)
    (distinct : (active.filterMap ActiveChannel.conn?).Nodup)
    (polling : (world.loops loop).phase = .polling) (idle : (world.loops loop).stack = []) :
    Sound config (world.setLoop loop { world.loops loop with
      phase := .handling active none active }) none := by
  have tally : ∀ other token,
      (world.setLoop loop { world.loops loop with phase := .handling active none active }).tally
        none other token =
        world.tally none other token +
          if other = loop then (active.filterMap ActiveChannel.token).count token else 0 := by
    intro other token
    by_cases here : other = loop
    · subst here
      rw [tally_setLoop_same, World.tally, LoopThread.tokens, LoopThread.tokens, polling]
      simp only [Phase.tokens, List.count_append, List.count_nil, if_true]
      omega
    · rw [tally_setLoop_other here, if_neg here, Nat.add_zero]
  have reports : ∀ channel ∈ active, world.reports loop channel = true :=
    List.all_eq_true.mp reported
  have quiet : ∀ id, world.tally none loop (id, .read) = 0 := by
    intro id
    rw [World.tally, LoopThread.tokens, polling, idle]
    simp [Phase.tokens, task_tokens_quiet]
  refine sound.recount rfl rfl rfl rfl ?_ ?_
  · intro id free other kind some
    rw [tally] at some
    by_cases here : other = loop ∧ (id, kind) ∈ active.filterMap ActiveChannel.token
    · obtain ⟨rfl, member⟩ := here
      rcases mem_active_token member with ⟨conn, revents, present, same⟩ | ⟨present, same⟩
      · cases same
        obtain ⟨link, found, _⟩ := World.reports_link (reports _ present)
        rw [free] at found
        cases found
      · exact ⟨same, by simpa [World.reports] using reports _ present⟩
    · refine (sound.absent id free).1 other kind ?_
      by_cases same : other = loop
      · rw [List.count_eq_zero_of_not_mem (fun member => here ⟨same, member⟩), ite_self] at some
        exact some
      · rwa [if_neg same] at some
  · intro id link stage found placed other kind
    rw [tally]
    have allowed := placed.held other kind
    by_cases here : other = loop ∧ (id, kind) ∈ active.filterMap ActiveChannel.token
    · obtain ⟨rfl, member⟩ := here
      rcases mem_active_token member with ⟨conn, revents, present, same⟩ | ⟨present, same⟩
      · cases same
        obtain ⟨known, same, own, watched⟩ := World.reports_link (reports _ present)
        cases found.symm.trans same
        obtain rfl := placed.fits.reported watched
        rw [quiet, Stage.Allows, if_pos rfl, if_pos ⟨rfl, own.symm⟩, active_token, Nat.zero_add]
        exact List.nodup_iff_count.mp distinct id
      · cases same
        have range := (sound.born 0).mp (by rw [found]; rfl)
        exact (Nat.lt_irrefl 0 range.1).elim
    · by_cases same : other = loop
      · rwa [List.count_eq_zero_of_not_mem (fun member => here ⟨same, member⟩), ite_self]
      · rwa [if_neg same]

end Poll

section Run

theorem count_filterMap_cons {Item : Type} (tokenOf : Item → Option Token) (first : Item)
    (rest : List Item) (token : Token) :
    ((first :: rest).filterMap tokenOf).count token =
      (rest.filterMap tokenOf).count token + if tokenOf first = some token then 1 else 0 := by
  cases found : tokenOf first with
  | none => simp [found]
  | some held => simp [found, List.count_cons]

/-- The thread takes a token, or none, in its hand. -/
theorem Sound.take (sound : Sound config world none) {thread : LoopThread} (taken : Option Token)
    (split : ∀ token, (world.loops loop).tokens.count token =
      thread.tokens.count token + if taken = some token then 1 else 0) :
    Sound config (world.setLoop loop thread) (taken.map (loop, ·)) :=
  sound.retally rfl rfl rfl rfl (tally_take split)

/-- A step is taken and keeps the invariant, or the thread cannot take it now. -/
def Settles (config : Config) (result : Checked World) : Prop :=
  result = .error .disabled ∨ ∃ after, result = .ok after ∧ Sound config after none

theorem perform_sound (sound : Sound config world none) (loop : Nat) (action : Action) :
    Settles config (perform config world loop action) := by
  simp only [perform]
  split
  case h_1 active polling idle =>
    split
    · rename_i reported
      exact .inr ⟨_, rfl, poll_sound sound reported.1 reported.2 polling idle⟩
    · exact .inl rfl
  case h_2 accepted active current channel remaining handling idle =>
    split
    · rename_i room
      refine .inr (handle_sound (sound.take channel.token ?_) room)
      intro token
      simp only [LoopThread.tokens, handling, idle, Phase.tokens, List.count_append,
        count_filterMap_cons]
      omega
    · exact .inl rfl
  case h_3 active current handling idle =>
    refine .inr ⟨_, rfl, sound.take none ?_⟩
    intro token
    simp [LoopThread.tokens, handling, idle, Phase.tokens]
  case h_4 task rest calling idle =>
    have thread : (world.setLoop loop { world.loops loop with phase := .calling rest }).loops loop =
        { world.loops loop with phase := .calling rest } := Function.update_self _ _ _
    refine .inr (runFunctor_sound (sound.take task.token ?_) (congrArg LoopThread.phase thread) ?_)
    · intro token
      simp only [LoopThread.tokens, calling, idle, Phase.tokens, List.count_append,
        count_filterMap_cons]
      omega
    · rw [thread, idle]
  case h_5 calling idle =>
    refine .inr ⟨_, rfl, sound.take none ?_⟩
    intro token
    simp [LoopThread.tokens, calling, idle, Phase.tokens]
  case h_6 readAnswer writeAnswer work rest busy =>
    refine .inr (resume_sound (sound.take work.token ?_) readAnswer writeAnswer)
    intro token
    simp only [LoopThread.tokens, busy, List.count_append, count_filterMap_cons]
    omega
  case h_7 id call _ busy =>
    split
    · rename_i link found
      split
      · rename_i own
        obtain ⟨conn, queued, returned, kept⟩ := user_sound sound found own call
        rw [returned]
        exact .inr ⟨_, rfl, kept⟩
      · exact .inl rfl
    · exact .inl rfl
  case h_8 =>
    refine .inr ⟨_, rfl, sound.retally rfl rfl rfl rfl ?_⟩
    intro other token
    rw [tally_queueInLoop, show [Task.user].filterMap Task.token = [] from
      rfl, List.count_nil, ite_self, Nat.add_zero]
  case h_9 => exact .inl rfl

theorem run_sound {steps : List Step} (run : (machine config).Run .initial steps world) :
    Sound config world none := by
  refine run.invariant (fun _ current => Sound config current none) (initial_sound config) ?_
  intro _ current step after sound taken
  rcases perform_sound sound step.loop step.action with disabled | ⟨next, returned, kept⟩
  · cases disabled.symm.trans taken.2
  · cases returned.symm.trans taken.2
    exact kept

/-- Whatever the threads do, every connection lives its life in order, and
no assertion on the way fails. -/
theorem connection_life_cycle {steps : List Step}
    (run : (machine config).Run .initial steps world) :
    (∀ id link, world.links id = some link → Lawful id link.loop link.history) ∧
      ∀ loop action fault, perform config world loop action = .error fault → fault = .disabled := by
  have sound := run_sound run
  refine ⟨?_, ?_⟩
  · intro id link found
    obtain ⟨stage, placed⟩ := sound.placed id link found
    exact Stage.follow_lawful placed.followed
  · intro loop action fault failed
    rcases perform_sound sound loop action with disabled | ⟨next, returned, _⟩
    · cases disabled.symm.trans failed
      rfl
    · cases returned.symm.trans failed

/-- A server with one I/O loop. -/
def Config.sample : Config :=
  ⟨ascii "echo", ascii "127.0.0.1:80", 1, ⟨.kINFO, none⟩, false, false, by decide⟩

def Revents.pollinOnly : Revents := ⟨true, false, false, false, false, false, false, rfl, by decide⟩

/-- A client connects and sends a byte; the server answers and closes. -/
def sampleSteps : List Step :=
  [⟨0, .poll [.acceptor]⟩, ⟨0, .handle true⟩, ⟨1, .poll [.other]⟩, ⟨1, .handle false⟩,
    ⟨1, .resume .endOfStream (.wrote 0)⟩, ⟨1, .doPendingFunctors⟩, ⟨1, .runFunctor⟩,
    ⟨1, .resume .endOfStream (.wrote 0)⟩, ⟨1, .finish⟩, ⟨1, .poll [.connection 1 .pollinOnly]⟩,
    ⟨1, .handle false⟩, ⟨1, .resume (.data 65 []) (.wrote 0)⟩,
    ⟨1, .user 1 (.send [66] (.wrote 1))⟩, ⟨1, .user 1 .forceClose⟩,
    ⟨1, .resume .endOfStream (.wrote 0)⟩, ⟨1, .doPendingFunctors⟩, ⟨1, .runFunctor⟩,
    ⟨1, .resume .endOfStream (.wrote 0)⟩, ⟨1, .resume .endOfStream (.wrote 0)⟩,
    ⟨0, .doPendingFunctors⟩, ⟨0, .runFunctor⟩, ⟨1, .finish⟩, ⟨1, .poll []⟩,
    ⟨1, .doPendingFunctors⟩, ⟨1, .runFunctor⟩]

theorem connection_life_cycle_sample :
    ∃ world link, (machine .sample).Run .initial sampleSteps world ∧ world.links 1 = some link ∧
      link.history = [.connectEstablished, .connectionCallback true false, .handleRead,
        .messageCallback, .forceCloseInLoop, .handleClose, .connectionCallback false true,
        .removeConnection, .removeConnectionInLoop [1], .connectDestroyed 1 false] ∧
      Lawful 1 link.loop link.history := by
  have followed : (Machine.follow (fun world step => perform .sample world step.loop step.action)
      (fun _ step => decide (step.loop ≤ Config.sample.numThreads)) .initial sampleSteps).any
      (fun world => (world.links 1).any fun link => link.history ==
        [.connectEstablished, .connectionCallback true false, .handleRead, .messageCallback,
          .forceCloseInLoop, .handleClose, .connectionCallback false true, .removeConnection,
          .removeConnectionInLoop [1], .connectDestroyed 1 false]) = true := by
    decide +kernel
  obtain ⟨world, run, final⟩ := Machine.Run.ofFollowAny (machine .sample)
    (fun allowed performed => ⟨of_decide_eq_true allowed, performed⟩) followed
  obtain ⟨link, found, history⟩ := (Option.any_eq_true _ _).mp final
  exact ⟨world, link, run, found, beq_iff_eq.mp history, (connection_life_cycle run).1 1 link found⟩

end Run

end FakeMuduo.Net.TcpServer
