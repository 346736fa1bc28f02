import FakeMuduo.Net.AcceptorDescriptors

/-! The acceptor closes only what it opened or accepted itself, whatever the other threads do. -/

namespace FakeMuduo.Net.Acceptor

open FakeMuduo.Base FakeMuduo.Util

/-- The acceptor holds these descriptors and no others; `-1` stands for none. -/
structure Owns (slots : Slots Holder) (fds : List Int) : Prop where
  distinct : fds.Nodup
  exactly : ∀ fd : Nat, slots.Holds .acceptor fd ↔ (fd : Int) ∈ fds

variable {slots after : Slots Holder} {fds rest : List Int} {fd : Int} {index : Nat}

theorem Owns.close (owns : Owns slots (fd :: rest)) :
    ∃ after, closeOwn slots fd = .ok after ∧ Owns after rest := by
  obtain ⟨fresh, distinct⟩ := List.nodup_cons.mp owns.distinct
  cases fd with
  | ofNat index =>
    have held : slots.Holds .acceptor index := (owns.exactly index).mpr List.mem_cons_self
    refine ⟨slots.release index, if_pos held, distinct, ?_⟩
    intro other
    rw [Slots.holds_release, owns.exactly, List.mem_cons]
    constructor
    · rintro ⟨different, same | member⟩
      · exact absurd (Int.ofNat.inj same) different
      · exact member
    · intro member
      refine ⟨?_, .inr member⟩
      rintro rfl
      exact fresh member
  | negSucc value =>
    refine ⟨slots, rfl, distinct, ?_⟩
    intro other
    rw [owns.exactly, List.mem_cons]
    constructor
    · rintro (same | member)
      · cases same
      · exact member
    · exact .inr

theorem Owns.allocate (owns : Owns slots fds)
    (allocated : slots.allocate .acceptor = some (index, after)) :
    Owns after (index :: fds) := by
  obtain ⟨free, _⟩ := Slots.allocate_free allocated
  constructor
  · refine List.nodup_cons.mpr ⟨?_, owns.distinct⟩
    intro member
    have held : slots[index]? = some (some Holder.acceptor) := (owns.exactly index).mpr member
    cases free.symm.trans held
  · intro other
    rw [Slots.holds_allocate allocated, owns.exactly, List.mem_cons, Int.natCast_inj]
    simp

theorem Owns.allocate_user (owns : Owns slots fds)
    (allocated : slots.allocate .user = some (index, after)) :
    Owns after fds := by
  refine ⟨owns.distinct, ?_⟩
  intro other
  rw [Slots.holds_allocate allocated, owns.exactly]
  simp

theorem Owns.release_user (owns : Owns slots fds) (held : slots.Holds .user index) :
    Owns (slots.release index) fds := by
  refine ⟨owns.distinct, ?_⟩
  intro other
  rw [Slots.holds_release, owns.exactly]
  constructor
  · exact And.right
  · intro member
    refine ⟨?_, member⟩
    rintro rfl
    have own := (owns.exactly other).mpr member
    cases held.symm.trans own

/-- A call that failed leaves `-1`. -/
theorem Owns.failed (owns : Owns slots [(index : Int)]) : Owns slots [-1, (index : Int)] := by
  constructor
  · simp
  · intro other
    rw [owns.exactly]
    simp

theorem acceptAs_ok {taken : Nat × Slots Holder} {holder : Holder} {failure : Option Errno}
    (accepted : acceptAs slots backlog holder failure = .ok (taken, client, remaining)) :
    slots.allocate holder = some taken ∧ backlog = client :: remaining := by
  unfold acceptAs at accepted
  split at accepted
  · cases accepted
  · rename_i allocated
    split at accepted
    · cases accepted
    · cases accepted
    · cases accepted
      exact ⟨allocated, rfl⟩

namespace Listening

/-- The process is out of descriptors, and `handleRead` goes on to its recovery. -/
def Recovers (log : Log) (entered : Acceptor) : Prop :=
  ∃ savedErrno, ∀ accepted opened, entered.handleRead log (.failed savedErrno) accepted opened =
    some ({ entered with idleFd := opened },
      [.closeIdle entered.idleFd, .acceptIdle, .closeIdle accepted, .openIdle])

/-- The calls made since `handleRead` was entered are those of `Acceptor.handleRead` so far. -/
def Follows (log : Log) (state : Listening) : Prop :=
  match state.phase with
  | .waiting => ∃ answer accepted opened,
      state.entered.handleRead log answer accepted opened = some (state.acceptor, state.made)
  | .declined connfd => state.acceptor = state.entered ∧
      ∀ accepted opened, state.entered.handleRead log (.accepted connfd) accepted opened =
        some (state.entered, [.closeConnection connfd])
  | .exhausted => Recovers log state.entered ∧ state.acceptor = state.entered
  | .freed => Recovers log state.entered ∧ state.acceptor = state.entered ∧
      state.made = [.closeIdle state.entered.idleFd]
  | .retried => Recovers log state.entered ∧
      state.acceptor = { state.entered with idleFd := state.acceptor.idleFd } ∧
      state.made = [.closeIdle state.entered.idleFd, .acceptIdle]
  | .reclosed => Recovers log state.entered ∧
      state.acceptor = { state.entered with idleFd := state.acceptor.idleFd } ∧
      state.made = [.closeIdle state.entered.idleFd, .acceptIdle, .closeIdle state.acceptor.idleFd]
  | .killed | .destroying | .destroyed => True

structure Accounted (log : Log) (state : Listening) : Prop where
  owns : Owns state.slots state.owned
  ordered : state.arrived = state.served.map Prod.fst ++ state.backlog
  follows : state.Follows log

/-- The call cannot be made now, or it closes nothing that is not the acceptor's. -/
def Safely (log : Log) (call : Checked Listening) : Prop :=
  call = .error .disabled ∨ ∃ after, call = .ok after ∧ Accounted log after

variable {start state next : Listening} {log : Log} {callback : Bool}

/-- A call of `handleRead` that does nothing. -/
theorem handleRead_interrupted (log : Log) (acceptor : Acceptor) :
    acceptor.handleRead log (.failed EINTR) 0 0 = some (acceptor, []) := by
  have other : log.errnoAfter .kERROR EINTR ≠ EMFILE := by
    rw [log.errnoAfter_error]
    cases log.clearsErrno <;> decide
  simp [Acceptor.handleRead, Sockets.accept, Sockets.isExpected, other]

theorem destroy_safely (accounted : Accounted log state) : Safely log state.destroy := by
  unfold destroy
  split
  · rename_i phase
    have owns := accounted.owns
    simp only [owned, phase] at owns
    obtain ⟨slots, closed, owns⟩ := owns.close
    rw [closed]
    exact .inr ⟨_, rfl, owns, accounted.ordered, trivial⟩
  · exact .inl rfl

theorem refused_accounted (accounted : Accounted log state) (phase : state.phase = .waiting)
    (unchanged : state.entered = state.acceptor) (savedErrno : Errno) :
    Accounted log (state.refused log savedErrno) := by
  have owns := accounted.owns
  simp only [owned, phase] at owns
  unfold refused
  split
  · exact ⟨owns, accounted.ordered, trivial⟩
  · rename_i errno kept
    split
    · rename_i full
      refine ⟨owns, accounted.ordered, ⟨savedErrno, fun accepted opened => ?_⟩, unchanged.symm⟩
      simp [Acceptor.handleRead, kept, full]
    · exact accounted

theorem handleRead_safely (accounted : Accounted log state) (failure : Option Errno) :
    Safely log (state.handleRead log failure) := by
  unfold handleRead
  split
  · rename_i phase
    have owns := accounted.owns
    have ordered := accounted.ordered
    simp only [owned, phase] at owns
    have called : Accounted log { state with entered := state.acceptor, made := [] } := by
      refine ⟨by simpa only [owned, phase] using owns, ordered, ?_⟩
      simp only [Follows, phase]
      exact ⟨.failed EINTR, 0, 0, handleRead_interrupted log state.acceptor⟩
    dsimp only
    cases callback : state.acceptor.newConnectionCallback with
    | true =>
      simp only [↓reduceIte]
      split
      · rename_i connfd slots client backlog accepted
        obtain ⟨allocated, pending⟩ := acceptAs_ok accepted
        refine .inr ⟨_, rfl, ?_, ?_, ?_⟩
        · simpa only [owned, phase] using owns.allocate_user allocated
        · simpa [pending] using ordered
        · simp only [Follows, phase]
          exact ⟨.accepted connfd, 0, 0, by simp [Acceptor.handleRead, callback]⟩
      · exact .inr ⟨_, rfl, refused_accounted called phase rfl _⟩
    | false =>
      simp only [Bool.false_eq_true, ↓reduceIte]
      split
      · rename_i connfd slots client backlog accepted
        obtain ⟨allocated, pending⟩ := acceptAs_ok accepted
        refine .inr ⟨_, rfl, ?_, ?_, ?_⟩
        · exact owns.allocate allocated
        · simpa [pending] using ordered
        · exact ⟨rfl, fun accepted opened => by simp [Acceptor.handleRead, callback]⟩
      · exact .inr ⟨_, rfl, refused_accounted called phase rfl _⟩
  · exact .inl rfl

theorem proceed_safely (accounted : Accounted log state) (fails : Bool) :
    Safely log (state.proceed fails) := by
  have owns := accounted.owns
  have ordered := accounted.ordered
  have follows := accounted.follows
  simp only [owned] at owns
  simp only [Follows] at follows
  unfold proceed
  cases phase : state.phase with
  | waiting => exact .inl rfl
  | killed => exact .inl rfl
  | destroyed => exact .inl rfl
  | declined connfd =>
    simp only [phase] at owns follows ⊢
    obtain ⟨unchanged, calls⟩ := follows
    obtain ⟨slots, closed, owns⟩ := owns.close
    rw [closed]
    refine .inr ⟨_, rfl, owns, ordered, ?_⟩
    exact ⟨.accepted connfd, 0, 0, by rw [calls, unchanged]⟩
  | exhausted =>
    simp only [phase] at owns follows ⊢
    obtain ⟨recovers, unchanged⟩ := follows
    obtain ⟨slots, closed, owns⟩ := owns.close
    rw [closed]
    exact .inr ⟨_, rfl, owns, ordered, recovers, unchanged, by rw [unchanged]⟩
  | freed =>
    simp only [phase] at owns follows ⊢
    obtain ⟨recovers, unchanged, made⟩ := follows
    split
    · rename_i fd slots client backlog accepted
      obtain ⟨allocated, pending⟩ := acceptAs_ok accepted
      refine .inr ⟨_, rfl, owns.allocate allocated, ?_, recovers, ?_, ?_⟩
      · simpa [pending] using ordered
      · rw [unchanged]
      · rw [made]
        rfl
    · refine .inr ⟨_, rfl, owns.failed, ordered, recovers, ?_, ?_⟩
      · rw [unchanged]
      · rw [made]
        rfl
  | retried =>
    simp only [phase] at owns follows ⊢
    obtain ⟨recovers, unchanged, made⟩ := follows
    obtain ⟨slots, closed, owns⟩ := owns.close
    rw [closed]
    refine .inr ⟨_, rfl, owns, ordered, recovers, unchanged, ?_⟩
    rw [made]
    rfl
  | reclosed =>
    simp only [phase] at owns follows ⊢
    obtain ⟨⟨savedErrno, recovers⟩, unchanged, made⟩ := follows
    split
    · rename_i fd slots allocated
      refine .inr ⟨_, rfl, owns.allocate allocated, ordered, .failed savedErrno,
        state.acceptor.idleFd, fd, ?_⟩
      rw [recovers, made, unchanged]
      rfl
    · refine .inr ⟨_, rfl, owns.failed, ordered, .failed savedErrno, state.acceptor.idleFd, -1, ?_⟩
      rw [recovers, made, unchanged]
      rfl
  | destroying =>
    simp only [phase] at owns ⊢
    obtain ⟨slots, closed, owns⟩ := owns.close
    rw [closed]
    exact .inr ⟨_, rfl, owns, ordered, trivial⟩

theorem perform_safely (accounted : Accounted log state) {step : ListeningStep}
    (permitted : state.Permitted step) :
    Safely log (state.perform log step) := by
  obtain ⟨owns, ordered, follows⟩ := accounted
  cases step with
  | connects client => exact .inr ⟨_, rfl, owns, by simp [ordered], follows⟩
  | aborts =>
    simp only [perform]
    split
    · exact .inl rfl
    · rename_i client backlog pending
      exact .inr ⟨_, rfl, owns, by simp [ordered, pending], follows⟩
  | opens =>
    simp only [perform]
    split
    · exact .inr ⟨_, rfl, owns, ordered, follows⟩
    · rename_i allocated
      exact .inr ⟨_, rfl, owns.allocate_user allocated, ordered, follows⟩
  | closes fd => exact .inr ⟨_, rfl, owns.release_user permitted, ordered, follows⟩
  | handleRead failure => exact handleRead_safely ⟨owns, ordered, follows⟩ failure
  | destroy => exact destroy_safely ⟨owns, ordered, follows⟩
  | proceed fails => exact proceed_safely ⟨owns, ordered, follows⟩ fails

theorem construct_accounted (log : Log) (vacant : ∀ fd, ¬ slots.Holds .acceptor fd)
    (constructed : construct slots callback = some state) :
    Accounted log state ∧ state.phase = .waiting := by
  have owns : Owns slots [] := ⟨List.nodup_nil, fun fd => by simpa using vacant fd⟩
  obtain ⟨⟨listenFd, opened⟩, allocated, constructed⟩ := Option.bind_eq_some_iff.mp constructed
  have owns := owns.allocate allocated
  dsimp only at constructed
  split at constructed
  · rename_i allocated
    cases constructed
    exact ⟨⟨owns.allocate allocated, rfl, .failed EINTR, 0, 0, handleRead_interrupted log _⟩, rfl⟩
  · cases constructed
    exact ⟨⟨owns.failed, rfl, .failed EINTR, 0, 0, handleRead_interrupted log _⟩, rfl⟩

theorem step_accounted {step : ListeningStep} (accounted : Accounted log state)
    (stepped : (listening log).step state step next) : Accounted log next := by
  obtain ⟨permitted, performed⟩ := stepped
  rcases perform_safely accounted permitted with disabled | ⟨result, returned, kept⟩
  · cases performed.symm.trans disabled
  · cases Except.ok.inj (performed.symm.trans returned)
    exact kept

/-- Nobody else opens a descriptor while the acceptor gives its own up, and `/dev/null` can be
opened when there is one. -/
def Undisturbed (state : Listening) : ListeningStep → Prop
  | .opens => state.phase ≠ .freed ∧ state.phase ≠ .retried ∧ state.phase ≠ .reclosed
  | .proceed fails => state.phase = .reclosed → fails = false
  | _ => True

instance (state : Listening) : DecidablePred state.Undisturbed
  | .opens => inferInstanceAs (Decidable (_ ∧ _ ∧ _))
  | .proceed fails => inferInstanceAs (Decidable (state.phase = .reclosed → fails = false))
  | .connects _ | .aborts | .closes _ | .handleRead _ | .destroy => inferInstanceAs (Decidable True)

/-- The idle descriptor is there, or there is room for it. -/
def Provided (state : Listening) : Prop :=
  match state.phase with
  | .waiting | .declined _ | .exhausted | .killed => 0 ≤ state.acceptor.idleFd
  | .retried => 0 ≤ state.acceptor.idleFd ∨ none ∈ state.slots
  | .freed | .reclosed => none ∈ state.slots
  | .destroying | .destroyed => True

theorem closeOwn_provides (present : 0 ≤ fd ∨ none ∈ slots)
    (closed : closeOwn slots fd = .ok after) :
    none ∈ after := by
  cases fd with
  | ofNat index =>
    obtain ⟨held, same⟩ := guarded_eq_ok.mp closed
    cases same
    exact Slots.free_release held
  | negSucc value =>
    cases closed
    exact present.resolve_left (by omega)

theorem handleRead_provided {failure : Option Errno} (provided : state.Provided)
    (handled : state.handleRead log failure = .ok next) : next.Provided := by
  unfold handleRead at handled
  split at handled
  · rename_i phase
    simp only [Provided, phase] at provided
    dsimp only at handled
    split at handled
    · split at handled
      · cases handled
        simpa only [Provided, phase] using provided
      · cases handled
        exact provided
    · cases handled
      unfold refused
      split
      · exact provided
      · split
        · exact provided
        · simpa only [Provided, phase] using provided
  · cases handled

theorem proceed_provided {fails : Bool} (provided : state.Provided)
    (undisturbed : state.phase = .reclosed → fails = false)
    (proceeded : state.proceed fails = .ok next) :
    next.Provided := by
  unfold Provided at provided
  unfold proceed at proceeded
  cases phase : state.phase with
  | waiting | killed | destroyed =>
    simp only [phase] at proceeded
    cases proceeded
  | declined connfd =>
    simp only [phase] at provided proceeded
    obtain ⟨slots, closed, returned⟩ := bind_eq_ok.mp proceeded
    cases returned
    exact provided
  | exhausted =>
    simp only [phase] at provided proceeded
    obtain ⟨slots, closed, returned⟩ := bind_eq_ok.mp proceeded
    cases returned
    exact closeOwn_provides (.inl provided) closed
  | freed =>
    simp only [phase] at provided proceeded
    split at proceeded
    · cases proceeded
      exact .inl (Int.natCast_nonneg _)
    · cases proceeded
      exact .inr provided
  | retried =>
    simp only [phase] at provided proceeded
    obtain ⟨slots, closed, returned⟩ := bind_eq_ok.mp proceeded
    cases returned
    exact closeOwn_provides provided closed
  | reclosed =>
    cases undisturbed phase
    simp only [phase] at provided proceeded
    split at proceeded
    · cases proceeded
      exact Int.natCast_nonneg _
    · rename_i full
      cases allocated : state.slots.allocate Holder.acceptor with
      | none => exact absurd provided (Slots.allocate_eq_none.mp allocated)
      | some taken => exact absurd allocated (full taken.1 taken.2 rfl)
  | destroying =>
    simp only [phase] at proceeded
    obtain ⟨slots, closed, returned⟩ := bind_eq_ok.mp proceeded
    cases returned
    trivial

theorem perform_provided {step : ListeningStep} (provided : state.Provided)
    (undisturbed : state.Undisturbed step) (performed : state.perform log step = .ok next) :
    next.Provided := by
  cases step with
  | connects client =>
    cases performed
    exact provided
  | aborts =>
    simp only [perform] at performed
    split at performed
    · cases performed
    · cases performed
      exact provided
  | opens =>
    obtain ⟨notFreed, notRetried, notReclosed⟩ := undisturbed
    simp only [perform] at performed
    split at performed
    · cases performed
      exact provided
    · cases performed
      unfold Provided at provided ⊢
      cases phase : state.phase <;> simp_all
  | closes fd =>
    cases performed
    unfold Provided at provided ⊢
    cases phase : state.phase with
    | waiting | declined _ | exhausted | killed => simpa only [phase] using provided
    | retried =>
      simp only [phase] at provided
      exact provided.imp_right (Slots.Free.release · fd)
    | freed | reclosed =>
      simp only [phase] at provided
      exact Slots.Free.release provided fd
    | destroying | destroyed => trivial
  | handleRead failure => exact handleRead_provided provided performed
  | destroy =>
    simp only [perform, destroy] at performed
    split at performed
    · obtain ⟨slots, closed, returned⟩ := bind_eq_ok.mp performed
      cases returned
      trivial
    · cases performed
  | proceed fails => exact proceed_provided provided undisturbed performed

/-- The freed descriptor is enough to take a client out of the queue. -/
theorem proceed_drops (phase : state.phase = .freed) (provided : state.Provided)
    (pending : state.backlog = client :: others) :
    ∃ next, state.proceed false = .ok next ∧ next.served = state.served ++ [(client, .dropped)] ∧
      next.backlog = others := by
  simp only [Provided, phase] at provided
  obtain ⟨taken, allocated⟩ : ∃ taken, state.slots.allocate .acceptor = some taken := by
    apply Option.ne_none_iff_exists'.mp
    intro full
    exact Slots.allocate_eq_none.mp full provided
  simp [proceed, phase, acceptAs, allocated, pending]

end Listening

/-- Whatever other threads open and close between its calls, the acceptor holds exactly the
descriptors it still has to close, it never closes another's, no client is lost or served twice, and
each finished `handleRead` made the calls of `Acceptor.handleRead`. -/
theorem closes_own_descriptors (log : Log) (callback : Bool)
    (vacant : ∀ fd, ¬ slots.Holds .acceptor fd)
    (constructed : Listening.construct slots callback = some start)
    (steps : List ListeningStep) (state : Listening) (run : (listening log).Run start steps state) :
    (∀ fd : Nat, state.slots.Holds .acceptor fd ↔ (fd : Int) ∈ state.owned) ∧
    state.arrived = state.served.map Prod.fst ++ state.backlog ∧
    (state.phase = .waiting → ∃ answer accepted opened,
      state.entered.handleRead log answer accepted opened = some (state.acceptor, state.made)) ∧
    ∀ step, state.Permitted step → state.perform log step ≠ .error .danglingReference := by
  have accounted : Listening.Accounted log state :=
    run.invariant (fun _ => Listening.Accounted log)
      (Listening.construct_accounted log vacant constructed).1
      Listening.step_accounted
  refine ⟨accounted.owns.exactly, accounted.ordered, ?_, ?_⟩
  · intro phase
    simpa only [Listening.Follows, phase] using accounted.follows
  · intro step permitted closed
    rcases Listening.perform_safely accounted permitted with disabled | ⟨_, returned, _⟩
    · cases closed.symm.trans disabled
    · cases closed.symm.trans returned

/-- A process of four descriptors: another thread takes the descriptor that the acceptor frees. -/
theorem closes_own_descriptors_disturbed :
    ∃ start state : Listening, Listening.construct
      [some .user, none, none, none] true = some start ∧
      (listening ⟨.kDEBUG, some .async⟩).Run start
        [.opens, .connects 7, .handleRead none, .proceed false, .opens,
          .proceed false, .proceed false, .proceed false] state ∧
      state.arrived = state.served.map Prod.fst ++ state.backlog ∧ state.acceptor.idleFd = -1 := by
  have followed : (Machine.follow (Listening.perform ⟨.kDEBUG, some .async⟩)
      (fun state step => decide (state.Permitted step))
      ((Listening.construct [some .user, none, none, none] true).get rfl)
      [.opens, .connects 7, .handleRead none, .proceed false, .opens,
        .proceed false, .proceed false, .proceed false]).any
          (fun state => state.acceptor.idleFd = -1) = true := by
    decide
  obtain ⟨state, run, lost⟩ := Machine.Run.ofFollowAny (listening ⟨.kDEBUG, some .async⟩)
    (fun permitted performed => ⟨of_decide_eq_true permitted, performed⟩) followed
  have vacant : ∀ fd, ¬ Slots.Holds [some Holder.user, none, none, none] .acceptor fd := by
    intro fd held
    have member := List.mem_of_getElem? held
    simp at member
  exact ⟨_, state, rfl, run, (closes_own_descriptors _ true vacant rfl _ state run).2.1,
    of_decide_eq_true lost⟩

/-- If nobody takes the freed descriptor in between, the acceptor has its idle descriptor whenever
it waits, and each recovery takes the first pending client out of the queue. -/
theorem idle_restored (log : Log) (callback : Bool) (vacant : ∀ fd, ¬ slots.Holds .acceptor fd)
    (constructed : Listening.construct slots callback = some start)
    (room : 0 ≤ start.acceptor.idleFd) (steps : List ListeningStep) (state : Listening)
    (run : ((listening log).restrict Listening.Undisturbed).Run start steps state) :
    (state.phase = .waiting → ∃ fd : Nat, state.acceptor.idleFd = fd ∧
      state.slots.Holds .acceptor fd) ∧
    (state.phase = .freed → ∀ client backlog, state.backlog = client :: backlog →
      ∃ next, state.proceed false = .ok next ∧ next.served = state.served ++ [(client, .dropped)] ∧
        next.backlog = backlog) := by
  obtain ⟨accounted, provided⟩ : Listening.Accounted log state ∧ state.Provided := by
    refine run.invariant (fun _ state => Listening.Accounted log state ∧ state.Provided) ?_ ?_
    · obtain ⟨accounted, waiting⟩ := Listening.construct_accounted log vacant constructed
      exact ⟨accounted, by simpa only [Listening.Provided, waiting] using room⟩
    · rintro _ current step after ⟨accounted, provided⟩ ⟨undisturbed, stepped⟩
      exact ⟨Listening.step_accounted accounted stepped,
        Listening.perform_provided provided undisturbed stepped.2⟩
  constructor
  · intro phase
    simp only [Listening.Provided, phase] at provided
    obtain ⟨fd, same⟩ := Int.eq_ofNat_of_zero_le provided
    refine ⟨fd, same, (accounted.owns.exactly fd).mpr ?_⟩
    simp [Listening.owned, phase, same]
  · intro phase client backlog pending
    exact Listening.proceed_drops phase provided pending

/-- The process is full; the pending client is dropped and the acceptor has its descriptor again. -/
theorem idle_restored_full :
    ∃ start state : Listening, Listening.construct [some .user, none, none] true = some start ∧
      ((listening ⟨.kDEBUG, some .async⟩).restrict Listening.Undisturbed).Run start
        [.connects 7, .handleRead none, .proceed false, .proceed false, .proceed false,
          .proceed false] state ∧
      state.served = [(7, .dropped)] ∧
      ∃ fd : Nat, state.acceptor.idleFd = fd ∧ state.slots.Holds .acceptor fd := by
  have followed : (Machine.follow (Listening.perform ⟨.kDEBUG, some .async⟩)
      (fun state step => decide (state.Undisturbed step ∧ state.Permitted step))
      ((Listening.construct [some .user, none, none] true).get rfl)
      [.connects 7, .handleRead none, .proceed false, .proceed false, .proceed false,
        .proceed false]).any
        (fun state => state.phase = .waiting ∧ state.served = [(7, .dropped)]) = true := by
    decide
  obtain ⟨state, run, outcome⟩ := Machine.Run.ofFollowAny
    ((listening ⟨.kDEBUG, some .async⟩).restrict Listening.Undisturbed)
    (fun permitted performed =>
      ⟨(of_decide_eq_true permitted).1, (of_decide_eq_true permitted).2, performed⟩)
    followed
  obtain ⟨waiting, dropped⟩ := of_decide_eq_true outcome
  have vacant : ∀ fd, ¬ Slots.Holds [some Holder.user, none, none] .acceptor fd := by
    intro fd held
    have member := List.mem_of_getElem? held
    simp at member
  exact ⟨_, state, rfl, run, dropped,
    (idle_restored _ true vacant rfl (by decide) _ state run).1 waiting⟩

end FakeMuduo.Net.Acceptor
