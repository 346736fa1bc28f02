import FakeMuduo.Util.AsyncLoggerOrder

/-! Buffers that are used again: the queue behaves as one whose buffers are all new, if each of
those is given the buffer that stands for it. -/

namespace FakeMuduo.Util.LogProducers

open FakeMuduo.Base

variable {Line : Type} {kSize : Nat} {uses : Nat → Nat} {dropped limit : Nat}
  {spec queue after : LogProducers Line} {thread : Nat}

def Progress.rename (uses : Nat → Nat) : Progress → Progress
  | .indexed => .indexed
  | .loaded buffer => .loaded (uses buffer)
  | .constructed buffer => .constructed (uses buffer)
  | .flagged buffer => .flagged (uses buffer)

def Switch.rename (uses : Nat → Nat) : Switch → Switch
  | .filled buffer => .filled (uses buffer)
  | .cleared => .cleared
  | .published buffer => .published (uses buffer)
  | .locked buffer => .locked (uses buffer)
  | .enqueued => .enqueued

def Phase.rename (uses : Nat → Nat) : Phase Line → Phase Line
  | .idle => .idle
  | .called entry => .called entry
  | .spinning entry => .spinning entry
  | .holding entry index progress => .holding entry index (progress.rename uses)
  | .switching switch => .switching (switch.rename uses)
  | .unlocking => .unlocking

def Write.rename (uses : Nat → Nat) (write : Write) : Write :=
  { write with buffer := uses write.buffer }

/-- The queue is the other one with its buffers renamed, from the buffer `dropped` on. The lines
that are read before `limit` are gone, and a flag may be set although the slot was not filled. -/
structure Renders (kSize : Nat) (uses : Nat → Nat) (dropped limit : Nat)
    (spec queue : LogProducers Line) : Prop where
  writeIndex : queue.writeIndex = spec.writeIndex
  current : queue.currentWriteBuffer = uses spec.currentWriteBuffer
  first : uses 0 = 0
  queued : dropped ≤ spec.logBuffers.length
  threads : ∀ thread, queue.threads thread = (spec.threads thread).rename uses
  logBuffers : queue.logBuffers = (spec.logBuffers.drop dropped).map uses
  pushed : queue.pushed = spec.pushed
  writes : queue.writes = spec.writes.map (Write.rename uses)
  switches : queue.switches.map Prod.snd = (spec.switches.map Prod.snd).map uses
  distinct : ∀ {buffer other}, dropped ≤ buffer → buffer < other → other ≤ spec.currentWriteBuffer →
    uses buffer ≠ uses other
  items : ∀ {buffer slot entry}, dropped ≤ buffer → limit ≤ place kSize buffer slot →
    spec.item buffer slot = some entry → queue.item (uses buffer) slot = some entry
  states : ∀ {buffer slot}, dropped ≤ buffer → buffer ≤ spec.currentWriteBuffer → slot < kSize →
    spec.state buffer slot ≠ 0 → queue.state (uses buffer) slot ≠ 0
  count : queue.state (uses spec.currentWriteBuffer) kSize =
    spec.state spec.currentWriteBuffer kSize
  counts : ∀ {buffer}, buffer ≠ uses spec.currentWriteBuffer → queue.state buffer kSize = 0

theorem initial_renders : Renders kSize id 0 0 (initial : LogProducers Line) initial where
  writeIndex := rfl
  current := rfl
  first := rfl
  queued := Nat.zero_le _
  threads := fun _ => rfl
  logBuffers := rfl
  pushed := rfl
  writes := rfl
  switches := rfl
  distinct := fun _ earlier _ same => Nat.ne_of_lt earlier same
  items := fun _ _ found => found
  states := fun _ _ _ set => set
  count := rfl
  counts := fun _ => rfl

/-- Two buffers in use that stand at the same place are the same. -/
theorem Renders.injective (renders : Renders kSize uses dropped limit spec queue)
    {buffer other : Nat} (live : dropped ≤ buffer) (known : buffer ≤ spec.currentWriteBuffer)
    (live' : dropped ≤ other) (known' : other ≤ spec.currentWriteBuffer)
    (same : uses buffer = uses other) : buffer = other := by
  rcases Nat.lt_trichotomy buffer other with earlier | equal | later
  · exact absurd same (renders.distinct live earlier known')
  · exact equal
  · exact absurd same.symm (renders.distinct live' later known)

theorem Renders.same_slot (renders : Renders kSize uses dropped limit spec queue)
    {buffer slot index : Nat} (live : dropped ≤ buffer) (known : buffer ≤ spec.currentWriteBuffer) :
    (uses buffer = uses spec.currentWriteBuffer ∧ slot = index) ↔
      (buffer = spec.currentWriteBuffer ∧ slot = index) := by
  constructor
  · rintro ⟨same, here⟩
    exact ⟨renders.injective live known (Nat.le_trans live known) (Nat.le_refl _) same, here⟩
  · rintro ⟨rfl, here⟩
    exact ⟨rfl, here⟩

theorem Renders.idle (renders : Renders kSize uses dropped limit spec queue)
    (idle : queue.threads thread = .idle) :
    spec.threads thread = .idle := by
  have renamed := renders.threads thread
  rw [idle] at renamed
  cases phase : spec.threads thread with
  | idle => rfl
  | called | spinning | holding | switching | unlocking =>
    rw [phase] at renamed
    cases renamed

theorem Renders.cleared (renders : Renders kSize uses dropped limit spec queue)
    (cleared : queue.threads thread = .switching .cleared) :
    spec.threads thread = .switching .cleared := by
  have renamed := renders.threads thread
  rw [cleared] at renamed
  cases phase : spec.threads thread with
  | idle | called | spinning | holding | unlocking =>
    rw [phase] at renamed
    cases renamed
  | switching switch =>
    rw [phase] at renamed
    cases switch with
    | cleared => rfl
    | filled | published | locked | enqueued => cases renamed

theorem Renders.threads_update (renders : Renders kSize uses dropped limit spec queue)
    (thread : Nat) (phase : Phase Line) (other : Nat) :
    Function.update queue.threads thread (phase.rename uses) other =
      (Function.update spec.threads thread phase other).rename uses := by
  by_cases same : other = thread
  · subst same
    rw [Function.update_self, Function.update_self]
  · rw [Function.update_of_ne same, Function.update_of_ne same]
    exact renders.threads other

/-- A thread moves, and the index and the spin lock change with it. -/
theorem Renders.move (renders : Renders kSize uses dropped limit spec queue) (thread : Nat)
    (phase : Phase Line) (writeIndex : Nat) (flag flag' : Bool) :
    Renders kSize uses dropped limit { spec.move thread phase with writeIndex, flag }
      { queue.move thread (phase.rename uses) with writeIndex, flag := flag' } :=
  { renders with
    writeIndex := rfl
    threads := renders.threads_update thread phase }

theorem Renders.push (renders : Renders kSize uses dropped limit spec queue) (line : Line) :
    Renders kSize uses dropped limit
      { spec.move thread (.called ⟨spec.pushed.length, line⟩) with pushed := spec.pushed ++ [line] }
      { queue.move thread (.called ⟨queue.pushed.length, line⟩) with
        pushed := queue.pushed ++ [line] } := by
  have moved := renders.threads_update thread (.called ⟨spec.pushed.length, line⟩)
  rw [renders.pushed]
  exact { renders with threads := moved, pushed := rfl }

theorem Renders.construct (renders : Renders kSize uses dropped limit spec queue)
    (orderly : Orderly kSize spec) (entry : Entry Line) (index : Nat) :
    Renders kSize uses dropped limit
      { (spec.setItem spec.currentWriteBuffer index entry).move thread
          (.holding entry index (.constructed spec.currentWriteBuffer)) with
        writes := spec.writes ++ [⟨entry.call, spec.currentWriteBuffer, index⟩] }
      { (queue.setItem (uses spec.currentWriteBuffer) index entry).move thread
          (.holding entry index (.constructed (uses spec.currentWriteBuffer))) with
        writes := queue.writes ++ [⟨entry.call, uses spec.currentWriteBuffer, index⟩] } := by
  obtain ⟨_, _, stored⟩ := orderly
  have real := queue.state_setItem (uses spec.currentWriteBuffer) index entry
  have ideal := spec.state_setItem spec.currentWriteBuffer index entry
  refine { renders with
    threads := renders.threads_update thread
      (.holding entry index (.constructed spec.currentWriteBuffer))
    writes := ?_, items := ?_, states := ?_, count := ?_, counts := ?_ }
  · rw [List.map_append, ← renders.writes]
    rfl
  · intro buffer slot entry' live late found
    refine (queue.item_setItem _ index entry (uses buffer) slot).trans ?_
    have there : _ = some entry' := (spec.item_setItem _ index entry buffer slot).symm.trans found
    by_cases target : buffer = spec.currentWriteBuffer ∧ slot = index
    · rw [if_pos target] at there
      rw [if_pos ⟨congrArg uses target.1, target.2⟩, there]
    · rw [if_neg target] at there
      rw [if_neg ((renders.same_slot live (stored.places there).1).not.mpr target)]
      exact renders.items live late there
  · intro buffer slot live known inside set
    refine ne_of_eq_of_ne (real _ _) (renders.states live known inside ?_)
    exact ne_of_eq_of_ne (ideal _ _).symm set
  · exact (real _ _).trans (renders.count.trans (ideal _ _).symm)
  · intro buffer other
    exact (real _ _).trans (renders.counts other)

/-- A state of a slot of the write buffer, or its count, is set. -/
theorem Renders.setState (renders : Renders kSize uses dropped limit spec queue) (thread : Nat)
    (phase : Phase Line) (index value : Nat) (set : index < kSize → value ≠ 0) :
    Renders kSize uses dropped limit
      ((spec.setState spec.currentWriteBuffer index value).move thread phase)
      ((queue.setState (uses spec.currentWriteBuffer) index value).move thread
        (phase.rename uses)) := by
  have real := queue.state_setState (uses spec.currentWriteBuffer) index value
  have ideal := spec.state_setState spec.currentWriteBuffer index value
  refine { renders with
    threads := renders.threads_update thread phase, items := ?_, states := ?_,
    count := ?_, counts := ?_ }
  · intro buffer slot entry live late found
    exact (queue.item_setState _ _ _ _ _).trans
      (renders.items live late ((spec.item_setState _ _ _ _ _).symm.trans found))
  · intro buffer slot live known inside nonzero
    refine ne_of_eq_of_ne (real _ _) ?_
    have there : _ ≠ 0 := ne_of_eq_of_ne (ideal buffer slot).symm nonzero
    by_cases target : buffer = spec.currentWriteBuffer ∧ slot = index
    · rw [if_pos ⟨congrArg uses target.1, target.2⟩]
      exact set (target.2 ▸ inside)
    · rw [if_neg target] at there
      rw [if_neg ((renders.same_slot live known).not.mpr target)]
      exact renders.states live known inside there
  · refine (real _ _).trans (Eq.trans ?_ (ideal _ _).symm)
    by_cases target : kSize = index
    · rw [if_pos ⟨rfl, target⟩, if_pos ⟨rfl, target⟩]
    · rw [if_neg (fun same => target same.2), if_neg (fun same => target same.2)]
      exact renders.count
  · intro buffer other
    refine (real _ _).trans ?_
    rw [if_neg (fun same => other same.1)]
    exact renders.counts other

theorem Renders.enqueue (renders : Renders kSize uses dropped limit spec queue) (buffer : Nat) :
    Renders kSize uses dropped limit
      { spec.move thread (.switching .enqueued) with logBuffers := spec.logBuffers ++ [buffer] }
      { queue.move thread (.switching .enqueued) with
        logBuffers := queue.logBuffers ++ [uses buffer] } := by
  refine { renders with
    queued := List.length_append ▸ Nat.le_succ_of_le renders.queued
    threads := renders.threads_update thread (.switching .enqueued)
    logBuffers := ?_ }
  rw [List.drop_append_of_le_length renders.queued, List.map_append, ← renders.logBuffers]
  rfl

theorem Phase.rename_neutral {phase : Phase Line} (neutral : phase.IsNeutral) :
    phase.rename uses = phase := by
  cases phase with
  | idle | called entry | spinning entry | unlocking => rfl
  | holding entry index progress => cases neutral
  | switching switch => cases neutral

/-- The next write buffer is one that stands for none of those in use. -/
theorem Renders.publish (renders : Renders kSize uses dropped limit spec queue)
    (orderly : Orderly kSize spec) (delivers : Delivers kSize spec) (switched : Switched spec)
    (settled : Settled kSize spec) (switching : spec.threads thread = .switching .cleared)
    {next : Nat} {buffers : Nat → Buffer Line}
    (apart : ∀ buffer, dropped ≤ buffer → buffer ≤ spec.currentWriteBuffer → uses buffer ≠ next)
    (kept : ∀ buffer, buffer ≠ next → buffers buffer = queue.buffers buffer)
    (reset : (buffers next).writeStates kSize = 0) :
    Renders kSize (Function.update uses (spec.currentWriteBuffer + 1) next) dropped limit
      { spec.move thread (.switching (.published (spec.currentWriteBuffer + 1))) with
        currentWriteBuffer := spec.currentWriteBuffer + 1
        buffers := Function.update spec.buffers (spec.currentWriteBuffer + 1) .new
        switches := spec.switches ++ [(thread, spec.currentWriteBuffer + 1)] }
      { queue.move thread (.switching (.published next)) with
        currentWriteBuffer := next
        buffers
        switches := queue.switches ++ [(thread, next)] } := by
  have newest : Function.update uses (spec.currentWriteBuffer + 1) next
      (spec.currentWriteBuffer + 1) = next :=
    Function.update_self _ _ _
  have agree : ∀ buffer, buffer ≤ spec.currentWriteBuffer →
      Function.update uses (spec.currentWriteBuffer + 1) next buffer = uses buffer :=
    fun buffer known => Function.update_of_ne (by omega) _ _
  generalize Function.update uses (spec.currentWriteBuffer + 1) next = renamed at newest agree ⊢
  obtain ⟨count, queued, _, short⟩ := orderly.queued
  refine {
    writeIndex := renders.writeIndex
    current := newest.symm
    first := (agree 0 (Nat.zero_le _)).trans renders.first
    queued := renders.queued
    threads := ?_, logBuffers := ?_
    pushed := renders.pushed
    writes := ?_, switches := ?_, distinct := ?_, items := ?_, states := ?_,
    count := ?_, counts := ?_ }
  · intro other
    by_cases same : other = thread
    · subst same
      rw [threads_move, threads_move, Function.update_self, Function.update_self, Phase.rename,
        Switch.rename, newest]
    · have neutral := orderly.neutral_of_switching switching same
      rw [threads_move, threads_move, Function.update_of_ne same, Function.update_of_ne same,
        renders.threads, Phase.rename_neutral neutral, Phase.rename_neutral neutral]
  · refine renders.logBuffers.trans (List.map_congr_left ?_)
    intro buffer member
    have queuedThere := List.mem_of_mem_drop member
    rw [queued, List.mem_range] at queuedThere
    exact (agree buffer (by omega)).symm
  · refine renders.writes.trans (List.map_congr_left ?_)
    intro write member
    obtain ⟨entry, found⟩ := Option.ne_none_iff_exists'.mp (delivers.written write member).2
    obtain ⟨_, _, stored⟩ := orderly
    rw [Write.rename, Write.rename, agree write.buffer (stored.places found).1]
  · rw [List.map_append, List.map_append, List.map_append, renders.switches]
    congr 1
    · refine List.map_congr_left ?_
      intro buffer member
      rw [switched, List.mem_range'_1] at member
      exact (agree buffer (by omega)).symm
    · exact congrArg (fun buffer => [buffer]) newest.symm
  · intro buffer other live earlier known
    rw [agree buffer (by change other ≤ spec.currentWriteBuffer + 1 at known; omega)]
    rcases Nat.lt_or_eq_of_le known with before | rfl
    · rw [agree other (Nat.le_of_lt_succ before)]
      exact renders.distinct live earlier (Nat.le_of_lt_succ before)
    · change uses buffer ≠ renamed (spec.currentWriteBuffer + 1)
      rw [newest]
      exact apart buffer live (Nat.le_of_lt_succ earlier)
  · intro buffer slot entry live late found
    by_cases same : buffer = spec.currentWriteBuffer + 1
    · subst same
      simp [item, Buffer.new] at found
    · have before : spec.item buffer slot = some entry := by simpa [item, same] using found
      obtain ⟨_, _, stored⟩ := orderly
      have known := (stored.places before).1
      change ((buffers _).items slot) = some entry
      rw [agree buffer known, kept _ (apart buffer live known)]
      exact renders.items live late before
  · intro buffer slot live known inside set
    by_cases same : buffer = spec.currentWriteBuffer + 1
    · subst same
      simp [state, Buffer.new] at set
    · have before : spec.state buffer slot ≠ 0 := by simpa [state, same] using set
      have earlier : buffer ≤ spec.currentWriteBuffer := by
        change buffer ≤ spec.currentWriteBuffer + 1 at known
        omega
      change (buffers _).writeStates slot ≠ 0
      rw [agree buffer earlier, kept _ (apart buffer live earlier)]
      exact renders.states live earlier inside before
  · change (buffers (renamed (spec.currentWriteBuffer + 1))).writeStates kSize = _
    rw [newest, reset]
    simp [state, Buffer.new]
  · intro buffer other
    change buffer ≠ renamed (spec.currentWriteBuffer + 1) at other
    rw [newest] at other
    change (buffers buffer).writeStates kSize = 0
    rw [kept buffer other]
    by_cases same : buffer = uses spec.currentWriteBuffer
    · rw [same]
      exact renders.count.trans (settled.cleared switching)
    · exact renders.counts same

theorem Renders.fill (renders : Renders kSize uses dropped limit spec queue)
    (orderly : Orderly kSize spec) {entry : Entry Line} {index : Nat} {progress : Progress}
    (holding : spec.threads thread = .holding entry index progress) :
    Renders kSize uses dropped limit (spec.fill kSize thread entry index progress)
      (queue.fill kSize thread entry index (progress.rename uses)) := by
  obtain ⟨finished, allocated, stored⟩ := id orderly
  obtain ⟨inside, _, _, isIn⟩ := allocated.held holding
  cases progress with
  | indexed =>
    have moved := renders.move thread (.holding entry index (.loaded spec.currentWriteBuffer))
      spec.writeIndex spec.flag
      queue.flag
    rw [Progress.rename, LogProducers.fill, LogProducers.fill, renders.current]
    exact { moved with writeIndex := renders.writeIndex }
  | loaded buffer =>
    cases isIn
    exact renders.construct orderly entry index
  | constructed buffer =>
    cases isIn
    exact renders.setState thread (.holding entry index (.flagged spec.currentWriteBuffer)) index 1
      (fun _ => Nat.one_ne_zero)
  | flagged buffer =>
    cases isIn
    have counted :=
        renders.setState thread (if spec.state spec.currentWriteBuffer kSize + 1 = kSize then
        .switching (.filled spec.currentWriteBuffer) else .idle)
      kSize (spec.state spec.currentWriteBuffer kSize + 1) (fun _ => Nat.succ_ne_zero _)
    have same : (queue.buffers (uses spec.currentWriteBuffer)).writeStates kSize =
        spec.state spec.currentWriteBuffer kSize := renders.count
    rw [apply_ite (Phase.rename uses)] at counted
    simp only [Progress.rename, LogProducers.fill, same]
    exact counted

theorem fill_current (thread : Nat) (entry : Entry Line) (index : Nat) (progress : Progress) :
    (spec.fill kSize thread entry index progress).currentWriteBuffer = spec.currentWriteBuffer := by
  cases progress <;> rfl

theorem fill_pushed (thread : Nat) (entry : Entry Line) (index : Nat) (progress : Progress) :
    (spec.fill kSize thread entry index progress).pushed = spec.pushed := by
  cases progress <;> rfl

/-- What a thread does inside `push`, but for the choice of the next write buffer, it
does in the other queue too. -/
theorem Renders.advance (renders : Renders kSize uses dropped limit spec queue)
    (orderly : Orderly kSize spec) (settled : Settled kSize spec)
    (uncleared : spec.threads thread ≠ .switching .cleared)
    (performed : queue.advance kSize thread (queue.threads thread) = .ok after) :
    ∃ spec', Effect kSize spec thread spec' ∧ Renders kSize uses dropped limit spec' after ∧
      spec'.currentWriteBuffer = spec.currentWriteBuffer ∧ spec'.pushed = spec.pushed := by
  rw [renders.threads thread] at performed
  cases phase : spec.threads thread with
  | idle =>
    rw [phase] at performed
    cases performed
  | called entry =>
    rw [phase] at performed
    by_cases opened : queue.writeIndex < kSize
    · simp only [Phase.rename, LogProducers.advance, opened, if_true] at performed
      cases performed
      rw [renders.writeIndex] at opened ⊢
      exact ⟨_, .take phase opened, renders.move thread _ _ _ _, rfl, rfl⟩
    · simp only [Phase.rename, LogProducers.advance, opened, if_false] at performed
      cases performed
      rw [renders.writeIndex] at opened ⊢
      exact ⟨_, .overshoot phase (Nat.not_lt.mp opened), renders.move thread _ _ _ _, rfl, rfl⟩
  | spinning entry =>
    rw [phase] at performed
    by_cases closed : kSize ≤ queue.writeIndex
    · simp only [Phase.rename, LogProducers.advance, closed, if_true] at performed
      cases performed
      exact ⟨spec, .spin, renders, rfl, rfl⟩
    · simp only [Phase.rename, LogProducers.advance, closed, if_false] at performed
      cases performed
      have moved := renders.move thread (.called entry) spec.writeIndex spec.flag queue.flag
      exact ⟨_, .retry phase, { moved with writeIndex := renders.writeIndex }, rfl, rfl⟩
  | holding entry index progress =>
    rw [phase] at performed
    cases performed
    exact ⟨_, .fill phase, renders.fill orderly phase, fill_current .., fill_pushed ..⟩
  | unlocking =>
    rw [phase] at performed
    cases performed
    have moved := renders.move thread .idle spec.writeIndex false false
    exact ⟨_, .unlock phase, { moved with writeIndex := renders.writeIndex }, rfl, rfl⟩
  | switching switch =>
    rw [phase] at performed
    cases switch with
    | filled buffer =>
      cases performed
      refine ⟨_, .clear phase, ?_, rfl, rfl⟩
      obtain rfl := settled.filled phase
      exact renders.setState thread (.switching .cleared) kSize 0
        (fun impossible => absurd impossible (Nat.lt_irrefl _))
    | cleared => exact absurd phase uncleared
    | published buffer =>
      simp only [Phase.rename, Switch.rename, LogProducers.advance, LogProducers.setupNext]
        at performed
      split at performed
      · cases performed
      · cases performed
        have moved := renders.move thread (.switching (.locked buffer)) spec.writeIndex true true
        exact ⟨_, .lock phase, { moved with writeIndex := renders.writeIndex }, rfl, rfl⟩
    | locked buffer =>
      cases performed
      exact ⟨_, .enqueue phase, renders.enqueue buffer, rfl, rfl⟩
    | enqueued =>
      cases performed
      have moved := renders.move thread .unlocking 0 spec.flag queue.flag
      exact ⟨_, .restart phase, moved, rfl, rfl⟩

/-- The next line is moved out, and something is left of it. -/
theorem Renders.moveOut {slot : Nat}
    (renders : Renders kSize uses dropped (place kSize dropped slot) spec queue)
    (orderly : Orderly kSize spec) (left : Entry Line) :
    Renders kSize uses dropped (place kSize dropped slot + 1) spec
      (queue.setItem (uses dropped) slot left) := by
  obtain ⟨_, _, stored⟩ := orderly
  have states := queue.state_setItem (uses dropped) slot left
  refine { renders with items := ?_, states := ?_, count := ?_, counts := ?_ }
  · intro buffer slot' entry live late found
    refine (queue.item_setItem _ _ _ _ _).trans ?_
    rw [if_neg ?_]
    · exact renders.items live (Nat.le_of_succ_le late) found
    · rintro ⟨same, rfl⟩
      have known := (stored.places found).1
      obtain rfl := renders.injective live known (Nat.le_refl _) (Nat.le_trans live known) same
      exact Nat.lt_irrefl _ late
  · intro buffer slot' live known inside set
    exact ne_of_eq_of_ne (states _ _) (renders.states live known inside set)
  · exact (states _ _).trans renders.count
  · intro buffer other
    exact (states _ _).trans (renders.counts other)

/-- The oldest buffer leaves the queue. -/
theorem Renders.drop (renders : Renders kSize uses dropped limit spec queue) {buffer : Nat}
    {rest : List Nat} (queued : queue.logBuffers = buffer :: rest)
    (some : dropped < spec.logBuffers.length) :
    Renders kSize uses (dropped + 1) limit spec { queue with logBuffers := rest } := by
  refine { renders with
    queued := some
    logBuffers := ?_
    distinct := fun live => renders.distinct (Nat.le_of_succ_le live)
    items := fun live => renders.items (Nat.le_of_succ_le live)
    states := fun live => renders.states (Nat.le_of_succ_le live) }
  have shorter := congrArg List.tail (queued.symm.trans renders.logBuffers)
  rwa [List.tail_cons, ← List.map_tail, List.tail_drop] at shorter

/-- A slot of the write buffer that was filled as often as the buffer was set up holds
a line of now. -/
theorem Renders.filled (renders : Renders kSize uses dropped limit spec queue)
    (orderly : Orderly kSize spec) (delivers : Delivers kSize spec)
    (switched : Switched spec) {slot : Nat}
    (often : (0 :: queue.switches.map Prod.snd).count (uses spec.currentWriteBuffer) ≤
      queue.writes.countP fun write =>
        decide (write.buffer = uses spec.currentWriteBuffer ∧ write.slot = slot)) :
    spec.item spec.currentWriteBuffer slot ≠ none := by
  intro empty
  obtain ⟨_, _, stored⟩ := orderly
  let earlier := (List.range spec.currentWriteBuffer).filter fun buffer =>
    uses buffer == uses spec.currentWriteBuffer
  let filled := spec.writes.filter fun write => uses write.buffer = uses spec.currentWriteBuffer ∧
    write.slot = slot
  have setups : (0 :: queue.switches.map Prod.snd).count (uses spec.currentWriteBuffer) =
      earlier.length + 1 := by
    have all : (0 :: queue.switches.map Prod.snd) =
        (List.range (spec.currentWriteBuffer + 1)).map uses := by
      rw [renders.switches, switched, ← renders.first, ← List.map_cons, List.range_eq_range',
        List.range'_succ]
    rw [all, List.range_succ, List.map_append, List.count_append, List.map_singleton,
      List.count_singleton_self, List.count, List.countP_map, List.countP_eq_length_filter]
    rfl
  have fills : queue.writes.countP (fun write =>
      decide (write.buffer = uses spec.currentWriteBuffer ∧ write.slot = slot)) =
        filled.length := by
    rw [renders.writes, List.countP_map, List.countP_eq_length_filter]
    rfl
  have distinct : (filled.map Write.buffer).Nodup := by
    have pairs := delivers.distinct
    rw [List.Nodup, List.pairwise_map] at pairs ⊢
    refine (pairs.filter _).imp_of_mem ?_
    intro write other here there different same
    have slots := (of_decide_eq_true (List.mem_filter.mp here).2).2
    have slots' := (of_decide_eq_true (List.mem_filter.mp there).2).2
    exact different (Prod.ext same (slots.trans slots'.symm))
  have subset : filled.map Write.buffer ⊆ earlier := by
    intro buffer member
    obtain ⟨write, inFilled, rfl⟩ := List.mem_map.mp member
    obtain ⟨written, here⟩ := List.mem_filter.mp inFilled
    obtain ⟨same, rfl⟩ := of_decide_eq_true here
    obtain ⟨entry, found⟩ := Option.ne_none_iff_exists'.mp (delivers.written write written).2
    refine List.mem_filter.mpr ⟨List.mem_range.mpr ?_, beq_iff_eq.mpr same⟩
    refine Nat.lt_of_le_of_ne (stored.places found).1 ?_
    intro newest
    rw [newest, empty] at found
    cases found
  have short := (distinct.subperm subset).length_le
  rw [List.length_map] at short
  rw [setups, fills] at often
  omega

end FakeMuduo.Util.LogProducers
