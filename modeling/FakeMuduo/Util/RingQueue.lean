import FakeMuduo.Base.BoundedFifo
import FakeMuduo.Util.LogBufferQueue

namespace FakeMuduo.Util

open FakeMuduo.Base

theorem mod_wrap {index modulus : Nat} (bound : index < 2 * modulus) :
    index % modulus = if index < modulus then index else index - modulus := by
  split
  · rename_i small
    exact Nat.mod_eq_of_lt small
  · rename_i large
    rw [Nat.mod_eq_sub_mod (by omega), Nat.mod_eq_of_lt (by omega)]

namespace RingQueue

variable {SIZE : Nat}

/-- The pointers in the ring, oldest first; a null pointer may be among them. -/
structure Contains (ring : RingQueue SIZE) (elements : List (Option Pointer)) : Prop where
  bounded : elements.length ≤ SIZE
  reading : ring.readIndex < SIZE + 1
  writing : ring.writeIndex = (ring.readIndex + elements.length) % (SIZE + 1)
  slots : ∀ index < elements.length,
    elements[index]? = some (ring.logBuffers ((ring.readIndex + index) % (SIZE + 1)))

theorem new_contains : (new : RingQueue SIZE).Contains [] := by
  constructor
  · exact Nat.zero_le _
  · exact Nat.succ_pos _
  · exact (Nat.zero_mod _).symm
  · intro index inside
    cases inside

section Contains

variable {ring : RingQueue SIZE} {elements : List (Option Pointer)}

theorem Contains.writeIndex_le (contains : ring.Contains elements) : ring.writeIndex ≤ SIZE := by
  rw [contains.writing]
  exact Nat.le_of_lt_succ (Nat.mod_lt _ (Nat.succ_pos _))

/-- The slot `push` moves to is the read slot exactly when the ring is full. -/
theorem Contains.next_eq_read (contains : ring.Contains elements) :
    (ring.writeIndex + 1) % (SIZE + 1) = ring.readIndex ↔ elements.length = SIZE := by
  obtain ⟨bounded, reading, writing, _⟩ := contains
  rw [writing, Nat.mod_add_mod, mod_wrap (by omega)]
  split <;> omega

theorem Contains.write_eq_read (contains : ring.Contains elements) :
    ring.writeIndex = ring.readIndex ↔ elements = [] := by
  obtain ⟨bounded, reading, writing, _⟩ := contains
  rw [writing, mod_wrap (by omega), ← List.length_eq_zero_iff]
  split <;> omega

theorem Contains.push_full (contains : ring.Contains elements) (full : elements.length = SIZE)
    (logBuffer : Option Pointer) : ring.push logBuffer = (false, ring, logBuffer) := by
  simp only [push, if_pos (contains.next_eq_read.mpr full)]

theorem Contains.push_room (contains : ring.Contains elements) (room : elements.length ≠ SIZE)
    (logBuffer : Option Pointer) :
    ∃ after, ring.push logBuffer = (true, after, none) ∧
      after.Contains (elements ++ [logBuffer]) := by
  have vacant : ¬ (ring.writeIndex + 1) % (SIZE + 1) = ring.readIndex := by
    rw [contains.next_eq_read]
    exact room
  obtain ⟨bounded, reading, writing, slots⟩ := contains
  refine ⟨⟨Function.update ring.logBuffers ring.writeIndex logBuffer,
    (ring.writeIndex + 1) % (SIZE + 1), ring.readIndex⟩, by simp only [push, if_neg vacant], ?_⟩
  constructor
  · rw [List.length_append, List.length_singleton]
    omega
  · exact reading
  · simp only [writing, List.length_append, List.length_singleton, Nat.mod_add_mod, Nat.add_assoc]
  · intro index inside
    rw [List.length_append, List.length_singleton] at inside
    by_cases last : index = elements.length
    · subst last
      simp only [writing, Function.update_self, List.getElem?_concat_length]
    · have other : (ring.readIndex + index) % (SIZE + 1) ≠ ring.writeIndex := by
        rw [writing, mod_wrap (by omega), mod_wrap (by omega)]
        split <;> split <;> omega
      simp only [Function.update_of_ne other]
      rw [List.getElem?_append_left (by omega), slots index (by omega)]

theorem Contains.pop_empty (contains : ring.Contains []) (logBuffer : Option Pointer) :
    ring.pop logBuffer = (false, ring, logBuffer) := by
  simp only [pop, if_pos (contains.write_eq_read.mpr rfl)]

theorem Contains.pop_oldest {oldest : Option Pointer}
    (contains : ring.Contains (oldest :: elements)) (logBuffer : Option Pointer) :
    ∃ after, ring.pop logBuffer = (true, after, oldest) ∧ after.Contains elements := by
  have filled : ¬ ring.writeIndex = ring.readIndex := by
    rw [contains.write_eq_read]
    exact List.cons_ne_nil _ _
  obtain ⟨bounded, reading, writing, slots⟩ := contains
  rw [List.length_cons] at bounded
  have first := slots 0 (Nat.succ_pos _)
  rw [Nat.add_zero, Nat.mod_eq_of_lt reading, List.getElem?_cons_zero, Option.some.injEq] at first
  refine ⟨⟨Function.update ring.logBuffers ring.readIndex none, ring.writeIndex,
    (ring.readIndex + 1) % (SIZE + 1)⟩, by simp only [pop, if_neg filled, first], ?_⟩
  constructor
  · omega
  · exact Nat.mod_lt _ (Nat.succ_pos _)
  · simp only [writing, List.length_cons, Nat.mod_add_mod]
    congr 1
    omega
  · intro index inside
    have other : (ring.readIndex + 1 + index) % (SIZE + 1) ≠ ring.readIndex := by
      rw [mod_wrap (by omega)]
      split <;> omega
    have next := slots (index + 1) (Nat.succ_lt_succ inside)
    rw [List.getElem?_cons_succ, Nat.add_comm index 1, ← Nat.add_assoc] at next
    simp only [Nat.mod_add_mod, Function.update_of_ne other]
    exact next

theorem Contains.push_false_iff (contains : ring.Contains elements) (logBuffer : Option Pointer) :
    (ring.push logBuffer).1 = false ↔ elements.length = SIZE := by
  constructor
  · intro refused
    by_contra room
    obtain ⟨after, pushed, _⟩ := contains.push_room room logBuffer
    rw [pushed] at refused
    cases refused
  · intro full
    rw [contains.push_full full]

theorem Contains.pop_false_iff (contains : ring.Contains elements) (logBuffer : Option Pointer) :
    (ring.pop logBuffer).1 = false ↔ elements = [] := by
  constructor
  · intro refused
    cases elements with
    | nil => rfl
    | cons oldest elements =>
      obtain ⟨after, popped, _⟩ := contains.pop_oldest logBuffer
      rw [popped] at refused
      cases refused
  · rintro rfl
    rw [contains.pop_empty]

end Contains

open BoundedFifo (Call handedIn cameOut)

/-- What a call returns and what it leaves in the caller's pointer. -/
def perform (ring : RingQueue SIZE) : Call (Option Pointer) →
    (Bool × Option Pointer) × RingQueue SIZE
  | .push logBuffer =>
    let (returned, after, left) := ring.push logBuffer
    ((returned, left), after)
  | .pop logBuffer =>
    let (returned, after, left) := ring.pop logBuffer
    ((returned, left), after)

theorem Contains.perform {ring : RingQueue SIZE} {elements : List (Option Pointer)}
    (contains : ring.Contains elements) (call : Call (Option Pointer)) :
    (ring.perform call).1 = (BoundedFifo.perform SIZE none elements call).1 ∧
      (ring.perform call).2.Contains (BoundedFifo.perform SIZE none elements call).2 := by
  cases call with
  | push logBuffer =>
    by_cases full : elements.length = SIZE
    · rw [RingQueue.perform, contains.push_full full, BoundedFifo.perform, if_pos full]
      exact ⟨rfl, contains⟩
    · obtain ⟨after, pushed, kept⟩ := contains.push_room full logBuffer
      rw [RingQueue.perform, pushed, BoundedFifo.perform, if_neg full]
      exact ⟨rfl, kept⟩
  | pop logBuffer =>
    cases elements with
    | nil =>
      rw [RingQueue.perform, contains.pop_empty]
      exact ⟨rfl, contains⟩
    | cons oldest elements =>
      obtain ⟨after, popped, kept⟩ := contains.pop_oldest logBuffer
      rw [RingQueue.perform, popped]
      exact ⟨rfl, kept⟩

/-- However the indices wrap around, the ring is a list of at most `SIZE` pointers: calls are
answered as that list answers them, a refused one changes nothing, and what came out
is what was first handed in. -/
theorem refines_boundedFifo (calls : List (Call (Option Pointer))) :
    ∃ answers ring held,
      respond perform (new : RingQueue SIZE) calls = (answers, ring) ∧
      respond (BoundedFifo.perform SIZE none) [] calls = (answers, held) ∧
      ring.Contains held ∧ held.length ≤ SIZE ∧ ring.readIndex ≤ SIZE ∧ ring.writeIndex ≤ SIZE ∧
      (∀ logBuffer, ((ring.push logBuffer).1 = false ↔ held.length = SIZE) ∧
        ((ring.push logBuffer).1 = false → ring.push logBuffer = (false, ring, logBuffer)) ∧
        ((ring.pop logBuffer).1 = false ↔ held = []) ∧
        ((ring.pop logBuffer).1 = false → ring.pop logBuffer = (false, ring, logBuffer))) ∧
      cameOut calls answers ++ held = handedIn calls answers ∧
      ∀ buffer : Pointer,
        (cameOut calls answers).count (some buffer) ≤
          (handedIn calls answers).count (some buffer) := by
  obtain ⟨same, contains⟩ := respond_refines Contains Contains.perform (@new_contains SIZE) calls
  have conserved := @BoundedFifo.respond_conserves _ SIZE none [] calls
  rw [← same, List.nil_append] at conserved
  refine ⟨_, _, _, rfl, Prod.ext same.symm rfl, contains, contains.bounded,
    Nat.le_of_lt_succ contains.reading, contains.writeIndex_le, ?_, conserved, ?_⟩
  · intro logBuffer
    refine ⟨contains.push_false_iff logBuffer, ?_, contains.pop_false_iff logBuffer, ?_⟩
    · intro refused
      exact contains.push_full ((contains.push_false_iff logBuffer).mp refused) logBuffer
    · intro refused
      have empty := (contains.pop_false_iff logBuffer).mp refused
      rw [empty] at contains
      exact contains.pop_empty logBuffer
  · intro buffer
    rw [← conserved, List.count_append]
    exact Nat.le_add_right _ _

end RingQueue

end FakeMuduo.Util
