import FakeMuduo.Http.HttpContext
import FakeMuduo.Net.BufferInvariant
import Mathlib.Computability.StateTransition

/-! Parsing on the bytes received, line by line: what the parser's loop computes, without
the buffer and the time of arrival. -/

namespace FakeMuduo.Http.HttpContext

open FakeMuduo.Base FakeMuduo.Net StateTransition

/-- The context without the time of arrival. -/
def untimed (context : HttpContext) : HttpContext :=
  { context with request := context.request.setReceivedTime 0 }

/-- What one round of the loop does with the first line. -/
def lineStep (reading : HttpContext × Text) : Option (HttpContext × Text) :=
  match search Buffer.kCRLF reading.2 with
  | none => none
  | some crlf =>
    match reading.1.state with
    | .kParseRequestLine =>
      let processed := processRequestLine reading.1.request (reading.2.take crlf)
      if processed.1 then some (⟨.kParseHeaders, processed.2⟩, reading.2.drop (crlf + 2)) else none
    | .kParseHeaders =>
      match startingAt 58 (reading.2.take crlf) with
      | _ :: rest =>
        let field := upTo 58 (reading.2.take crlf)
        some ({ reading.1 with request := reading.1.request.addHeader field rest },
          reading.2.drop (crlf + 2))
      | [] => some ({ reading.1 with state := .kAllDone }, reading.2.drop (crlf + 2))
    | .kParseBody | .kAllDone => none

/-- The first line is a request line that `processRequestLine` does not accept. -/
def Rejects (context : HttpContext) (bytes : Text) : Prop :=
  context.state = .kParseRequestLine ∧ ∃ crlf, search Buffer.kCRLF bytes = some crlf ∧
    (processRequestLine context.request (bytes.take crlf)).1 = false

def IsOpen (context : HttpContext) : Prop :=
  context.state = .kParseRequestLine ∨ context.state = .kParseHeaders

theorem search_crlf_bound {bytes : Text} {crlf : Nat}
    (found : search Buffer.kCRLF bytes = some crlf) :
    crlf + 2 ≤ bytes.length := by
  rcases search_bound found with bound | empty
  · exact bound
  · cases empty

section Append

variable {context after : HttpContext} {bytes rest : Text}

/-- Bytes that arrive later do not change what is done with a complete line. -/
theorem lineStep_append (step : lineStep (context, bytes) = some (after, rest)) (more : Text) :
    lineStep (context, bytes ++ more) = some (after, rest ++ more) := by
  unfold lineStep at step ⊢
  rcases found : search Buffer.kCRLF bytes with _ | crlf
  · simp [found] at step
  · have bound := search_crlf_bound found
    have line : (bytes ++ more).take crlf = bytes.take crlf :=
      List.take_append_of_le_length (by omega)
    have left : (bytes ++ more).drop (crlf + 2) = bytes.drop (crlf + 2) ++ more :=
      List.drop_append_of_le_length bound
    simp only [found] at step
    simp only [search_append bytes more found, line, left]
    rcases state : context.state with _ | _ | _ | _
    · simp only [state] at step ⊢
      split at step
      · rename_i accepted
        rw [if_pos accepted]
        cases step
        rfl
      · cases step
    · simp only [state] at step ⊢
      split at step <;> cases step <;> rfl
    · simp [state] at step
    · simp [state] at step

theorem Reaches.append (reached : Reaches lineStep (context, bytes) (after, rest)) (more : Text) :
    Reaches lineStep (context, bytes ++ more) (after, rest ++ more) := by
  refine Relation.ReflTransGen.lift (fun reading : HttpContext × Text =>
    (reading.1, reading.2 ++ more))
    ?_ _ _ reached
  rintro ⟨first, text⟩ ⟨second, left⟩ step
  exact lineStep_append step more

theorem Rejects.append (rejects : Rejects context bytes) (more : Text) :
    Rejects context (bytes ++ more) := by
  obtain ⟨state, crlf, found, refused⟩ := rejects
  have bound := search_crlf_bound found
  refine ⟨state, crlf, search_append bytes more found, ?_⟩
  rw [List.take_append_of_le_length (by omega)]
  exact refused

theorem Rejects.lineStep (rejects : Rejects context bytes) : lineStep (context, bytes) = none := by
  obtain ⟨state, crlf, found, refused⟩ := rejects
  simp [HttpContext.lineStep, found, state, refused]

theorem lineStep_state (step : lineStep (context, bytes) = some (after, rest)) :
    IsOpen context ∧ (after.state = .kParseHeaders ∨ after.state = .kAllDone) := by
  unfold lineStep at step
  split at step
  · cases step
  · split at step
    · rename_i state
      dsimp only at step
      split at step
      · cases step
        exact ⟨.inl state, .inl rfl⟩
      · cases step
    · rename_i state
      split at step
      · cases step
        exact ⟨.inr state, .inl state⟩
      · cases step
        exact ⟨.inr state, .inr rfl⟩
    · cases step
    · cases step

theorem lineStep_allDone (done : context.state = .kAllDone) : lineStep (context, bytes) = none := by
  unfold lineStep
  split
  · rfl
  · simp only [done]

theorem lineStep_no_line (absent : search Buffer.kCRLF bytes = none) :
    lineStep (context, bytes) = none := by
  simp [lineStep, absent]

/-- A context that waits for its request line has taken no step. -/
theorem Reaches.requestLine (reached : Reaches lineStep (context, bytes) (after, rest))
    (waits : after.state = .kParseRequestLine) : after = context ∧ rest = bytes := by
  rcases Relation.ReflTransGen.cases_tail reached with same | ⟨⟨before, text⟩, _, step⟩
  · cases same
    exact ⟨rfl, rfl⟩
  · rcases (lineStep_state step).2 with headers | done
    · rw [waits] at headers
      cases headers
    · rw [waits] at done
      cases done

theorem lineStep_suffix (step : lineStep (context, bytes) = some (after, rest)) :
    rest <:+ bytes := by
  unfold lineStep at step
  split at step
  · cases step
  · split at step
    · dsimp only at step
      split at step
      · cases step
        exact List.drop_suffix _ _
      · cases step
    · split at step <;> cases step <;> exact List.drop_suffix _ _
    · cases step
    · cases step

theorem Reaches.suffix (reached : Reaches lineStep (context, bytes) (after, rest)) :
    rest <:+ bytes := by
  generalize last : (after, rest) = reading at reached
  induction reached generalizing after rest with
  | refl =>
    cases last
    exact List.suffix_rfl
  | tail _ step ih =>
    subst last
    exact (lineStep_suffix step).trans (ih rfl)

theorem Reaches.isOpen (reached : Reaches lineStep (context, bytes) (after, rest))
    (start : IsOpen context) :
    IsOpen after ∨ after.state = .kAllDone := by
  rcases Relation.ReflTransGen.cases_tail reached with same | ⟨⟨before, text⟩, _, step⟩
  · cases same
    exact .inl start
  · exact (lineStep_state step).2.imp .inr id

end Append

section Time

theorem processVersion_timed (request : HttpRequest) (text : Text) (time : Int) :
    processVersion (request.setReceivedTime time) text =
      ((processVersion request text).1, (processVersion request text).2.setReceivedTime time) := by
  unfold processVersion
  split
  · split
    · rfl
    · split
      · rfl
      · split <;> rfl
  · rfl

theorem processTarget_timed (request : HttpRequest) (target : Text) (time : Int) :
    processTarget (request.setReceivedTime time) target =
      (processTarget request target).setReceivedTime time := by
  unfold processTarget
  dsimp only
  split <;> rfl

theorem processRequestLine_timed (request : HttpRequest) (line : Text) (time : Int) :
    processRequestLine (request.setReceivedTime time) line =
      ((processRequestLine request line).1,
        (processRequestLine request line).2.setReceivedTime time) := by
  unfold processRequestLine
  rcases startingAt 32 line with _ | ⟨_, rest⟩
  · rfl
  · dsimp only
    rw [show (request.setReceivedTime time).setMethod (upTo 32 line) =
      ((request.setMethod (upTo 32 line)).1,
        (request.setMethod (upTo 32 line)).2.setReceivedTime time) from rfl]
    rcases request.setMethod (upTo 32 line) with ⟨_ | _, method⟩
    · rfl
    · rcases startingAt 32 rest with _ | ⟨_, protocol⟩
      · rfl
      · dsimp only
        rw [if_pos rfl, if_pos rfl, processTarget_timed, processVersion_timed]

theorem Rejects.of_untimed {context : HttpContext} {bytes : Text}
    (rejects : Rejects (untimed context) bytes) :
    Rejects context bytes := by
  obtain ⟨state, crlf, found, refused⟩ := rejects
  rw [untimed, processRequestLine_timed] at refused
  exact ⟨state, crlf, found, refused⟩

theorem Rejects.untimed {context : HttpContext} {bytes : Text} (rejects : Rejects context bytes) :
    Rejects (untimed context) bytes := by
  obtain ⟨state, crlf, found, refused⟩ := rejects
  refine ⟨state, crlf, found, ?_⟩
  rw [HttpContext.untimed, processRequestLine_timed]
  exact refused

end Time

section Loop

variable {context : HttpContext} {buffer : Buffer} {Good : Buffer → Prop}

theorem findCRLF_line (retrieves : Buffer.Retrieves Good) (good : Good buffer)
    (found : search Buffer.kCRLF buffer.toString = some offset) :
    buffer.findCRLF = some (buffer.peek + offset) ∧
      window buffer.buffer buffer.peek offset = buffer.toString.take offset ∧
      ∃ left, buffer.retrieveUntil (buffer.peek + offset + 2) = .ok left ∧ Good left ∧
        left.toString = buffer.toString.drop (offset + 2) := by
  have bound := search_crlf_bound found
  have within : buffer.toString.length ≤ buffer.readableBytes := by
    rw [Buffer.toString, window, List.length_take]
    exact Nat.min_le_left _ _
  refine ⟨?_, ?_, retrieves good bound⟩
  · rw [Buffer.findCRLF, found]
    rfl
  · exact (window_take _ _ _ _ (by omega)).symm

/-- One round of the loop on a line of an open context. -/
theorem parseLoop_line (retrieves : Buffer.Retrieves Good) (good : Good buffer)
    (start : IsOpen context) (accepted : ¬ Rejects context buffer.toString)
    (found : search Buffer.kCRLF buffer.toString = some offset) (receivedTime : Int) (fuel : Nat) :
    ∃ after left, parseLoop receivedTime (fuel + 1) true context buffer =
        (if after.isAllDone then .ok (true, after, left)
          else parseLoop receivedTime fuel true after left) ∧
      Good left ∧ left.toString = buffer.toString.drop (offset + 2) ∧
      lineStep (untimed context, buffer.toString) = some (untimed after, left.toString) := by
  obtain ⟨first, line, left, retrieved, leftGood, content⟩ := findCRLF_line retrieves good found
  rcases start with requestLine | headers
  · have fits : (processRequestLine context.request (buffer.toString.take offset)).1 = true := by
      by_contra refused
      exact accepted ⟨requestLine, offset, found, by simpa using refused⟩
    refine ⟨⟨.kParseHeaders,
      (processRequestLine context.request (buffer.toString.take offset)).2.setReceivedTime
      receivedTime⟩, left, ?_, leftGood, content, ?_⟩
    · simp only [parseLoop, requestLine, first, Nat.add_sub_cancel_left, line, fits, if_true,
        retrieved, ok_bind]
      rfl
    · simp only [lineStep, found, content, untimed, requestLine,
        processRequestLine_timed, fits, if_true]
      rfl
  · rcases colon : startingAt 58 (buffer.toString.take offset) with _ | ⟨_, value⟩
    · refine ⟨{ context with state := .kAllDone }, left, ?_, leftGood, content, ?_⟩
      · simp only [parseLoop, headers, first, Nat.add_sub_cancel_left, line, colon, retrieved,
          ok_bind]
        rfl
      · simp only [lineStep, found, content, untimed, headers, colon]
    · refine ⟨{ context with
        request := context.request.addHeader (upTo 58 (buffer.toString.take offset)) value }, left,
        ?_, leftGood, content, ?_⟩
      · simp only [parseLoop, headers, first, Nat.add_sub_cancel_left, line, colon, retrieved,
          ok_bind, isAllDone]
        rfl
      · simp only [lineStep, found, content, untimed, headers, colon]
        rfl

theorem parseLoop_returns (retrieves : Buffer.Retrieves Good) (receivedTime : Int) (fuel : Nat)
    (good : Good buffer) (start : IsOpen context) (accepted : ¬ Rejects context buffer.toString)
    (enough : buffer.toString.length < fuel) :
    ∃ after left, parseLoop receivedTime fuel true context buffer =
      .ok (true, after, left) ∧ Good left ∧
      (untimed after, left.toString) ∈ eval lineStep (untimed context, buffer.toString) := by
  induction fuel generalizing context buffer with
  | zero => cases enough
  | succ fuel ih =>
    rcases found : search Buffer.kCRLF buffer.toString with _ | offset
    · refine ⟨context, buffer, ?_, good, mem_eval.mpr ⟨.refl, lineStep_no_line found⟩⟩
      rcases start with state | state <;>
        simp only [parseLoop, state, Buffer.findCRLF, found, Option.map_none]
    · obtain ⟨after, left, round, leftGood, content, step⟩ :=
        parseLoop_line retrieves good start accepted found receivedTime fuel
      rw [round]
      have shorter : left.toString.length < fuel := by
        have bound := search_crlf_bound found
        rw [content, List.length_drop]
        omega
      have moved : Reaches lineStep (untimed context, buffer.toString)
          (untimed after, left.toString) :=
        .single step
      rcases (lineStep_state step).2 with headers | done
      · have state : after.state = .kParseHeaders := headers
        have more : ¬ after.isAllDone = true := by simp [isAllDone, state]
        rw [if_neg more, reaches_eval moved]
        refine ih leftGood (.inr state) ?_ shorter
        rintro ⟨requestLine, _⟩
        rw [state] at requestLine
        cases requestLine
      · have state : after.state = .kAllDone := done
        have complete : after.isAllDone = true := by simp [isAllDone, state]
        rw [if_pos complete]
        exact ⟨after, left, rfl, leftGood, mem_eval.mpr ⟨moved, lineStep_allDone done⟩⟩

end Loop

end FakeMuduo.Http.HttpContext
