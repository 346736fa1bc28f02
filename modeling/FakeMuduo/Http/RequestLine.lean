import FakeMuduo.Base.Scan
import FakeMuduo.Http.RequestText

/-! The request line as the parser reads it, byte by byte, and the lines it accepts. -/

namespace FakeMuduo.Http

open FakeMuduo.Base FakeMuduo.Net

namespace HttpContext

section Scan

variable (line : Text)

/-- Whether the version's digits are these two; `stop` is one past the last one. -/
def digitsAre (stop : Int) (major minor : Byte) : Checked Bool := do
  let first ← readAt line (stop - 3)
  if first = major then
    let second ← readAt line (stop - 1)
    return decide (second = minor)
  else return false

/-- The test of the protocol field between two pointers. -/
def isProtocol (start stop : Int) : Checked Bool := do
  if stop - start = 8 then
    let same ← equal line start (stop - 3) (ascii "HTTP/")
    if same then
      let dot ← readAt line (stop - 2)
      return decide (dot = 46)
    else return false
  else return false

def scanVersion (request : HttpRequest) (start stop : Int) : Checked (Bool × HttpRequest) := do
  let succeed ← isProtocol line start stop
  if succeed then
    if ← digitsAre line stop 49 49 then return (true, request.setVersion .kHttp11)
    else if ← digitsAre line stop 49 48 then return (true, request.setVersion .kHttp10)
    else if ← digitsAre line stop 50 48 then return (true, request.setVersion .kHttp20)
    else return (false, request)
  else return (false, request)

def scanTarget (request : HttpRequest) (start space : Int) : Checked HttpRequest := do
  let question ← find line 63 start space
  if question ≠ space then
    let path ← copyRange line start question
    let query ← copyRange line question space
    return (request.setPath path).setQuery query
  else
    let path ← copyRange line start space
    return request.setPath path

/-- What follows the method and its space. -/
def scanRest (request : HttpRequest) (start stop : Int) : Checked (Bool × HttpRequest) := do
  let space ← find line 32 start stop
  if space ≠ stop then
    let request ← scanTarget line request start space
    scanVersion line request (space + 1) stop
  else return (false, request)

/-- `processRequestLine` on its pointers, which are offsets from `begin`. A byte outside of the
line cannot be read. -/
def scanRequestLine (request : HttpRequest) : Checked (Bool × HttpRequest) := do
  let stop : Int := line.length
  let space ← find line 32 0 stop
  if space ≠ stop then
    let method ← copyRange line 0 space
    let (known, request) := request.setMethod method
    if known then scanRest line request (space + 1) stop
    else return (false, request)
  else return (false, request)

end Scan

/-- Where a byte stands first, if it occurs at all. -/
theorem first_occurrence (byte : Byte) (text : Text) :
    byte ∉ text ∨ ∃ before after, text = before ++ byte :: after ∧ byte ∉ before := by
  by_cases member : byte ∈ text
  · exact .inr (List.eq_append_cons_of_mem member)
  · exact .inl member

section Refines

variable {before after : Text} {start stop : Int}

theorem find_absent {byte : Byte} {text : Text} (absent : byte ∉ text)
    (starts : start = before.length) (stops : stop = before.length + text.length) :
    find (before ++ text ++ after) byte start stop = .ok stop := by
  have all : text.takeWhile (· != byte) = text := upTo_absent absent
  rw [find_between byte text starts stops, all, starts, stops]

theorem find_found {byte : Byte} {first rest : Text} (absent : byte ∉ first)
    (starts : start = before.length)
    (stops : stop = before.length + (first ++ byte :: rest).length) :
    find (before ++ (first ++ byte :: rest) ++ after) byte start stop =
      .ok (start + first.length) := by
  have part : (first ++ byte :: rest).takeWhile (· != byte) = first := upTo_found absent rest
  rw [find_between byte _ starts stops, part]

theorem scanTarget_eq (target : Text) (request : HttpRequest) (starts : start = before.length)
    (stops : stop = before.length + target.length) :
    scanTarget (before ++ target ++ after) request start stop =
      .ok (processTarget request target) := by
  rcases first_occurrence 63 target with absent | ⟨path, rest, rfl, absent⟩
  · rw [scanTarget, find_absent absent starts stops, ok_bind, if_neg (not_not.mpr rfl),
      copyRange_between target starts stops, ok_bind, processTarget, upTo_absent absent,
      startingAt_absent absent]
    rfl
  · have apart : start + path.length ≠ stop := by
      rw [List.length_append, List.length_cons] at stops
      omega
    have first : copyRange (before ++ (path ++ 63 :: rest) ++ after) start
        (start + path.length) = .ok path := by
      rw [show before ++ (path ++ 63 :: rest) ++ after = before ++ path ++ (63 :: rest ++ after) by
        simp]
      exact copyRange_between path starts (by omega)
    have second : copyRange (before ++ (path ++ 63 :: rest) ++ after) (start + path.length) stop =
        .ok (63 :: rest) := by
      rw [show before ++ (path ++ 63 :: rest) ++ after =
        (before ++ path) ++ (63 :: rest) ++ after by simp]
      rw [List.length_append] at stops
      exact copyRange_between _ (by rw [List.length_append]; omega)
        (by rw [List.length_append]; omega)
    rw [scanTarget, find_found absent starts stops, ok_bind, if_pos apart, first, ok_bind,
      second, ok_bind, processTarget, upTo_found absent, startingAt_found absent]
    rfl

theorem digitsAre_eq {text : Text} {first second : Byte} (major minor : Byte)
    (stops : stop = before.length + 8) (sixth : text[5]? = some first)
    (eighth : text[7]? = some second) :
    digitsAre (before ++ text) stop major minor =
      .ok (decide (first = major ∧ second = minor)) := by
  have high : readAt (before ++ text) (stop - 3) = .ok first := by
    simpa using @readAt_offset _ before [] (stop - 3) text 5 first (by omega) sixth
  have low : readAt (before ++ text) (stop - 1) = .ok second := by
    simpa using @readAt_offset _ before [] (stop - 1) text 7 second (by omega) eighth
  rw [digitsAre, high, ok_bind, low]
  by_cases same : first = major
  · rw [if_pos same, ok_bind]
    simp [same, pure, Except.pure]
  · rw [if_neg same]
    simp [same, pure, Except.pure]

theorem isProtocol_eq (text : Text) (starts : start = before.length)
    (stops : stop = before.length + text.length) :
    isProtocol (before ++ text) start stop =
      .ok (decide (text.length = 8 ∧ text.take 5 = ascii "HTTP/" ∧ text[6]? = some 46)) := by
  rw [isProtocol]
  by_cases length : text.length = 8
  · have front : (text.take 5).length = 5 := by
      rw [List.length_take, length]
      rfl
    have same : equal (before ++ text) start (stop - 3) (ascii "HTTP/") =
        .ok (decide (text.take 5 = ascii "HTTP/")) := by
      have whole : before ++ text = before ++ text.take 5 ++ text.drop 5 := by
        rw [List.append_assoc, List.take_append_drop]
      rw [whole, equal_between (text.take 5) (ascii "HTTP/") (by rw [front]; decide) starts
        (by omega), front]
      rfl
    have inside : 6 < text.length := by omega
    have dot : readAt (before ++ text) (stop - 2) = .ok text[6] := by
      simpa using @readAt_offset _ before [] (stop - 2) text 6 text[6] (by omega)
        (List.getElem?_eq_getElem inside)
    rw [if_pos (by omega), same, ok_bind, List.getElem?_eq_getElem inside]
    by_cases protocol : text.take 5 = ascii "HTTP/"
    · rw [if_pos (decide_eq_true protocol), dot, ok_bind]
      simp [length, protocol, pure, Except.pure]
    · rw [if_neg (by simpa using protocol)]
      simp [protocol, pure, Except.pure]
  · rw [if_neg (by omega)]
    simp [length, pure, Except.pure]

theorem scanVersion_eq (text : Text) (request : HttpRequest) (starts : start = before.length)
    (stops : stop = before.length + text.length) :
    scanVersion (before ++ text) request start stop = .ok (processVersion request text) := by
  rw [scanVersion, isProtocol_eq text starts stops, ok_bind, processVersion]
  by_cases protocol : text.length = 8 ∧ text.take 5 = ascii "HTTP/" ∧ text[6]? = some 46
  · have length := protocol.1
    have sixth : text[5]? = some text[5] := List.getElem?_eq_getElem (by omega)
    have eighth : text[7]? = some text[7] := List.getElem?_eq_getElem (by omega)
    have digits := fun major minor => digitsAre_eq major minor (length ▸ stops) sixth eighth
    rw [if_pos (decide_eq_true protocol), if_pos protocol]
    simp only [digits, ok_bind, sixth, eighth, Option.some.injEq, decide_eq_true_eq]
    split
    · rfl
    · split
      · rfl
      · split
        · rfl
        · rfl
  · rw [if_neg (by simpa using protocol), if_neg protocol]
    rfl

theorem scanRest_eq (rest : Text) (request : HttpRequest) (starts : start = before.length)
    (stops : stop = before.length + rest.length) :
    scanRest (before ++ rest) request start stop = .ok (match startingAt 32 rest with
      | [] => (false, request)
      | _ :: protocol => processVersion (processTarget request (upTo 32 rest)) protocol) := by
  rcases first_occurrence 32 rest with absent | ⟨target, protocol, rfl, absent⟩
  · have none : find (before ++ rest) 32 start stop = .ok stop := by
      simpa using @find_absent before [] start stop 32 rest absent starts stops
    rw [scanRest, none, ok_bind, if_neg (not_not.mpr rfl), startingAt_absent absent]
    rfl
  · have found : find (before ++ (target ++ 32 :: protocol)) 32 start stop =
        .ok (start + target.length) := by
      simpa using @find_found before [] start stop 32 target protocol absent starts stops
    rw [List.length_append, List.length_cons] at stops
    have apart : start + target.length ≠ stop := by omega
    have middle : before ++ (target ++ 32 :: protocol) = before ++ target ++ (32 :: protocol) := by
      simp
    have last : before ++ (target ++ 32 :: protocol) = (before ++ target ++ [32]) ++ protocol := by
      simp
    rw [scanRest, found, ok_bind, if_pos apart, startingAt_found absent, upTo_found absent, middle,
      scanTarget_eq target request starts (by omega), ok_bind, ← middle, last]
    refine scanVersion_eq protocol _ ?_ ?_
    · simp only [List.length_append, List.length_singleton]
      omega
    · simp only [List.length_append, List.length_singleton]
      omega

end Refines

/-- No byte outside of the line is read. -/
theorem scanRequestLine_eq (line : Text) (request : HttpRequest) :
    scanRequestLine line request = .ok (processRequestLine request line) := by
  rcases first_occurrence 32 line with absent | ⟨method, rest, rfl, absent⟩
  · have none : find line 32 0 line.length = .ok (line.length : Int) := by
      simpa using @find_absent [] [] 0 line.length 32 line absent rfl (by simp)
    rw [scanRequestLine, none, ok_bind, if_neg (not_not.mpr rfl), processRequestLine,
      startingAt_absent absent]
    rfl
  · have found : find (method ++ 32 :: rest) 32 0 (method ++ 32 :: rest).length =
        .ok (method.length : Int) := by
      simpa using @find_found [] [] 0 (method ++ 32 :: rest).length 32 method rest
        absent rfl (by simp)
    have token : copyRange (method ++ 32 :: rest) 0 method.length = .ok method := by
      simpa using @copyRange_between _ [] (32 :: rest) 0 method.length method rfl (by simp)
    have apart : (method.length : Int) ≠ (method ++ 32 :: rest).length := by
      rw [List.length_append, List.length_cons]
      omega
    rw [scanRequestLine, found, ok_bind, if_pos apart, token, ok_bind, processRequestLine,
      startingAt_found absent, upTo_found absent]
    rcases request.setMethod method with ⟨_ | _, request⟩
    · rfl
    · have whole : method ++ 32 :: rest = (method ++ [32]) ++ rest := by simp
      dsimp only
      rw [if_pos rfl, if_pos rfl, whole]
      refine scanRest_eq rest request ?_ ?_
      · rw [List.length_append, List.length_singleton]
        rfl
      · rw [List.length_append]
        rfl

/-- The parts of a request line that the server serves. -/
structure Parts (line : Text) (method : Method) (target : Text) (version : Version) : Prop where
  known : method ≠ .kInvalidMethod
  supported : version ≠ .kUnknownVersion
  plain : 32 ∉ target
  whole : line = method.text ++ 32 :: (target ++ 32 :: version.text)

section Grammar

variable {line target : Text} {method : Method} {version : Version} {request : HttpRequest}

theorem methodOf_text (known : method ≠ .kInvalidMethod) :
    HttpRequest.methodOf method.text = method := by
  cases method with
  | kInvalidMethod => exact (known rfl).elim
  | _ => rfl

theorem text_methodOf {text : Text} (known : HttpRequest.methodOf text ≠ .kInvalidMethod) :
    (HttpRequest.methodOf text).text = text := by
  unfold HttpRequest.methodOf at known ⊢
  split_ifs at known ⊢ with get post head put delete
  · exact get.symm
  · exact post.symm
  · exact head.symm
  · exact put.symm
  · exact delete.symm
  · exact (known rfl).elim

theorem processVersion_text_of (supported : version ≠ .kUnknownVersion) :
    processVersion request version.text = (true, request.setVersion version) := by
  cases version with
  | kUnknownVersion => exact (supported rfl).elim
  | _ => rfl

theorem processVersion_accepts {text : Text} (accepted : (processVersion request text).1 = true) :
    ∃ version, version ≠ .kUnknownVersion ∧ text = Version.text version := by
  unfold processVersion at accepted
  split at accepted
  · rename_i protocol
    obtain ⟨length, front, dot⟩ := protocol
    have shape : ∀ first second, text[5]? = some first → text[7]? = some second →
        text = ascii "HTTP/" ++ [first, 46, second] := by
      intro first second sixth eighth
      match text, length with
      | [_, _, _, _, _, _, _, _], _ =>
        cases sixth
        cases eighth
        cases dot
        rw [← front]
        rfl
    split at accepted
    · rename_i digits
      exact ⟨.kHttp11, by decide, shape _ _ digits.1 digits.2⟩
    · split at accepted
      · rename_i digits
        exact ⟨.kHttp10, by decide, shape _ _ digits.1 digits.2⟩
      · split at accepted
        · rename_i digits
          exact ⟨.kHttp20, by decide, shape _ _ digits.1 digits.2⟩
        · cases accepted
  · cases accepted

theorem processRequestLine_accepts (accepted : (processRequestLine request line).1 = true) :
    ∃ method target version, Parts line method target version := by
  rcases first_occurrence 32 line with absent | ⟨token, rest, rfl, absent⟩
  · rw [processRequestLine, startingAt_absent absent] at accepted
    cases accepted
  · rw [processRequestLine, startingAt_found absent, upTo_found absent] at accepted
    by_cases known : HttpRequest.methodOf token = .kInvalidMethod
    · simp [HttpRequest.setMethod, known] at accepted
    · simp only [HttpRequest.setMethod, ne_eq, known, not_false_eq_true, decide_true, if_true]
        at accepted
      rcases first_occurrence 32 rest with free | ⟨target, protocol, rfl, free⟩
      · rw [startingAt_absent free] at accepted
        cases accepted
      · rw [startingAt_found free] at accepted
        obtain ⟨version, supported, text⟩ := processVersion_accepts accepted
        refine ⟨HttpRequest.methodOf token, target, version, known, supported, free, ?_⟩
        rw [text_methodOf known, text]

theorem Parts.processRequestLine (parts : Parts line method target version) :
    processRequestLine request line =
      (true, (processTarget { request with method := method } target).setVersion version) := by
  obtain ⟨known, supported, plain, rfl⟩ := parts
  have free := (RequestText.method_text_free method).2
  simp only [HttpContext.processRequestLine, startingAt_found free, upTo_found free,
    HttpRequest.setMethod, methodOf_text known, startingAt_found plain, upTo_found plain,
    processVersion_text_of supported]
  simp [known]

theorem processRequestLine_accepts_iff :
    (processRequestLine request line).1 = true ↔ ∃ method target version,
      Parts line method target version := by
  constructor
  · exact processRequestLine_accepts
  · rintro ⟨method, target, version, parts⟩
    rw [parts.processRequestLine]

/-- What the line determines of its parts. -/
theorem Parts.tokens (parts : Parts line method target version) :
    upTo 32 line = method.text ∧ startingAt 32 line = 32 :: (target ++ 32 :: version.text) := by
  have free := (RequestText.method_text_free method).2
  rw [parts.whole]
  exact ⟨upTo_found free _, startingAt_found free _⟩

theorem Parts.unique (parts : Parts line method target version) {otherMethod : Method}
    {otherTarget : Text} {otherVersion : Version}
    (others : Parts line otherMethod otherTarget otherVersion) :
    otherMethod = method ∧ otherTarget = target ∧ otherVersion = version := by
  have methods : otherMethod.text = method.text := others.tokens.1.symm.trans parts.tokens.1
  have rests : otherTarget ++ 32 :: otherVersion.text = target ++ 32 :: version.text :=
    List.tail_eq_of_cons_eq (others.tokens.2.symm.trans parts.tokens.2)
  have targets := congrArg (upTo 32) rests
  rw [upTo_found others.plain, upTo_found parts.plain] at targets
  have versions : otherVersion.text = version.text := by
    have tails := congrArg (startingAt 32) rests
    rw [startingAt_found others.plain, startingAt_found parts.plain] at tails
    exact List.tail_eq_of_cons_eq tails
  refine ⟨?_, targets, ?_⟩
  · rw [← methodOf_text others.known, methods, methodOf_text parts.known]
  · have read := @processVersion_text_of otherVersion .new others.supported
    rw [versions, processVersion_text_of parts.supported] at read
    exact (congrArg (fun answer => answer.2.version) read).symm

theorem processTarget_target (request : HttpRequest) (target : Text)
    (unqueried : request.query = []) :
    (processTarget request target).path ++ (processTarget request target).query = target ∧
      63 ∉ (processTarget request target).path ∧
      ((processTarget request target).query = [] ∨
        (processTarget request target).query.head? = some 63) := by
  unfold processTarget
  rcases first_occurrence 63 target with absent | ⟨path, rest, rfl, absent⟩
  · rw [upTo_absent absent, startingAt_absent absent]
    simp [HttpRequest.setPath, unqueried, absent]
  · rw [upTo_found absent, startingAt_found absent]
    simp [HttpRequest.setPath, HttpRequest.setQuery, absent]

theorem processTarget_method (request : HttpRequest) (target : Text) :
    (processTarget request target).method = request.method := by
  unfold processTarget
  dsimp only
  split <;> rfl

end Grammar

/-- The request line is accepted exactly if it has the parts that the server serves. They are
determined by the line and are what is stored, and no byte outside of the line is read. -/
theorem requestLine_grammar (line : Text) (request : HttpRequest) :
    ∃ succeed after, scanRequestLine line request = .ok (succeed, after) ∧
      (succeed = true ↔ ∃ method target version, Parts line method target version) ∧
      ∀ method target version, Parts line method target version →
        after.method = method ∧ after.version = version ∧
        (request.query = [] → after.path ++ after.query = target ∧ 63 ∉ after.path ∧
          (after.query = [] ∨ after.query.head? = some 63)) ∧
        ∀ otherMethod otherTarget otherVersion, Parts line otherMethod otherTarget otherVersion →
          otherMethod = method ∧ otherTarget = target ∧ otherVersion = version := by
  refine ⟨(processRequestLine request line).1, (processRequestLine request line).2,
    scanRequestLine_eq line request, processRequestLine_accepts_iff, ?_⟩
  intro method target version parts
  rw [parts.processRequestLine]
  refine ⟨processTarget_method _ _, rfl, ?_, fun _ _ _ others => parts.unique others⟩
  intro unqueried
  exact processTarget_target { request with method := method } target unqueried

end HttpContext

end FakeMuduo.Http
