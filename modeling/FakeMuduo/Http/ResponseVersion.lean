import FakeMuduo.Http.HttpServer
import FakeMuduo.Net.BufferInvariant

/-! The version of a response, which the callback has to set. -/

namespace FakeMuduo.Http

open FakeMuduo.Base FakeMuduo.Net

namespace HttpResponse

variable {response : HttpResponse}

theorem text_prefix_snprintf (version : Version) (rest : Text) :
    version.text <+: snprintf 32 (version.text ++ rest) := by
  have short : version.text.length ≤ 31 := by cases version <;> decide
  rw [snprintf, List.take_append, List.take_of_length_le short]
  exact List.prefix_append _ _

/-- A response that has a version is appended, and starts with it. -/
theorem appendToBuffer_versioned (versioned : response.version ≠ .kUnknownVersion)
    {outBuffer : Buffer} (valid : outBuffer.Valid) :
    ∃ buffer data, response.appendToBuffer outBuffer = .ok buffer ∧
      buffer.toString = outBuffer.toString ++ data ∧ response.version.text <+: data := by
  simp only [appendToBuffer, pieces, versionToStr, check_pass _ versioned, ok_bind]
  obtain ⟨buffer, returned, _, content⟩ := Buffer.foldlM_append_returns _ valid
  refine ⟨buffer, _, returned, content, ?_⟩
  have first := text_prefix_snprintf response.version
    (ascii " " ++ decimal response.statusCode.value ++ ascii " ")
  simp only [List.append_assoc, List.cons_append, List.flatten_cons] at first ⊢
  exact first.trans (List.prefix_append _ _)

theorem appendToBuffer_unversioned (unknown : response.version = .kUnknownVersion)
    (outBuffer : Buffer) :
    response.appendToBuffer outBuffer = .error (.assertion "version != kUnknownVersion") := by
  simp [appendToBuffer, pieces, versionToStr, unknown, check]

end HttpResponse

namespace HttpServer

variable {σ : Type}

/-- Whether the response is to close the connection before the callback has seen it. -/
def closes (request : HttpRequest) : Bool :=
  decide (request.getHeader (ascii "Connection") = ascii "close" ∨ request.version = .kHttp10)

/-- The request is answered with bytes that start with a supported version. -/
def Serves (httpCallback : HttpCallback σ) (session : HttpSession σ)
    (request : HttpRequest) : Prop :=
  ∃ after data rest, onRequestInThreadPool httpCallback session request = .ok after ∧
    after.calls = session.calls ++ .send data :: rest ∧
    ∃ version, version ≠ .kUnknownVersion ∧ Version.text version <+: data

/-- The assertion that fails when the callback leaves no version. -/
theorem onRequestInThreadPool_unversioned {httpCallback : HttpCallback σ} {session : HttpSession σ}
    {request : HttpRequest}
    (unknown : (httpCallback session.user request (.new (closes request))).1.version =
      .kUnknownVersion) :
    onRequestInThreadPool httpCallback session request =
      .error (.assertion "version != kUnknownVersion") := by
  simp only [onRequestInThreadPool]
  rw [show decide (_ ∨ _) = closes request from
    rfl, HttpResponse.appendToBuffer_unversioned unknown, error_bind]

/-- A request is answered exactly if the callback leaves a version in the response it is given. -/
theorem serves_iff_versioned (httpCallback : HttpCallback σ) (session : HttpSession σ)
    (request : HttpRequest) :
    Serves httpCallback session request ↔
      (httpCallback session.user request (.new (closes request))).1.version ≠ .kUnknownVersion := by
  constructor
  · rintro ⟨after, data, rest, returned, _⟩ unknown
    cases (onRequestInThreadPool_unversioned unknown).symm.trans returned
  · intro versioned
    obtain ⟨buffer, data, returned, content, starts⟩ :=
      HttpResponse.appendToBuffer_versioned versioned (Buffer.create_valid Buffer.kInitialSize)
    rw [Buffer.create_toString, List.nil_append] at content
    simp only [closes] at returned
    simp only [Serves, onRequestInThreadPool, returned, ok_bind, content]
    exact ⟨_, data, _, rfl, rfl, _, versioned, starts⟩

/-- A parsed request, as the server dispatches it. -/
def parsedRoot : Checked (Bool × HttpContext × Buffer) :=
  (Buffer.create 64).append (ascii "GET / HTTP/1.1\r\n\r\n") >>= fun filled =>
    HttpContext.parseRequest 64 .new filled 0

/-- The server's own callback sets no version: the answer to a parsed request fails. -/
theorem default_not_serves :
    ∃ context buffer, parsedRoot = .ok (true, context, buffer) ∧ context.isAllDone = true ∧
      ¬ Serves defaultHttpCallback (onConnection buffer ()) context.request := by
  have parsed : parsedRoot.toOption.any (fun result => result.1 && result.2.1.isAllDone) =
      true := by
    decide +kernel
  rcases result : parsedRoot with fault | ⟨ok, context, buffer⟩
  · rw [result] at parsed
    cases parsed
  · rw [result] at parsed
    obtain ⟨accepted, done⟩ : ok = true ∧ context.isAllDone = true := Bool.and_eq_true_iff.mp parsed
    subst accepted
    refine ⟨context, buffer, rfl, done, ?_⟩
    rintro ⟨after, data, rest, returned, _⟩
    cases (onRequestInThreadPool_unversioned rfl).symm.trans returned

end HttpServer

end FakeMuduo.Http
