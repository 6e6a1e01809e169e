import Mathlib.Tactic.Common
import NodeSidecar.Management.Agent
import NodeSidecar.Management.Storage
/-!
# Management — what the answers of the agent come to

A reply that carries an envelope says how the managed object fared
(`answer_of_carries`); any other one says that the agent is out of reach
(`answer_of_not_carries`). So a reply tells on which side of the agent something went
wrong (`answer_tells_side`).
-/

namespace NodeSidecar.Management.Agent

variable {reply : Reply} {e : Envelope}

/-- The reply is a success that carries this envelope. -/
def Carries (reply : Reply) (e : Envelope) : Prop :=
  ∃ status body, reply = .response status body ∧ Http.isSuccess status = true ∧
    readBody body = some e

/-- A reply carries one envelope at most. -/
theorem Carries.unique {e' : Envelope} (h : Carries reply e) (h' : Carries reply e') :
    e' = e := by
  obtain ⟨status, body, rfl, -, hbody⟩ := h
  obtain ⟨status', body', hreply, -, hbody'⟩ := h'
  obtain ⟨rfl, rfl⟩ := Reply.response.inj hreply
  exact Option.some.inj (hbody'.symm.trans hbody)

/-- **An envelope says how the managed object fared**: it has the value, or says why
there is none. -/
theorem answer_of_carries (endpoint : String) (request : Option Request)
    (h : Carries reply e) : answer endpoint request reply =
    if e.status = Envelope.success then .ok e.value
    else .error (.remoteInvocation (subject request).1 (subject request).2 e.reason) := by
  obtain ⟨status, body, rfl, hsuccess, hbody⟩ := h
  have hrange : 200 ≤ status ∧ status < 300 := by simpa [Http.isSuccess] using hsuccess
  have hallowed : ¬ (status = 401 ∨ status = 403) := by omega
  rw [answer, if_neg hallowed, hsuccess, hbody]
  rfl

/-- **Without an envelope the agent is out of reach**, whatever came back instead. -/
theorem answer_of_not_carries (endpoint : String) (request : Option Request)
    (h : ∀ e, ¬ Carries reply e) :
    ∃ reason, answer endpoint request reply = .error (.managementUnavailable endpoint reason) := by
  cases reply with
  | outOfReach reason => exact ⟨reason, rfl⟩
  | response status body =>
    unfold answer
    by_cases hdenied : status = 401 ∨ status = 403
    · simp only [if_pos hdenied]
      exact ⟨_, rfl⟩
    simp only [if_neg hdenied]
    cases hsuccess : Http.isSuccess status with
    | false => exact ⟨_, rfl⟩
    | true =>
      cases hbody : readBody body with
      | none => exact ⟨_, rfl⟩
      | some e => exact absurd ⟨status, body, rfl, hsuccess, hbody⟩ (h e)

/-- **A reply tells on which side of the agent something went wrong.** A value comes of
an envelope with one, and of nothing else. A fault is one of the connection just when no
envelope came back; otherwise it is one of the managed object, and names it with the
reason in the envelope. -/
theorem answer_tells_side (endpoint : String) (request : Option Request) (reply : Reply) :
    (∀ v, answer endpoint request reply = .ok v ↔
      ∃ e, Carries reply e ∧ e.status = Envelope.success ∧ e.value = v) ∧
    ∀ fault, answer endpoint request reply = .error fault →
      (fault.isConnectivity = true ↔ ∀ e, ¬ Carries reply e) ∧
      ∀ e, Carries reply e →
        fault = .remoteInvocation (subject request).1 (subject request).2 e.reason := by
  by_cases hcarries : ∃ e, Carries reply e
  · obtain ⟨e, he⟩ := hcarries
    have hanswer := answer_of_carries endpoint request he
    by_cases hstatus : e.status = Envelope.success
    · rw [hanswer, if_pos hstatus]
      refine ⟨fun v => ⟨fun h => ⟨e, he, hstatus, Except.ok.inj h⟩, ?_⟩, nofun⟩
      rintro ⟨e', he', -, rfl⟩
      rw [he.unique he']
    · rw [hanswer, if_neg hstatus]
      refine ⟨fun v => iff_of_false nofun ?_, fun fault h => ?_⟩
      · rintro ⟨e', he', hsuccess, -⟩
        exact hstatus (he.unique he' ▸ hsuccess)
      · obtain rfl := Except.error.inj h
        refine ⟨iff_of_false nofun fun hno => hno e he, fun e' he' => ?_⟩
        rw [he.unique he']
  · have hno := not_exists.1 hcarries
    obtain ⟨reason, hreason⟩ := answer_of_not_carries endpoint request hno
    rw [hreason]
    refine ⟨fun v => iff_of_false nofun ?_, fun fault h => ?_⟩
    · rintro ⟨e, he, -⟩
      exact hno e he
    · obtain rfl := Except.error.inj h
      exact ⟨iff_of_true rfl hno, fun e he => absurd he (hno e)⟩

/-- The release is read off an envelope that has it. -/
example : (do
    let p ← Storage.proxy
    let r ← Storage.releaseVersion.request p
    let body := Text.encodeUtf8 "\x7b\"status\":200,\"value\":\"4.0.11\"\x7d".toList
    p.expectText "release_version" (← answered "127.0.0.1:8778" r (.response 200 body))) =
    .ok "4.0.11" := by decide +kernel

/-- An attribute that the managed object does not have is its failure, and the reason is
the one in the envelope. -/
example : (do
    let p ← Storage.proxy
    let r ← Storage.operationMode.request p
    let body := Text.encodeUtf8
      "\x7b\"status\":404,\"error_type\":\"NotFound\",\"error\":\"No such attribute\"\x7d".toList
    p.expectText "operation_mode" (← answered "127.0.0.1:8778" r (.response 200 body))) =
    .error (.remoteInvocation "org.apache.cassandra.db:type=StorageService" "OperationMode"
      "No such attribute") := by decide +kernel

end NodeSidecar.Management.Agent
