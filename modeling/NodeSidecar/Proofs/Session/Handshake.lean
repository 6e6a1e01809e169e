import Mathlib.Tactic.Common
import NodeSidecar.Session.Handshake
/-!
# Session — when a connection opens

A connection opens just when the node answers both frames of the handshake as ready.
The first answer that is another one decides what becomes of it (`judgeAll_of_first`),
and that is a session that is unavailable, whatever it was (`opens_when_ready`).
-/

namespace NodeSidecar.Session.Handshake

variable {endpoint : String} {r : Reply} {front rest replies : List Reply} {a : Attempt}
variable {fault : Fault} {n : Nat}

/-- The reply is a frame that says the node is ready. -/
def Reply.IsReady (r : Reply) : Prop :=
  ∃ f, r = .frame f ∧ f.header.opcode = .ready

theorem judge_eq_ok_iff : judge r = .ok () ↔ r.IsReady := by
  constructor
  · intro h
    cases r with
    | ended => cases h
    | broken fault => cases h
    | frame f =>
      refine ⟨f, rfl, ?_⟩
      cases hopcode : f.header.opcode with
      | ready => rfl
      | authenticate =>
        simp only [judge, hopcode] at h
        split at h <;> cases h
      | error =>
        simp only [judge, hopcode] at h
        split at h <;> cases h
      | _ =>
        simp only [judge, hopcode] at h
        cases h
  · rintro ⟨f, rfl, hready⟩
    simp only [judge, hready]

/-! ## One reply after the other -/

/-- Replies that are ready are passed over. -/
theorem judgeAll_append (hfront : ∀ r ∈ front, r.IsReady) :
    judgeAll endpoint (front.length + n) (front ++ rest) = judgeAll endpoint n rest := by
  induction front with
  | nil => rw [List.length_nil, Nat.zero_add, List.nil_append]
  | cons r front ih =>
    obtain ⟨hr, hfront⟩ := List.forall_mem_cons.1 hfront
    rw [List.length_cons, Nat.add_right_comm, List.cons_append, judgeAll, judge_eq_ok_iff.2 hr]
    exact ih hfront

/-- **The first reply that is not ready decides.** -/
theorem judgeAll_of_first (hfront : ∀ r ∈ front, r.IsReady) (hr : judge r = .error fault) :
    judgeAll endpoint (front.length + (n + 1)) (front ++ r :: rest) =
      .error (unavailable endpoint fault) := by
  rw [judgeAll_append hfront, judgeAll, hr]

/-- As many replies as frames must be ready. -/
theorem judgeAll_eq_ok_iff : judgeAll endpoint n replies = .ok () ↔
    n ≤ replies.length ∧ ∀ r ∈ replies.take n, r.IsReady := by
  induction n generalizing replies with
  | zero => simp [judgeAll]
  | succ n ih =>
    cases replies with
    | nil => simp [judgeAll]
    | cons r replies =>
      rw [List.length_cons, Nat.add_le_add_iff_right, List.take_succ_cons, List.forall_mem_cons,
        ← judge_eq_ok_iff, and_left_comm, ← ih, judgeAll]
      rcases judge r with fault | ⟨⟨⟩⟩
      · simp
      · simp

theorem exists_sessionUnavailable_of_judgeAll (h : judgeAll endpoint n replies = .error fault) :
    ∃ endpoint reason, fault = .sessionUnavailable endpoint reason := by
  induction n generalizing replies with
  | zero => cases h
  | succ n ih =>
    cases replies with
    | nil => exact ⟨_, _, (Except.error.inj h).symm⟩
    | cons r replies =>
      rw [judgeAll] at h
      split at h
      · exact ih h
      · obtain rfl := Except.error.inj h
        unfold unavailable
        split <;> exact ⟨_, _, rfl⟩

/-! ## An attempt -/

theorem outcome_eq_ok_iff : outcome endpoint a = .ok () ↔
    ∃ first second rest, a = .reached (first :: second :: rest) ∧ first.IsReady ∧
      second.IsReady := by
  cases a with
  | outOfReach reason => exact iff_of_false nofun (by rintro ⟨_, _, _, ⟨⟩, -⟩)
  | reached replies =>
    rw [outcome, judgeAll_eq_ok_iff]
    constructor
    · rintro ⟨hlength, hready⟩
      rcases replies with - | ⟨first, - | ⟨second, rest⟩⟩
      · cases hlength
      · exact absurd (Nat.le_of_succ_le_succ hlength) (Nat.not_succ_le_zero 0)
      · exact ⟨first, second, rest, rfl, hready first (by simp [requests]),
          hready second (by simp [requests])⟩
    · rintro ⟨first, second, rest, h, hfirst, hsecond⟩
      obtain rfl := Attempt.reached.inj h
      exact ⟨Nat.le_add_left _ _, by simp [requests, hfirst, hsecond]⟩

/-- **A connection opens just when both frames are answered as ready**; otherwise the
session is unavailable, whatever stood in the way. When the node is reached, the first
answer that is another one says why. -/
theorem opens_when_ready (endpoint : String) (a : Attempt) :
    (outcome endpoint a = .ok () ↔ ∃ first second rest,
      a = .reached (first :: second :: rest) ∧ first.IsReady ∧ second.IsReady) ∧
    (∀ fault, outcome endpoint a = .error fault →
      ∃ endpoint reason, fault = .sessionUnavailable endpoint reason) ∧
    ∀ front r rest fault, a = .reached (front ++ r :: rest) → front.length < requests.length →
      (∀ r ∈ front, r.IsReady) → judge r = .error fault →
      outcome endpoint a = .error (unavailable endpoint fault) := by
  refine ⟨outcome_eq_ok_iff, fun fault h => ?_, ?_⟩
  · cases a with
    | outOfReach reason => exact ⟨_, _, (Except.error.inj h).symm⟩
    | reached replies => exact exists_sessionUnavailable_of_judgeAll h
  · rintro front r rest fault rfl hlt hfront hr
    obtain ⟨n, hn⟩ := Nat.exists_eq_add_of_lt hlt
    rw [outcome, hn]
    exact judgeAll_of_first hfront hr

/-- A frame of the handshake, from the node. -/
def frameOf (opcode : Wire.Opcode) (body : Text.Octets) : Wire.Frame :=
  ⟨⟨0x84, 0, stream, opcode, body.length⟩, body⟩

/-- The node takes the frame that opens the conversation, and wants a password before
it takes the other one. -/
example : outcome "127.0.0.1:9042" (.reached [.frame (frameOf .ready []),
    .frame (frameOf .authenticate (Wire.putText "PasswordAuthenticator"))]) =
    .error (.sessionUnavailable "127.0.0.1:9042"
      "CQL protocol error: server requires authentication (PasswordAuthenticator)") := by
  decide +kernel

end NodeSidecar.Session.Handshake
