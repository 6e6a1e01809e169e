import NodeSidecar.Proofs.Session.Answers
/-!
# Session — streams of requests

Which stream a request gets is a matter of how many were made before it
(`Numbered`), so requests keep to streams of their own as long as there are no
more requests than streams (`apart_of_few`).
-/

namespace NodeSidecar.Session.Connection

variable {α : Type} {c c' : Connection α} {p : Progress (Call α) Wait} {a : Option Answer}
variable {turn : Turn Wait Result} {id i : Nat} {q : Int × Nat} {peer : Net.Endpoint}
variable {t : Moment α} {past : List (Moment α)} {run : Calls α}

/-- The counter that the request with this number took its stream from. -/
def counterAt (number : Nat) : Nat :=
  (number + 1) % counterSize

/-- **Requests are numbered as their streams are.** -/
structure Numbered (run : Calls α) : Prop where
  counter : run.state.counter = counterAt run.state.requests
  entry : ∀ i q, run.entry i = some q →
    q.1 = streamAt (counterAt q.2) ∧ q.2 < run.state.requests

/-- A stretch takes the next counter and the next number for its request, or
leaves both alone and makes no new request. -/
theorem Passage.numbers (h : Passage c p a c' turn) :
    (c'.counter = nextCounter c.counter ∧ c'.requests = c.requests + 1 ∧
      turn.next.bind Wait.entry? = some (streamAt c.counter, c.requests)) ∨
    (c'.counter = c.counter ∧ c'.requests = c.requests ∧
      ∀ q, turn.next.bind Wait.entry? = some q → p.wait?.bind Wait.entry? = some q) := by
  cases h with
  | enrols => exact .inl ⟨rfl, rfl, rfl⟩
  | passes | writes => exact .inr ⟨rfl, rfl, fun q hq => hq⟩
  | @sweeps e =>
    refine .inr ⟨rfl, rfl, fun q hq => ?_⟩
    cases e.entry?_turn.symm.trans hq
  | _ => exact .inr ⟨rfl, rfl, nofun⟩

theorem nextCounter_counterAt (n : Nat) : nextCounter (counterAt n) = counterAt (n + 1) := by
  simp only [nextCounter, counterAt, counterSize]
  omega

theorem Numbered.passes (h : Numbered t.before) (hp : Passes t id p a turn) :
    Numbered t.after := by
  rcases hp.passage.numbers with ⟨hcounter, hrequests, hnew⟩ | ⟨hcounter, hrequests, hold⟩
  · refine ⟨?_, fun i q hq => ?_⟩
    · rw [hcounter, hrequests, h.counter, nextCounter_counterAt]
    · rw [hp.entry_after] at hq
      by_cases hi : i = id
      · rw [hi, Function.update_self, hnew] at hq
        obtain rfl := Option.some.inj hq
        rw [hrequests]
        exact ⟨congrArg streamAt h.counter, Nat.lt_succ_self _⟩
      · rw [Function.update_of_ne hi] at hq
        rw [hrequests]
        exact ⟨(h.entry i q hq).1, Nat.lt_succ_of_lt (h.entry i q hq).2⟩
  · refine ⟨?_, fun i q hq => ?_⟩
    · rw [hcounter, hrequests, h.counter]
    · rw [hp.entry_after] at hq
      rw [hrequests]
      by_cases hi : i = id
      · rw [hi, Function.update_self] at hq
        exact h.entry id q (hp.entry_before.trans (hold q hq))
      · rw [Function.update_of_ne hi] at hq
        exact h.entry i q hq

theorem numbered (h : History peer past run) : Numbered run := by
  refine history_induction (I := fun _ run => Numbered run) h ⟨rfl, fun i q hq => ?_⟩
    (fun past t _ ih hq => ⟨?_, fun i q hi => ?_⟩) fun past t id p a turn _ ih hp => ih.passes hp
  · rw [Run.entry, waiting_fresh] at hq
    cases hq
  · rw [hq.state]
    exact ih.counter
  · rw [Run.entry, hq.waiting] at hi
    rw [hq.state]
    exact ih.entry i q hi

/-- No request is forgotten. -/
theorem requests_le (h : History peer past run) (ht : t ∈ past) :
    t.after.state.requests ≤ run.state.requests := by
  suffices ∀ t ∈ past, t.after.state.requests ≤ run.state.requests from this t ht
  refine history_induction (I := fun past run =>
    ∀ t ∈ past, t.after.state.requests ≤ run.state.requests) h (by simp)
    (fun past t _ ih hq u hu => ?_) fun past t id p a turn _ ih hp u hu => ?_
  · rcases List.mem_append.1 hu with hu | hu
    · rw [hq.state]
      exact ih u hu
    · obtain rfl := List.mem_singleton.1 hu
      exact Nat.le_refl _
  · rcases List.mem_append.1 hu with hu | hu
    · have hle := ih u hu
      rcases hp.passage.numbers with ⟨-, hrequests, -⟩ | ⟨-, hrequests, -⟩ <;> omega
    · obtain rfl := List.mem_singleton.1 hu
      exact Nat.le_refl _

/-- The first requests have different streams. -/
theorem streamAt_ne {m n : Nat} (hmn : m < n) (hn : n < streamCount) :
    streamAt (counterAt m) ≠ streamAt (counterAt n) := by
  intro h
  simp only [streamAt, counterAt, counterSize, streamCount] at h hn
  -- The counter has not wrapped.
  have hm' : (m + 1) % 65536 = m + 1 := by omega
  have hn' : (n + 1) % 65536 = n + 1 := by omega
  rw [hm', hn'] at h
  omega

/-- **Requests keep to streams of their own** as long as there are no more of
them than streams. -/
theorem apart_of_few (h : History peer past run) (hfew : run.state.requests ≤ streamCount) :
    Apart past := by
  intro t ht p q hreg hq
  obtain ⟨earlier, hearlier, hm⟩ := h.of_mem ht
  obtain ⟨i, hi⟩ := hq.exists_entry
  have hnumbered := numbered hearlier
  obtain ⟨hstream, hlt⟩ := hnumbered.entry i q hi
  have hle := requests_le h ht
  rcases quiet_or_passes (hearlier.bounded bounded_fresh) hm with hquiet | ⟨id, p', a, turn, hp⟩
  · cases (newsOf_of_quiet hquiet).symm.trans hreg
  · rw [newsOf_eq hp] at hreg
    obtain ⟨hafter, -⟩ := hp.passage.of_registered hreg
    obtain ⟨-, rfl⟩ := news_eq_registered hreg
    have hmore : t.after.state.requests = t.before.state.requests + 1 := by rw [hafter]; rfl
    rw [hstream, hnumbered.counter]
    exact streamAt_ne hlt (by omega)

end NodeSidecar.Session.Connection
