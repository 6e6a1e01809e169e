import NodeSidecar.Proofs.Session.Books
/-!
# Session — what becomes of requests

What a move brings to the requests on a connection is read off the moves alone:
one registers, an answer is read, one fails, its time is up, all are dropped.
`Awaited` says which requests have registered and were not settled since, and
`Answered` which frame was the first to come back for one of them meanwhile.
Nothing here looks into the table of those who wait.
-/

namespace NodeSidecar.Session.Connection

variable {α : Type}

/-- What a move brings to the requests. -/
inductive News where
  /-- A request registers: its stream and its number. -/
  | registered (p : Int × Nat)
  /-- A frame is read that is no event. -/
  | answer (f : Wire.Frame)
  /-- A request finds the connection closed, or cannot be written. -/
  | failure (n : Nat)
  /-- The time of a request is up. -/
  | timeout (n : Nat)
  /-- The connection has ended, and all requests are dropped. -/
  | sweep
  /-- Nothing that concerns requests. -/
  | nothing
  deriving DecidableEq

/-- The news settle a request: a frame on its stream is read, it fails, its time
is up, or it is dropped with the others. -/
def News.settles (p : Int × Nat) : News → Prop
  | .answer f => f.header.stream = p.1
  | .failure n | .timeout n => n = p.2
  | .sweep => True
  | .registered _ | .nothing => False

/-- What a stretch brings to the requests, of a call that had come as far as
`p` and was answered `a`. -/
def news (c : Connection α) (p : Progress (Call α) Wait) (a : Option Answer) : News :=
  match p, a with
  | .fresh .execute, _ => .registered (streamAt c.counter, c.requests)
  | .waiting (.checking n _), some .turn => if c.closed then .failure n else .nothing
  | .waiting (.writing n _), some (.unwritten _) => .failure n
  | .waiting (.awaiting n _), some (.timedOut _) => .timeout n
  | .waiting .reading, some .turn =>
    match Wire.front c.inbox with
    | .frame f _ => if f.header.stream = Wire.eventStream then .nothing else .answer f
    | _ => .nothing
  | .waiting (.clearing _), some .turn => .sweep
  | _, _ => .nothing

/-- What a move brings to the requests. -/
def newsOf (t : Moment α) : News :=
  match t.cause with
  | some (p, a) => news t.before.state p a
  | none => .nothing

/-- A request has registered in these moves, and was not settled since. -/
def Awaited (past : List (Moment α)) (p : Int × Nat) : Prop :=
  ∃ earlier t later, past = earlier ++ t :: later ∧ newsOf t = .registered p ∧
    ∀ u ∈ later, ¬ (newsOf u).settles p

/-- The move at place `k` reads the frame `f` while the request `n` is awaited
on its stream. The request was not settled before, so `f` is the first frame
to come back for it. -/
def Answered (past : List (Moment α)) (k n : Nat) (f : Wire.Frame) : Prop :=
  ∃ t, past[k]? = some t ∧ newsOf t = .answer f ∧
    Awaited (past.take k) (f.header.stream, n)

variable {past : List (Moment α)} {t : Moment α} {p : Int × Nat} {f : Wire.Frame}
variable {k n : Nat}

/-- Who registers has just begun, and gets the next stream and number. -/
theorem news_eq_registered {c : Connection α} {q : Progress (Call α) Wait} {a : Option Answer}
    (h : news c q a = .registered p) :
    q = .fresh .execute ∧ p = (streamAt c.counter, c.requests) := by
  unfold news at h
  split at h
  case h_1 => exact ⟨rfl, (News.registered.inj h).symm⟩
  case h_2 => split at h <;> cases h
  case h_5 =>
    split at h
    · split at h <;> cases h
    · cases h
  all_goals cases h

/-- Who reads an answer finds it at the front of what arrived. -/
theorem news_eq_answer {c : Connection α} {q : Progress (Call α) Wait} {a : Option Answer}
    (h : news c q a = .answer f) :
    q = .waiting .reading ∧ a = some .turn ∧ f.header.stream ≠ Wire.eventStream ∧
      ∃ rest, Wire.front c.inbox = .frame f rest := by
  unfold news at h
  split at h
  case h_2 => split at h <;> cases h
  case h_5 =>
    split at h
    · rename_i g rest hfront
      split at h
      · cases h
      · cases h
        exact ⟨rfl, rfl, ‹_›, rest, hfront⟩
    · cases h
  all_goals cases h

/-- Who drops the requests clears the table. -/
theorem news_eq_sweep {c : Connection α} {q : Progress (Call α) Wait} {a : Option Answer}
    (h : news c q a = .sweep) : ∃ e, q = .waiting (.clearing e) ∧ a = some .turn := by
  unfold news at h
  split at h
  case h_2 => split at h <;> cases h
  case h_5 =>
    split at h
    · split at h <;> cases h
    · cases h
  case h_6 e => exact ⟨e, rfl, rfl⟩
  all_goals cases h

/-! ## What news say of a stretch -/

section Stretch

variable {c c' : Connection α} {q : Progress (Call α) Wait} {a : Option Answer}
variable {turn : Turn Wait Result}

/-- Who registers is in the table then, and has yet to look at the mark of the
end. -/
theorem Passage.of_registered (h : Passage c q a c' turn) (hn : news c q a = .registered p) :
    c' = c.enrol ∧ turn = .wait (.checking p.2 p.1) := by
  obtain ⟨rfl, rfl⟩ := news_eq_registered hn
  cases h with
  | enrols => exact ⟨rfl, rfl⟩
  | comes hk => cases hk

/-- An answer that is read goes to those who wait on its stream, and to nobody
else. -/
theorem Passage.of_answer (h : Passage c q a c' turn) (hn : news c q a = .answer f) :
    q = .waiting .reading ∧ turn = .wait .reading ∧
      ∃ rest, c' = { c with inbox := rest }.settle f.header.stream (some f) := by
  obtain ⟨rfl, rfl, hne, rest, hfront⟩ := news_eq_answer hn
  cases h with
  | hears hfront' hevent | overhears hfront' hevent =>
    obtain ⟨rfl, rfl⟩ := Wire.Front.frame.inj (hfront.symm.trans hfront')
    exact absurd hevent hne
  | answers hfront' =>
    obtain ⟨rfl, rfl⟩ := Wire.Front.frame.inj (hfront.symm.trans hfront')
    exact ⟨rfl, rfl, rest, rfl⟩
  | endsReading hend => exact absurd hfront (hend f rest)

theorem Passage.of_sweep (h : Passage c q a c' turn) (hn : news c q a = .sweep) :
    c' = c.clear ∧ ∃ e, q = .waiting (.clearing e) := by
  obtain ⟨e, rfl, rfl⟩ := news_eq_sweep hn
  cases h with
  | sweeps => exact ⟨rfl, e, rfl⟩

end Stretch

/-! ## One move more -/

theorem newsOf_eq {i : Nat} {q : Progress (Call α) Wait} {a : Option Answer}
    {turn : Turn Wait Result} (h : Passes t i q a turn) :
    newsOf t = news t.before.state q a := by
  rw [newsOf, h.cause]

theorem newsOf_of_quiet (h : t.Quiet) : newsOf t = .nothing := by
  rw [newsOf, h.cause]

@[simp] theorem not_awaited_nil : ¬ Awaited ([] : List (Moment α)) p := by
  rintro ⟨earlier, t, later, hpast, -⟩
  simp at hpast

/-- **One move more**: a request is awaited if it registers in that move, or
was awaited and is not settled by it. -/
theorem awaited_concat :
    Awaited (past ++ [t]) p ↔
      newsOf t = .registered p ∨ (Awaited past p ∧ ¬ (newsOf t).settles p) := by
  constructor
  · rintro ⟨earlier, u, later, hpast, hu, hlater⟩
    rcases concat_eq_append_cons hpast with ⟨-, rfl, -⟩ | ⟨later, rfl, rfl⟩
    · exact .inl hu
    · refine .inr ⟨⟨earlier, u, later, rfl, hu, fun x hx => ?_⟩, hlater t (by simp)⟩
      exact hlater x (List.mem_append_left _ hx)
  · rintro (hreg | ⟨⟨earlier, u, later, rfl, hu, hlater⟩, hnot⟩)
    · exact ⟨past, t, [], rfl, hreg, by simp⟩
    · refine ⟨earlier, u, later ++ [t], by simp, hu, fun x hx => ?_⟩
      rcases List.mem_append.1 hx with hx | hx
      · exact hlater x hx
      · obtain rfl : x = t := List.mem_singleton.1 hx
        exact hnot

@[simp] theorem not_answered_nil : ¬ Answered ([] : List (Moment α)) k n f := by
  rintro ⟨t, ht, -⟩
  simp at ht

theorem Answered.lt_length (h : Answered past k n f) : k < past.length := by
  obtain ⟨t, ht, -⟩ := h
  exact (List.getElem?_eq_some_iff.1 ht).1

/-- What has come of a request by some place is what came before it. -/
theorem answered_take {b : Nat} :
    Answered (past.take b) k n f ↔ k < b ∧ Answered past k n f := by
  constructor
  · intro h
    have hk := h.lt_length
    rw [List.length_take] at hk
    have hkb : k < b := by omega
    obtain ⟨t, ht, hnews, hawaited⟩ := h
    rw [List.getElem?_take_of_lt hkb] at ht
    rw [List.take_take, Nat.min_eq_left (Nat.le_of_lt hkb)] at hawaited
    exact ⟨hkb, t, ht, hnews, hawaited⟩
  · rintro ⟨hkb, t, ht, hnews, hawaited⟩
    refine ⟨t, ?_, hnews, ?_⟩
    · rwa [List.getElem?_take_of_lt hkb]
    · rwa [List.take_take, Nat.min_eq_left (Nat.le_of_lt hkb)]

/-- One move more: a request is answered by a frame that is read in that move,
if it is awaited on its stream then, or was answered before. -/
theorem answered_concat :
    (∃ k, Answered (past ++ [t]) k n f) ↔
      (∃ k, Answered past k n f) ∨
        (newsOf t = .answer f ∧ Awaited past (f.header.stream, n)) := by
  constructor
  · rintro ⟨k, h⟩
    -- The frame was read before this move, or in it.
    by_cases hk : k < past.length
    · refine .inl ⟨k, ?_⟩
      have hpast := answered_take.2 ⟨hk, h⟩
      rwa [List.take_left] at hpast
    · have hlt := h.lt_length
      rw [List.length_append, List.length_singleton] at hlt
      obtain rfl : k = past.length := by omega
      obtain ⟨u, hu, hnews, hawaited⟩ := h
      obtain rfl : t = u := by simpa using hu
      rw [List.take_left] at hawaited
      exact .inr ⟨hnews, hawaited⟩
  · rintro (⟨k, h⟩ | ⟨hnews, hawaited⟩)
    · refine ⟨k, (answered_take (b := past.length)).1 ?_ |>.2⟩
      rwa [List.take_left]
    · refine ⟨past.length, t, by simp, hnews, ?_⟩
      rwa [List.take_left]

end NodeSidecar.Session.Connection
