import NodeSidecar.Proofs.Session.News
/-!
# Session — answers reach their own requests

As long as no request registers on the stream of one that is outstanding
(`Apart`), the table of those who wait is the table of awaited requests, and
what has come of a request is the first frame that came back for it:
`Ledger`, which every move keeps. So no frame comes to two requests and no
request gets two frames, in whatever order they arrive.
-/

namespace NodeSidecar.Session.Connection

variable {α : Type} {c c' : Connection α} {p : Progress (Call α) Wait} {a : Option Answer}
variable {turn : Turn Wait Result} {entry : Nat → Option (Int × Nat)} {id n : Nat}
variable {q r : Int × Nat} {e : Option (Int × Nat)} {f : Wire.Frame} {o : Option Wire.Frame}
variable {news' : News}
variable {t : Moment α} {peer : Net.Endpoint} {past : List (Moment α)} {run : Calls α}

/-! ## What news do to the table -/

/-- **What news do to the books** of `c`, when they come with a stretch of a
call whose entry is `e`. -/
inductive Booking (c : Connection α) (e : Option (Int × Nat)) : News → Connection α → Prop
  /-- Nothing is booked. -/
  | same {c' : Connection α} : SameBooks c c' → Booking c e .nothing c'
  /-- A request is put in. -/
  | registers {c' : Connection α} : SameBooks c.enrol c' →
      Booking c e (.registered (streamAt c.counter, c.requests)) c'
  /-- A frame goes to who waits on its stream. -/
  | answers {c' : Connection α} {f : Wire.Frame} :
      SameBooks (c.settle f.header.stream (some f)) c' → Booking c e (.answer f) c'
  /-- A request that fails is taken out. -/
  | fails {c' : Connection α} {n : Nat} {s : Int} : e = some (s, n) →
      SameBooks (c.settle s none) c' → Booking c e (.failure n) c'
  /-- A request whose time is up is taken out. -/
  | timesOut {c' : Connection α} {n : Nat} {s : Int} : e = some (s, n) →
      SameBooks (c.settle s none) c' → Booking c e (.timeout n) c'
  /-- All requests are taken out. -/
  | sweeps {c' : Connection α} : SameBooks c.clear c' → Booking c e .sweep c'

/-- A stretch books what its news say. -/
theorem Passage.booking (h : Passage c p a c' turn) :
    Booking c (p.wait?.bind Wait.entry?) (news c p a) c' := by
  cases h with
  | enrols => exact .registers ⟨rfl, rfl, rfl⟩
  | @comes k octets hungUp hk =>
    have hnews : news c (.fresh k) none = .nothing := by
      cases k <;> first | rfl | cases hk
    rw [hnews]
    exact .same ⟨rfl, rfl, rfl⟩
  | @refused n s hclosed =>
    have hnews : news c (.waiting (.checking n s)) (some .turn) = .failure n := by
      simp [news, hclosed]
    rw [hnews]
    exact .fails rfl ⟨rfl, rfl, rfl⟩
  | @passes n s hopen =>
    have hnews : news c (.waiting (.checking n s)) (some .turn) = .nothing := by
      simp [news, hopen]
    rw [hnews]
    exact .same ⟨rfl, rfl, rfl⟩
  | unwritten => exact .fails rfl ⟨rfl, rfl, rfl⟩
  | timesOut => exact .timesOut rfl ⟨rfl, rfl, rfl⟩
  | hears hfront hevent =>
    have hnews : news c (.waiting .reading) (some .turn) = .nothing := by
      simp [news, hfront, hevent]
    rw [hnews]
    exact .same ⟨rfl, rfl, rfl⟩
  | overhears hfront hevent =>
    have hnews : news c (.waiting .reading) (some .turn) = .nothing := by
      simp [news, hfront, hevent]
    rw [hnews]
    exact .same ⟨rfl, rfl, rfl⟩
  | @answers f rest hfront hevent =>
    have hnews : news c (.waiting .reading) (some .turn) = .answer f := by
      simp [news, hfront, hevent]
    rw [hnews]
    exact .answers ⟨rfl, rfl, rfl⟩
  | endsReading hend =>
    have hnews : news c (.waiting .reading) (some .turn) = .nothing := by
      rcases hfront : Wire.front c.inbox with ⟨f, rest⟩ | - | flaw
      · exact absurd hfront (hend f rest)
      · simp [news, hfront]
      · simp [news, hfront]
    rw [hnews]
    exact .same ⟨rfl, rfl, rfl⟩
  | sweeps => exact .sweeps ⟨rfl, rfl, rfl⟩
  | _ => exact .same ⟨rfl, rfl, rfl⟩

/-- What has come of a request stays. -/
theorem Booking.outcome?_eq_some (h : Booking c e news' c') (ho : c.outcome? n = some o) :
    c'.outcome? n = some o := by
  cases h with
  | same hc => rw [hc.outcome?, ho]
  | registers hc => rw [hc.outcome?, outcome?_enrol, ho, Option.some_or]
  | answers hc => rw [hc.outcome?, outcome?_settle, ho, Option.some_or]
  | fails _ hc => rw [hc.outcome?, outcome?_settle, ho, Option.some_or]
  | timesOut _ hc => rw [hc.outcome?, outcome?_settle, ho, Option.some_or]
  | sweeps hc => rw [hc.outcome?, outcome?_clear, ho, Option.some_or]

/-- **A frame comes to a request in one way**: it is read while the request
waits on its stream. -/
theorem Booking.outcome?_eq_frame (h : Booking c e news' c') (hb : Booked c entry) :
    c'.outcome? n = some (some f) ↔
      c.outcome? n = some (some f) ∨
        (news' = .answer f ∧ (f.header.stream, n) ∈ c.pending) := by
  cases h with
  | same hc => simp [hc.outcome?]
  | registers hc => simp [hc.outcome?, outcome?_enrol]
  | @answers _ f' hc =>
    rw [hc.outcome?, outcome?_settle]
    by_cases hmem : (f'.header.stream, n) ∈ c.pending
    · -- Nothing has come of a request in the table, so the frame is the first.
      have hnone : c.outcome? n = none := hb.waits _ hmem
      rw [hnone, if_pos hmem]
      constructor
      · intro h
        obtain rfl : f' = f := by simpa using h
        exact .inr ⟨rfl, hmem⟩
      · rintro (h | ⟨h, -⟩)
        · cases h
        · cases h
          rfl
    · rw [if_neg hmem, Option.or_none]
      refine ⟨.inl, ?_⟩
      rintro (h | ⟨h, hmem'⟩)
      · exact h
      · cases h
        exact absurd hmem' hmem
  | fails _ hc => simp [hc.outcome?, outcome?_settle]
  | timesOut _ hc => simp [hc.outcome?, outcome?_settle]
  | sweeps hc => simp [hc.outcome?, outcome?_clear]

/-- **The table changes as the news say**, if nobody waits on the stream that a
request registers on, and nobody else on the stream of one that is taken
out. -/
theorem Booking.mem_pending (h : Booking c e news' c')
    (hfree : ∀ p, news' = .registered p → ∀ q ∈ c.pending, q.1 ≠ p.1)
    (hown : ∀ p, e = some p → (news' = .failure p.2 ∨ news' = .timeout p.2) →
      ∀ q ∈ c.pending, q.1 = p.1 ↔ p.2 = q.2) :
    q ∈ c'.pending ↔ news' = .registered q ∨ (q ∈ c.pending ∧ ¬ news'.settles q) := by
  cases h with
  | same hc => simp [hc.pending, News.settles]
  | registers hc =>
    have hne := hfree _ rfl q
    rw [hc.pending, mem_pending_enrol]
    constructor
    · rintro (⟨hq, -⟩ | rfl)
      · exact .inr ⟨hq, nofun⟩
      · exact .inl rfl
    · rintro (h | ⟨hq, -⟩)
      · cases h
        exact .inr rfl
      · exact .inl ⟨hq, hne hq⟩
  | answers hc =>
    rw [hc.pending, mem_pending_settle]
    simp [News.settles, eq_comm]
  | fails he hc =>
    have hiff := hown _ he (.inl rfl) q
    rw [hc.pending, mem_pending_settle]
    simp only [News.settles, reduceCtorEq, false_or]
    exact and_congr_right fun hq => not_congr (hiff hq)
  | timesOut he hc =>
    have hiff := hown _ he (.inr rfl) q
    rw [hc.pending, mem_pending_settle]
    simp only [News.settles, reduceCtorEq, false_or]
    exact and_congr_right fun hq => not_congr (hiff hq)
  | sweeps hc => simp [hc.pending, News.settles]

/-! ## Outstanding requests -/

/-- A request is outstanding while its call has more to do than to take what
has come of it. -/
def Outstanding (run : Calls α) (p : Int × Nat) : Prop :=
  ∃ i w, run.waiting i = some w ∧ w.entry? = some p ∧
    (w = .awaiting p.2 p.1 → run.state.outcome? p.2 = none)

/-- **No request registers on the stream of one that is outstanding.** -/
def Apart (past : List (Moment α)) : Prop :=
  ∀ t ∈ past, ∀ p q, newsOf t = .registered p → Outstanding t.before q → q.1 ≠ p.1

theorem Apart.of_concat (h : Apart (past ++ [t])) : Apart past := fun u hu =>
  h u (List.mem_append_left _ hu)

theorem Apart.take (h : Apart past) (k : Nat) : Apart (past.take k) := fun u hu =>
  h u (List.mem_of_mem_take hu)

/-- No two requests that are outstanding have the same stream. -/
def Distinct (run : Calls α) : Prop :=
  ∀ q r, Outstanding run q → Outstanding run r → q.1 = r.1 → q = r

/-- A request that waits in the table is outstanding. -/
theorem outstanding_of_pending (hb : Booked run.state run.entry) (hq : q ∈ run.state.pending) :
    Outstanding run q := by
  obtain ⟨i, hi⟩ := hb.owner q hq
  obtain ⟨w, hw, hentry⟩ := Option.bind_eq_some_iff.1 hi
  exact ⟨i, w, hw, hentry, fun _ => hb.waits q hq⟩

theorem Outstanding.exists_entry (h : Outstanding run q) : ∃ i, run.entry i = some q := by
  obtain ⟨i, w, hw, hentry, -⟩ := h
  exact ⟨i, Option.bind_eq_some_iff.2 ⟨w, hw, hentry⟩⟩

/-- Nobody else waits on the stream of a request that is outstanding. -/
theorem Distinct.stream_iff (hd : Distinct run) (hb : Booked run.state run.entry)
    (hr : Outstanding run r) (hq : q ∈ run.state.pending) : q.1 = r.1 ↔ r.2 = q.2 := by
  constructor
  · intro hs
    rw [hd q r (outstanding_of_pending hb hq) hr hs]
  · intro hn
    obtain ⟨i, hi⟩ := hr.exists_entry
    rw [hb.eq_of_number hq hi hn.symm]

theorem Passes.booking (h : Passes t id p a turn) :
    Booking t.before.state (t.before.entry id) (newsOf t) t.after.state := by
  rw [newsOf_eq h, h.entry_before]
  exact h.passage.booking

/-- A call whose request fails or whose time is up is not just about to take what
has come of it. -/
theorem Passes.outstanding_of_failure (h : Passes t id p a turn)
    (he : t.before.entry id = some q)
    (hn : newsOf t = .failure q.2 ∨ newsOf t = .timeout q.2) : Outstanding t.before q := by
  have hpass := h.passage
  rw [h.entry_before] at he
  rw [newsOf_eq h] at hn
  -- Only one who waits for its outcome may not be outstanding any more.
  obtain ⟨w, hw, hentry⟩ := Option.bind_eq_some_iff.1 he
  refine ⟨id, w, h.waiting_before.trans hw, hentry, ?_⟩
  rintro rfl
  generalize t.after.state = c' at hpass
  cases hpass with
  | collects | givesUp => simp [news] at hn
  | timesOut hnone =>
    obtain rfl : _ = q.2 := by simpa [news] using hn
    exact hnone
  | _ => cases hw

/-- A request is outstanding that was so before, or that registers in this
move. -/
theorem Passes.outstanding (h : Passes t id p a turn) (ho : Outstanding t.after q) :
    newsOf t = .registered q ∨ Outstanding t.before q := by
  obtain ⟨i, w, hw, hentry, hnone⟩ := ho
  -- What had come of it before would have come of it now.
  have hbefore (hn : t.after.state.outcome? q.2 = none) : t.before.state.outcome? q.2 = none := by
    rcases ho : t.before.state.outcome? q.2 with - | o
    · rfl
    · cases hn.symm.trans (h.booking.outcome?_eq_some ho)
  by_cases hi : i = id
  · subst hi
    rw [h.waiting_self] at hw
    have hpass := h.passage
    rw [newsOf_eq h]
    generalize t.after.state = c' at hpass
    cases hpass with
    | enrols =>
      obtain rfl := Option.some.inj hw
      obtain rfl := Option.some.inj hentry
      exact .inl rfl
    | passes =>
      obtain rfl := Option.some.inj hw
      exact .inr ⟨i, _, h.waiting_before, hentry, nofun⟩
    | writes =>
      obtain rfl := Option.some.inj hw
      exact .inr ⟨i, _, h.waiting_before, hentry, nofun⟩
    | sweeps => cases (Ender.entry?_of_next hw).symm.trans hentry
    | _ => cases hw <;> cases hentry
  · rw [h.waiting_of_ne hi] at hw
    exact .inr ⟨i, w, hw, hentry, fun hw' => hbefore (hnone hw')⟩

/-- **Outstanding requests keep to streams of their own.** -/
theorem distinct (h : History peer past run) (hapart : Apart past) : Distinct run := by
  revert hapart
  refine history_induction (I := fun past run => Apart past → Distinct run) h ?_
    (fun past t _ ih hq hapart => ?_) fun past t id p a turn _ ih hp hapart => ?_
  · rintro - q r ⟨i, w, hw, -⟩
    rw [waiting_fresh] at hw
    cases hw
  · have hbefore : Distinct t.before := ih hapart.of_concat
    have hout (q : Int × Nat) (ho : Outstanding t.after q) : Outstanding t.before q := by
      rwa [Outstanding, hq.waiting, hq.state] at ho
    exact fun q r hqo hro => hbefore q r (hout q hqo) (hout r hro)
  · have hbefore : Distinct t.before := ih hapart.of_concat
    have hfree := hapart t (by simp)
    intro q r hqo hro hqr
    -- At most one of the two is new, and that one keeps off the other's stream.
    rcases hp.outstanding hqo with hq | hq <;> rcases hp.outstanding hro with hr | hr
    · exact News.registered.inj (hq.symm.trans hr)
    · exact absurd hqr.symm (hfree q r hq hr)
    · exact absurd hqr (hfree r q hr hq)
    · exact hbefore q r hq hr hqr

/-! ## The ledger -/

/-- **The table holds the awaited requests, and what has come of a request is
the frame that answered it.** -/
structure Ledger (past : List (Moment α)) (run : Calls α) : Prop where
  /-- The table holds the awaited requests. -/
  awaited : ∀ p, p ∈ run.state.pending ↔ Awaited past p
  /-- A frame has come of a request if it answered it. -/
  answered : ∀ n f, run.state.outcome? n = some (some f) ↔ ∃ k, Answered past k n f

theorem Ledger.quiet (h : Ledger past t.before) (hq : t.Quiet) : Ledger (past ++ [t]) t.after where
  awaited p := by
    rw [awaited_concat, newsOf_of_quiet hq, hq.state, h.awaited]
    simp [News.settles]
  answered n f := by
    rw [answered_concat, newsOf_of_quiet hq, hq.state, h.answered]
    simp

theorem Ledger.passes (h : Ledger past t.before) (hp : Passes t id p a turn)
    (hb : Booked t.before.state t.before.entry) (hd : Distinct t.before)
    (hfree : ∀ p q, newsOf t = .registered p → Outstanding t.before q → q.1 ≠ p.1) :
    Ledger (past ++ [t]) t.after where
  awaited q := by
    rw [awaited_concat, ← h.awaited]
    refine hp.booking.mem_pending (fun r hr q hq => ?_) fun r hr hn q hq => ?_
    · exact hfree r q hr (outstanding_of_pending hb hq)
    · exact hd.stream_iff hb (hp.outstanding_of_failure hr hn) hq
  answered n f := by
    rw [answered_concat, ← h.answered, ← h.awaited]
    exact hp.booking.outcome?_eq_frame hb

/-- **The ledger is kept in every run** in which requests keep to streams of
their own. -/
theorem ledger (h : History peer past run) (hapart : Apart past) : Ledger past run := by
  revert hapart
  refine history_induction (I := fun past run => Apart past → Ledger past run) h
    (fun _ => ⟨fun p => ?_, fun n f => ?_⟩)
    (fun past t _ ih hq hapart => ?_) fun past t id p a turn hx ih hp hapart => ?_
  · simp [fresh, Run.submit, Run.idle, opened]
  · simp [fresh, Run.submit, Run.idle, opened, outcome?]
  · exact (ih hapart.of_concat).quiet hq
  · have hearlier : Apart past := hapart.of_concat
    exact (ih hearlier).passes hp (booked hx) (distinct hx hearlier) (hapart t (by simp))

end NodeSidecar.Session.Connection
