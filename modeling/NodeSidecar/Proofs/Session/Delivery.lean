import NodeSidecar.Proofs.Session.Streams
/-!
# Session — what calls result in

The call that made a request keeps it until it is over (`request_kept`), and
results in the rows of the frame that answered it, or in the news that the
connection is of no use. With the ledger this says what `answers_reach_requests`
says: answers reach the requests they belong to, and no other.
-/

namespace NodeSidecar.Session.Connection

variable {α : Type} {c c' : Connection α} {p : Progress (Call α) Wait} {a : Option Answer}
variable {turn : Turn Wait Result} {id i k k' n n' : Nat} {q : Int × Nat} {s : Int}
variable {f f' : Wire.Frame} {t u : Moment α} {peer : Net.Endpoint}
variable {past earlier later : List (Moment α)} {run : Calls α}

/-! ## The peer -/

theorem Passage.peer_eq (h : Passage c p a c' turn) : c'.peer = c.peer := by
  cases h <;> rfl

/-- The peer of a connection does not change. -/
theorem peer_eq (h : History peer past run) : run.state.peer = peer := by
  refine history_induction (I := fun _ run => run.state.peer = peer) h rfl
    (fun past t _ ih hq => ?_) fun past t id p a turn _ ih hp => ?_
  · rw [hq.state, ih]
  · rw [hp.passage.peer_eq, ih]

/-! ## The call of a request -/

/-- A call that has made a request keeps it, or is over. -/
theorem Passage.entry_kept (h : Passage c p a c' turn) (he : p.wait?.bind Wait.entry? = some q) :
    turn.next = none ∨ turn.next.bind Wait.entry? = some q := by
  cases h with
  | refused | unwritten | collects | givesUp | timesOut => exact .inl rfl
  | passes | writes => exact .inr he
  | _ => cases he

/-- A call that registers a request has made it then. -/
theorem Passage.entry_of_registered (h : Passage c p a c' turn)
    (hn : news c p a = .registered q) : turn.next.bind Wait.entry? = some q := by
  obtain ⟨-, rfl⟩ := h.of_registered hn
  rfl

/-- **The call that registered a request keeps it until it is over.** -/
theorem request_kept (h : History peer earlier t.before)
    (hm : t.before.apply system t.move = some t.after) (hreg : newsOf t = .registered q)
    (hcaller : t.caller = some i) (hlater : Execution system t.after later run) :
    run.entry i = some q ∨ run.progress i = none := by
  have hbefore : t.before.Bounded := h.bounded bounded_fresh
  have hafter : t.after.Bounded := hbefore.apply hm
  have hbegun : t.after.Begun i := Run.begun_of_caller hbefore hm hcaller
  suffices hkept : run.entry i = some q ∨ run.waiting i = none from
    hkept.imp_right (hlater.begun_of_begun hafter hbegun).progress_eq_none
  refine execution_induction (I := fun _ run => run.entry i = some q ∨ run.waiting i = none)
    hlater hafter ?_ (fun past u _ ih hq => ?_) fun past u id p a turn hx ih hp => ?_
  · rcases quiet_or_passes hbefore hm with hq | ⟨j, p, a, turn, hp⟩
    · cases (newsOf_of_quiet hq).symm.trans hreg
    · obtain rfl : j = i := Option.some.inj (hp.caller.symm.trans hcaller)
      rw [newsOf_eq hp] at hreg
      refine .inl ?_
      rw [hp.entry_after, Function.update_self]
      exact hp.passage.entry_of_registered hreg
  · rwa [Run.entry, hq.waiting]
  · by_cases hid : i = id
    · subst hid
      rcases ih with hentry | hnone
      · rw [hp.entry_before] at hentry
        rw [hp.entry_after, hp.waiting_self, Function.update_self]
        exact (hp.passage.entry_kept hentry).symm
      · -- A call that is over does not go on.
        have hover := (hx.begun_of_begun hafter hbegun).progress_eq_none hnone
        cases hover.symm.trans hp.progress
    · rw [hp.entry_after, hp.waiting_of_ne hid, Function.update_of_ne hid]
      exact ih

/-- The connection to the peer is of no use. -/
def Result.IsUnavailable (peer : Net.Endpoint) (r : Result) : Prop :=
  ∃ reason, r = .rows (.error (.sessionUnavailable peer.display reason))

/-- **How a call goes on that has made a request**: it takes what has come of
the request, if it waits for that, and else goes on or fails. -/
theorem Passage.result_of_entry (h : Passage c p a c' turn)
    (he : p.wait?.bind Wait.entry? = some (s, n)) :
    (∃ f, c.outcome? n = some (some f) ∧ turn.result = some (.rows f.rows)) ∨
    (∃ r, turn.result = some r ∧ r.IsUnavailable c.peer ∧
      (p.wait? = some (.awaiting n s) → ∀ f, c.outcome? n ≠ some (some f))) ∨
    (turn.result = none ∧ p.wait? ≠ some (.awaiting n s)) := by
  cases h with
  | refused => exact .inr (.inl ⟨_, rfl, ⟨_, rfl⟩, nofun⟩)
  | unwritten => exact .inr (.inl ⟨_, rfl, ⟨_, rfl⟩, nofun⟩)
  | passes | writes => exact .inr (.inr ⟨rfl, nofun⟩)
  | collects ho =>
    obtain ⟨rfl, rfl⟩ := Prod.mk.inj (Option.some.inj he)
    exact .inl ⟨_, ho, rfl⟩
  | givesUp ho =>
    obtain ⟨rfl, rfl⟩ := Prod.mk.inj (Option.some.inj he)
    refine .inr (.inl ⟨_, rfl, ⟨_, rfl⟩, fun _ f hf => ?_⟩)
    cases ho.symm.trans hf
  | timesOut ho =>
    obtain ⟨rfl, rfl⟩ := Prod.mk.inj (Option.some.inj he)
    refine .inr (.inl ⟨_, rfl, ⟨_, rfl⟩, fun _ f hf => ?_⟩)
    cases ho.symm.trans hf
  | _ => cases he

/-! ## Frames -/

theorem settle_eq_self {o : Option Wire.Frame} (h : ∀ n, (s, n) ∉ c.pending) :
    c.settle s o = c := by
  have hnone : c.pending.filter (·.1 = s) = [] := by
    refine List.filter_eq_nil_iff.2 fun p hp hs => ?_
    obtain rfl : p.1 = s := by simpa using hs
    exact h p.2 hp
  have hall : c.pending.filter (·.1 ≠ s) = c.pending := by
    refine List.filter_eq_self.2 fun p hp => ?_
    have hne : p.1 ≠ s := by
      rintro rfl
      exact h p.2 hp
    simpa using hne
  rw [settle, hnone, hall]
  simp

/-- **An answer that nobody waits for changes nothing** but what is left to
read. -/
theorem Passes.of_unmatched (h : Passes t id p a turn) (hn : newsOf t = .answer f)
    (hnone : ∀ n, (f.header.stream, n) ∉ t.before.state.pending) :
    t.after.waiting = t.before.waiting ∧
      ∃ rest, t.after.state = { t.before.state with inbox := rest } := by
  rw [newsOf_eq h] at hn
  obtain ⟨rfl, rfl, rest, hc⟩ := h.passage.of_answer hn
  refine ⟨?_, rest, hc.trans (settle_eq_self hnone)⟩
  have hsame : t.before.waiting id = some .reading := h.waiting_before
  rw [h.waiting, Turn.next, ← hsame, Function.update_eq_self]

/-- **A request is answered once, and a frame answers one request.** -/
theorem answered_unique (h : History peer past run) (hapart : Apart past)
    (hk : Answered past k n f) (hk' : Answered past k' n' f') : n = n' ↔ k = k' := by
  have hnot (k k' : Nat) (f f' : Wire.Frame) (hk : Answered past k n f)
      (hk' : Answered past k' n f') : ¬ k < k' := by
    -- What has been answered waits no more, so the later frame finds nobody.
    intro hlt
    obtain ⟨t, ht, -, hawaited⟩ := hk'
    obtain ⟨hearlier, -, -⟩ := h.of_getElem? ht
    have hledger := ledger hearlier (hapart.take k')
    have hmem := (hledger.awaited _).2 hawaited
    have hsome := (hledger.answered n f).2 ⟨k, answered_take.2 ⟨hlt, hk⟩⟩
    have hnone := (booked hearlier).waits _ hmem
    cases hsome.symm.trans hnone
  constructor
  · rintro rfl
    have hle := hnot k k' f f' hk hk'
    have hge := hnot k' k f' f hk' hk
    omega
  · rintro rfl
    obtain ⟨t, ht, hnews, hawaited⟩ := hk
    obtain ⟨t', ht', hnews', hawaited'⟩ := hk'
    obtain rfl : t = t' := Option.some.inj (ht.symm.trans ht')
    obtain rfl : f = f' := News.answer.inj (hnews.symm.trans hnews')
    obtain ⟨hearlier, -, -⟩ := h.of_getElem? ht
    have hledger := ledger hearlier (hapart.take k)
    have hmem := (hledger.awaited _).2 hawaited
    have hmem' := (hledger.awaited _).2 hawaited'
    exact congrArg Prod.snd ((booked hearlier).single _ hmem _ hmem' rfl)

/-- **A call that made a request results in what came of it**: in the rows of the
frame that answered it, or in the news that the connection is of no use. -/
theorem result_of_request {j k : Nat} (h : History peer past run) (hapart : Apart past)
    (ht : past[j]? = some t) (hu : past[k]? = some u) (hjk : j < k)
    (hreg : newsOf t = .registered (s, n)) (hti : t.caller = some i) (hui : u.caller = some i) :
    (∃ l f, l < k ∧ Answered past l n f ∧ u.result system = some (.rows f.rows)) ∨
    (∃ r, u.result system = some r ∧ r.IsUnavailable peer ∧
      (u.before.waiting i = some (.awaiting n s) → ∀ l f, l < k → ¬ Answered past l n f)) ∨
    (u.result system = none ∧ u.before.waiting i ≠ some (.awaiting n s)) := by
  obtain ⟨hearlier, hm, -⟩ := h.of_getElem? hu
  have ht' : (past.take k)[j]? = some t := by rwa [List.getElem?_take_of_lt hjk]
  obtain ⟨hbefore, hstart, hsince⟩ := hearlier.of_getElem? ht'
  have hkept := request_kept hbefore hstart hreg hti hsince
  have hanswered := (ledger hearlier (hapart.take k)).answered n
  rcases quiet_or_passes (hearlier.bounded bounded_fresh) hm with hq | ⟨id, p, a, turn, hp⟩
  · cases hq.caller.symm.trans hui
  · obtain rfl : id = i := Option.some.inj (hp.caller.symm.trans hui)
    -- It goes on in this move, so it is not over and still has its request.
    have hentry : u.before.entry id = some (s, n) := by
      refine hkept.resolve_right fun hnone => ?_
      cases hnone.symm.trans hp.progress
    rw [hp.entry_before] at hentry
    rw [hp.result, hp.waiting_before]
    rcases hp.passage.result_of_entry hentry with
      ⟨f, hf, hresult⟩ | ⟨r, hresult, hr, hnot⟩ | hgoes
    · obtain ⟨l, hl⟩ := (hanswered f).1 hf
      obtain ⟨hlk, hpast⟩ := answered_take.1 hl
      exact .inl ⟨l, f, hlk, hpast, hresult⟩
    · refine .inr (.inl ⟨r, hresult, ?_, fun hw l f hlk hpast => ?_⟩)
      · rwa [peer_eq hearlier] at hr
      · exact hnot hw f ((hanswered f).2 ⟨l, answered_take.2 ⟨hlk, hpast⟩⟩)
    · exact .inr (.inr hgoes)

/-! ## All together -/

/-- **Answers reach exactly their own requests**, as long as no request
registers on the stream of one that is outstanding. The table holds the
requests that are awaited. What comes of a request is the frame that answered
it, one frame for a request and one request for a frame. An answer that
nobody waits for changes nothing. And the call that made a request results in
the rows of the frame that answered it, or else is told that the connection
is of no use. -/
theorem answers_reach_requests (h : History peer past run) (hapart : Apart past) :
    (∀ p, p ∈ run.state.pending ↔ Awaited past p) ∧
    (∀ n f, run.state.outcome? n = some (some f) ↔ ∃ k, Answered past k n f) ∧
    (∀ k k' n n' f f', Answered past k n f → Answered past k' n' f' → (n = n' ↔ k = k')) ∧
    (∀ k t f, past[k]? = some t → newsOf t = .answer f →
      (∀ n, ¬ Awaited (past.take k) (f.header.stream, n)) →
      t.after.waiting = t.before.waiting ∧
        ∃ rest, t.after.state = { t.before.state with inbox := rest }) ∧
    ∀ j k t u i s n, past[j]? = some t → past[k]? = some u → j < k →
      newsOf t = .registered (s, n) → t.caller = some i → u.caller = some i →
      (∃ l f, l < k ∧ Answered past l n f ∧ u.result system = some (.rows f.rows)) ∨
      (∃ r, u.result system = some r ∧ r.IsUnavailable peer ∧
        (u.before.waiting i = some (.awaiting n s) → ∀ l f, l < k → ¬ Answered past l n f)) ∨
      (u.result system = none ∧ u.before.waiting i ≠ some (.awaiting n s)) := by
  have hledger := ledger h hapart
  refine ⟨hledger.awaited, hledger.answered, fun k k' n n' f f' => answered_unique h hapart,
    fun k t f ht hn hnone => ?_, fun j k t u i s n => result_of_request h hapart⟩
  obtain ⟨hearlier, hm, -⟩ := h.of_getElem? ht
  have hnobody (n : Nat) : (f.header.stream, n) ∉ t.before.state.pending := fun hmem =>
    hnone n (((ledger hearlier (hapart.take k)).awaited _).1 hmem)
  rcases quiet_or_passes (hearlier.bounded bounded_fresh) hm with hq | ⟨id, p, a, turn, hp⟩
  · cases (newsOf_of_quiet hq).symm.trans hn
  · exact hp.of_unmatched hn hnobody

/-- A peer for runs. -/
def loopback : Net.Endpoint :=
  ⟨.v4 127 0 0 1, 9042, 0⟩

/-- An answer without rows. -/
def voidFrame (stream : Int) : Wire.Frame :=
  ⟨⟨0x84, 0, stream, .result, 4⟩, [0, 0, 0, 1]⟩

/-- Its octets, on one of the first streams. -/
def voidOn (stream : UInt8) : Text.Octets :=
  [0x84, 0, 0, stream, 8, 0, 0, 0, 4, 0, 0, 0, 1]

/-- Two requests are written. Their answers arrive the other way round, one of
them twice. -/
def crossedAnswers : List (Move (Call Unit) Answer) :=
  [.submit .execute, .submit .execute, .start 0, .start 1, .start 2,
    .resume 1 .turn, .resume 2 .turn, .resume 1 .turn, .resume 2 .turn,
    .submit (.arrive (voidOn 2 ++ voidOn 1 ++ voidOn 2)), .start 3,
    .resume 0 .turn, .resume 0 .turn, .resume 0 .turn, .resume 1 .turn, .resume 2 .turn]

/-- Answers that arrive the other way round reach their requests, and the one
that comes again makes no call go on. -/
theorem crossed_answers_reach_requests : ∃ (past : List (Moment Unit)) (run : Calls Unit)
    (k k' : Nat) (t : Moment Unit), History loopback past run ∧ Apart past ∧
    Answered past k 0 (voidFrame 1) ∧ Answered past k' 1 (voidFrame 2) ∧ k ≠ k' ∧
    past[13]? = some t ∧ newsOf t = .answer (voidFrame 2) ∧
    t.after.waiting = t.before.waiting := by
  obtain ⟨run, hrun, hrequests, hfirst, hsecond, t, ht, hnews, htable⟩ :
      ∃ run, (fresh loopback).applyAll system crossedAnswers = some run ∧
      run.state.requests = 2 ∧ run.state.outcome? 0 = some (some (voidFrame 1)) ∧
      run.state.outcome? 1 = some (some (voidFrame 2)) ∧
      ∃ t, ((fresh loopback).transitions system crossedAnswers)[13]? = some t ∧
      newsOf t = .answer (voidFrame 2) ∧ t.before.state.pending = [] :=
    ⟨_, rfl, rfl, by decide +kernel, by decide +kernel, _, rfl, by decide +kernel,
      by decide +kernel⟩
  have hpast := execution_of_applyAll hrun
  generalize (fresh loopback).transitions system crossedAnswers = past at hpast ht
  have hapart : Apart past := apart_of_few hpast (by rw [hrequests]; decide)
  obtain ⟨-, hanswered, hunique, hunmatched, -⟩ := answers_reach_requests hpast hapart
  obtain ⟨k, hk⟩ := (hanswered 0 (voidFrame 1)).1 hfirst
  obtain ⟨k', hk'⟩ := (hanswered 1 (voidFrame 2)).1 hsecond
  have hne : k ≠ k' := fun h => absurd ((hunique k k' 0 1 _ _ hk hk').2 h) (by decide)
  -- When the third answer is read, the table is empty.
  have hearlier := (hpast.of_getElem? ht).1
  have hnobody (n : Nat) : ¬ Awaited (past.take 13) ((voidFrame 2).header.stream, n) := by
    rw [← (answers_reach_requests hearlier (hapart.take 13)).1, htable]
    exact List.not_mem_nil
  exact ⟨past, run, k, k', t, hpast, hapart, hk, hk', hne, ht, hnews,
    (hunmatched 13 t (voidFrame 2) ht hnews hnobody).1⟩

/-! ## A conversation -/

/-- A frame from the peer, on one of the first streams. -/
def frameOn (stream : UInt8) (opcode : Wire.Opcode) (body : Text.Octets) : Text.Octets :=
  [0x84, 0, 0, stream, opcode.code] ++ Wire.put32 body.length ++ body

/-- One row, with the release and the partitioner of a node. -/
def localBody : Text.Octets :=
  Wire.put32 2 ++ Wire.put32 1 ++ Wire.put32 2 ++ Wire.putText "system" ++ Wire.putText "local" ++
    Wire.putText "release_version" ++ Wire.put16 13 ++ Wire.putText "partitioner" ++
    Wire.put16 13 ++ Wire.put32 1 ++ Wire.putLongText "4.0.11" ++
    Wire.putLongText "Murmur3Partitioner"

/-- Two queries, one after the other. The first is answered with the row, the second
with an error. -/
def asksTwice : List (Move (Call Unit) Answer) :=
  [.start 0, .submit .execute, .start 1, .resume 1 .turn, .resume 1 .turn,
    .submit (.arrive (frameOn 1 .result localBody)), .start 2, .resume 0 .turn, .resume 1 .turn,
    .submit .execute, .start 3, .resume 3 .turn, .resume 3 .turn,
    .submit (.arrive (frameOn 2 .error (Wire.put32 0x2200 ++ Wire.putText "unconfigured table"))),
    .start 4, .resume 0 .turn, .resume 3 .turn]

deriving instance DecidableEq for Result

/-- The calls result in the row, and in the error; what arrived had no result to tell. -/
example : ((fresh loopback).transitions system asksTwice).filterMap (·.result system) =
    [.finished,
      .rows (.ok [.ofTexts [("release_version", "4.0.11"), ("partitioner", "Murmur3Partitioner")]]),
      .finished, .rows (.error (.queryFailed 0x2200 "unconfigured table"))] := by
  decide +kernel

end NodeSidecar.Session.Connection
