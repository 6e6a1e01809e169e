import NodeSidecar.Proofs.Session.Delivery
/-!
# Session — streams that come back

The counter that streams are taken from wraps, and where it wraps is no
multiple of how many streams there are. So requests that follow one another
keep to streams of their own but for two places on each round of the counter:
the last two requests before it wraps have their streams taken by the next but
one (`streamAt_eq_iff`). `streams_meet_at_the_wrap` says it of every history.
-/

namespace NodeSidecar.Session.Connection

variable {α : Type} {c c' : Connection α} {p : Progress (Call α) Wait} {a : Option Answer}
variable {turn : Turn Wait Result} {m n : Nat} {s : Int} {peer : Net.Endpoint}
variable {t : Moment α} {past : List (Moment α)} {run : Calls α}

/-! ## Streams and counters -/

theorem streamAt_nonneg (c : Nat) : 0 ≤ streamAt c :=
  Int.natCast_nonneg _

theorem streamAt_lt (c : Nat) : streamAt c < streamCount :=
  Int.ofNat_lt.2 (Nat.mod_lt _ (by decide))

/-- No request is made on the stream of events. -/
theorem streamAt_ne_eventStream (c : Nat) : streamAt c ≠ Wire.eventStream := by
  have hnonneg := streamAt_nonneg c
  intro h
  rw [h] at hnonneg
  revert hnonneg
  decide

/-- The counter is about to wrap: the next but one starts from the beginning. -/
def AtWrap (number : Nat) : Prop :=
  counterSize ≤ counterAt number + 2

theorem counterAt_lt (n : Nat) : counterAt n < counterSize :=
  Nat.mod_lt _ (by decide)

theorem counterAt_add (m k : Nat) : counterAt (m + k) = (counterAt m + k) % counterSize := by
  simp only [counterAt, counterSize]
  omega

/-- **Of the requests that follow a request, fewer than there are streams, one
at most gets its stream**: the next but one, where the counter wraps in
between. -/
theorem streamAt_eq_iff (hmn : m < n) (hn : n < m + streamCount) :
    streamAt (counterAt m) = streamAt (counterAt n) ↔ n = m + 2 ∧ AtWrap m := by
  obtain ⟨k, rfl⟩ : ∃ k, n = m + k := ⟨n - m, by omega⟩
  have hlt := counterAt_lt m
  rw [counterAt_add]
  simp only [streamAt, AtWrap, Int.natCast_inj]
  generalize counterAt m = c at hlt ⊢
  simp only [counterSize, streamCount] at hlt hn ⊢
  -- Two counters stand for one stream if they are a multiple of the streams apart.
  rcases Nat.lt_or_ge (c + k) 65536 with hbelow | habove
  · rw [Nat.mod_eq_of_lt hbelow]
    refine iff_of_false (fun h => ?_) (by omega)
    have hapart := Nat.sub_mod_eq_zero_of_mod_eq h.symm
    omega
  · -- The counter has wrapped, at two more than twice the number of streams.
    obtain ⟨w, hw⟩ : ∃ w, c + k = w + 65536 := ⟨c + k - 65536, by omega⟩
    have hwrap : (c + k) % 65536 = w := by omega
    rw [hwrap]
    constructor
    · intro h
      have hapart := Nat.sub_mod_eq_zero_of_mod_eq h
      omega
    · rintro ⟨hk, -⟩
      have hc : c = w + 2 * 32767 := by omega
      rw [hc, Nat.add_mul_mod_self_right]

/-! ## Who registers -/

/-- A request registers. -/
def registers (t : Moment α) : Bool :=
  match newsOf t with
  | .registered _ => true
  | _ => false

theorem registers_of_newsOf {q : Int × Nat} (h : newsOf t = .registered q) :
    registers t = true := by
  rw [registers, h]

theorem registers_eq_true_iff : registers t = true ↔ ∃ q, newsOf t = .registered q := by
  unfold registers
  split
  · exact iff_of_true rfl ⟨_, ‹_›⟩
  · rename_i hnone
    exact iff_of_false (by decide) fun ⟨q, hq⟩ => hnone q hq

/-- A stretch in which nobody registers makes no new request. -/
theorem Passage.requests_of_ne (h : Passage c p a c' turn)
    (hn : ∀ q, news c p a ≠ .registered q) : c'.requests = c.requests := by
  cases h with
  | enrols => exact absurd rfl (hn _)
  | _ => rfl

/-- A request registers with the next number, or no request is made. -/
theorem Passes.registers_or_not {id : Nat} (hp : Passes t id p a turn) :
    (∃ s, newsOf t = .registered (s, t.before.state.requests) ∧
      t.after.state.requests = t.before.state.requests + 1) ∨
    (registers t = false ∧ t.after.state.requests = t.before.state.requests) := by
  rcases Bool.eq_false_or_eq_true (registers t) with hreg | hnone
  · obtain ⟨q, hq⟩ := registers_eq_true_iff.1 hreg
    have hnews := (newsOf_eq hp).symm.trans hq
    obtain ⟨-, rfl⟩ := news_eq_registered hnews
    refine .inl ⟨_, hq, ?_⟩
    rw [(hp.passage.of_registered hnews).1]
    rfl
  · refine .inr ⟨hnone, hp.passage.requests_of_ne fun q hq => ?_⟩
    have hreg := registers_of_newsOf ((newsOf_eq hp).trans hq)
    exact Bool.noConfusion (hnone.symm.trans hreg)

/-- **As many requests were made as registered.** -/
theorem requests_eq_countP (h : History peer past run) :
    run.state.requests = past.countP registers := by
  refine history_induction (I := fun past run => run.state.requests = past.countP registers) h rfl
    (fun past t _ ih hq => ?_) fun past t id p a turn _ ih hp => ?_
  · have hnone : registers t = false := by rw [registers, newsOf_of_quiet hq]
    simp [hq.state, ih, hnone]
  · rcases hp.registers_or_not with ⟨s, hs, hmore⟩ | ⟨hnone, hsame⟩
    · simp [hmore, ih, registers_of_newsOf hs]
    · simp [hsame, ih, hnone]

/-- Who registers gets the next number, and the stream that goes with it. -/
theorem registered_next (h : History peer past t.before)
    (hm : t.before.apply system t.move = some t.after) (hn : newsOf t = .registered (s, n)) :
    s = streamAt (counterAt n) ∧ n = past.countP registers := by
  rcases quiet_or_passes (h.bounded bounded_fresh) hm with hquiet | ⟨id, p, a, turn, hp⟩
  · cases (newsOf_of_quiet hquiet).symm.trans hn
  · rw [newsOf_eq hp] at hn
    obtain ⟨-, hpair⟩ := news_eq_registered hn
    obtain ⟨rfl, rfl⟩ := Prod.mk.inj hpair
    rw [(numbered h).counter]
    exact ⟨rfl, requests_eq_countP h⟩

/-- Every number below that of the next request was given to one. -/
theorem exists_registered (h : History peer past run) :
    ∀ n < run.state.requests, ∃ t ∈ past, ∃ s, newsOf t = .registered (s, n) := by
  refine history_induction (I := fun past run => ∀ n < run.state.requests, ∃ t ∈ past, ∃ s,
    newsOf t = .registered (s, n)) h (fun n hn => absurd hn (Nat.not_lt_zero n))
    (fun past t _ ih hq n hn => ?_) fun past t id p a turn _ ih hp n hn => ?_
  · rw [hq.state] at hn
    obtain ⟨u, hu, s, hs⟩ := ih n hn
    exact ⟨u, List.mem_append_left _ hu, s, hs⟩
  · rcases Nat.lt_or_ge n t.before.state.requests with hlt | hge
    · obtain ⟨u, hu, s, hs⟩ := ih n hlt
      exact ⟨u, List.mem_append_left _ hu, s, hs⟩
    · -- There was no such request before, so it is the one that registers in this move.
      rcases hp.registers_or_not with ⟨s, hs, hmore⟩ | ⟨-, hsame⟩
      · obtain rfl : n = t.before.state.requests := by omega
        exact ⟨t, by simp, s, hs⟩
      · omega

/-- Of two requests, the one with the lower number registered first. -/
theorem exists_registered_later (h : History peer past run) (hmn : m < n)
    (hn : n < run.state.requests) : ∃ earlier t later u s s', past = earlier ++ t :: later ∧
      newsOf t = .registered (s, m) ∧ u ∈ later ∧ newsOf u = .registered (s', n) := by
  obtain ⟨t, ht, s, hs⟩ := exists_registered h m (Nat.lt_trans hmn hn)
  obtain ⟨u, hu, s', hs'⟩ := exists_registered h n hn
  obtain ⟨earlier, later, rfl⟩ := List.append_of_mem ht
  refine ⟨earlier, t, later, u, s, s', rfl, hs, ?_, hs'⟩
  rcases List.mem_append.1 hu with hbefore | hrest
  · -- Who registered before `t` would have a number below `m`.
    obtain ⟨first, rest, rfl⟩ := List.append_of_mem hbefore
    obtain ⟨hearlier, hm, -⟩ := h.of_append_cons
    obtain ⟨-, hmcount⟩ := registered_next hearlier hm hs
    obtain ⟨hfirst, hmu, -⟩ := hearlier.of_append_cons
    obtain ⟨-, hncount⟩ := registered_next hfirst hmu hs'
    rw [List.countP_append] at hmcount
    omega
  · rcases List.mem_cons.1 hrest with rfl | hlater
    · cases hs.symm.trans hs'
      exact absurd hmn (Nat.lt_irrefl _)
    · exact hlater

/-- **Streams come back late, but for the wrap of the counter.** Requests are
numbered as they register, none is left out, and each gets the stream of one of
the places below the number of streams, never that of events. Of the requests
that register later, fewer than there are streams, none gets the same stream,
except for the next but one where the counter wraps in between: that one always
does. -/
theorem streams_meet_at_the_wrap (h : History peer past run) :
    (∀ n < run.state.requests, ∃ t ∈ past, ∃ s, newsOf t = .registered (s, n)) ∧
    ∀ earlier t later s n, past = earlier ++ t :: later → newsOf t = .registered (s, n) →
      n = earlier.countP registers ∧ 0 ≤ s ∧ s < streamCount ∧ s ≠ Wire.eventStream ∧
      ∀ u ∈ later, ∀ s' n', newsOf u = .registered (s', n') →
        n < n' ∧ (n' < n + streamCount → (s = s' ↔ n' = n + 2 ∧ AtWrap n)) := by
  refine ⟨exists_registered h, fun earlier t later s n hpast ht => ?_⟩
  subst hpast
  obtain ⟨hearlier, hm, hlater⟩ := h.of_append_cons
  obtain ⟨rfl, hn⟩ := registered_next hearlier hm ht
  refine ⟨hn, streamAt_nonneg _, streamAt_lt _, streamAt_ne_eventStream _,
    fun u hu s' n' hu' => ?_⟩
  obtain ⟨between, rest, rfl⟩ := List.append_of_mem hu
  obtain ⟨hbetween, hmu, -⟩ := hlater.of_append_cons
  obtain ⟨rfl, hn'⟩ := registered_next ((hearlier.move hm).trans hbetween) hmu hu'
  have hlt : n < n' := by
    simp only [hn, hn', List.countP_append, List.countP_singleton,
      registers_of_newsOf ht, if_true]
    omega
  exact ⟨hlt, streamAt_eq_iff hlt⟩

/-! ## A connection that was used for long -/

/-- One request after the other is made, on a connection that was just
opened. -/
def requestMoves (α : Type) (count : Nat) : List (Move (Call α) Answer) :=
  (List.range count).flatMap fun i => [.submit .execute, .start (i + 1)]

/-- As many requests can be made as one likes. -/
theorem exists_requested (peer : Net.Endpoint) (count : Nat) : ∃ run : Calls α,
    (fresh peer).applyAll system (requestMoves α count) = some run ∧
      run.state.requests = count ∧ run.nextId = count + 1 := by
  induction count with
  | zero => exact ⟨fresh peer, rfl, rfl, rfl⟩
  | succ n ih =>
    obtain ⟨mid, hmid, hrequests, hnext⟩ := ih
    have hprogress : (mid.submit .execute).progress (n + 1) = some (.fresh .execute) := by
      rw [Run.progress_submit ((execution_of_applyAll hmid).bounded bounded_fresh), hnext,
        if_pos rfl]
    have hstart : (mid.submit .execute).apply system (.start (n + 1)) =
        some ((mid.submit .execute).settle (n + 1) (start .execute mid.state)) := by
      simp only [Run.apply, Run.stretch?, hprogress]
      rfl
    have hmoves : requestMoves α (n + 1) =
        requestMoves α n ++ [.submit .execute] ++ [.start (n + 1)] := by
      simp [requestMoves, List.range_succ]
    refine ⟨(mid.submit .execute).settle (n + 1) (start .execute mid.state), ?_,
      congrArg (· + 1) hrequests, congrArg (· + 1) hnext⟩
    rw [hmoves]
    exact foldlM_concat_of_eq_some (foldlM_concat_of_eq_some hmid rfl) hstart

/-- Where the counter has gone round once, a stream was given to two requests
that are two apart. -/
theorem exists_meeting (peer : Net.Endpoint) : ∃ (past : List (Moment α)) (run : Calls α),
    History peer past run ∧ run.state.requests = counterSize ∧
      ∃ earlier t later u, past = earlier ++ t :: later ∧ newsOf t = .registered (0, 65533) ∧
        u ∈ later ∧ newsOf u = .registered (0, 65535) := by
  obtain ⟨run, hrun, hrequests, -⟩ := exists_requested (α := α) peer counterSize
  have h := execution_of_applyAll hrun
  obtain ⟨earlier, t, later, u, s, s', hpast, ht, hu, hu'⟩ :=
    exists_registered_later h (m := 65533) (n := 65535) (by omega) (by rw [hrequests]; decide)
  obtain ⟨hearlier, hm, hlater⟩ := (hpast ▸ h).of_append_cons
  obtain ⟨between, rest, rfl⟩ := List.append_of_mem hu
  obtain ⟨hbetween, hmu, -⟩ := hlater.of_append_cons
  obtain ⟨rfl, -⟩ := registered_next hearlier hm ht
  obtain ⟨rfl, -⟩ := registered_next ((hearlier.move hm).trans hbetween) hmu hu'
  exact ⟨_, run, h, hrequests, earlier, t, _, u, hpast, ht, hu, hu'⟩

/-- The last request but two before the counter has gone round once, and the
last: both have the first stream. -/
theorem first_stream_given_again : ∃ (past : List (Moment Unit)) (run : Calls Unit),
    History loopback past run ∧ run.state.requests = counterSize ∧
      ∃ earlier t later u, past = earlier ++ t :: later ∧ newsOf t = .registered (0, 65533) ∧
        u ∈ later ∧ newsOf u = .registered (0, 65535) ∧ earlier.countP registers = 65533 ∧
        AtWrap 65533 := by
  obtain ⟨past, run, h, hrequests, earlier, t, later, u, hpast, ht, hu, hu'⟩ :=
    exists_meeting (α := Unit) loopback
  obtain ⟨hcount, -, -, -, hlater⟩ := (streams_meet_at_the_wrap h).2 earlier t later _ _ hpast ht
  have hwrap := ((hlater u hu _ _ hu').2 (by decide)).1 rfl
  exact ⟨past, run, h, hrequests, earlier, t, later, u, hpast, ht, hu, hu', hcount.symm, hwrap.2⟩

/-- It is not so that a stream is given again only after as many requests as
there are streams. -/
theorem stream_given_again_early : ¬ ∀ (past : List (Moment Unit)) (run : Calls Unit),
    History loopback past run → ∀ earlier t later s n, past = earlier ++ t :: later →
      newsOf t = .registered (s, n) → ∀ u ∈ later, ∀ n', newsOf u = .registered (s, n') →
        n + streamCount ≤ n' := by
  intro hlate
  obtain ⟨past, run, h, -, earlier, t, later, u, hpast, ht, hu, hu'⟩ :=
    exists_meeting (α := Unit) loopback
  have happart := hlate past run h earlier t later 0 65533 hpast ht u hu 65535 hu'
  exact absurd happart (by decide)

end NodeSidecar.Session.Connection
