import NodeSidecar.Proofs.Execution
import NodeSidecar.Proofs.Token
import NodeSidecar.Session.Holder
/-!
# Session — one session for all

However calls on a holder interleave, one session at most is open, and it is the
one that is handed out: `one_session_for_all`. `Passage` lists once what a stretch
of a call can do to the holder, and `Sole` is what every stretch keeps: the lock
stands for the one call that opens a session, no session is open meanwhile, and
one that is open is the one in the slot.
-/

namespace NodeSidecar.Session.Holder

variable {h h' : Holder} {p : Progress Call Wait} {a : Option Answer} {turn : Turn Wait Result}
variable {s s' : Nat}

/-! ## One stretch -/

theorem isOpen_iff : h.isOpen s = true ↔ h.closed[s]? = some false := by
  simp [isOpen]

theorem usable_eq_some_iff : h.usable = some s ↔ h.slot = some s ∧ h.isOpen s = true := by
  simp [usable, Option.filter_eq_some_iff]

theorem isOpen_lose : (h.lose s).isOpen s' = true ↔ h.isOpen s' = true ∧ s' ≠ s := by
  simp only [isOpen_iff, lose, List.getElem?_set]
  grind

theorem isOpen_append : (⟨some h.closed.length, h.closed ++ [false], false⟩ : Holder).isOpen s =
    true ↔ h.isOpen s = true ∨ s = h.closed.length := by
  simp only [isOpen_iff, List.getElem?_append]
  grind

/-- **What a stretch of a call does to the holder** `h`: from how far the call had
come and what it was answered, to the holder then and how the stretch ends. -/
inductive Passage (h : Holder) :
    Progress Call Wait → Option Answer → Holder → Turn Wait Result → Prop
  /-- The session in the slot is handed out. -/
  | hands {s : Nat} : h.usable = some s →
      Passage h (.fresh .get) none h (.done (.session (some s)))
  /-- There is none to hand out, and the call stands in line. -/
  | queues : h.usable = none → Passage h (.fresh .get) none h (.wait .lock)
  /-- The session in the slot is closed. -/
  | closes {s : Nat} : h.slot = some s →
      Passage h (.fresh .close) none { h.lose s with slot := none } (.done .finished)
  /-- There is none to close. -/
  | closesNothing : h.slot = none → Passage h (.fresh .close) none h (.done .finished)
  /-- A session is lost. -/
  | loses {s : Nat} : Passage h (.fresh (.lost s)) none (h.lose s) (.done .finished)
  /-- A call that stood in line finds a session. -/
  | finds {s : Nat} : h.usable = some s →
      Passage h (.waiting .lock) (some .granted) h (.done (.session (some s)))
  /-- A call that stood in line finds none, and opens one. -/
  | connects : h.locked = false → h.usable = none →
      Passage h (.waiting .lock) (some .granted) { h with locked := true } (.wait .connecting)
  /-- A session was opened. -/
  | opens : Passage h (.waiting .connecting) (some .connected)
      ⟨some h.closed.length, h.closed ++ [false], false⟩
      (.done (.session (some h.closed.length)))
  /-- No session could be opened. -/
  | fails : Passage h (.waiting .connecting) (some .refused) { h with locked := false }
      (.done (.session none))

theorem passage_start (c : Call) (h : Holder) :
    Passage h (.fresh c) none (start c h).state (start c h).turn := by
  cases c with
  | get =>
    simp only [start]
    split
    · exact .hands ‹_›
    · exact .queues ‹_›
  | close =>
    simp only [start]
    split
    · exact .closes ‹_›
    · exact .closesNothing ‹_›
  | lost s => exact .loses

theorem passage_lookAgain (hfree : h.locked = false) :
    Passage h (.waiting .lock) (some .granted) h.lookAgain.state h.lookAgain.turn := by
  unfold lookAgain
  split
  · exact .finds ‹_›
  · exact .connects hfree ‹_›

theorem passage_resume {w : Wait} {a : Answer} {st : Step} (hst : resume w a h = some st) :
    Passage h (.waiting w) (some a) st.state st.turn := by
  cases w with
  | lock =>
    cases a with
    | granted =>
      simp only [resume, Option.ite_none_left_eq_some, Bool.not_eq_true] at hst
      obtain ⟨hfree, hst⟩ := hst
      obtain rfl := Option.some.inj hst
      exact passage_lookAgain hfree
    | connected | refused => cases hst
  | connecting =>
    cases a with
    | granted => cases hst
    | connected =>
      obtain rfl := Option.some.inj hst
      exact .opens
    | refused =>
      obtain rfl := Option.some.inj hst
      exact .fails

/-! ## Histories -/

/-- A move made on a holder. -/
abbrev Moment := Transition Holder Call Wait Answer

/-- The histories of a holder that has opened nothing. -/
abbrev History : List Moment → Calls → Prop :=
  Execution system (Run.idle fresh)

/-- Every stretch that a call runs is a passage. -/
theorem passage_of_ran {t : Moment} {i : Nat} {st : Step} (hr : t.Ran system i p a st) :
    Passage t.before.state p a t.after.state st.turn := by
  rw [hr.state]
  rcases System.proceed_eq_some_iff.1 hr.proceed with ⟨c, rfl, rfl, rfl⟩ | ⟨w, b, rfl, rfl, hst⟩
  · exact passage_start c t.before.state
  · exact passage_resume hst

/-- Who opens a session holds the lock. -/
def Connects (w : Option Wait) : Prop :=
  w = some .connecting

/-- **The holder has one session at most.** -/
structure Sole (h : Holder) (waiting : Nat → Option Wait) : Prop where
  /-- The lock stands for the one call that opens a session. -/
  token : Token Connects (h.locked = true) waiting
  /-- No session is open meanwhile. -/
  none_open : h.locked = true → ∀ s, h.isOpen s = false
  /-- A session that is open is the one in the slot. -/
  only : ∀ s, h.isOpen s = true → h.slot = some s
  /-- The session in the slot was opened. -/
  lt : ∀ s, h.slot = some s → s < h.closed.length

namespace Sole

variable {waiting : Nat → Option Wait} {i : Nat}

theorem fresh : Sole Holder.fresh fun _ => none where
  token := .init (by simp [Holder.fresh]) (by simp [Connects])
  none_open hlocked := by cases hlocked
  only s hs := by simp [Holder.fresh, isOpen] at hs
  lt s hs := by cases hs

/-- Where none can be handed out, no session is open. -/
theorem isOpen_eq_false (hs : Sole h waiting) (hnone : h.usable = none) (s : Nat) :
    h.isOpen s = false := by
  rcases hopen : h.isOpen s with - | -
  · rfl
  · cases hnone.symm.trans (usable_eq_some_iff.2 ⟨hs.only s hopen, hopen⟩)

/-- A stretch that leaves the sessions alone, and the lock to its holder, leaves
all as it is. -/
theorem keep {w : Option Wait} (hs : Sole h waiting) (hw : Connects w ↔ Connects (waiting i)) :
    Sole h (Function.update waiting i w) :=
  ⟨hs.token.keep hw Iff.rfl, hs.none_open, hs.only, hs.lt⟩

/-- **Every stretch keeps one session at most.** -/
theorem passage (hs : Sole h waiting) (hi : waiting i = p.wait?) (hp : Passage h p a h' turn) :
    Sole h' (Function.update waiting i turn.next) := by
  cases hp with
  | hands | queues | closesNothing | finds =>
    exact hs.keep (by simp [hi, Connects, Turn.next, Progress.wait?])
  | @closes s hslot =>
    have hnone (s' : Nat) : (h.lose s).isOpen s' = false := by
      rcases hopen : (h.lose s).isOpen s' with - | -
      · rfl
      · obtain ⟨hopen, hne⟩ := isOpen_lose.1 hopen
        exact absurd (Option.some.inj ((hs.only s' hopen).symm.trans hslot)) hne
    refine ⟨hs.token.keep ?_ Iff.rfl, fun _ => hnone, fun s' hs' => ?_, fun s' hs' => ?_⟩
    · simp [hi, Connects, Turn.next, Progress.wait?]
    · cases (hnone s').symm.trans hs'
    · cases hs'
  | @loses s =>
    refine ⟨hs.token.keep ?_ Iff.rfl, fun hlocked s' => ?_,
      fun s' hs' => hs.only s' (isOpen_lose.1 hs').1, fun s' hs' => ?_⟩
    · simp [hi, Connects, Turn.next, Progress.wait?]
    · rw [Bool.eq_false_iff]
      exact fun hopen => Bool.eq_false_iff.1 (hs.none_open hlocked s') (isOpen_lose.1 hopen).1
    · simpa [lose] using hs.lt s' hs'
  | connects hfree hnone =>
    refine ⟨hs.token.take (by simp [hfree]) rfl rfl, fun _ s => hs.isOpen_eq_false hnone s,
      hs.only, hs.lt⟩
  | opens =>
    -- The call that opens a session holds the lock, so no other session is open.
    have hlocked : h.locked = true := hs.token.up_iff.2 ⟨i, hi⟩
    refine ⟨hs.token.release hi (by simp [Connects, Turn.next]) (by simp), fun hlocked => ?_,
      fun s hopen => ?_, fun s hs' => ?_⟩
    · cases hlocked
    · rcases isOpen_append.1 hopen with hold | rfl
      · cases (hs.none_open hlocked s).symm.trans hold
      · rfl
    · obtain rfl := Option.some.inj hs'
      simp
  | fails =>
    refine ⟨hs.token.release hi (by simp [Connects, Turn.next]) (by simp), fun hlocked => ?_,
      hs.only, hs.lt⟩
    cases hlocked

end Sole

/-! ## Every history -/

variable {past earlier mid later : List Moment} {t u : Moment} {run : Calls} {i : Nat}

theorem bounded_fresh : (Run.idle fresh : Calls).Bounded :=
  Run.bounded_idle _

theorem Sole.ran {st : Step} (hb : t.before.Bounded) (hs : Sole t.before.state t.before.waiting)
    (hr : t.Ran system i p a st) : Sole t.after.state t.after.waiting := by
  rw [hr.waiting hb, hr.next_eq]
  exact hs.passage (Run.waiting_of_progress hr.progress) (passage_of_ran hr)

/-- **In every history the holder has one session at most.** -/
theorem sole (hx : History past run) : Sole run.state run.waiting := by
  refine hx.induction (I := fun _ run => Sole run.state run.waiting) bounded_fresh .fresh
    (fun past t _ ih hq => ?_) fun past t i p a st hx ih hr => ih.ran (hx.bounded bounded_fresh) hr
  rw [hq.state, hq.waiting]
  exact ih

/-- A call is given the session `s`. -/
def HandsOut (t : Moment) (s : Nat) : Prop :=
  t.result system = some (.session (some s))

/-- A move closes no session, and does not lose `s`. -/
def Spares (s : Nat) (t : Moment) : Prop :=
  t.cause ≠ some (.fresh .close, none) ∧ t.cause ≠ some (.fresh (.lost s), none)

/-- A session that is handed out is open, and is the one in the slot. -/
theorem Passage.of_handsOut (hp : Passage h p a h' turn)
    (hr : turn.result = some (.session (some s))) : h'.usable = some s := by
  cases hp with
  | hands hu | finds hu =>
    cases hr
    exact hu
  | opens =>
    cases hr
    exact usable_eq_some_iff.2 ⟨rfl, isOpen_append.2 (.inr rfl)⟩
  | _ => cases hr

/-- Handing out a session closes none. -/
theorem Passage.isOpen_of_handsOut (hp : Passage h p a h' turn)
    (hr : turn.result = some (.session (some s))) (hopen : h.isOpen s' = true) :
    h'.isOpen s' = true := by
  cases hp with
  | hands | finds => exact hopen
  | opens => exact isOpen_append.2 (.inl hopen)
  | _ => cases hr

/-- A session stays open that is neither closed nor lost. -/
theorem Passage.isOpen_kept (hp : Passage h p a h' turn) (hopen : h.isOpen s = true)
    (hclose : (p, a) ≠ (.fresh .close, none)) (hlost : (p, a) ≠ (.fresh (.lost s), none)) :
    h'.isOpen s = true := by
  cases hp with
  | closes | closesNothing => exact absurd rfl hclose
  | @loses s' => exact isOpen_lose.2 ⟨hopen, fun hs => hlost (by rw [hs])⟩
  | opens => exact isOpen_append.2 (.inl hopen)
  | hands | queues | finds | connects | fails => exact hopen

theorem isOpen_of_spares (hx : Execution system run mid u.before) (hb : run.Bounded)
    (hopen : run.state.isOpen s = true) (hmid : ∀ v ∈ mid, Spares s v) :
    u.before.state.isOpen s = true := by
  refine hx.induction (I := fun mid run => (∀ v ∈ mid, Spares s v) → run.state.isOpen s = true)
    hb (fun _ => hopen) (fun past v _ ih hq hall => ?_)
    (fun past v i p a st _ ih hr hall => ?_) hmid
  · rw [hq.state]
    exact ih fun v hv => hall v (List.mem_append_left _ hv)
  · obtain ⟨hclose, hlost⟩ := hall v (by simp)
    rw [hr.cause, Ne, Option.some.injEq] at hclose hlost
    exact (passage_of_ran hr).isOpen_kept (ih fun v hv => hall v (List.mem_append_left _ hv))
      hclose hlost

/-- A move that hands out a session is a stretch of a call. -/
theorem ran_of_result {r : Result} (hb : t.before.Bounded)
    (hm : t.before.apply system t.move = some t.after) (hr : t.result system = some r) :
    ∃ i p a st, t.Ran system i p a st ∧ st.turn.result = some r := by
  rcases Transition.quiet_or_ran hb hm with hq | ⟨i, p, a, st, hran⟩
  · simp [Transition.result, Transition.stretch?, hq.cause] at hr
  · exact ⟨i, p, a, st, hran, hran.result_eq.symm.trans hr⟩

theorem usable_of_handsOut (hx : History earlier t.before)
    (hm : t.before.apply system t.move = some t.after) (ht : HandsOut t s) :
    t.after.state.usable = some s := by
  obtain ⟨i, p, a, st, hran, hr⟩ := ran_of_result (hx.bounded bounded_fresh) hm ht
  exact (passage_of_ran hran).of_handsOut hr

/-- **Who is given a session gets the one that was handed out before**, unless that
was lost, or a session was closed, in between. -/
theorem same_session (hx : History (earlier ++ t :: (mid ++ u :: later)) run)
    (ht : HandsOut t s) (hu : HandsOut u s') (hmid : ∀ v ∈ mid, Spares s v) : s' = s := by
  obtain ⟨hearlier, hmt, hlater⟩ := hx.of_append_cons
  obtain ⟨hbetween, hmu, -⟩ := hlater.of_append_cons
  have hafter : History (earlier ++ [t]) t.after := hearlier.move hmt
  have hbefore : History (earlier ++ [t] ++ mid) u.before := hafter.trans hbetween
  have hopen : t.after.state.isOpen s = true :=
    (usable_eq_some_iff.1 (usable_of_handsOut hearlier hmt ht)).2
  have hstill : u.before.state.isOpen s = true :=
    isOpen_of_spares hbetween (hafter.bounded bounded_fresh) hopen hmid
  obtain ⟨i, p, a, st, hran, hr⟩ := ran_of_result (hbefore.bounded bounded_fresh) hmu hu
  have hpassage := passage_of_ran hran
  have hslot := (usable_eq_some_iff.1 (hpassage.of_handsOut hr)).1
  have hlast : u.after.state.isOpen s = true := hpassage.isOpen_of_handsOut hr hstill
  exact Option.some.inj (hslot.symm.trans ((sole (hbefore.move hmu)).only s hlast))

/-- **A session is opened while there is none**, and nobody else opens one. -/
theorem connects_alone (hx : History past run) (ht : t ∈ past)
    (hn : t.next system = some .connecting) :
    (∀ s, t.before.state.slot = some s → t.before.state.closed[s]? = some true) ∧
      ∀ i, t.before.waiting i ≠ some .connecting := by
  obtain ⟨past', hpast, hm⟩ := hx.of_mem ht
  have hs := sole hpast
  rcases Transition.quiet_or_ran (hpast.bounded bounded_fresh) hm with hq | ⟨i, p, a, st, hr⟩
  · simp [Transition.next, Transition.stretch?, hq.cause] at hn
  · rw [hr.next_eq] at hn
    have hpassage := passage_of_ran hr
    generalize t.before.state = b at *
    generalize t.after.state = b' at *
    generalize st.turn = turn at *
    cases hpassage with
    | connects hfree hnone =>
      refine ⟨fun s hslot => ?_, hs.token.not_holds (by simp [hfree])⟩
      have hlt := hs.lt s hslot
      have hover := hs.isOpen_eq_false hnone s
      simpa [isOpen, hlt] using hover
    | _ => cases hn

/-! ## After a failed connect -/

/-- **The next call opens a session**: one that stands in line, or one that is made
now. -/
structure ConnectsNext (run : Calls) : Prop where
  waiting : ∀ i, run.waiting i = some .lock →
    ∃ next, run.apply system (.resume i .granted) = some next ∧
      next.waiting i = some .connecting
  fresh : ∃ next, run.applyAll system
      [.submit .get, .start run.nextId, .resume run.nextId .granted] = some next ∧
    next.waiting run.nextId = some .connecting

theorem exists_connecting (hb : run.Bounded) (hfree : run.state.locked = false)
    (hnone : run.state.usable = none) (hi : run.waiting i = some .lock) :
    ∃ next, run.apply system (.resume i .granted) = some next ∧
      next.waiting i = some .connecting := by
  have hresume : system.resume .lock .granted run.state =
      some ⟨{ run.state with locked := true }, .wait .connecting, []⟩ := by
    simp only [system, resume, hfree, Bool.false_eq_true, ↓reduceIte, lookAgain, hnone]
  obtain ⟨next, hnext, -, hprogress⟩ := Run.exists_resume hb hi hresume
  exact ⟨next, hnext, Run.waiting_of_progress hprogress⟩

theorem connectsNext_of_free (hb : run.Bounded) (hfree : run.state.locked = false)
    (hnone : run.state.usable = none) : ConnectsNext run := by
  refine ⟨fun i hi => exists_connecting hb hfree hnone hi, ?_⟩
  have hsubmit : (run.submit .get).progress run.nextId = some (.fresh .get) := by
    rw [Run.progress_submit hb, if_pos rfl]
  obtain ⟨mid, hmid, hstate, hprogress⟩ :
      ∃ mid, (run.submit .get).apply system (.start run.nextId) = some mid ∧
        mid.state = (system.start .get (run.submit .get).state).state ∧
        mid.progress run.nextId =
          (system.start .get (run.submit .get).state).turn.next.map .waiting :=
    Run.exists_start (hb.submit .get) hsubmit
  have hstart : system.start .get run.state = ⟨run.state, .wait .lock, []⟩ := by
    simp only [system, start, hnone]
  rw [show (run.submit .get).state = run.state from rfl, hstart] at hstate hprogress
  have hsame : mid.state = run.state := hstate
  have hlock : mid.waiting run.nextId = some .lock := Run.waiting_of_progress hprogress
  obtain ⟨next, hnext, hconnects⟩ := exists_connecting ((hb.submit .get).apply hmid)
    (hsame ▸ hfree) (hsame ▸ hnone) hlock
  have hsubmitted : run.applyAll system [.submit .get] = some (run.submit .get) := rfl
  exact ⟨next, foldlM_concat_of_eq_some (foldlM_concat_of_eq_some hsubmitted hmid) hnext,
    hconnects⟩

/-- **A failed connect leaves the holder able to connect.** -/
theorem after_refusal (hx : History past run) (ht : t ∈ past)
    (hc : t.cause = some (.waiting .connecting, some .refused)) :
    t.result system = some (.session none) ∧ ConnectsNext t.after := by
  obtain ⟨past', hpast, hm⟩ := hx.of_mem ht
  have hb := hpast.bounded bounded_fresh
  rcases Transition.quiet_or_ran hb hm with hq | ⟨i, p, a, st, hr⟩
  · cases hq.cause.symm.trans hc
  · obtain ⟨rfl, rfl⟩ := Prod.mk.inj (Option.some.inj (hr.cause.symm.trans hc))
    have hs := sole hpast
    have hlocked : t.before.state.locked = true :=
      hs.token.up_iff.2 ⟨i, Run.waiting_of_progress hr.progress⟩
    obtain rfl := Option.some.inj hr.proceed
    have hstate : t.after.state = { t.before.state with locked := false } := hr.state
    refine ⟨hr.result_eq, connectsNext_of_free (hb.apply hm) (by rw [hstate]) ?_⟩
    rw [hstate, usable, Option.filter_eq_none_iff]
    intro s _
    exact Bool.eq_false_iff.1 (hs.none_open hlocked s)

/-! ## All together -/

/-- **One session serves all callers.** In every history of a holder: sessions are
opened one at a time, and one at most of all that were opened is open. A session
is open as it is handed out, and who is handed one gets the same as the one
before, unless that was lost or a session was closed in between. A session is
opened only while the one in the slot, if any, is closed, and nobody else opens
one. After a connect that failed, its caller is given none, and the next call
opens a session. -/
theorem one_session_for_all (hx : History past run) :
    (∀ i j, run.waiting i = some .connecting → run.waiting j = some .connecting → i = j) ∧
    (∀ s s', run.state.isOpen s = true → run.state.isOpen s' = true → s = s') ∧
    (∀ t ∈ past, ∀ s, HandsOut t s → t.after.state.usable = some s) ∧
    (∀ earlier t mid u later s s', past = earlier ++ t :: (mid ++ u :: later) →
      HandsOut t s → HandsOut u s' → (∀ v ∈ mid, Spares s v) → s' = s) ∧
    (∀ t ∈ past, t.next system = some .connecting →
      (∀ s, t.before.state.slot = some s → t.before.state.closed[s]? = some true) ∧
        ∀ i, t.before.waiting i ≠ some .connecting) ∧
    ∀ t ∈ past, t.cause = some (.waiting .connecting, some .refused) →
      t.result system = some (.session none) ∧ ConnectsNext t.after := by
  have hs := sole hx
  refine ⟨hs.token.unique, fun s s' hopen hopen' => ?_, fun t ht s hout => ?_,
    fun earlier t mid u later s s' hpast ht hu hmid => same_session (hpast ▸ hx) ht hu hmid,
    fun t ht hn => connects_alone hx ht hn, fun t ht hc => after_refusal hx ht hc⟩
  · exact Option.some.inj ((hs.only s hopen).symm.trans (hs.only s' hopen'))
  · obtain ⟨past', hpast, hm⟩ := hx.of_mem ht
    exact usable_of_handsOut hpast hm hout

/-- A session cannot be opened, and is closed meanwhile; another call that stood in
line opens one. -/
def opensSecondTime : List (Move Call Answer) :=
  [.submit .get, .start 0, .resume 0 .granted, .submit .get, .start 1, .submit .close, .start 2,
    .resume 0 .refused, .resume 1 .granted]

/-- The session is lost, and a call opens another. -/
def opensAnother : List (Move Call Answer) :=
  [.submit (.lost 0), .start 4, .submit .get, .start 5, .resume 5 .granted, .resume 5 .connected]

/-- A session is shared by two calls, and only the one that took its place is open
in the end. -/
theorem session_shared_then_replaced : ∃ (past : List Moment) (first : Moment)
    (mid : List Moment) (second : Moment) (later : List Moment) (run : Calls),
    History (past ++ first :: (mid ++ second :: later)) run ∧ HandsOut first 0 ∧
    (∃ s, HandsOut second s) ∧ (∀ s, HandsOut second s → s = 0) ∧
    run.state.closed = [true, false] ∧ ∀ s, run.state.isOpen s = true → s = 1 := by
  obtain ⟨before, hbefore, opened, hopened, mid, hmid, shared, hshared, run, hrun, hfirst,
      hsecond, hclosed⟩ :
      ∃ before, (Run.idle fresh).applyAll system opensSecondTime = some before ∧
      ∃ opened, before.apply system (.resume 1 .connected) = some opened ∧
      ∃ mid, opened.apply system (.submit .get) = some mid ∧
      ∃ shared, mid.apply system (.start 3) = some shared ∧
      ∃ run, shared.applyAll system opensAnother = some run ∧
      HandsOut ⟨before, .resume 1 .connected, opened⟩ 0 ∧ HandsOut ⟨mid, .start 3, shared⟩ 0 ∧
      run.state.closed = [true, false] :=
    ⟨_, rfl, _, rfl, _, rfl, _, rfl, _, rfl, rfl, rfl, rfl⟩
  have hpast := execution_of_applyAll hbefore
  have hlater := execution_of_applyAll hrun
  generalize (Run.idle fresh).transitions system opensSecondTime = past at hpast
  generalize shared.transitions system opensAnother = later at hlater
  have hall : History (past ++ ⟨before, .resume 1 .connected, opened⟩ ::
      ([⟨opened, .submit .get, mid⟩] ++ ⟨mid, .start 3, shared⟩ :: later)) run := by
    simpa using (((hpast.move hopened).move hmid).move hshared).trans hlater
  obtain ⟨-, honly, -, hsame, -, -⟩ := one_session_for_all hall
  refine ⟨past, _, _, _, later, run, hall, hfirst, ⟨0, hsecond⟩, fun s hs => ?_, hclosed,
    fun s hs => honly s 1 hs ?_⟩
  · refine hsame past _ _ _ later 0 s rfl hfirst hs fun v hv => ?_
    obtain rfl := List.mem_singleton.1 hv
    exact ⟨by rintro ⟨⟩, by rintro ⟨⟩⟩
  · simp [isOpen, hclosed]

/-- Two calls share the session that the first of them opened. It is lost, and the next
call is given another one; that is closed, and after it none can be opened. -/
example : ((Run.idle fresh).transitions system
    [.submit .get, .start 0, .resume 0 .granted, .resume 0 .connected, .submit .get, .start 1,
      .submit (.lost 0), .start 2, .submit .get, .start 3, .resume 3 .granted,
      .resume 3 .connected, .submit .close, .start 4, .submit .get, .start 5,
      .resume 5 .granted, .resume 5 .refused]).filterMap (·.result system) =
    [.session (some 0), .session (some 0), .finished, .session (some 1), .finished,
      .session none] := by decide +kernel

end NodeSidecar.Session.Holder
