import NodeSidecar.Proofs.Node.LinkCalls
/-!
# Node — one management connection for all requests

What every history keeps of a link: connections are opened one at a time and
only while there is none, a request is sent once, and a connection goes out of
use only when it is given up, or when the call whose request failed on it is
over.
-/

namespace NodeSidecar.Node

open Management (Link Request Value)

variable {l l' : Link} {p : Progress Call Wait} {a : Option Answer} {turn : Turn Wait Result}
variable {id : Nat} {catalog : Catalog} {past : List Moment} {run : Calls} {t : Moment}
variable {i k : Nat}

/-! ## What puts a connection to use and takes it out of use -/

/-- A call is told in a move that it has a new connection. -/
def OpensLink (t : Moment) : Prop :=
  ∃ use, t.cause = some (.waiting (.linkConnecting use), some (.connected (.ok ())))

/-- The connection in use is given up in a move, whatever it is. -/
def ReleasesLink (t : Moment) : Prop :=
  ∃ p a, t.cause = some (p, a) ∧ Releases p a

/-- A call is over with a move, and what it results in is that its request on
the connection `k` failed for want of a connection. -/
def FailsOn (k : Nat) (past : List Moment) (t : Moment) : Prop :=
  ∃ i r fault, t.caller = some i ∧ (k, r, .error fault) ∈ (taleOf i past).replies ∧
    fault.isConnectivity ∧ t.result system = some (.value (.error fault))

/-- **A connection goes out of use** when it is given up, or when a call forgets
it. -/
theorem LinkPassage.slot_kept (h : LinkPassage l p a l' turn) (hk : l.slot = some k)
    (hguard : l.locked = true → l.slot = none) (hlock : Opens p.wait? → l.locked = true) :
    l'.slot = some k ∨ l'.slot = none ∧ (Releases p a ∨
      ∃ fault, p = .waiting (.linkLock (.evict k fault)) ∧
        turn = .done (.value (.error fault))) := by
  have hheld (ho : Opens p.wait?) : False := by
    rw [hguard (hlock ho)] at hk
    cases hk
  cases h with
  | releases hr => exact .inr ⟨rfl, .inl hr⟩
  | connects _ hnone =>
    rw [hnone] at hk
    cases hk
  | @forgets j fault =>
    by_cases hj : j = k
    · subst hj
      exact .inr ⟨by simp [Link.evict, hk], .inr ⟨fault, rfl, rfl⟩⟩
    · have hne : l.slot ≠ some j := by simpa [hk] using Ne.symm hj
      exact .inl ((congrArg Link.slot (Link.evict_of_ne hne)).trans hk)
  | unreachable => exact absurd ⟨_, rfl⟩ hheld
  | installs => exact absurd ⟨_, rfl⟩ hheld
  | _ => exact .inl hk

/-- **A connection comes into use** when it was opened, and has the next
number. -/
theorem LinkPassage.slot_opened (h : LinkPassage l p a l' turn) (hk : l'.slot = some k) :
    l.slot = some k ∨ k = l.opened ∧ l'.opened = l.opened + 1 ∧
      ∃ use, p = .waiting (.linkConnecting use) ∧ a = some (.connected (.ok ())) := by
  cases h with
  | releases => cases hk
  | @forgets j fault =>
    unfold Link.evict at hk
    split at hk
    · cases hk
    · exact .inl hk
  | @installs use =>
    obtain rfl : l.opened = k := by simpa [Link.install, Link.unlock] using hk
    exact .inr ⟨rfl, rfl, use, rfl, rfl⟩
  | _ => exact .inl hk

theorem LinkPassage.opened_le (h : LinkPassage l p a l' turn) : l.opened ≤ l'.opened := by
  cases h with
  | @forgets j fault =>
    unfold Link.evict
    split <;> exact Nat.le_refl _
  | installs => exact Nat.le_succ _
  | _ => exact Nat.le_refl _

/-- A request is sent on the connection that is in use then, or that has just
been opened. -/
theorem LinkPassage.slot_of_asks {r : Request} (h : LinkPassage l p a l' turn)
    (hnext : turn.next = some (.requesting k r)) : l'.slot = some k := by
  have heq {use : LinkUse} {j : Nat} (hj : (use.turn j).next = some (.requesting k r)) :
      j = k := by
    cases use with
    | opening => cases hj
    | request r' =>
      simp only [LinkUse.turn, Turn.next, Option.some.injEq, Wait.requesting.injEq] at hj
      exact hj.1
  cases h with
  | finds _ hk => rwa [← heq hnext]
  | found _ hk => rwa [← heq hnext]
  | installs => rw [← heq hnext]; rfl
  | aloof _ hw => cases hw _ hnext
  | _ => cases hnext

/-! ## Every history -/

/-- **Connections are numbered as they are opened**: one that is or was in use,
or that a request was sent on, has a number that was given out. -/
structure LinkNumbered (past : List Moment) (run : Calls) : Prop where
  inUse : ∀ k, run.link.slot = some k → k < run.link.opened
  wasInUse : ∀ t ∈ past, ∀ k, t.after.link.slot = some k → k < run.link.opened
  asked : ∀ i, ∀ q ∈ (taleOf i past).asked, q.1 < run.link.opened

theorem LinkNumbered.passes (hn : LinkNumbered past t.before) (h : LinkPasses t i p a turn) :
    LinkNumbered (past ++ [t]) t.after := by
  have hle := h.passage.opened_le
  have hnow (k : Nat) (hk : t.after.link.slot = some k) : k < t.after.link.opened := by
    rcases h.passage.slot_opened hk with hold | ⟨hk', hnext, -⟩
    · exact Nat.lt_of_lt_of_le (hn.inUse k hold) hle
    · omega
  refine ⟨hnow, fun u hu k hk => ?_, fun j q hq => ?_⟩
  · rcases List.mem_append.1 hu with hu | hu
    · exact Nat.lt_of_lt_of_le (hn.wasInUse u hu k hk) hle
    · obtain rfl := List.mem_singleton.1 hu
      exact hnow k hk
  · by_cases hj : j = i
    · subst hj
      rw [h.taleOf_self] at hq
      rcases List.mem_append.1 hq with hq | hq
      · exact Nat.lt_of_lt_of_le (hn.asked j q hq) hle
      · exact hnow q.1 (h.passage.slot_of_asks (mem_asks.1 hq))
    · rw [h.taleOf_of_ne hj] at hq
      exact Nat.lt_of_lt_of_le (hn.asked j q hq) hle

theorem linkNumbered (h : History id catalog past run) : LinkNumbered past run := by
  refine link_induction (I := LinkNumbered) h ?_ (fun past t _ ih hq => ?_)
    fun _ _ _ _ _ _ _ ih hp => ih.passes hp
  · exact ⟨by simp [Run.idle, Node.fresh, Link.unused], by simp, by simp [taleOf, Tale.blank]⟩
  have hlink : t.after.link = t.before.link := congrArg Node.link hq.state
  refine ⟨hlink ▸ ih.inUse, fun u hu k hk => ?_, fun i q hq' => ?_⟩
  · rw [hlink]
    rcases List.mem_append.1 hu with hu | hu
    · exact ih.wasInUse u hu k hk
    · obtain rfl := List.mem_singleton.1 hu
      exact ih.inUse k (hlink ▸ hk)
  · rw [taleOf_concat_of_ne (by simp [hq.caller])] at hq'
    exact hlink ▸ ih.asked i q hq'

/-- **A connection is opened while there is none**, and nobody else opens
one. -/
theorem opens_alone (h : History id catalog past run) (ht : t ∈ past)
    (ho : Opens (t.next system)) :
    t.before.link.slot = none ∧ ∀ j, ¬ Opens (t.before.waiting j) := by
  obtain ⟨earlier, hearlier, hm⟩ := h.of_mem ht
  rcases quiet_or_linkPasses (hearlier.bounded (Run.bounded_idle _)) hm with
    hq | ⟨j, p, a, turn, hp⟩
  · obtain ⟨use, huse⟩ := ho
    simp [Transition.next, Transition.stretch?, hq.cause] at huse
  · rw [hp.next] at ho
    rcases hp.passage.lockUse with ⟨-, hno, -⟩ | ⟨-, hfree, hnone, -⟩ | ⟨-, hno, -⟩
    · exact absurd ho hno
    · exact ⟨hnone, (linkGuarded hearlier).token.not_holds hfree⟩
    · exact absurd ho hno

/-- A request is sent once. -/
theorem asked_length_le_one (h : History id catalog past run) (i : Nat) :
    (taleOf i past).asked.length ≤ 1 := by
  have hstory := story h i
  generalize taleOf i past = tale, run.waiting i = w at hstory
  cases hstory <;> simp [Tale.blank]

/-- **A call results in what its request was answered**, or asked nothing and
results in a fault. -/
theorem result_of_calls (h : History id catalog past run) {c : Call} {r : Request}
    (hi : (taleOf i past).calls = [c]) (hc : c.linkUse = some (.request r)) {res : Result}
    (hres : res ∈ (taleOf i past).results) :
    (∃ fault, (taleOf i past).asked = [] ∧ res = .value (.error fault)) ∨
      ∃ k v, (taleOf i past).asked = [(k, r)] ∧ (taleOf i past).replies = [(k, r, v)] ∧
        res = .value v := by
  have hstory := story h i
  generalize taleOf i past = tale, run.waiting i = w at *
  cases hstory with
  | @answered c' k r' v hc' =>
    obtain rfl : c' = c := by simpa using hi
    obtain rfl : r' = r := by simpa using hc'.symm.trans hc
    exact .inr ⟨k, v, rfl, rfl, List.mem_singleton.1 hres⟩
  | @unasked c' res' hfault =>
    obtain rfl : c' = c := by simpa using hi
    obtain rfl := List.mem_singleton.1 hres
    obtain ⟨fault, hfault⟩ := hfault r hc
    exact .inl ⟨fault, rfl, hfault⟩
  | _ => cases hres

/-- **A request that failed for want of a connection** leaves its connection out
of use when the call is over, and no other connection. -/
theorem link_of_failed (h : History id catalog past run) (ht : t ∈ past)
    (hi : t.caller = some i) {res : Result} (hres : t.result system = some res) {r : Request}
    {fault : Fault} (hq : (k, r, .error fault) ∈ (taleOf i past).replies)
    (hconn : fault.isConnectivity) :
    res = .value (.error fault) ∧ t.after.link = t.before.link.evict k := by
  obtain ⟨earlier, p, a, turn, hx, hp, rfl, htale⟩ := taleOf_of_result h ht hi hres
  have hpassage := hp.passage
  rw [htale, hp.taleOf_self] at hq
  rcases List.mem_append.1 hq with hold | hnew
  -- The request was answered before: the call had to wait for the lock.
  · have hstory := story hx i
    rw [Run.waiting_of_progress hp.before] at hstory
    cases p with
    | fresh c =>
      rw [taleOf_of_fresh hx hp.before] at hold
      cases hold
    | waiting w =>
      obtain ⟨fault', rfl, -, hfault⟩ := hstory.eq_evict hold
      obtain rfl : fault = fault' := by simpa using hfault
      obtain ⟨hlink, hturn⟩ := hpassage.of_evict
      exact ⟨by simpa using hturn, hlink⟩
  -- It is answered in this move: then the call goes on to forget the connection.
  · obtain ⟨rfl, rfl⟩ := eq_of_mem_replied hnew
    obtain ⟨v, hv, -, ⟨fault', -, -, hturn⟩ | ⟨hno, -⟩⟩ := hpassage.of_requesting
    · cases hturn
    · obtain rfl : Except.error fault = v := by simpa using hv
      exact absurd hconn (hno fault rfl)

/-- **What takes a connection out of use.** -/
theorem slot_left (h : History id catalog past run) (ht : t ∈ past)
    (hk : t.before.link.slot = some k) :
    t.after.link.slot = some k ∨
      t.after.link.slot = none ∧ (ReleasesLink t ∨ FailsOn k past t) := by
  obtain ⟨earlier, later, rfl⟩ := List.append_of_mem ht
  obtain ⟨hx, hm, -⟩ := h.of_append_cons
  rcases quiet_or_linkPasses (hx.bounded (Run.bounded_idle _)) hm with
    hq | ⟨i, p, a, turn, hp⟩
  · exact .inl ((congrArg (·.link.slot) hq.state).trans hk)
  · have hg := linkGuarded hx
    have hwaits : t.before.waiting i = p.wait? := Run.waiting_of_progress hp.before
    refine (hp.passage.slot_kept hk hg.slot_none fun ho => ?_).imp_right fun ⟨hnone, hwhy⟩ =>
      ⟨hnone, hwhy.imp (fun hr => ⟨p, a, hp.cause, hr⟩) ?_⟩
    · exact hg.locked_iff.2 ⟨i, hwaits ▸ ho⟩
    · rintro ⟨fault, rfl, rfl⟩
      have hstory := story hx i
      rw [hwaits] at hstory
      obtain ⟨c, r, -, hconn, htale⟩ := Story.of_forgetting hstory
      refine ⟨i, r, fault, hp.caller, replies_mono ?_, hconn, hp.result⟩
      rw [htale]
      exact List.mem_singleton_self _

/-! ## After a failed connect -/

/-- **The next call that needs a connection opens one**: one that waits for the
lock, or one that has not begun. -/
structure OpensNext (run : Calls) : Prop where
  waiting : ∀ i use, run.waiting i = some (.linkLock (.connect use)) →
    ∃ next, run.apply system (.resume i .granted) = some next ∧
      next.waiting i = some (.linkConnecting use)
  fresh : ∀ i c use, run.progress i = some (.fresh c) → c.linkUse = some use →
    (∀ order, c = .snapshot order → run.monitor.adapter.isSome) →
    ∃ next, run.applyAll system [.start i, .resume i .granted] = some next ∧
      next.waiting i = some (.linkConnecting use)

theorem start_eq_seekLink {n : Node} {c : Call} {use : LinkUse} (hc : c.linkUse = some use)
    (hfit : ∀ order, c = .snapshot order → n.monitor.adapter.isSome) :
    start c n = n.seekLink use := by
  cases c with
  | openLink =>
    obtain rfl := Option.some.inj hc
    rfl
  | manage r =>
    obtain rfl := Option.some.inj hc
    rfl
  | snapshot order =>
    obtain ⟨adapter, hadapter⟩ := Option.isSome_iff_exists.1 (hfit order rfl)
    simp only [Call.linkUse] at hc
    cases hr : order.request with
    | error fault =>
      rw [hr] at hc
      cases hc
    | ok r =>
      rw [hr] at hc
      obtain rfl := Option.some.inj hc
      exact startSnapshot_of_ok hadapter hr
  | _ => cases hc

theorem opensNext_of_free (hb : run.Bounded) (hslot : run.link.slot = none)
    (hfree : run.link.locked = false) : OpensNext run := by
  have hgranted {run : Calls} (hb : run.Bounded) (hslot : run.link.slot = none)
      (hfree : run.link.locked = false) {i : Nat} {use : LinkUse}
      (hi : run.waiting i = some (.linkLock (.connect use))) :
      ∃ next, run.apply system (.resume i .granted) = some next ∧
        next.waiting i = some (.linkConnecting use) := by
    have hresume : system.resume (.linkLock (.connect use)) .granted run.state =
        some ((run.state.onLink .lock).waits (.linkConnecting use)) := by
      have hlock : ¬ run.state.link.locked := by simpa using hfree
      have hnone : (run.state.onLink .lock).link.slot = none := hslot
      simp only [system, resume, if_neg hlock, withLinkLock, linkLocked, hnone]
    obtain ⟨next, hnext, -, hprogress⟩ := Run.exists_resume hb hi hresume
    exact ⟨next, hnext, Run.waiting_of_progress hprogress⟩
  refine ⟨fun i use hi => hgranted hb hslot hfree hi, fun i c use hi hc hfit => ?_⟩
  have hstart : system.start c run.state = run.state.waits (.linkLock (.connect use)) := by
    have hnone : run.state.link.slot = none := hslot
    have hseek : start c run.state = run.state.seekLink use := start_eq_seekLink hc hfit
    simp only [system, hseek, seekLink, hnone]
  obtain ⟨mid, hmid, hstate, hprogress⟩ := Run.exists_start hb hi
  rw [hstart] at hstate hprogress
  have hlink : mid.link = run.link := congrArg Node.link hstate
  obtain ⟨next, hnext, hopens⟩ := hgranted (hb.apply hmid) (hlink ▸ hslot) (hlink ▸ hfree)
    (Run.waiting_of_progress hprogress)
  exact ⟨next, foldlM_cons_eq_some_iff.2 ⟨mid, hmid, foldlM_cons_eq_some_iff.2
    ⟨next, hnext, rfl⟩⟩, hopens⟩

/-- **A failed connect leaves the link as if nobody had tried.** -/
theorem after_failed_connect (h : History id catalog past run) (ht : t ∈ past) {use : LinkUse}
    {fault : Fault}
    (hc : t.cause = some (.waiting (.linkConnecting use), some (.connected (.error fault)))) :
    t.after.link.slot = none ∧ t.result system = some (.value (.error fault)) ∧
      OpensNext t.after := by
  obtain ⟨earlier, hx, hm⟩ := h.of_mem ht
  obtain ⟨i, turn, hp⟩ := linkPasses_of_cause hx hm hc
  obtain ⟨fault', hfault, hlink, rfl⟩ | ⟨hok, -⟩ := hp.passage.of_connecting
  · obtain rfl : fault = fault' := by simpa using hfault
    have hg := linkGuarded hx
    have hlocked : t.before.link.locked = true :=
      hg.locked_iff.2 ⟨i, use, Run.waiting_of_progress hp.before⟩
    have hslot : t.after.link.slot = none := by
      rw [hlink]
      exact hg.slot_none hlocked
    have hfree : t.after.link.locked = false := by
      rw [hlink]
      rfl
    have hb : t.after.Bounded := (hx.bounded (Run.bounded_idle _)).apply hm
    exact ⟨hslot, hp.result, opensNext_of_free hb hslot hfree⟩
  · cases hok

/-- **What a request is answered changes nothing of the link** at once. -/
theorem link_of_answered (h : History id catalog past run) (ht : t ∈ past) {r : Request}
    {v : Except Fault Value}
    (hc : t.cause = some (.waiting (.requesting k r), some (.value v))) :
    t.after.link = t.before.link ∧
      ((∀ fault, v = .error fault → ¬ fault.isConnectivity) →
        t.result system = some (.value v)) := by
  obtain ⟨earlier, hx, hm⟩ := h.of_mem ht
  obtain ⟨i, turn, hp⟩ := linkPasses_of_cause hx hm hc
  obtain ⟨v', hv, hlink, hturn⟩ := hp.passage.of_requesting
  obtain rfl : v = v' := by simpa using hv
  refine ⟨hlink, fun hno => ?_⟩
  rcases hturn with ⟨fault, rfl, hconn, -⟩ | ⟨-, rfl⟩
  · exact absurd hconn (hno fault rfl)
  · exact hp.result

/-- **A connection that is opened is a new one**: it was not in use before, and
no request was sent on it. -/
theorem new_of_opensLink {later : List Moment}
    (h : History id catalog (past ++ t :: later) run) (ho : OpensLink t) :
    ∃ k, t.after.link.slot = some k ∧ (∀ u ∈ past, u.after.link.slot ≠ some k) ∧
      ∀ i, ∀ q ∈ (taleOf i past).asked, q.1 ≠ k := by
  obtain ⟨hx, hm, -⟩ := h.of_append_cons
  obtain ⟨use, huse⟩ := ho
  obtain ⟨i, turn, hp⟩ := linkPasses_of_cause hx hm huse
  obtain ⟨fault, hfault, -⟩ | ⟨-, hlink, -⟩ := hp.passage.of_connecting
  · cases hfault
  · have hn := linkNumbered hx
    refine ⟨t.before.link.opened, ?_, fun u hu hk => ?_, fun j q hq => ?_⟩
    · rw [hlink]
      rfl
    · exact absurd (hn.wasInUse u hu _ hk) (Nat.lt_irrefl _)
    · exact Nat.ne_of_lt (hn.asked j q hq)

/-- **All requests share one management connection.** In every history of a
node: connections are opened one at a time, and only while none is in use, and
each is a new one. A call sends its request once, and results in what the
request was answered; if it sent none it results in a fault. When a call is over
whose request failed for want of a connection, its connection is not in use, and
any other that was is still. A connection goes out of use in no other way than
this and by being given up; what a request is answered changes nothing of the
link by itself. After a connect that failed there is no connection, and the next
call that needs one opens one. -/
theorem link_is_shared (h : History id catalog past run) :
    (∀ i j, Opens (run.waiting i) → Opens (run.waiting j) → i = j) ∧
    (∀ t ∈ past, Opens (t.next system) →
      t.before.link.slot = none ∧ ∀ i, ¬ Opens (t.before.waiting i)) ∧
    (∀ earlier t later, past = earlier ++ t :: later → OpensLink t →
      ∃ k, t.after.link.slot = some k ∧ (∀ u ∈ earlier, u.after.link.slot ≠ some k) ∧
        ∀ i, ∀ q ∈ (taleOf i earlier).asked, q.1 ≠ k) ∧
    (∀ i, (taleOf i past).asked.length ≤ 1) ∧
    (∀ i c r, (taleOf i past).calls = [c] → c.linkUse = some (.request r) →
      ∀ res ∈ (taleOf i past).results,
        (∃ fault, (taleOf i past).asked = [] ∧ res = .value (.error fault)) ∨
        ∃ k v, (taleOf i past).asked = [(k, r)] ∧ (taleOf i past).replies = [(k, r, v)] ∧
          res = .value v) ∧
    (∀ t ∈ past, ∀ i res k r fault, t.caller = some i → t.result system = some res →
      (k, r, .error fault) ∈ (taleOf i past).replies → fault.isConnectivity →
        res = .value (.error fault) ∧ t.after.link.slot ≠ some k ∧
          (t.before.link.slot ≠ some k → t.after.link.slot = t.before.link.slot)) ∧
    (∀ t ∈ past, ∀ k, t.before.link.slot = some k → t.after.link.slot = some k ∨
      t.after.link.slot = none ∧ (ReleasesLink t ∨ FailsOn k past t)) ∧
    (∀ t ∈ past, ∀ k r v, t.cause = some (.waiting (.requesting k r), some (.value v)) →
      t.after.link = t.before.link ∧ ((∀ fault, v = .error fault → ¬ fault.isConnectivity) →
        t.result system = some (.value v))) ∧
    ∀ t ∈ past, ∀ use fault,
      t.cause = some (.waiting (.linkConnecting use), some (.connected (.error fault))) →
        t.after.link.slot = none ∧ t.result system = some (.value (.error fault)) ∧
          OpensNext t.after := by
  refine ⟨(linkGuarded h).token.unique, fun t ht => opens_alone h ht, fun earlier t later hpast =>
    new_of_opensLink (hpast ▸ h), asked_length_le_one h, fun i c r hi hc res =>
    result_of_calls h hi hc, fun t ht i res k r fault hi hres hq hconn => ?_,
    fun t ht k => slot_left h ht, fun t ht k r v => link_of_answered h ht,
    fun t ht use fault => after_failed_connect h ht⟩
  obtain ⟨hvalue, hlink⟩ := link_of_failed h ht hi hres hq hconn
  refine ⟨hvalue, ?_, fun hne => ?_⟩
  · rw [hlink]
    exact t.before.link.slot_evict_ne k
  · rw [hlink, Link.evict_of_ne hne]

/-- The request that reads the mode of a node. -/
def readMode : Request :=
  .read ⟨"db:type=StorageService", "db".length⟩ "OperationMode"

/-- A request is sent; its connection is given up, and another one is opened for
a second request; then the first request fails for want of a connection. -/
def lateFailure : List (Move Call Answer) :=
  [.submit (.manage readMode), .start 0, .resume 0 .granted, .resume 0 (.connected (.ok ())),
    .submit .closeLink, .start 1, .resume 1 .closed,
    .submit (.manage readMode), .start 2, .resume 2 .granted, .resume 2 (.connected (.ok ())),
    .resume 0 (.value (.error (.managementUnavailable "node" "reset")))]

/-- A connection that was opened meanwhile stays in use when the call whose
request failed on an earlier one is over. -/
theorem late_failure_spares_new_connection : ∃ (before after : Calls) (past : List Moment),
    History 1 .standard past before ∧ before.apply system (.resume 0 .granted) = some after ∧
    (taleOf 0 past).replies = [(0, readMode, .error (.managementUnavailable "node" "reset"))] ∧
    after.progress 0 = none ∧ before.link.slot = some 1 ∧ after.link.slot = some 1 ∧
    (taleOf 0 past).asked.length ≤ 1 := by
  obtain ⟨before, hbefore, hslot, hreplies, after, hlast, hresult, hover⟩ : ∃ before,
      (Run.idle (Node.fresh 1 .standard)).applyAll system lateFailure = some before ∧
      before.link.slot = some 1 ∧
      (taleOf 0 (Run.transitions system (Run.idle (Node.fresh 1 .standard)) lateFailure)).replies
        = [(0, readMode, .error (.managementUnavailable "node" "reset"))] ∧ ∃ after,
      before.apply system (.resume 0 .granted) = some after ∧
      Transition.result system ⟨before, .resume 0 .granted, after⟩ =
        some (.value (.error (.managementUnavailable "node" "reset"))) ∧
      after.progress 0 = none :=
    ⟨_, rfl, rfl, rfl, _, rfl, rfl, rfl⟩
  have hpast := execution_of_applyAll hbefore
  have hreply : (0, readMode, .error (.managementUnavailable "node" "reset")) ∈
      (taleOf 0 (Run.transitions system (Run.idle (Node.fresh 1 .standard)) lateFailure ++
        [⟨before, .resume 0 .granted, after⟩])).replies :=
    replies_mono (hreplies ▸ List.mem_singleton_self _)
  obtain ⟨-, -, -, -, -, hforgets, -⟩ := link_is_shared (hpast.move hlast)
  obtain ⟨-, -, hkept⟩ := hforgets ⟨before, .resume 0 .granted, after⟩ (by simp) 0 _ 0 readMode _
    rfl hresult hreply rfl
  obtain ⟨-, -, -, honce, -⟩ := link_is_shared hpast
  have hsame : after.link.slot = before.link.slot := hkept (by simp [hslot])
  exact ⟨before, after, _, hpast, hlast, hreplies, hover, hslot, hsame.trans hslot, honce 0⟩

end NodeSidecar.Node
