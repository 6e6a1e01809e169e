import NodeSidecar.Proofs.Node.LinkPassage
import NodeSidecar.Proofs.Token
/-!
# Node — calls on the link

The lock of a link is held by the one call that opens a connection, and no
connection is in use meanwhile (`LinkGuarded`). What one call has done is read
off the moves that it made (`Tale`): it asks at most one request, and what the
request is answered is what the call results in (`Story`).
-/

namespace NodeSidecar.Node

open Management (Link Request Value)

variable {l l' : Link} {p : Progress Call Wait} {a : Option Answer} {turn : Turn Wait Result}
variable {id : Nat} {catalog : Catalog} {past : List Moment} {run : Calls} {t : Moment} {i : Nat}

/-- **Induction along a history**, by what each move does to the link. -/
theorem link_induction {I : List Moment → Calls → Prop} (h : History id catalog past run)
    (h0 : I [] (Run.idle (Node.fresh id catalog)))
    (hquiet : ∀ past t, History id catalog past t.before → I past t.before → t.Quiet →
      I (past ++ [t]) t.after)
    (hpasses : ∀ past t i p a turn, History id catalog past t.before → I past t.before →
      LinkPasses t i p a turn → I (past ++ [t]) t.after) : I past run :=
  h.induction (Run.bounded_idle _) h0 hquiet fun past t i p a st hx ih hr =>
    hpasses past t i p a st.turn hx ih (linkPasses_of_ran (hx.bounded (Run.bounded_idle _)) hr)

/-- A move lets no call go on, or lets one pass. -/
theorem quiet_or_linkPasses (hb : t.before.Bounded)
    (hm : t.before.apply system t.move = some t.after) :
    t.Quiet ∨ ∃ i p a turn, LinkPasses t i p a turn := by
  rcases Transition.quiet_or_ran hb hm with hq | ⟨i, p, a, st, hr⟩
  · exact .inl hq
  · exact .inr ⟨i, p, a, st.turn, linkPasses_of_ran hb hr⟩

/-- A move whose cause is known lets the call that it is about pass. -/
theorem linkPasses_of_cause (h : History id catalog past t.before)
    (hm : t.before.apply system t.move = some t.after) (hc : t.cause = some (p, a)) :
    ∃ i turn, LinkPasses t i p a turn := by
  rcases quiet_or_linkPasses (h.bounded (Run.bounded_idle _)) hm with
    hq | ⟨i, p', a', turn, hp⟩
  · exact absurd (hq.cause.symm.trans hc) nofun
  · obtain ⟨rfl, rfl⟩ := hp.eq_of_cause hc
    exact ⟨i, turn, hp⟩

/-! ## The lock -/

/-- A management connection is being opened. -/
def Opens (w : Option Wait) : Prop :=
  ∃ use, w = some (.linkConnecting use)

/-- **One call at a time opens a connection**: the one that holds the lock. No
connection is in use meanwhile. -/
structure LinkGuarded (l : Link) (waiting : Nat → Option Wait) : Prop where
  token : Token Opens (l.locked = true) waiting
  slot_none : l.locked = true → l.slot = none

theorem not_opens_none : ¬ Opens none := by
  simp [Opens]

theorem not_opens_next (k : Nat) (use : LinkUse) : ¬ Opens (use.turn k).next := by
  cases use <;> simp [LinkUse.turn, Turn.next, Opens]

/-- What a stretch does to the lock of the link. -/
inductive LinkLockUse (l l' : Link) (p : Progress Call Wait) (w : Option Wait) : Prop
  /-- It leaves the lock alone, and the connection too if somebody holds it. -/
  | leaves : ¬ Opens p.wait? → ¬ Opens w → l'.locked = l.locked →
      (l.slot = none → l'.slot = none) → LinkLockUse l l' p w
  /-- It takes the lock, to open a connection. -/
  | takes : Opens w → ¬ l.locked → l.slot = none → l'.locked → l'.slot = none →
      LinkLockUse l l' p w
  /-- It gives the lock back. -/
  | returns : Opens p.wait? → ¬ Opens w → ¬ l'.locked → LinkLockUse l l' p w

/-- **What every stretch does to the lock of the link.** -/
theorem LinkPassage.lockUse (h : LinkPassage l p a l' turn) :
    LinkLockUse l l' p turn.next := by
  cases h with
  | @finds c use k => exact .leaves not_opens_none (not_opens_next k use) rfl id
  | @found use k => exact .leaves (by simp [Opens, Progress.wait?]) (not_opens_next k use) rfl id
  | connects hfree hnone => exact .takes ⟨_, rfl⟩ hfree hnone rfl hnone
  | unreachable => exact .returns ⟨_, rfl⟩ not_opens_none Bool.false_ne_true
  | @installs use => exact .returns ⟨_, rfl⟩ (not_opens_next _ use) Bool.false_ne_true
  | @forgets k fault =>
    refine .leaves (by simp [Opens, Progress.wait?]) not_opens_none ?_ fun hnone => ?_
    · unfold Link.evict
      split <;> rfl
    · unfold Link.evict
      split
      · rfl
      · exact hnone
  | releases hr =>
    refine .leaves ?_ (by simp [Opens, Turn.next]) rfl fun _ => rfl
    cases hr <;> simp [Opens, Progress.wait?]
  | unused hr =>
    refine .leaves ?_ not_opens_none rfl id
    cases hr <;> simp [Opens, Progress.wait?]
  | aloof hp hw =>
    refine .leaves ?_ ?_ rfl id
    · rintro ⟨use, huse⟩
      cases p with
      | fresh c => cases huse
      | waiting w =>
        obtain rfl := Option.some.inj huse
        cases hp
    · rintro ⟨use, huse⟩
      cases hw _ huse
  | _ => exact .leaves (by simp [Opens, Progress.wait?]) (by simp [Opens, Turn.next]) rfl id

/-- **The lock stays with the one call that opens a connection.** -/
theorem LinkGuarded.passes (hg : LinkGuarded t.before.link t.before.waiting)
    (h : LinkPasses t i p a turn) : LinkGuarded t.after.link t.after.waiting := by
  have hwaits : t.before.waiting i = p.wait? := Run.waiting_of_progress h.before
  obtain ⟨htoken, hslot⟩ := hg
  rw [h.waiting]
  rcases h.passage.lockUse with ⟨hp, hw, hlocked, hnone⟩ | ⟨hw, hfree, -, hlocked, hnone⟩ |
    ⟨hp, hw, hfree⟩
  · refine ⟨htoken.keep (iff_of_false hw (hwaits ▸ hp)) (by rw [hlocked]), fun h' => ?_⟩
    exact hnone (hslot (hlocked ▸ h'))
  · exact ⟨htoken.take hfree hw hlocked, fun _ => hnone⟩
  · exact ⟨htoken.release (hwaits ▸ hp) hw hfree, fun h' => absurd h' hfree⟩

/-- **Every history guards the link.** -/
theorem linkGuarded (h : History id catalog past run) : LinkGuarded run.link run.waiting := by
  refine link_induction (I := fun _ run => LinkGuarded run.link run.waiting) h ?_
    (fun past t _ ih hq => ?_) fun _ _ _ _ _ _ _ ih hp => ih.passes hp
  · exact ⟨.init nofun not_opens_none, nofun⟩
  · have hstate : t.after.link = t.before.link := congrArg Node.link hq.state
    rwa [hstate, hq.waiting]

/-- A connection is being opened just while the lock is taken. -/
theorem LinkGuarded.locked_iff (hg : LinkGuarded run.link run.waiting) :
    run.link.locked = true ↔ ∃ i, Opens (run.waiting i) :=
  hg.token.up_iff

/-! ## What a call has done -/

/-- What one call has done: what it is, the requests that it asked and on which
connection, what they were answered, and what it resulted in. -/
structure Tale where
  /-- The call. -/
  calls : List Call
  /-- The requests that it asked, and on which connection. -/
  asked : List (Nat × Request)
  /-- What they were answered. -/
  replies : List (Nat × Request × Except Fault Value)
  /-- What the call resulted in. -/
  results : List Result

/-- The request that is asked. -/
def asks : Option Wait → List (Nat × Request)
  | some (.requesting k r) => [(k, r)]
  | _ => []

theorem mem_asks {q : Nat × Request} {w : Option Wait} :
    q ∈ asks w ↔ w = some (.requesting q.1 q.2) := by
  unfold asks
  split
  · rename_i k r
    constructor
    · intro hq
      obtain rfl := List.mem_singleton.1 hq
      rfl
    · intro hw
      simp only [Option.some.injEq, Wait.requesting.injEq] at hw
      exact List.mem_singleton.2 (Prod.ext hw.1.symm hw.2.symm)
  · rename_i hno
    exact iff_of_false List.not_mem_nil (hno q.1 q.2)

/-- The call that begins. -/
def begins : Progress Call Wait → List Call
  | .fresh c => [c]
  | .waiting _ => []

/-- What a request is answered. -/
def replied : Progress Call Wait → Option Answer → List (Nat × Request × Except Fault Value)
  | .waiting (.requesting k r), some (.value v) => [(k, r, v)]
  | _, _ => []

theorem eq_of_mem_replied {k : Nat} {r : Request} {v : Except Fault Value}
    (hq : (k, r, v) ∈ replied p a) : p = .waiting (.requesting k r) ∧ a = some (.value v) := by
  unfold replied at hq
  split at hq
  · obtain ⟨rfl, rfl, rfl⟩ : k = _ ∧ r = _ ∧ v = _ := by simpa using hq
    exact ⟨rfl, rfl⟩
  · cases hq

namespace Tale

/-- Nothing has been done. -/
def blank : Tale :=
  ⟨[], [], [], []⟩

/-- One thing after another. -/
def append (x y : Tale) : Tale :=
  ⟨x.calls ++ y.calls, x.asked ++ y.asked, x.replies ++ y.replies, x.results ++ y.results⟩

/-- What is done in a stretch: then the call waits for `w` or results in `r`. -/
def ofStretch (p : Progress Call Wait) (a : Option Answer) (w : Option Wait)
    (r : Option Result) : Tale :=
  ⟨begins p, asks w, replied p a, r.toList⟩

@[simp] theorem append_blank (x : Tale) : x.append blank = x := by
  simp [append, blank]

end Tale

/-- What the call `i` does in a move. -/
def doneBy (i : Nat) (t : Moment) : Tale :=
  if t.caller = some i then
    match t.cause with
    | some (p, a) => .ofStretch p a (t.next system) (t.result system)
    | none => .blank
  else .blank

/-- What the call `i` has done. -/
def taleOf (i : Nat) (past : List Moment) : Tale :=
  past.foldl (fun tale t => tale.append (doneBy i t)) .blank

theorem taleOf_concat (i : Nat) (past : List Moment) (t : Moment) :
    taleOf i (past ++ [t]) = (taleOf i past).append (doneBy i t) := by
  simp [taleOf]

theorem taleOf_concat_of_ne (h : t.caller ≠ some i) : taleOf i (past ++ [t]) = taleOf i past := by
  rw [taleOf_concat, doneBy, if_neg h, Tale.append_blank]

theorem taleOf_append_of_no_move {later : List Moment} (h : ∀ t ∈ later, t.caller ≠ some i) :
    taleOf i (past ++ later) = taleOf i past := by
  induction later generalizing past with
  | nil => rw [List.append_nil]
  | cons t later ih =>
    obtain ⟨ht, hlater⟩ := List.forall_mem_cons.1 h
    rw [List.append_cons, ih hlater, taleOf_concat_of_ne ht]

theorem LinkPasses.taleOf_self (h : LinkPasses t i p a turn) :
    taleOf i (past ++ [t]) = (taleOf i past).append (.ofStretch p a turn.next turn.result) := by
  simp only [taleOf_concat, doneBy, h.caller, if_true, h.cause, h.next, h.result]

theorem LinkPasses.taleOf_of_ne {j : Nat} (h : LinkPasses t i p a turn) (hj : j ≠ i) :
    taleOf j (past ++ [t]) = taleOf j past := by
  refine taleOf_concat_of_ne ?_
  rw [h.caller]
  exact fun hi => hj (Option.some.inj hi).symm

/-- Something waited for on the way to a connection, or with one. -/
def Wait.wantsLink : Wait → Bool
  | .linkLock _ | .linkConnecting _ | .requesting .. => true
  | _ => false

theorem Wait.wantsLink_of_usesLink {w : Wait} (hw : w.usesLink = false) :
    w.wantsLink = false := by
  cases w with
  | linkLock work => cases hw
  | linkConnecting use => cases hw
  | requesting k r => cases hw
  | _ => rfl

theorem Wait.wantsLink_of_aloof {w : Wait} (hw : Aloof (.waiting w)) : w.wantsLink = false := by
  cases w with
  | linkLock work => cases hw
  | linkConnecting use => cases hw
  | requesting k r => cases hw
  | _ => rfl

theorem Call.linkUse_eq_none {c : Call} (hc : c.usesLink = false) : c.linkUse = none := by
  cases c with
  | snapshot order => cases hc
  | openLink => cases hc
  | manage r => cases hc
  | _ => rfl

theorem asks_of_usesLink {w : Wait} (hw : w.usesLink = false) : asks (some w) = [] := by
  cases w with
  | requesting k r => cases hw
  | _ => rfl

theorem replied_of_aloof (hp : Aloof p) : replied p a = [] := by
  unfold replied
  split
  · cases hp
  · rfl

/-- **How far a call has come on the link**: what it has done so far, and what it
waits for now. -/
inductive Story : Tale → Option Wait → Prop
  /-- It has not begun. -/
  | unknown : Story .blank none
  /-- It is on the way to a connection. -/
  | seeking {c : Call} {use : LinkUse} {w : Wait} : c.linkUse = some use →
      w = .linkLock (.connect use) ∨ w = .linkConnecting use → Story ⟨[c], [], [], []⟩ (some w)
  /-- Its request is on the way. -/
  | asking {c : Call} {k : Nat} {r : Request} : c.linkUse = some (.request r) →
      Story ⟨[c], [(k, r)], [], []⟩ (some (.requesting k r))
  /-- Its request failed for want of a connection. -/
  | forgetting {c : Call} {k : Nat} {r : Request} {fault : Fault} :
      c.linkUse = some (.request r) → fault.isConnectivity →
      Story ⟨[c], [(k, r)], [(k, r, .error fault)], []⟩ (some (.linkLock (.evict k fault)))
  /-- It is over, and results in what its request was answered. -/
  | answered {c : Call} {k : Nat} {r : Request} {v : Except Fault Value} :
      c.linkUse = some (.request r) → Story ⟨[c], [(k, r)], [(k, r, v)], [.value v]⟩ none
  /-- It is over, and asked nothing. -/
  | unasked {c : Call} {res : Result} :
      (∀ r, c.linkUse = some (.request r) → ∃ fault, res = .value (.error fault)) →
      Story ⟨[c], [], [], [res]⟩ none
  /-- It does not want a connection. -/
  | aside {c : Call} {w : Wait} : c.linkUse = none → w.wantsLink = false →
      Story ⟨[c], [], [], []⟩ (some w)

namespace Story

variable {tale : Tale} {use : LinkUse} {k : Nat} {c : Call} {w : Wait}

/-- A call gets a connection. -/
theorem of_use (hc : c.linkUse = some use) (k : Nat) :
    Story ⟨[c], asks (use.turn k).next, [], (use.turn k).result.toList⟩ (use.turn k).next := by
  cases use with
  | opening =>
    refine .unasked fun r hr => ?_
    cases hc.symm.trans hr
  | request r => exact .asking hc

theorem of_seeking (hs : Story tale (some w))
    (hw : w = .linkLock (.connect use) ∨ w = .linkConnecting use) :
    ∃ c, c.linkUse = some use ∧ tale = ⟨[c], [], [], []⟩ := by
  cases hs with
  | @seeking c use' w hc hw' =>
    have huse : use' = use := by
      rcases hw with rfl | rfl <;> simpa [eq_comm] using hw'
    exact ⟨c, huse ▸ hc, rfl⟩
  | asking => simp at hw
  | forgetting => simp at hw
  | aside _ hno => rcases hw with rfl | rfl <;> cases hno

theorem of_asking {r : Request} (hs : Story tale (some (.requesting k r))) :
    ∃ c, c.linkUse = some (.request r) ∧ tale = ⟨[c], [(k, r)], [], []⟩ := by
  cases hs with
  | seeking _ hw => simp at hw
  | @asking c k r hc => exact ⟨c, hc, rfl⟩
  | aside _ hno => cases hno

theorem of_forgetting {fault : Fault} (hs : Story tale (some (.linkLock (.evict k fault)))) :
    ∃ c r, c.linkUse = some (.request r) ∧ fault.isConnectivity ∧
      tale = ⟨[c], [(k, r)], [(k, r, .error fault)], []⟩ := by
  cases hs with
  | seeking _ hw => simp at hw
  | @forgetting c k r fault hc hconn => exact ⟨c, r, hc, hconn, rfl⟩
  | aside _ hno => cases hno

theorem of_aside (hs : Story tale (some w)) (hw : w.wantsLink = false) :
    ∃ c, c.linkUse = none ∧ tale = ⟨[c], [], [], []⟩ := by
  cases hs with
  | seeking _ hw' => rcases hw' with rfl | rfl <;> cases hw
  | asking => cases hw
  | forgetting => cases hw
  | @aside c w hc => exact ⟨c, hc, rfl⟩

/-- A call that has nothing to do with the link is over. -/
theorem over_of_aside (hc : c.linkUse = none) (res : Result) :
    Story ⟨[c], [], [], [res]⟩ none := by
  refine .unasked fun r hr => ?_
  rw [hc] at hr
  cases hr

/-- Nothing is done on the link by a call that does nothing to it. -/
theorem aloof (hs : Story tale p.wait?) (hfresh : ∀ c, p = .fresh c → tale = .blank)
    (hp : Aloof p) (hw : ∀ w, turn.next = some w → w.usesLink = false) :
    Story (tale.append (.ofStretch p a turn.next turn.result)) turn.next := by
  obtain ⟨c, hc, htale⟩ : ∃ c, c.linkUse = none ∧
      tale.append ⟨begins p, [], [], []⟩ = ⟨[c], [], [], []⟩ := by
    cases p with
    | fresh c =>
      obtain rfl := hfresh c rfl
      exact ⟨c, Call.linkUse_eq_none hp, rfl⟩
    | waiting w =>
      obtain ⟨c, hc, rfl⟩ := hs.of_aside (Wait.wantsLink_of_aloof hp)
      exact ⟨c, hc, rfl⟩
  have hsplit : tale.append (.ofStretch p a turn.next turn.result) =
      (tale.append ⟨begins p, [], [], []⟩).append ⟨[], asks turn.next, [], turn.result.toList⟩ := by
    simp [Tale.append, Tale.ofStretch, replied_of_aloof hp]
  rw [hsplit, htale]
  cases turn with
  | wait w =>
    have hno : w.usesLink = false := hw w rfl
    simpa [Tale.append, Turn.next, Turn.result, asks_of_usesLink hno] using
      aside hc (Wait.wantsLink_of_usesLink hno)
  | done res => exact over_of_aside hc res

/-- **A call goes on by one stretch.** -/
theorem passes (hs : Story tale p.wait?) (hfresh : ∀ c, p = .fresh c → tale = .blank)
    (h : LinkPassage l p a l' turn) :
    Story (tale.append (.ofStretch p a turn.next turn.result)) turn.next := by
  cases h with
  | @finds c use k hc =>
    obtain rfl := hfresh c rfl
    simpa [Tale.append, Tale.ofStretch, Tale.blank, begins, replied] using of_use hc k
  | @seeks c use hc =>
    obtain rfl := hfresh c rfl
    exact .seeking hc (.inl rfl)
  | @refused order fault =>
    obtain rfl := hfresh _ rfl
    exact .unasked fun r _ => ⟨fault, rfl⟩
  | releases hr =>
    cases hr with
    | asked =>
      obtain rfl := hfresh _ rfl
      exact .aside rfl rfl
    | ending =>
      obtain ⟨c, hc, rfl⟩ := hs.of_aside rfl
      exact .aside hc rfl
  | unused hr =>
    cases hr with
    | asked =>
      obtain rfl := hfresh _ rfl
      exact over_of_aside rfl .finished
    | ending =>
      obtain ⟨c, hc, rfl⟩ := hs.of_aside rfl
      exact over_of_aside hc .finished
  | @found use k =>
    obtain ⟨c, hc, rfl⟩ := hs.of_seeking (.inl rfl)
    exact of_use hc k
  | connects =>
    obtain ⟨c, hc, rfl⟩ := hs.of_seeking (.inl rfl)
    exact .seeking hc (.inr rfl)
  | forgets =>
    obtain ⟨c, r, hc, -, rfl⟩ := hs.of_forgetting
    exact .answered hc
  | @unreachable use fault =>
    obtain ⟨c, hc, rfl⟩ := hs.of_seeking (.inr rfl)
    exact .unasked fun r _ => ⟨fault, rfl⟩
  | installs =>
    obtain ⟨c, hc, rfl⟩ := hs.of_seeking (.inr rfl)
    exact of_use hc l.opened
  | succeeds =>
    obtain ⟨c, hc, rfl⟩ := hs.of_asking
    exact .answered hc
  | fails =>
    obtain ⟨c, hc, rfl⟩ := hs.of_asking
    exact .answered hc
  | cutOff hconn =>
    obtain ⟨c, hc, rfl⟩ := hs.of_asking
    exact .forgetting hc hconn
  | released =>
    obtain ⟨c, hc, rfl⟩ := hs.of_aside rfl
    exact over_of_aside hc .finished
  | aloof hp hw => exact hs.aloof hfresh hp hw

/-- A call that waits results in nothing yet. -/
theorem results_eq_nil (hs : Story tale (some w)) : tale.results = [] := by
  cases hs <;> rfl

/-- A call that goes on after its request was answered forgets the connection. -/
theorem eq_evict (hs : Story tale (some w)) {q : Nat × Request × Except Fault Value}
    (hq : q ∈ tale.replies) :
    ∃ fault, w = .linkLock (.evict q.1 fault) ∧ fault.isConnectivity ∧ q.2.2 = .error fault := by
  cases hs with
  | @forgetting c k r fault _ hconn =>
    obtain rfl := List.mem_singleton.1 hq
    exact ⟨fault, rfl, hconn, rfl⟩
  | _ => cases hq

end Story

/-- A call that has not begun has done nothing. -/
theorem taleOf_of_fresh (h : History id catalog past run) {c : Call}
    (hi : run.progress i = some (.fresh c)) : taleOf i past = .blank := by
  have hidle := h.caller_ne_of_fresh (Run.bounded_idle _) hi
  have hnothing : taleOf i ([] ++ past) = .blank := taleOf_append_of_no_move hidle
  rwa [List.nil_append] at hnothing

/-- **Every call has come as far as it has done something**, after every
history. -/
theorem story (h : History id catalog past run) (i : Nat) :
    Story (taleOf i past) (run.waiting i) := by
  refine link_induction (I := fun past run => ∀ i, Story (taleOf i past) (run.waiting i)) h
    (fun _ => .unknown) (fun past t _ ih hq i => ?_) (fun past t j p a turn hx ih hp i => ?_) i
  · rw [taleOf_concat_of_ne (by simp [hq.caller]), hq.waiting]
    exact ih i
  · by_cases hij : i = j
    · subst hij
      have hwaits : t.before.waiting i = p.wait? := Run.waiting_of_progress hp.before
      rw [hp.taleOf_self, hp.waiting_self]
      refine (hwaits ▸ ih i).passes (fun c hc => ?_) hp.passage
      exact taleOf_of_fresh hx (hc ▸ hp.before)
    · rw [hp.taleOf_of_ne hij, hp.waiting_of_ne hij]
      exact ih i

/-- A call in progress results in nothing yet. -/
theorem results_of_progress (h : History id catalog past run) (hp : run.progress i = some p) :
    (taleOf i past).results = [] := by
  have hstory := story h i
  rw [Run.waiting_of_progress hp] at hstory
  cases p with
  | fresh c =>
    rw [taleOf_of_fresh h hp]
    rfl
  | waiting w => exact hstory.results_eq_nil

/-- What is answered stays answered. -/
theorem replies_mono {q : Nat × Request × Except Fault Value} {later : List Moment}
    (hq : q ∈ (taleOf i past).replies) : q ∈ (taleOf i (past ++ later)).replies := by
  induction later generalizing past with
  | nil => simpa using hq
  | cons t later ih =>
    rw [List.append_cons]
    refine ih ?_
    rw [taleOf_concat]
    exact List.mem_append_left _ hq

/-- **A call that is over does nothing more**: what it has done is what it had
done with the move that ended it. -/
theorem taleOf_of_result (h : History id catalog past run) (ht : t ∈ past)
    (hi : t.caller = some i) {res : Result} (hres : t.result system = some res) :
    ∃ earlier p a turn, History id catalog earlier t.before ∧ LinkPasses t i p a turn ∧
      turn = .done res ∧ taleOf i past = taleOf i (earlier ++ [t]) := by
  refine link_induction (I := fun past _ => t ∈ past → ∃ earlier p a turn,
    History id catalog earlier t.before ∧ LinkPasses t i p a turn ∧ turn = .done res ∧
      taleOf i past = taleOf i (earlier ++ [t])) h
    (by simp) (fun past u _ ih hq ht => ?_) (fun past u j p a turn hx ih hp ht => ?_) ht
  · rcases List.mem_append.1 ht with ht | ht
    · rw [taleOf_concat_of_ne (by simp [hq.caller])]
      exact ih ht
    · obtain rfl := List.mem_singleton.1 ht
      rw [hq.caller] at hi
      cases hi
  · rcases List.mem_append.1 ht with ht | ht
    · obtain ⟨earlier, p', a', turn', hx', hp', hturn, htale⟩ := ih ht
      by_cases hij : i = j
      -- The call is over, so it is not the one that goes on.
      · subst hij
        have hnone := results_of_progress hx hp.before
        rw [htale, hp'.taleOf_self, hturn] at hnone
        simp [Tale.append, Tale.ofStretch, Turn.result] at hnone
      · rw [hp.taleOf_of_ne hij]
        exact ⟨earlier, p', a', turn', hx', hp', hturn, htale⟩
    · obtain rfl := List.mem_singleton.1 ht
      obtain rfl : j = i := Option.some.inj (hp.caller.symm.trans hi)
      refine ⟨past, p, a, turn, hx, hp, ?_, rfl⟩
      have hturn : turn.result = some res := hp.result.symm.trans hres
      cases turn with
      | wait w => cases hturn
      | done res' => exact congrArg Turn.done (Option.some.inj hturn)

end NodeSidecar.Node
