import NodeSidecar.Proofs.Node.History
/-!
# Node — what a stretch does to the link

`LinkPassage` lists what a stretch of a call can do to the link of its node, as
`Passage` does for the monitor, and how the stretch ends.
`linkPassage_start` and `linkPassage_resume` say that the list is complete.
-/

namespace NodeSidecar

open Management (Link Request Value)

/-- The link of the node that calls are made on. -/
abbrev Run.link (run : Node.Calls) : Link :=
  run.state.link

/-- A lock that is free is taken and given back. -/
theorem Management.Link.unlock_lock {l : Link} (h : ¬ l.locked) : l.lock.unlock = l := by
  have hfree : l.locked = false := by simpa using h
  rw [lock, unlock, ← hfree]

theorem Management.Link.unlock_evict_lock {l : Link} (h : ¬ l.locked) (k : Nat) :
    (l.lock.evict k).unlock = l.evict k := by
  have hfree : l.locked = false := by simpa using h
  have hslot : l.lock.slot = l.slot := rfl
  unfold evict
  rw [hslot]
  split
  · simp [lock, unlock, hfree]
  · exact unlock_lock h

theorem Management.Link.slot_evict_ne (l : Link) (k : Nat) : (l.evict k).slot ≠ some k := by
  unfold evict
  split
  · exact nofun
  · assumption

theorem Management.Link.evict_of_ne {l : Link} {k : Nat} (h : l.slot ≠ some k) : l.evict k = l :=
  if_neg h

namespace Node

/-- What a call wants a management connection for. -/
def Call.linkUse : Call → Option LinkUse
  | .openLink => some .opening
  | .manage r => some (.request r)
  | .snapshot order => order.request.toOption.map .request
  | _ => none

/-- The call has to do with the link from its beginning. -/
def Call.usesLink : Call → Bool
  | .openLink | .manage _ | .snapshot _ | .closeLink => true
  | _ => false

/-- Something waited for that has to do with the link. -/
def Wait.usesLink : Wait → Bool
  | .linkLock _ | .linkConnecting _ | .requesting .. | .linkClosing _ => true
  | _ => false

/-- How a call goes on once it has a connection. -/
def LinkUse.turn (k : Nat) : LinkUse → Turn Wait Result
  | .opening => .done (.value (.ok .null))
  | .request r => .wait (.requesting k r)

/-- What makes the link give up its connection. -/
inductive Releases : Progress Call Wait → Option Answer → Prop
  | asked : Releases (.fresh .closeLink) none
  /-- The watch ends, and the provider of sessions is closed. -/
  | ending : Releases (.waiting .closingProvider) (some .closed)

/-- A call that has come this far does nothing to the link next. -/
def Aloof : Progress Call Wait → Prop
  | .fresh c => c.usesLink = false
  | .waiting .closingProvider => False
  | .waiting w => w.usesLink = false

/-- **What a stretch of a call does to the link** `l`: from how far the call had
come and what it was answered, to the link then and how the stretch ends. -/
inductive LinkPassage (l : Link) :
    Progress Call Wait → Option Answer → Link → Turn Wait Result → Prop
  /-- A call finds a connection in use. -/
  | finds {c : Call} {use : LinkUse} {k : Nat} : c.linkUse = some use → l.slot = some k →
      LinkPassage l (.fresh c) none l (use.turn k)
  /-- A call needs a connection. -/
  | seeks {c : Call} {use : LinkUse} : c.linkUse = some use → l.slot = none →
      LinkPassage l (.fresh c) none l (.wait (.linkLock (.connect use)))
  /-- A snapshot is refused before a connection is looked for. -/
  | refused {order : Management.SnapshotOrder} {fault : Fault} :
      LinkPassage l (.fresh (.snapshot order)) none l (.done (.value (.error fault)))
  /-- The connection in use is given up. -/
  | releases {p : Progress Call Wait} {a : Option Answer} {k : Nat} : Releases p a →
      l.slot = some k → LinkPassage l p a l.release (.wait (.linkClosing k))
  /-- There is no connection to give up. -/
  | unused {p : Progress Call Wait} {a : Option Answer} : Releases p a → l.slot = none →
      LinkPassage l p a l (.done .finished)
  /-- With the lock, a call finds that another one has opened a connection. -/
  | found {use : LinkUse} {k : Nat} : ¬ l.locked → l.slot = some k →
      LinkPassage l (.waiting (.linkLock (.connect use))) (some .granted) l (use.turn k)
  /-- With the lock, a call opens a connection. -/
  | connects {use : LinkUse} : ¬ l.locked → l.slot = none →
      LinkPassage l (.waiting (.linkLock (.connect use))) (some .granted) l.lock
        (.wait (.linkConnecting use))
  /-- With the lock, a call forgets the connection on which its request failed. -/
  | forgets {k : Nat} {fault : Fault} : ¬ l.locked →
      LinkPassage l (.waiting (.linkLock (.evict k fault))) (some .granted) (l.evict k)
        (.done (.value (.error fault)))
  /-- No connection was opened. -/
  | unreachable {use : LinkUse} {fault : Fault} :
      LinkPassage l (.waiting (.linkConnecting use)) (some (.connected (.error fault))) l.unlock
        (.done (.value (.error fault)))
  /-- The connection that was opened is put to use. -/
  | installs {use : LinkUse} :
      LinkPassage l (.waiting (.linkConnecting use)) (some (.connected (.ok ())))
        l.install.unlock (use.turn l.opened)
  /-- A request is answered with a value. -/
  | succeeds {k : Nat} {r : Request} {v : Value} :
      LinkPassage l (.waiting (.requesting k r)) (some (.value (.ok v))) l
        (.done (.value (.ok v)))
  /-- A request fails on a connection that goes on. -/
  | fails {k : Nat} {r : Request} {fault : Fault} : ¬ fault.isConnectivity →
      LinkPassage l (.waiting (.requesting k r)) (some (.value (.error fault))) l
        (.done (.value (.error fault)))
  /-- A request fails for want of a connection. -/
  | cutOff {k : Nat} {r : Request} {fault : Fault} : fault.isConnectivity →
      LinkPassage l (.waiting (.requesting k r)) (some (.value (.error fault))) l
        (.wait (.linkLock (.evict k fault)))
  /-- The connection that was given up is closed. -/
  | released {k : Nat} :
      LinkPassage l (.waiting (.linkClosing k)) (some .closed) l (.done .finished)
  /-- A call does nothing to the link. -/
  | aloof {p : Progress Call Wait} {a : Option Answer} {turn : Turn Wait Result} : Aloof p →
      (∀ w, turn.next = some w → w.usesLink = false) → LinkPassage l p a l turn

/-! ## Stretches off the link -/

/-- A stretch that leaves the link alone and waits for nothing of its. -/
structure OffLink (n : Node) (st : Step) : Prop where
  link : st.state.link = n.link
  next : ∀ w, st.turn.next = some w → w.usesLink = false

theorem offLink_ends (n : Node) (r : Result) : OffLink n (n.ends r) where
  link := rfl
  next := nofun

theorem offLink_waits (n : Node) {w : Wait} (hw : w.usesLink = false) :
    OffLink n (n.waits w) where
  link := rfl
  next v hv := by
    obtain rfl : w = v := by simpa [waits, Turn.next] using hv
    exact hw

/-- What is done to the monitor is nothing to the link. -/
theorem OffLink.of_onMonitor {n : Node} {f : Monitor → Monitor} {st : Step}
    (h : OffLink (n.onMonitor f) st) : OffLink n st :=
  ⟨h.link, h.next⟩

theorem offLink_endProbe (n : Node) : OffLink n n.endProbe :=
  .of_onMonitor (offLink_ends _ _)

theorem offLink_withSession (n : Node) (s : Option Nat) (p : Purpose) :
    OffLink n (n.withSession s p) := by
  cases p with
  | session => exact offLink_ends n _
  | settings => exact offLink_ends n _
  | probe =>
    cases s with
    | none => exact .of_onMonitor (offLink_endProbe _)
    | some s => exact offLink_waits n rfl

theorem offLink_seekSession (n : Node) (p : Purpose) : OffLink n (n.seekSession p) := by
  unfold seekSession
  split
  · exact offLink_withSession n none p
  · split
    · exact offLink_withSession n _ p
    · exact offLink_waits n rfl

theorem offLink_startProbe (n : Node) : OffLink n n.startProbe := by
  unfold startProbe
  split
  · exact offLink_ends n _
  · split
    · exact .of_onMonitor (offLink_ends _ _)
    · exact .of_onMonitor (offLink_seekSession _ _)

theorem offLink_startClose (n : Node) : OffLink n n.startClose := by
  unfold startClose
  split
  · exact offLink_ends n _
  · exact .of_onMonitor (offLink_waits _ rfl)

theorem offLink_connectLocked (n : Node) (p : Purpose) : OffLink n (n.connectLocked p) := by
  unfold connectLocked
  split
  · exact .of_onMonitor (offLink_withSession _ _ p)
  · dsimp only
    split
    · exact .of_onMonitor (.of_onMonitor (offLink_withSession _ none p))
    · split
      · exact .of_onMonitor (.of_onMonitor (offLink_waits _ rfl))
      · exact .of_onMonitor (offLink_waits _ rfl)

theorem offLink_withMonitorLock (n : Node) (work : MonitorWork) :
    OffLink n (n.withMonitorLock work) := by
  cases work with
  | connect p => exact offLink_connectLocked n p
  | evict s => exact .of_onMonitor (offLink_waits _ rfl)
  | shut =>
    rw [withMonitorLock, shutLocked]
    split
    · exact .of_onMonitor (offLink_waits _ rfl)
    · exact .of_onMonitor (offLink_waits _ rfl)

theorem offLink_connected (n : Node) (s : Option Nat) (p : Purpose) :
    OffLink n (n.connected s p) := by
  unfold connected
  split
  · exact .of_onMonitor (offLink_withSession _ none p)
  · exact .of_onMonitor (offLink_withSession _ _ p)

theorem offLink_probed (n : Node) (s : Nat) (r : Except Fault (List Wire.Row)) :
    OffLink n (n.probed s r) := by
  unfold probed
  split
  · exact offLink_endProbe n
  · split
    · exact .of_onMonitor (offLink_endProbe _)
    · exact .of_onMonitor (offLink_endProbe _)
    · dsimp only
      split
      · exact .of_onMonitor (offLink_waits _ rfl)
      · exact .of_onMonitor (offLink_endProbe _)

/-! ## Stretches on the link -/

section

variable {l : Link} {n : Node}

theorem turn_withLink (n : Node) (k : Nat) (use : LinkUse) :
    (n.withLink k use).turn = use.turn k := by
  cases use <;> rfl

@[simp] theorem state_withLink (n : Node) (k : Nat) (use : LinkUse) :
    (n.withLink k use).state = n := by
  cases use <;> rfl

theorem linkPassage_seekLink (n : Node) {c : Call} {use : LinkUse} (hc : c.linkUse = some use) :
    LinkPassage n.link (.fresh c) none (n.seekLink use).state.link (n.seekLink use).turn := by
  unfold seekLink
  split
  · rename_i k hk
    rw [turn_withLink, state_withLink]
    exact .finds hc hk
  · rename_i hnone
    exact .seeks hc hnone

section

variable {order : Management.SnapshotOrder} {adapter : Adapter}

/-- An order that is no request is refused. -/
theorem startSnapshot_of_error {fault : Fault} (hadapter : n.monitor.adapter = some adapter)
    (hr : order.request = .error fault) :
    n.startSnapshot order = n.ends (.value (.error fault)) := by
  rw [startSnapshot, hadapter]
  unfold Management.SnapshotOrder.request at hr
  rcases huse : order.use with fault' | ⟨proxy, u⟩
  · rw [huse] at hr
    cases hr
    rfl
  · simp only [huse] at hr
    simp only [startUse, hr]

/-- With an adapter, a snapshot goes on as the request that its order comes to. -/
theorem startSnapshot_of_ok {r : Management.Request} (hadapter : n.monitor.adapter = some adapter)
    (hr : order.request = .ok r) : n.startSnapshot order = n.seekLink (.request r) := by
  rw [startSnapshot, hadapter]
  unfold Management.SnapshotOrder.request at hr
  rcases huse : order.use with fault' | ⟨proxy, u⟩
  · rw [huse] at hr
    cases hr
  · simp only [huse] at hr
    simp only [startUse, hr]

end

theorem linkPassage_startSnapshot (n : Node) (order : Management.SnapshotOrder) :
    LinkPassage n.link (.fresh (.snapshot order)) none (n.startSnapshot order).state.link
      (n.startSnapshot order).turn := by
  cases hadapter : n.monitor.adapter with
  | none =>
    rw [startSnapshot, hadapter]
    exact .refused
  | some adapter =>
    cases hr : order.request with
    | error fault =>
      rw [startSnapshot_of_error hadapter hr]
      exact .refused
    | ok r =>
      rw [startSnapshot_of_ok hadapter hr]
      exact linkPassage_seekLink n (by rw [Call.linkUse, hr]; rfl)

theorem linkPassage_releaseLink (n : Node) {p : Progress Call Wait} {a : Option Answer}
    (h : Releases p a) :
    LinkPassage n.link p a n.releaseLink.state.link n.releaseLink.turn := by
  unfold releaseLink
  split
  · rename_i k hk
    exact .releases h hk
  · rename_i hnone
    exact .unused h hnone

/-- What is done with the lock. -/
theorem linkPassage_withLinkLock (hfree : ¬ n.link.locked) (work : LinkWork) :
    LinkPassage n.link (.waiting (.linkLock work)) (some .granted)
      ((n.onLink .lock).withLinkLock work).state.link
      ((n.onLink .lock).withLinkLock work).turn := by
  cases work with
  | connect use =>
    have hslot : (n.onLink .lock).link.slot = n.link.slot := rfl
    simp only [withLinkLock, linkLocked]
    split
    · rename_i k hk
      have hsame : ((n.onLink .lock).onLink .unlock).link = n.link := Link.unlock_lock hfree
      rw [turn_withLink, state_withLink, hsame]
      exact .found hfree (hslot ▸ hk)
    · rename_i hnone
      exact .connects hfree (hslot ▸ hnone)
  | evict k fault =>
    have hsame : (n.link.lock.evict k).unlock = n.link.evict k := Link.unlock_evict_lock hfree k
    change LinkPassage n.link _ _ (n.link.lock.evict k).unlock _
    rw [hsame]
    exact .forgets hfree

theorem linkPassage_linkOpened (n : Node) (r : Except Fault Unit) (use : LinkUse) :
    LinkPassage n.link (.waiting (.linkConnecting use)) (some (.connected r))
      (n.linkOpened r use).state.link (n.linkOpened r use).turn := by
  cases r with
  | error fault => exact .unreachable
  | ok u =>
    rw [linkOpened, turn_withLink, state_withLink]
    exact .installs

theorem linkPassage_answered (n : Node) (k : Nat) (r : Request) (v : Except Fault Value) :
    LinkPassage n.link (.waiting (.requesting k r)) (some (.value v)) (n.answered k v).state.link
      (n.answered k v).turn := by
  cases v with
  | ok v => exact .succeeds
  | error fault =>
    rw [answered]
    split
    · rename_i hconn
      exact .cutOff hconn
    · rename_i hconn
      exact .fails hconn

end

/-! ## The list is complete -/

theorem linkPassage_of_offLink {n : Node} {st : Step} {p : Progress Call Wait}
    {a : Option Answer} (hp : Aloof p) (h : OffLink n st) :
    LinkPassage n.link p a st.state.link st.turn := by
  rw [h.link]
  exact .aloof hp h.next

/-- **The list is complete**, for a call that begins. -/
theorem linkPassage_start (c : Call) (n : Node) :
    LinkPassage n.link (.fresh c) none (start c n).state.link (start c n).turn := by
  cases c with
  | probe => exact linkPassage_of_offLink rfl (offLink_startProbe n)
  | ensureSession => exact linkPassage_of_offLink rfl (offLink_seekSession n _)
  | readSettings => exact linkPassage_of_offLink rfl (offLink_seekSession n _)
  | adapterSettings => exact linkPassage_of_offLink rfl (offLink_waits n rfl)
  | snapshot order => exact linkPassage_startSnapshot n order
  | openLink => exact linkPassage_seekLink n rfl
  | manage r => exact linkPassage_seekLink n rfl
  | closeLink => exact linkPassage_releaseLink n .asked
  | close => exact linkPassage_of_offLink rfl (offLink_startClose n)
  | reportDown => exact linkPassage_of_offLink rfl (.of_onMonitor (offLink_ends _ _))
  | event s e => exact linkPassage_of_offLink rfl ⟨rfl, nofun⟩
  | sessionOpened => exact linkPassage_of_offLink rfl (.of_onMonitor (offLink_ends _ _))
  | sessionLost s => exact linkPassage_of_offLink rfl (.of_onMonitor (offLink_ends _ _))

/-- **The list is complete**, for a call that is answered. -/
theorem linkPassage_resume {w : Wait} {a : Answer} {n : Node} {st : Step}
    (h : resume w a n = some st) :
    LinkPassage n.link (.waiting w) (some a) st.state.link st.turn := by
  unfold resume at h
  split at h
  · split at h
    · cases h
    · cases h
      exact linkPassage_of_offLink rfl (.of_onMonitor (offLink_withMonitorLock _ _))
  · split at h
    · cases h
      exact linkPassage_of_offLink rfl (offLink_connected n _ _)
    · cases h
  · cases h
    exact linkPassage_of_offLink rfl (offLink_probed n _ _)
  · cases h
    exact linkPassage_of_offLink rfl (offLink_endProbe n)
  · cases h
    exact linkPassage_of_offLink rfl (.of_onMonitor (offLink_waits _ rfl))
  · cases h
    exact linkPassage_releaseLink n .ending
  · split at h
    · split at h
      · cases h
        exact linkPassage_of_offLink rfl (offLink_ends n _)
      · cases h
        exact linkPassage_of_offLink rfl (offLink_waits n rfl)
    · cases h
  · cases h
    exact linkPassage_of_offLink rfl (offLink_ends n _)
  · split at h
    · cases h
    · rename_i hfree
      cases h
      exact linkPassage_withLinkLock hfree _
  · cases h
    exact linkPassage_linkOpened n _ _
  · cases h
    exact linkPassage_answered n _ _ _
  · cases h
    exact .released
  · cases h

/-! ## What can be read off the list -/

section

variable {l l' : Link} {a : Option Answer} {turn : Turn Wait Result} {k : Nat}

/-- A request that is answered leaves the link alone. -/
theorem LinkPassage.of_requesting {r : Request}
    (h : LinkPassage l (.waiting (.requesting k r)) a l' turn) :
    ∃ v, a = some (.value v) ∧ l' = l ∧
      ((∃ fault, v = .error fault ∧ fault.isConnectivity ∧
          turn = .wait (.linkLock (.evict k fault))) ∨
        (∀ fault, v = .error fault → ¬ fault.isConnectivity) ∧ turn = .done (.value v)) := by
  cases h with
  | releases hr => cases hr
  | unused hr => cases hr
  | succeeds => exact ⟨_, rfl, rfl, .inr ⟨nofun, rfl⟩⟩
  | @fails k r fault hno =>
    refine ⟨_, rfl, rfl, .inr ⟨fun fault' hf => ?_, rfl⟩⟩
    cases hf
    exact hno
  | cutOff hconn => exact ⟨_, rfl, rfl, .inl ⟨_, rfl, hconn, rfl⟩⟩
  | aloof hp => cases hp

/-- Who has the lock to forget a connection forgets it, and is over. -/
theorem LinkPassage.of_evict {fault : Fault}
    (h : LinkPassage l (.waiting (.linkLock (.evict k fault))) a l' turn) :
    l' = l.evict k ∧ turn = .done (.value (.error fault)) := by
  cases h with
  | releases hr => cases hr
  | unused hr => cases hr
  | forgets => exact ⟨rfl, rfl⟩
  | aloof hp => cases hp

/-- Who opens a connection is told of one, or is over. -/
theorem LinkPassage.of_connecting {use : LinkUse}
    (h : LinkPassage l (.waiting (.linkConnecting use)) a l' turn) :
    (∃ fault, a = some (.connected (.error fault)) ∧ l' = l.unlock ∧
        turn = .done (.value (.error fault))) ∨
      a = some (.connected (.ok ())) ∧ l' = l.install.unlock ∧ turn = use.turn l.opened := by
  cases h with
  | releases hr => cases hr
  | unused hr => cases hr
  | unreachable => exact .inl ⟨_, rfl, rfl, rfl⟩
  | installs => exact .inr ⟨rfl, rfl, rfl⟩
  | aloof hp => cases hp

/-- The end of the watch leaves the link without a connection. -/
theorem LinkPassage.of_closingProvider
    (h : LinkPassage l (.waiting .closingProvider) a l' turn) : l'.slot = none := by
  cases h with
  | releases => rfl
  | unused _ hnone => exact hnone
  | aloof hp => cases hp

end

/-! ## Moves -/

/-- A move that lets the call `id` go on, which had come as far as `p` and is
answered `a`; its stretch ends with `turn`. -/
structure LinkPasses (t : Moment) (id : Nat) (p : Progress Call Wait) (a : Option Answer)
    (turn : Turn Wait Result) : Prop where
  caller : t.caller = some id
  cause : t.cause = some (p, a)
  before : t.before.progress id = some p
  after : t.after.progress id = turn.next.map .waiting
  passage : LinkPassage t.before.link p a t.after.link turn
  waiting : t.after.waiting = Function.update t.before.waiting id turn.next
  next : t.next system = turn.next
  result : t.result system = turn.result

theorem linkPasses_of_ran {t : Moment} {id : Nat} {p : Progress Call Wait} {a : Option Answer}
    {st : Step} (hb : t.before.Bounded) (h : t.Ran system id p a st) :
    LinkPasses t id p a st.turn where
  caller := h.caller
  cause := h.cause
  before := h.progress
  after := h.next_eq ▸ h.progress_self hb
  passage := by
    rw [Run.link, Run.link, h.state]
    rcases System.proceed_eq_some_iff.1 h.proceed with ⟨k, rfl, rfl, rfl⟩ | ⟨w, b, rfl, rfl, hst⟩
    · exact linkPassage_start k t.before.state
    · exact linkPassage_resume hst
  waiting := h.next_eq ▸ h.waiting hb
  next := h.next_eq
  result := h.result_eq

namespace LinkPasses

variable {t : Moment} {id i : Nat} {p q : Progress Call Wait} {a b : Option Answer}
variable {turn : Turn Wait Result}

theorem eq_of_cause (h : LinkPasses t id p a turn) (hc : t.cause = some (q, b)) :
    p = q ∧ a = b :=
  Prod.mk.inj (Option.some.inj (h.cause.symm.trans hc))

theorem waiting_self (h : LinkPasses t id p a turn) : t.after.waiting id = turn.next := by
  rw [h.waiting, Function.update_self]

theorem waiting_of_ne (h : LinkPasses t id p a turn) (hi : i ≠ id) :
    t.after.waiting i = t.before.waiting i := by
  rw [h.waiting, Function.update_of_ne hi]

end LinkPasses

end Node

end NodeSidecar
