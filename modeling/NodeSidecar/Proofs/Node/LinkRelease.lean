import NodeSidecar.Proofs.Node.LinkSharing
import NodeSidecar.Proofs.Node.Health
/-!
# Node — the link after the watch

The end of the watch gives up the management connection without waiting for the
link's lock. So a call that was on its way to a connection is not stopped, and
can leave one behind: the link is without a connection afterwards just when
every connection that was opened afterwards has gone out of use again.
-/

namespace NodeSidecar.Node

open Management (Link Request Value)

variable {l l' : Link} {p : Progress Call Wait} {a : Option Answer} {turn : Turn Wait Result}
variable {id : Nat} {catalog : Catalog} {past later : List Moment} {released run : Calls}
variable {k : Nat}

/-- A call is on its way to a connection: it waits for the link's lock to open
one, or opens one. -/
def Seeks (w : Option Wait) : Prop :=
  ∃ use, w = some (.linkLock (.connect use)) ∨ w = some (.linkConnecting use)

/-- A call that wants a connection begins in a move. -/
def beginsOnLink (t : Moment) : Bool :=
  match t.cause with
  | some (.fresh c, _) => c.linkUse.isSome
  | _ => false

/-- A connection that is in use goes out of use in a move. -/
def Drops (k : Option Nat) (t : Moment) : Prop :=
  t.before.link.slot = k ∧ t.after.link.slot = none

/-- The connection `k` was opened in one of these moves, and has been in use
since. -/
def OpenedAndKept (k : Nat) (later : List Moment) : Prop :=
  ∃ earlier u rest, later = earlier ++ u :: rest ∧ OpensLink u ∧
    ∀ v ∈ u :: rest, v.after.link.slot = some k

theorem OpenedAndKept.concat {t : Moment} (h : OpenedAndKept k later)
    (ht : t.after.link.slot = some k) : OpenedAndKept k (later ++ [t]) := by
  obtain ⟨earlier, u, rest, rfl, hu, hrest⟩ := h
  refine ⟨earlier, u, rest ++ [t], by simp, hu, fun v hv => ?_⟩
  rw [← List.cons_append] at hv
  rcases List.mem_append.1 hv with hv | hv
  · exact hrest v hv
  · obtain rfl := List.mem_singleton.1 hv
    exact ht

/-- **Nobody comes to want a connection** but a call that begins. -/
theorem LinkPassage.not_seeks (h : LinkPassage l p a l' turn) (hslot : l.slot = none)
    (hp : ¬ Seeks p.wait?) (hc : ∀ c, p = .fresh c → c.linkUse = none) :
    l'.slot = none ∧ ¬ Seeks turn.next := by
  cases h with
  | finds hc' _ => cases (hc _ rfl).symm.trans hc'
  | seeks hc' => cases (hc _ rfl).symm.trans hc'
  | found => exact absurd ⟨_, .inl rfl⟩ hp
  | connects => exact absurd ⟨_, .inl rfl⟩ hp
  | unreachable => exact absurd ⟨_, .inr rfl⟩ hp
  | installs => exact absurd ⟨_, .inr rfl⟩ hp
  | @forgets j fault =>
    have hne : l.slot ≠ some j := by simp [hslot]
    rw [Link.evict_of_ne hne]
    exact ⟨hslot, by simp [Seeks, Turn.next]⟩
  | releases => exact ⟨rfl, by simp [Seeks, Turn.next]⟩
  | aloof _ hw =>
    refine ⟨hslot, ?_⟩
    rintro ⟨use, huse | huse⟩
    · cases hw _ huse
    · cases hw _ huse
  | _ => exact ⟨hslot, by simp [Seeks, Turn.next]⟩

/-- **A link that nobody seeks stays without a connection** until a call begins
that wants one. -/
theorem slot_none_of_not_seeks (h : Execution system released later run)
    (hb : released.Bounded) (hslot : released.link.slot = none)
    (hnone : ∀ i, ¬ Seeks (released.waiting i)) (hnew : ∀ t ∈ later, beginsOnLink t = false) :
    run.link.slot = none ∧ ∀ i, ¬ Seeks (run.waiting i) := by
  refine h.induction (I := fun later run => (∀ t ∈ later, beginsOnLink t = false) →
    run.link.slot = none ∧ ∀ i, ¬ Seeks (run.waiting i)) hb (fun _ => ⟨hslot, hnone⟩)
    (fun later t _ ih hq hnew => ?_) (fun later t j p a st hx ih hr hnew => ?_) hnew
  · obtain ⟨hslot, hnone⟩ := ih fun u hu => hnew u (List.mem_append_left _ hu)
    refine ⟨(congrArg (·.link.slot) hq.state).trans hslot, ?_⟩
    rw [hq.waiting]
    exact hnone
  · obtain ⟨hslot, hnone⟩ := ih fun u hu => hnew u (List.mem_append_left _ hu)
    have hp := linkPasses_of_ran (hx.bounded hb) hr
    have hwaits : t.before.waiting j = p.wait? := Run.waiting_of_progress hp.before
    have hbegins : ∀ c, p = .fresh c → c.linkUse = none := by
      rintro c rfl
      have hquiet := hnew t (List.mem_append_right _ (List.mem_singleton_self _))
      simpa [beginsOnLink, hp.cause] using hquiet
    obtain ⟨hslot', hnext⟩ := hp.passage.not_seeks hslot (hwaits ▸ hnone j) hbegins
    refine ⟨hslot', fun i => ?_⟩
    by_cases hij : i = j
    · subst hij
      rw [hp.waiting_self]
      exact hnext
    · rw [hp.waiting_of_ne hij]
      exact hnone i

/-- **A connection in use was opened**, and has been in use since. -/
theorem openedAndKept (hpast : History id catalog past released)
    (h : Execution system released later run) (hslot : released.link.slot = none)
    (hk : run.link.slot = some k) : OpenedAndKept k later := by
  have hb : released.Bounded := hpast.bounded (Run.bounded_idle _)
  refine h.induction (I := fun later run => run.link.slot = some k → OpenedAndKept k later)
    hb (fun hk => ?_) (fun later t _ ih hq hk => ?_) (fun later t j p a st hx ih hr hk => ?_) hk
  · rw [hslot] at hk
    cases hk
  · exact (ih ((congrArg (·.link.slot) hq.state).symm.trans hk)).concat hk
  · have hp := linkPasses_of_ran (hx.bounded hb) hr
    rcases hp.passage.slot_opened hk with hold | ⟨-, -, use, rfl, rfl⟩
    · exact (ih hold).concat hk
    · exact ⟨later, t, [], rfl, ⟨use, hp.cause⟩, by simpa using hk⟩

/-- **A connection stays in use** until it goes out of use in some move. -/
theorem slot_or_drops (hpast : History id catalog past released)
    (h : Execution system released later run) (hk : released.link.slot = some k) :
    run.link.slot = some k ∨ ∃ t ∈ later, Drops (some k) t := by
  induction h with
  | refl => exact .inl hk
  | @move later mid next m hx hm ih =>
    rcases ih with hmid | ⟨t, ht, hdrops⟩
    · have hlast : (⟨mid, m, next⟩ : Moment) ∈ past ++ later ++ [⟨mid, m, next⟩] := by simp
      rcases slot_left ((hpast.trans hx).move hm) hlast hmid with hkept | ⟨hnone, -⟩
      · exact .inl hkept
      · exact .inr ⟨_, List.mem_append_right _ (List.mem_singleton_self _), hmid, hnone⟩
    · exact .inr ⟨t, List.mem_append_left _ ht, hdrops⟩

/-- A connection that was opened is in use with that move. -/
theorem slot_of_opensLink {t : Moment} (hpast : History id catalog past t.before)
    (hm : t.before.apply system t.move = some t.after) (ho : OpensLink t) :
    ∃ k, t.after.link.slot = some k := by
  have hall : History id catalog (past ++ [t]) t.after := hpast.move hm
  obtain ⟨k, hk, -⟩ := new_of_opensLink hall ho
  exact ⟨k, hk⟩

/-- **The end of the watch leaves the link without a connection, for as long as
no connect succeeds.** In any history let the call that ends the watch go on once
the provider of sessions is closed, and let further moves be made. The link has
no connection right after that move. It has none after the further moves just
when every connection that was opened in one of them went out of use again in a
later one. So it has none if nobody was on the way to a connection when the link
was given up, and no call began since that wants one, whatever becomes of the
requests under way. -/
theorem released_unless_opened {before : Calls} {call : Nat}
    (hbefore : History id catalog past before)
    (hcall : before.waiting call = some .closingProvider)
    (hrelease : before.apply system (.resume call .closed) = some released)
    (hlater : Execution system released later run) :
    released.link.slot = none ∧
    (run.link.isConnected = false ↔ ∀ earlier u rest, later = earlier ++ u :: rest →
      OpensLink u → ∃ v ∈ rest, Drops u.after.link.slot v) ∧
    ((∀ i, ¬ Seeks (released.waiting i)) → (∀ t ∈ later, beginsOnLink t = false) →
      run.link.isConnected = false) := by
  have hreleased : History id catalog _ released := hbefore.move hrelease
  have hconnected : run.link.isConnected = false ↔ run.link.slot = none := by
    simp [Link.isConnected]
  have hslot : released.link.slot = none := by
    have hcause : Transition.cause ⟨before, (.resume call .closed : Move Call Answer), released⟩ =
        some (.waiting .closingProvider, some .closed) := by
      simp [Transition.cause, Run.waiting_eq_some_iff.1 hcall]
    obtain ⟨i, turn, hp⟩ := linkPasses_of_cause hbefore hrelease hcause
    exact hp.passage.of_closingProvider
  rw [hconnected]
  refine ⟨hslot, ⟨fun hnone earlier u rest hsplit ho => ?_, fun hall => ?_⟩, fun hno hnew => ?_⟩
  · subst hsplit
    obtain ⟨hearlier, hm, hrest⟩ := hlater.of_append_cons
    obtain ⟨k, hk⟩ := slot_of_opensLink (hreleased.trans hearlier) hm ho
    rw [hk]
    refine (slot_or_drops ((hreleased.trans hearlier).move hm) hrest hk).resolve_left ?_
    simp [hnone]
  · rcases hk : run.link.slot with - | k
    · rfl
    · obtain ⟨earlier, u, rest, hsplit, ho, hstays⟩ := openedAndKept hreleased hlater hslot hk
      obtain ⟨v, hv, -, hdropped⟩ := hall earlier u rest hsplit ho
      cases (hstays v (List.mem_cons_of_mem _ hv)).symm.trans hdropped
  · exact (slot_none_of_not_seeks hlater (hreleased.bounded (Run.bounded_idle _)) hslot hno
      hnew).1

/-- An order for a snapshot. -/
def nightly : Management.SnapshotOrder :=
  ⟨"nightly", "ks", "tbl", none⟩

/-- A probe has found the node up, and a connection is being opened for a
snapshot. -/
def snapshotBegun : List (Move Call Answer) :=
  firstProbe (.ofTexts [("release_version", "4.0.0"), ("partitioner", "Murmur3")]) ++
    [.submit (.snapshot nightly), .start 2, .resume 2 .granted]

/-- The snapshot's request is on the way when the watch ends. -/
def endDuringRequest : List (Move Call Answer) :=
  snapshotBegun ++ [.resume 2 (.connected (.ok ())), .submit .close, .start 3,
    .resume 3 .granted, .resume 3 .closed]

/-- A request that is on the way when the link is given up, and then fails for
want of a connection, leaves no connection behind. -/
theorem request_outlives_link : ∃ (before released run : Calls) (past later : List Moment),
    History 1 .standard past before ∧ before.link.isConnected = true ∧
    before.apply system (.resume 3 .closed) = some released ∧
    Execution system released later run ∧ run.calls = [] ∧ run.link.isConnected = false := by
  obtain ⟨before, hbefore, hcall, hslot, released, hrelease, ⟨w, v, hcalls, hw, hv⟩, run, hrun,
      hover, hnew⟩ : ∃ before, (Run.idle (Node.fresh 1 .standard)).applyAll system
        endDuringRequest = some before ∧ before.waiting 3 = some .closingProvider ∧
      before.link.isConnected = true ∧ ∃ released,
      before.apply system (.resume 3 .closed) = some released ∧
      (∃ w v, released.calls = [(2, .waiting w), (3, .waiting v)] ∧ ¬ Seeks (some w) ∧
        ¬ Seeks (some v)) ∧ ∃ run,
      released.applyAll system [.resume 3 .closed,
        .resume 2 (.value (.error (.managementUnavailable "node" "reset"))),
        .resume 2 .granted] = some run ∧ run.calls = [] ∧
      (released.transitions system [.resume 3 .closed,
        .resume 2 (.value (.error (.managementUnavailable "node" "reset"))),
        .resume 2 .granted]).any beginsOnLink = false :=
    ⟨_, rfl, rfl, rfl, _, rfl, ⟨_, _, rfl, by simp [Seeks], by simp [Seeks]⟩, _, rfl, rfl, rfl⟩
  have hpast := execution_of_applyAll hbefore
  have hlater := execution_of_applyAll hrun
  have hno (i : Nat) : ¬ Seeks (released.waiting i) := by
    rcases h : released.waiting i with - | u
    · simp [Seeks]
    · have hmem := Run.mem_calls_of_waiting h
      rw [hcalls] at hmem
      simp only [List.mem_cons, Prod.mk.injEq, Progress.waiting.injEq, List.not_mem_nil,
        or_false] at hmem
      rcases hmem with ⟨-, rfl⟩ | ⟨-, rfl⟩
      · exact hw
      · exact hv
  obtain ⟨-, -, hnone⟩ := released_unless_opened hpast hcall hrelease hlater
  exact ⟨before, released, run, _, _, hpast, hslot, hrelease, hlater, hover,
    hnone hno (by simpa using hnew)⟩

/-- The watch ends while a connection is being opened for the snapshot, which is
taken then. -/
def endDuringConnect : List (Move Call Answer) :=
  [.start 3, .resume 3 .granted, .resume 3 .closed, .resume 3 .closed,
    .resume 2 (.connected (.ok ())), .resume 2 (.value (.ok .null))]

/-- **The end of the watch does not always leave the link without a
connection**, even if all calls on the link had begun before and all calls are
over in the end: a connect that was under way is not stopped. -/
theorem connected_after_close : ¬ ∀ (past since : List Moment) (before run : Calls) (call : Nat),
    History 1 .standard past before → before.progress call = some (.fresh .close) →
    Execution system before since run → (∀ t ∈ since, beginsOnLink t = false) →
    run.calls = [] → run.link.isConnected = false := by
  intro hclaim
  obtain ⟨before, hbefore, hcall, run, hrun, hover, hnew, hconnected⟩ : ∃ before,
      (Run.idle (Node.fresh 1 .standard)).applyAll system
        (snapshotBegun ++ [.submit .close]) = some before ∧
      before.progress 3 = some (.fresh .close) ∧ ∃ run,
      before.applyAll system endDuringConnect = some run ∧ run.calls = [] ∧
      (before.transitions system endDuringConnect).any beginsOnLink = false ∧
      run.link.isConnected = true :=
    ⟨_, rfl, rfl, _, rfl, rfl, rfl, rfl⟩
  have hnone := hclaim _ _ before run 3 (execution_of_applyAll hbefore) hcall
    (execution_of_applyAll hrun) (by simpa using hnew) hover
  rw [hconnected] at hnone
  cases hnone

end NodeSidecar.Node
