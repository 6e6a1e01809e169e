import Mathlib.Data.List.Induction
import NodeSidecar.Proofs.Management.Interface
import NodeSidecar.Proofs.Node.Snapshots
/-!
# Node — the course of a use of a proxy

A use of a proxy is refused before anything is done, or becomes a call that makes
the one request it asks for. Such a call is on an errand from its beginning; here it
is said when it makes its request: once there is a connection for it (`HasLink`).
-/

namespace NodeSidecar.Node

open Management (Declaration Interface Link Member ObjectName Proxy Request Use Value)

variable {l l' : Link} {p : Progress Call Wait} {a : Option Answer} {turn : Turn Wait Result}
variable {id : Nat} {catalog : Catalog} {past : List Moment} {run : Calls} {t : Moment}
variable {i k : Nat} {r : Request}

/-! ## Connections for a request -/

/-- **There is a connection for the request** in a stretch: one in use when the call
begins, or when it has the lock, or one that was opened for it. -/
inductive HasLink (r : Request) (l : Link) : Progress Call Wait → Option Answer → Prop
  | inUse {k : Nat} : l.slot = some k → HasLink r l (.fresh (.manage r)) none
  | found {k : Nat} : l.slot = some k →
      HasLink r l (.waiting (.linkLock (.connect (.request r)))) (some .granted)
  | opened : HasLink r l (.waiting (.linkConnecting (.request r))) (some (.connected (.ok ())))

/-- In a move the call `i` has a connection for the request. -/
def HasLinkIn (i : Nat) (r : Request) (t : Moment) : Prop :=
  t.caller = some i ∧ ∃ p a, t.cause = some (p, a) ∧ HasLink r t.before.link p a

/-- **With a connection, the request is made.** -/
theorem LinkPassage.asks_of_hasLink (h : LinkPassage l p a l' turn) (hl : HasLink r l p a) :
    ∃ k, turn.next = some (.requesting k r) := by
  cases hl with
  | inUse hslot =>
    cases h with
    | @finds _ use k huse _ =>
      obtain rfl : LinkUse.request r = use := Option.some.inj huse
      exact ⟨k, rfl⟩
    | seeks _ hnone => exact absurd (hslot.symm.trans hnone) nofun
    | releases hr => cases hr
    | unused hr => cases hr
    | aloof hp => cases hp
  | found hslot =>
    cases h with
    | @found use k _ _ => exact ⟨k, rfl⟩
    | connects _ hnone => exact absurd (hslot.symm.trans hnone) nofun
    | releases hr => cases hr
    | unused hr => cases hr
    | aloof hp => cases hp
  | opened =>
    obtain ⟨fault, ha, -⟩ | ⟨-, -, rfl⟩ := h.of_connecting
    · cases ha
    · exact ⟨l.opened, rfl⟩

/-- **The request is made with a connection**, and not otherwise. -/
theorem LinkPassage.hasLink_of_asks (h : LinkPassage l p a l' turn)
    (hnext : turn.next = some (.requesting k r)) (hfresh : ∀ c, p = .fresh c → c = .manage r) :
    HasLink r l p a := by
  have huse {use : LinkUse} {k' : Nat} (hnext : (use.turn k').next = some (.requesting k r)) :
      use = .request r := by
    cases use with
    | opening => cases hnext
    | request r' =>
      cases hnext
      rfl
  cases h with
  | finds _ hslot =>
    obtain rfl := hfresh _ rfl
    exact .inUse hslot
  | found _ hslot =>
    obtain rfl := huse hnext
    exact .found hslot
  | installs =>
    obtain rfl := huse hnext
    exact .opened
  | aloof _ hw => exact absurd (hw _ hnext) nofun
  | _ => cases hnext

/-! ## The whole call -/

/-- A move in a history lets the call that makes it pass. -/
theorem linkPasses_of_mem (h : History id catalog past run) (ht : t ∈ past)
    (hi : t.caller = some i) (hc : t.cause = some (p, a)) : ∃ turn, LinkPasses t i p a turn := by
  obtain ⟨earlier, hx, hm⟩ := h.of_mem ht
  obtain ⟨j, turn, hp⟩ := linkPasses_of_cause hx hm hc
  obtain rfl : j = i := Option.some.inj (hp.caller.symm.trans hi)
  exact ⟨turn, hp⟩

/-- What a call has done is what it did in each move. -/
theorem taleOf_eq_flatMap (i : Nat) (past : List Moment) :
    (taleOf i past).calls = past.flatMap (fun t => (doneBy i t).calls) ∧
      (taleOf i past).asked = past.flatMap fun t => (doneBy i t).asked := by
  induction past using List.reverseRecOn with
  | nil => exact ⟨rfl, rfl⟩
  | append_singleton past t ih =>
    rw [taleOf_concat, List.flatMap_append, List.flatMap_append, List.flatMap_singleton,
      List.flatMap_singleton, ← ih.1, ← ih.2]
    exact ⟨rfl, rfl⟩

theorem LinkPasses.doneBy_self (h : LinkPasses t i p a turn) :
    doneBy i t = .ofStretch p a turn.next turn.result := by
  simp only [doneBy, h.caller, if_true, h.cause, h.next, h.result]

theorem mem_asked_doneBy {q : Nat × Request} (h : q ∈ (doneBy i t).asked) :
    t.caller = some i ∧ ∃ p a, t.cause = some (p, a) ∧
      t.next system = some (.requesting q.1 q.2) := by
  unfold doneBy at h
  split at h
  · rename_i hcaller
    split at h
    · rename_i p a hcause
      exact ⟨hcaller, p, a, hcause, mem_asks.1 h⟩
    · cases h
  · cases h

theorem Errand.calls_eq {c : Call} {n : Nat} {told : List (Except Fault Unit)} {tale : Tale}
    {w : Option Wait} (h : Errand c r n told tale w) : tale.calls = [c] := by
  cases h <;> rfl

/-- **A call makes its request just when there is a connection for it**, once, and
sets out to open one at most once. -/
structure AsksOnce (i : Nat) (r : Request) (past : List Moment) : Prop where
  attempts : attempts i past ≤ 1
  once : (∃ t ∈ past, HasLinkIn i r t) → ∃ k, (taleOf i past).asked = [(k, r)]
  otherwise : (¬ ∃ t ∈ past, HasLinkIn i r t) → (taleOf i past).asked = []

theorem asksOnce (h : History id catalog past run) (ht : t ∈ past) (hi : t.caller = some i)
    (hc : t.cause = some (.fresh (.manage r), none)) : AsksOnce i r past := by
  have hon : Errand (.manage r) r (attempts i past) (toldOf i past) (taleOf i past)
      (run.waiting i) := errand h ht hi hc rfl
  obtain ⟨hcalls, hasked⟩ := taleOf_eq_flatMap i past
  refine ⟨hon.attempts_le, ?_, fun hnone => ?_⟩
  · rintro ⟨u, hu, hcaller, p, a, hcause, hlink⟩
    obtain ⟨turn, hp⟩ := linkPasses_of_mem h hu hcaller hcause
    obtain ⟨k, hnext⟩ := hp.passage.asks_of_hasLink hlink
    refine hon.asked_eq.resolve_left fun hnil => ?_
    rw [hasked, List.flatMap_eq_nil_iff] at hnil
    have hdone := hnil u hu
    rw [hp.doneBy_self, Tale.ofStretch, hnext] at hdone
    cases hdone
  · refine hon.asked_eq.resolve_right fun hsome => hnone ?_
    obtain ⟨k, hk⟩ := hsome
    have hmem : (k, r) ∈ (taleOf i past).asked := hk ▸ List.mem_singleton_self _
    rw [hasked] at hmem
    obtain ⟨u, hu, hmem⟩ := List.mem_flatMap.1 hmem
    obtain ⟨hcaller, p, a, hcause, hnext⟩ := mem_asked_doneBy hmem
    obtain ⟨turn, hp⟩ := linkPasses_of_mem h hu hcaller hcause
    -- The only call that begins under this id is the one of this request.
    have hfresh : ∀ c, p = .fresh c → c = .manage r := by
      rintro c rfl
      have hbegins : c ∈ (taleOf i past).calls := by
        rw [hcalls]
        refine List.mem_flatMap.2 ⟨u, hu, ?_⟩
        rw [hp.doneBy_self]
        exact List.mem_singleton_self c
      rw [hon.calls_eq] at hbegins
      exact List.mem_singleton.1 hbegins
    exact ⟨u, hu, hcaller, p, a, hcause,
      hp.passage.hasLink_of_asks (hp.next.symm.trans hnext) hfresh⟩

/-! ## Proxies -/

/-- **Uses of a proxy are checked before anything is done.** A declaration is resolved
just when it is sound; the interface then has a member for each that was declared,
the same one, and for no other method. A use of a proxy for any object behind it
that does not fit what is declared is over at once, with nothing done to the node. Any
other use is a call that makes the one request it asks for, of that object, just when
there is a connection for it. -/
theorem proxies_check_uses (d : Declaration) :
    ((∃ interface, d.resolve = .ok interface) ↔ d.Sound) ∧
    ∀ interface, d.resolve = .ok interface →
      (interface.members.length = d.members.length ∧
        (∀ m ∈ d.members, interface.member m.method = .ok m) ∧
        ∀ method, (∀ m ∈ d.members, m.method ≠ method) →
          ∃ detail, interface.member method = .error (.internal detail)) ∧
      ∀ (object : ObjectName) (u : Use),
        (u.Refused d.members → ∃ detail, ∀ n : Node,
          n.startUse ⟨object, interface⟩ u = ⟨n, .done (.value (.error (.internal detail))), []⟩) ∧
        (¬ u.Refused d.members → ∃ r, u.Asks d.members object r ∧
          (∀ n : Node, n.startUse ⟨object, interface⟩ u = start (.manage r) n) ∧
          ∀ id catalog past run t i, History id catalog past run → t ∈ past →
            t.caller = some i → t.cause = some (.fresh (.manage r), none) →
            AsksOnce i r past) := by
  refine ⟨?_, fun interface h => ⟨⟨?_, fun m hm => ?_, fun method hno => ?_⟩, fun object u =>
    ⟨fun hrefused => ?_, fun haccepted => ?_⟩⟩⟩
  · constructor
    · rintro ⟨interface, h⟩
      exact (Declaration.resolve_eq_ok_iff.1 h).1
    · exact fun hsound => ⟨_, Declaration.resolve_eq_ok_iff.2 ⟨hsound, rfl⟩⟩
  · obtain ⟨-, rfl⟩ := Declaration.resolve_eq_ok_iff.1 h
    rfl
  · exact (Declaration.member_eq_ok_iff h).2 ⟨hm, rfl⟩
  · exact Declaration.member_of_unknown h hno
  · obtain ⟨detail, hrequest⟩ := hrefused.request h object
    refine ⟨detail, fun n => ?_⟩
    rw [startUse, hrequest]
    rfl
  · obtain ⟨r, hasks⟩ := (Use.refused_or_asks d.members object u).resolve_left haccepted
    refine ⟨r, hasks, fun n => ?_, fun id catalog past run t i hpast ht hi hc =>
      asksOnce hpast ht hi hc⟩
    rw [startUse, hasks.request h]
    rfl

/-- An interface with an attribute and an operation. -/
def compaction : Declaration where
  name := "CompactionManagerMBean"
  members :=
    [⟨"pending_tasks", "PendingTasks", .attributeRead⟩,
      ⟨"stop", "stopCompaction", .operation ["java.lang.String"]⟩]

def compactionManager : ObjectName :=
  ⟨"org.apache.cassandra.db:type=CompactionManager", "org.apache.cassandra.db".length⟩

/-- The request that stops compactions. -/
def stopCompaction : Request :=
  .invoke compactionManager "stopCompaction" ["java.lang.String"] [.text "COMPACTION"]

/-- A connection is opened for it, and it succeeds. -/
def stoppedAtOnce : List (Move Call Answer) :=
  [.submit (.manage stopCompaction), .start 0, .resume 0 .granted, .resume 0 (.connected (.ok ())),
    .resume 0 (.value (.ok .null))]

/-- An attribute cannot be called, not even without arguments, an operation cannot be
read, and one with its argument is invoked once. -/
theorem compaction_stopped_once : ∃ interface past run,
    compaction.resolve = .ok interface ∧ History 1 .standard past run ∧
    (∃ detail, ∀ n : Node, n.startUse ⟨compactionManager, interface⟩ (.call "pending_tasks" []) =
      ⟨n, .done (.value (.error (.internal detail))), []⟩) ∧
    (∃ detail, ∀ n : Node, n.startUse ⟨compactionManager, interface⟩ (.get "stop") =
      ⟨n, .done (.value (.error (.internal detail))), []⟩) ∧
    (∀ n : Node, n.startUse ⟨compactionManager, interface⟩ (.call "stop" [.text "COMPACTION"]) =
      start (.manage stopCompaction) n) ∧
    ∃ k, (taleOf 0 past).asked = [(k, stopCompaction)] := by
  have hsound : compaction.Sound := by
    refine ⟨fun m hm => ?_, by decide⟩
    obtain rfl | rfl : m = _ ∨ m = _ := by simpa [compaction] using hm
    · exact ⟨by decide, by decide, nofun⟩
    · refine ⟨by decide, by decide, fun signature h => ?_⟩
      cases h
      decide
  obtain ⟨hresolve, hinterface⟩ := proxies_check_uses compaction
  obtain ⟨interface, hi⟩ := hresolve.2 hsound
  obtain ⟨-, huse⟩ := hinterface interface hi
  have hread : (⟨"pending_tasks", "PendingTasks", .attributeRead⟩ : Member) ∈ compaction.members :=
    List.mem_cons_self
  have hstop : (⟨"stop", "stopCompaction", .operation ["java.lang.String"]⟩ : Member) ∈
      compaction.members := List.mem_cons_of_mem _ List.mem_cons_self
  have hasked : Use.Asks compaction.members compactionManager (.call "stop" [.text "COMPACTION"])
      stopCompaction := .call hstop rfl rfl
  obtain ⟨r, hasks, hstart, honce⟩ := (huse compactionManager _).2 (hasked.not_refused hi)
  obtain rfl : r = stopCompaction :=
    Except.ok.inj ((hasks.request hi).symm.trans (hasked.request hi))
  obtain ⟨past, run, hpast, t, ht, hcaller, hcause, u, hu, hlink⟩ : ∃ past run,
      History 1 .standard past run ∧ ∃ t ∈ past, t.caller = some 0 ∧
      t.cause = some (.fresh (.manage stopCompaction), none) ∧
      ∃ u ∈ past, HasLinkIn 0 stopCompaction u := by
    obtain ⟨run, hrun⟩ : ∃ run, (Run.idle (Node.fresh 1 .standard)).applyAll system
        stoppedAtOnce = some run := ⟨_, rfl⟩
    have hpast := execution_of_applyAll hrun
    exact ⟨_, run, hpast, _, List.mem_of_getElem? (i := 1) rfl, rfl, rfl, _,
      List.mem_of_getElem? (i := 3) rfl, rfl, _, _, rfl, .opened⟩
  exact ⟨interface, past, run, hi, hpast, (huse _ _).1 (.callAttribute hread rfl []),
    (huse _ _).1 (.getOperation hstop rfl), hstart,
    (honce _ _ _ _ _ _ hpast ht hcaller hcause).once ⟨u, hu, hlink⟩⟩

end NodeSidecar.Node
