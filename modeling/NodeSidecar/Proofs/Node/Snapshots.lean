import NodeSidecar.Proofs.Node.LinkSharing
/-!
# Node — the course of a snapshot

A snapshot is refused when it begins, or goes on an errand: it looks for a
connection and makes one request on it. `Errand` lists how far such a call can
have come, with the connections that it set out to open and what it was told of
them. What the request is, is said here too.
-/

namespace NodeSidecar

namespace Management

/-- The object that a snapshot is asked of. -/
def storageService : ObjectName :=
  ⟨Storage.objectName, "org.apache.cassandra.db".length⟩

theorem parse_objectName : ObjectName.parse Storage.objectName = .ok storageService := rfl

theorem proxy_eq : Storage.proxy =
    .ok ⟨storageService, Storage.declaration.name, Storage.declaration.members⟩ := by
  rw [Storage.proxy, Proxy.bind, parse_objectName]
  rfl

namespace SnapshotOrder

variable {o : SnapshotOrder}

/-- The request that an order is: to take a snapshot under its tag, with its
options, of its table. -/
def invocation (o : SnapshotOrder) : Request :=
  .invoke storageService "takeSnapshot"
    ["java.lang.String", "java.util.Map", "[Ljava.lang.String;"]
    [.text o.tag, .table (o.options.getD []), .texts [o.keyspace ++ "." ++ o.table]]

/-- A part of the order is blank. -/
def HasBlank (o : SnapshotOrder) : Prop :=
  Text.isAllBlank o.tag.toList ∨ Text.isAllBlank o.keyspace.toList ∨
    Text.isAllBlank o.table.toList

instance (o : SnapshotOrder) : Decidable o.HasBlank :=
  inferInstanceAs (Decidable (_ ∨ _ ∨ _))

theorem hasBlank_iff : o.HasBlank ↔ ∃ part, o.blankPart? = some part := by
  unfold HasBlank blankPart?
  split
  · rename_i htag
    exact iff_of_true (.inl htag) ⟨_, rfl⟩
  · rename_i htag
    split
    · rename_i hkeyspace
      exact iff_of_true (.inr (.inl hkeyspace)) ⟨_, rfl⟩
    · rename_i hkeyspace
      split
      · rename_i htable
        exact iff_of_true (.inr (.inr htable)) ⟨_, rfl⟩
      · rename_i htable
        exact iff_of_false (by simp [htag, hkeyspace, htable]) (by simp)

/-- An order with a blank part is no request. -/
theorem request_of_hasBlank (h : o.HasBlank) :
    ∃ detail, o.request = .error (.invalidArgument detail) := by
  obtain ⟨part, hpart⟩ := hasBlank_iff.1 h
  rw [request, use, hpart]
  exact ⟨_, rfl⟩

/-- **Any other order is the request for its snapshot.** -/
theorem request_of_not_hasBlank (h : ¬ o.HasBlank) : o.request = .ok o.invocation := by
  have hnone : o.blankPart? = none := by
    rw [hasBlank_iff] at h
    simpa [Option.eq_none_iff_forall_ne_some] using h
  rw [request, use, hnone, proxy_eq]
  rfl

end SnapshotOrder

end Management

namespace Node

open Management (Link Request Value SnapshotOrder)

variable {l l' : Link} {p : Progress Call Wait} {a : Option Answer} {turn : Turn Wait Result}
variable {id : Nat} {catalog : Catalog} {past later : List Moment} {run : Calls} {t : Moment}
variable {i n : Nat} {c : Call} {r : Request} {told : List (Except Fault Unit)} {tale : Tale}
variable {w : Option Wait}

/-! ## Connections that a call opens -/

/-- A call opens a connection. -/
def opening : Option Wait → Bool
  | some (.linkConnecting _) => true
  | _ => false

/-- How often the call `i` set out to open a connection. -/
def attempts (i : Nat) (past : List Moment) : Nat :=
  past.countP fun t => t.caller = some i && opening (t.next system)

/-- What a call that opens a connection is told. -/
def toldIn : Progress Call Wait → Option Answer → List (Except Fault Unit)
  | .waiting (.linkConnecting _), some (.connected r) => [r]
  | _, _ => []

/-- What the call `i` was told of the connections that it set out to open. -/
def toldOf (i : Nat) (past : List Moment) : List (Except Fault Unit) :=
  past.flatMap fun t =>
    if t.caller = some i then
      match t.cause with
      | some (p, a) => toldIn p a
      | none => []
    else []

theorem attempts_append (i : Nat) (past later : List Moment) :
    attempts i (past ++ later) = attempts i past + attempts i later :=
  List.countP_append

theorem attempts_concat_of_ne (h : t.caller ≠ some i) :
    attempts i (past ++ [t]) = attempts i past := by
  simp [attempts, List.countP_append, h]

theorem toldOf_concat_of_ne (h : t.caller ≠ some i) :
    toldOf i (past ++ [t]) = toldOf i past := by
  simp [toldOf, h]

theorem LinkPasses.attempts_self (h : LinkPasses t i p a turn) :
    attempts i (past ++ [t]) = attempts i past + (opening turn.next).toNat := by
  cases ho : opening turn.next <;> simp [attempts, List.countP_append, h.caller, h.next, ho]

theorem LinkPasses.toldOf_self (h : LinkPasses t i p a turn) :
    toldOf i (past ++ [t]) = toldOf i past ++ toldIn p a := by
  simp [toldOf, h.caller, h.cause]

/-- A call that has made no move has opened no connection. -/
theorem attempts_of_no_move (h : ∀ t ∈ past, t.caller ≠ some i) : attempts i past = 0 := by
  refine List.countP_eq_zero.2 fun t ht => ?_
  simp [h t ht]

theorem toldOf_of_no_move (h : ∀ t ∈ past, t.caller ≠ some i) : toldOf i past = [] := by
  refine List.flatMap_eq_nil_iff.2 fun t ht => ?_
  rw [if_neg (h t ht)]

/-! ## Errands -/

/-- **How far the call `c` has come with its request `r`**, since it looked for
a connection: how often it has set out to open one, what it was told of that,
what it has asked and was answered, and what it waits for now. -/
inductive Errand (c : Call) (r : Request) :
    Nat → List (Except Fault Unit) → Tale → Option Wait → Prop
  /-- It waits for the lock, to open a connection. -/
  | queued : Errand c r 0 [] ⟨[c], [], [], []⟩ (some (.linkLock (.connect (.request r))))
  /-- It opens a connection. -/
  | connecting : Errand c r 1 [] ⟨[c], [], [], []⟩ (some (.linkConnecting (.request r)))
  /-- It is over: no connection was opened. -/
  | unreachable {fault : Fault} :
      Errand c r 1 [.error fault] ⟨[c], [], [], [.value (.error fault)]⟩ none
  /-- Its request is on the way. -/
  | asking {n k : Nat} {told : List (Except Fault Unit)} : n ≤ 1 →
      Errand c r n told ⟨[c], [(k, r)], [], []⟩ (some (.requesting k r))
  /-- Its request failed for want of a connection. -/
  | forgetting {n k : Nat} {told : List (Except Fault Unit)} {fault : Fault} : n ≤ 1 →
      Errand c r n told ⟨[c], [(k, r)], [(k, r, .error fault)], []⟩
        (some (.linkLock (.evict k fault)))
  /-- It is over, and results in what its request was answered. -/
  | answered {n k : Nat} {told : List (Except Fault Unit)} {v : Except Fault Value} : n ≤ 1 →
      Errand c r n told ⟨[c], [(k, r)], [(k, r, v)], [.value v]⟩ none

namespace Errand

theorem attempts_le (h : Errand c r n told tale w) : n ≤ 1 := by
  cases h with
  | queued => exact Nat.zero_le 1
  | connecting => exact Nat.le_refl 1
  | unreachable => exact Nat.le_refl 1
  | asking hn => exact hn
  | forgetting hn => exact hn
  | answered hn => exact hn

/-- It asks its request at most once, and nothing else. -/
theorem asked_eq (h : Errand c r n told tale w) :
    tale.asked = [] ∨ ∃ k, tale.asked = [(k, r)] := by
  cases h with
  | queued => exact .inl rfl
  | connecting => exact .inl rfl
  | unreachable => exact .inl rfl
  | asking => exact .inr ⟨_, rfl⟩
  | forgetting => exact .inr ⟨_, rfl⟩
  | answered => exact .inr ⟨_, rfl⟩

/-- **It results in what it was told**: that no connection was opened, or what
its request was answered. -/
theorem result_eq (h : Errand c r n told tale w) {res : Result} (hres : res ∈ tale.results) :
    ∃ v, res = .value v ∧
      ((∃ fault, v = .error fault ∧ told = [.error fault] ∧ tale.asked = []) ∨
        ∃ k, tale.asked = [(k, r)] ∧ tale.replies = [(k, r, v)]) := by
  cases h with
  | unreachable => exact ⟨_, List.mem_singleton.1 hres, .inl ⟨_, rfl, rfl, rfl⟩⟩
  | answered => exact ⟨_, List.mem_singleton.1 hres, .inr ⟨_, rfl, rfl⟩⟩
  | _ => cases hres

/-- **A call on an errand goes on by one stretch.** -/
theorem passes {v : Wait} (h : Errand c r n told tale (some v))
    (hp : LinkPassage l (.waiting v) a l' turn) :
    Errand c r (n + (opening turn.next).toNat) (told ++ toldIn (.waiting v) a)
      (tale.append (.ofStretch (.waiting v) a turn.next turn.result)) turn.next := by
  cases h with
  | queued =>
    cases hp with
    | releases hr => cases hr
    | unused hr => cases hr
    | found => exact .asking (Nat.zero_le 1)
    | connects => exact .connecting
    | aloof hp => cases hp
  | connecting =>
    obtain ⟨fault, rfl, -, rfl⟩ | ⟨rfl, -, rfl⟩ := hp.of_connecting
    · exact .unreachable
    · exact .asking (Nat.le_refl 1)
  | asking hn =>
    obtain ⟨u, rfl, -, ⟨fault, rfl, -, rfl⟩ | ⟨-, rfl⟩⟩ := hp.of_requesting
    · exact .forgetting hn
    · exact .answered hn
  | forgetting hn =>
    obtain ⟨-, rfl⟩ := hp.of_evict
    exact .answered hn

/-- **A call that looks for a connection is on an errand**: it waits for the
lock, or makes its request on the connection that is in use. -/
theorem of_seekLink (m : Node) :
    Errand c r (opening (m.seekLink (.request r)).turn.next).toNat []
      (.ofStretch (.fresh c) none (m.seekLink (.request r)).turn.next
        (m.seekLink (.request r)).turn.result) (m.seekLink (.request r)).turn.next := by
  unfold seekLink
  split
  · exact .asking (Nat.zero_le 1)
  · exact .queued

end Errand

/-- How a call ends its first stretch is up to the node then. -/
theorem LinkPasses.of_begin (h : LinkPasses t i p a turn) (hc : t.cause = some (.fresh c, none)) :
    p = .fresh c ∧ a = none ∧ turn.next = (start c t.before.state).turn.next ∧
      turn.result = (start c t.before.state).turn.result := by
  obtain ⟨rfl, rfl⟩ := h.eq_of_cause hc
  have hstretch : t.stretch? system = some (start c t.before.state) := by
    rw [Transition.stretch?, hc]
    rfl
  refine ⟨rfl, rfl, ?_, ?_⟩
  · rw [← h.next, Transition.next, hstretch, Option.bind_some]
  · rw [← h.result, Transition.result, hstretch, Option.bind_some]

/-- **A call that is over as soon as it begins** opens no connection and asks
nothing. -/
theorem over_at_once (h : History id catalog past run) (ht : t ∈ past) (hi : t.caller = some i)
    (hc : t.cause = some (.fresh c, none)) {res : Result}
    (hends : (start c t.before.state).turn = .done res) :
    attempts i past = 0 ∧ taleOf i past = ⟨[c], [], [], [res]⟩ := by
  obtain ⟨earlier, later, rfl⟩ := List.append_of_mem ht
  obtain ⟨hx, hm, hlater⟩ := h.of_append_cons
  have hb : t.before.Bounded := hx.bounded (Run.bounded_idle _)
  obtain ⟨j, turn, hp⟩ := linkPasses_of_cause hx hm hc
  obtain rfl : j = i := Option.some.inj (hp.caller.symm.trans hi)
  obtain ⟨-, -, hnext, hresult⟩ := hp.of_begin hc
  rw [hends] at hnext hresult
  have hidle : ∀ u ∈ later, u.caller ≠ some j := by
    refine hlater.caller_ne_of_over (hb.apply hm) (Run.begun_of_caller hb hm hi).1 ?_
    rw [hp.after, hnext]
    rfl
  constructor
  · rw [List.append_cons, attempts_append, hp.attempts_self, hnext,
      attempts_of_no_move (hx.caller_ne_of_fresh (Run.bounded_idle _) hp.before),
      attempts_of_no_move hidle]
    rfl
  · rw [List.append_cons, taleOf_append_of_no_move hidle, hp.taleOf_self,
      taleOf_of_fresh hx hp.before, hnext, hresult]
    rfl

/-- A call that has begun stays on its errand while others move. -/
theorem Errand.of_other {u : Moment}
    (h : t ∈ past → Errand c r (attempts i past) (toldOf i past) (taleOf i past) w)
    (ht : t ∈ past ++ [u]) (hi : t.caller = some i) (hu : u.caller ≠ some i) :
    Errand c r (attempts i (past ++ [u])) (toldOf i (past ++ [u])) (taleOf i (past ++ [u])) w := by
  rw [attempts_concat_of_ne hu, toldOf_concat_of_ne hu, taleOf_concat_of_ne hu]
  rcases List.mem_append.1 ht with ht | ht
  · exact h ht
  · obtain rfl := List.mem_singleton.1 ht
    exact absurd hi hu

/-- **A call that began by looking for a connection is on its errand**, after
every history. -/
theorem errand (h : History id catalog past run) (ht : t ∈ past) (hi : t.caller = some i)
    (hc : t.cause = some (.fresh c, none))
    (hseeks : start c t.before.state = t.before.state.seekLink (.request r)) :
    Errand c r (attempts i past) (toldOf i past) (taleOf i past) (run.waiting i) := by
  refine link_induction (I := fun past run => t ∈ past →
    Errand c r (attempts i past) (toldOf i past) (taleOf i past) (run.waiting i)) h
    (by simp) (fun past u _ ih hq ht => ?_) (fun past u j p a turn hx ih hp ht => ?_) ht
  · rw [hq.waiting]
    exact .of_other ih ht hi (by simp [hq.caller])
  · by_cases hij : i = j
    · subst hij
      rw [hp.attempts_self, hp.toldOf_self, hp.taleOf_self, hp.waiting_self]
      rcases List.mem_append.1 ht with ht | ht
      -- The call has begun before, so it was waiting.
      · have hbegun := hx.begun (Run.bounded_idle _) ht hi
        have hwaits : u.before.waiting i = p.wait? := Run.waiting_of_progress hp.before
        cases p with
        | fresh c' => exact absurd hp.before (hbegun.2 c')
        | waiting v =>
          have hon := ih ht
          rw [hwaits] at hon
          exact hon.passes hp.passage
      -- It begins in this move, and has done nothing before.
      · obtain rfl := List.mem_singleton.1 ht
        obtain ⟨rfl, rfl, hnext, hresult⟩ := hp.of_begin hc
        have hidle := hx.caller_ne_of_fresh (Run.bounded_idle _) hp.before
        rw [attempts_of_no_move hidle, toldOf_of_no_move hidle, taleOf_of_fresh hx hp.before,
          hnext, hresult, hseeks]
        simpa [Tale.append, Tale.blank, toldIn] using Errand.of_seekLink t.before.state
    · rw [hp.waiting_of_ne hij]
      refine .of_other ih ht hi ?_
      rw [hp.caller]
      exact fun hj => hij (Option.some.inj hj).symm

/-! ## Snapshots -/

section

variable {order : SnapshotOrder} (h : History id catalog past run) (ht : t ∈ past)
variable (hi : t.caller = some i) (hc : t.cause = some (.fresh (.snapshot order), none))

include h ht hi hc

/-- **A snapshot of a node without an adapter** is refused for that. -/
theorem snapshot_of_no_adapter (hnone : t.before.monitor.adapter = none) :
    attempts i past = 0 ∧ taleOf i past = ⟨[.snapshot order], [], [],
      [.value (.error (.adapterUnavailable t.before.monitor.id))]⟩ := by
  refine over_at_once h ht hi hc ?_
  rw [start, startSnapshot, hnone]
  rfl

/-- **A snapshot with a blank part** is refused for that, when there is an
adapter. -/
theorem snapshot_of_hasBlank (hsome : t.before.monitor.adapter.isSome) (hblank : order.HasBlank) :
    ∃ detail, attempts i past = 0 ∧ taleOf i past = ⟨[.snapshot order], [], [],
      [.value (.error (.invalidArgument detail))]⟩ := by
  obtain ⟨adapter, hadapter⟩ := Option.isSome_iff_exists.1 hsome
  obtain ⟨detail, hrequest⟩ := SnapshotOrder.request_of_hasBlank hblank
  refine ⟨detail, over_at_once h ht hi hc ?_⟩
  rw [start, startSnapshot_of_error hadapter hrequest]
  rfl

/-- **Any other snapshot goes on its errand.** -/
theorem snapshot_of_not_hasBlank (hsome : t.before.monitor.adapter.isSome)
    (hnamed : ¬ order.HasBlank) :
    Errand (.snapshot order) order.invocation (attempts i past) (toldOf i past) (taleOf i past)
      (run.waiting i) := by
  have huse : (Call.snapshot order).linkUse = some (.request order.invocation) := by
    rw [Call.linkUse, SnapshotOrder.request_of_not_hasBlank hnamed]
    rfl
  exact errand h ht hi hc (start_eq_seekLink huse fun _ _ => hsome)

end

end Node

end NodeSidecar
