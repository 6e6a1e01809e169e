import NodeSidecar.Proofs.Fleet.Nodes
import NodeSidecar.Proofs.Node.Health
import NodeSidecar.Proofs.Node.Snapshots
import NodeSidecar.Proofs.Roster
import NodeSidecar.Proofs.Service.Options
/-!
# Service — what comes of a request for a snapshot

What is asked is read off the request, then its body is read, then its node is
found; what the node does about it is decided when the call begins there. The
response says how far that went (`snapshot_answered_in_order`).
-/

namespace NodeSidecar.Service

open Text (Octets)
open Management (Request SnapshotOrder Value)

variable {target : Http.Target} {resource : Resource} {keyspace table tag : String}
variable {id : Option Nat} {body : Octets}

/-! ## Status codes -/

theorem refusal_of_isConnectivity {fault : Fault} (h : fault.isConnectivity) :
    (refusal fault).1 = 503 := by
  cases fault with
  | sessionUnavailable => rfl
  | managementUnavailable => rfl
  | _ => cases h

theorem refusal_ne_ok (fault : Fault) : (refusal fault).1 ≠ 200 := by
  cases fault <;> simp [refusal]

/-- **How a snapshot fared is the status code**: 200 if it succeeded, 503 if the
endpoint was out of reach, 500 if the managed object failed. -/
structure Tells (v : Except Fault Value) (status : Nat) : Prop where
  success : status = 200 ↔ ∃ x, v = .ok x
  unreachable : ∀ fault, v = .error fault → fault.isConnectivity → status = 503
  failed : ∀ object member reason, v = .error (.remoteInvocation object member reason) →
    status = 500

theorem tells_snapshotResponse (v : Except Fault Value) :
    Tells v (snapshotResponse v).status := by
  cases v with
  | ok x => exact ⟨iff_of_true rfl ⟨x, rfl⟩, nofun, nofun⟩
  | error fault =>
    refine ⟨iff_of_false (refusal_ne_ok fault) nofun, fun f hf hconn => ?_, fun o m r hf => ?_⟩
    · obtain rfl := Except.error.inj hf
      exact refusal_of_isConnectivity hconn
    · obtain rfl := Except.error.inj hf
      rfl

/-! ## What is asked -/

/-- Only the resource of snapshots asks for one. -/
theorem methods_of_snapshot
    (h : Demand.read? resource target = some (.snapshot keyspace table tag id)) :
    resource.methods = ["PUT"] := by
  cases resource with
  | snapshot => rfl
  | health => cases h
  | metrics => cases h
  | nodeHealth =>
    obtain ⟨id', -, h⟩ := Option.map_eq_some_iff.1 h
    cases h
  | nodeHealthAt segment =>
    obtain ⟨id', -, h⟩ := Option.map_eq_some_iff.1 h
    cases h
  | settings =>
    obtain ⟨id', -, h⟩ := Option.map_eq_some_iff.1 h
    cases h

/-- **A request whose path and query ask for a snapshot** asks for it, unless its
body is too long. -/
theorem ofRequest_snapshot (hat : Resource.at? target.segments = some resource)
    (hread : Demand.read? resource target = some (.snapshot keyspace table tag id)) :
    Demand.ofRequest "PUT" target body =
      if Demand.longestBody < body.length then .error .tooLong
      else .ok (.snapshot keyspace table tag id) := by
  have hmethod : ¬ "PUT" ∉ resource.methods := by
    rw [methods_of_snapshot hread]
    simp
  simp only [Demand.ofRequest, hat, if_neg hmethod, hread]

/-! ## The plan -/

variable {roster : Roster} {index : Nat} {options : Option (List (String × String))}

/-- The node with the id that is asked for, or the first one if none is. -/
def IsAsked (id : Option Nat) (index : Nat) (m : Managed) : Prop :=
  id = some m.id ∨ id = none ∧ index = 0

theorem planSnapshot_of_unreadable (hblank : ¬ IsBlank body)
    (hno : ∀ entries, ¬ SpellsTexts body entries) :
    ∃ r, planSnapshot roster keyspace table tag id body = .now r ∧ r.status = 400 := by
  obtain ⟨detail, hread⟩ := readOptions_of_unreadable hblank hno
  exact ⟨_, by rw [planSnapshot, hread], rfl⟩

theorem planSnapshot_of_unknown {nodes : List Managed} {n : Nat}
    (hroster : Roster.ofList nodes = .ok roster) (hread : readOptions body = .ok options)
    (hno : ∀ m ∈ nodes, m.id ≠ n) :
    ∃ r, planSnapshot roster keyspace table tag (some n) body = .now r ∧ r.status = 404 := by
  have hindex : roster.indexOrFirst (some n) = .error (.instanceNotFound n) :=
    Roster.index_of_unknown hroster hno
  refine ⟨faultResponse (.instanceNotFound n), ?_, rfl⟩
  rw [planSnapshot, hread]
  simp only [hindex]

theorem planSnapshot_of_asked {nodes : List Managed} {m : Managed}
    (hroster : Roster.ofList nodes = .ok roster) (hread : readOptions body = .ok options)
    (hm : nodes[index]? = some m) (hid : IsAsked id index m) :
    planSnapshot roster keyspace table tag id body =
      .call index (.snapshot ⟨tag, keyspace, table, options⟩) "snapshot" snapshotAnswer := by
  have hindex : roster.indexOrFirst id = .ok index := by
    rcases hid with rfl | ⟨rfl, rfl⟩
    · exact Roster.index_of_getElem? hroster hm
    · rfl
  rw [planSnapshot, hread]
  simp only [hindex]

/-! ## On the node -/

/-- The fleet of these nodes before anything has happened. -/
def fleetOf (parts : List (Managed × Catalog)) : Fleet :=
  .fresh (parts.map fun part => .fresh part.1.id part.2)

theorem nodes_fleetOf {parts : List (Managed × Catalog)} {m : Managed} {catalog : Catalog}
    (h : parts[index]? = some (m, catalog)) :
    (fleetOf parts).nodes[index]? = some (Run.idle (Node.fresh m.id catalog)) := by
  simp [fleetOf, Fleet.fresh, h]

/-- **What comes of a snapshot that begins in the move `t`**: `past` is all that
was done on its node, `i` is its call, and `status` the status code of the
response to a result. It is decided in this order. -/
structure Outcome (order : SnapshotOrder) (status : Node.Result → Nat) (i : Nat)
    (past : List Node.Moment) (t : Node.Moment) : Prop where
  /-- Without an adapter it is over at once, with 503. -/
  noAdapter : t.before.monitor.adapter = none →
    Node.attempts i past = 0 ∧ (Node.taleOf i past).asked = [] ∧
      ∃ res, (Node.taleOf i past).results = [res] ∧ status res = 503
  /-- With a blank part it is over at once, with 400. -/
  hasBlank : t.before.monitor.adapter.isSome → order.HasBlank →
    Node.attempts i past = 0 ∧ (Node.taleOf i past).asked = [] ∧
      ∃ res, (Node.taleOf i past).results = [res] ∧ status res = 400
  /-- Otherwise it opens at most one connection and makes at most one request,
  the one for its snapshot. It results in the fault that no connection was
  opened or in what the request was answered. -/
  carried : t.before.monitor.adapter.isSome → ¬ order.HasBlank →
    Node.attempts i past ≤ 1 ∧
      ((Node.taleOf i past).asked = [] ∨
        ∃ k, (Node.taleOf i past).asked = [(k, order.invocation)]) ∧
      ∀ res ∈ (Node.taleOf i past).results, ∃ v, Tells v (status res) ∧
        ((∃ fault, v = .error fault ∧ Node.toldOf i past = [.error fault] ∧
            (Node.taleOf i past).asked = []) ∨
          ∃ k, (Node.taleOf i past).asked = [(k, order.invocation)] ∧
            (Node.taleOf i past).replies = [(k, order.invocation, v)])

theorem outcome {n i : Nat} {catalog : Catalog} {past : List Node.Moment} {run : Node.Calls}
    {t : Node.Moment} {order : SnapshotOrder} (h : Node.History n catalog past run) (ht : t ∈ past)
    (hi : t.caller = some i) (hc : t.cause = some (.fresh (.snapshot order), none)) :
    Outcome order (fun res => (snapshotAnswer res).status) i past t where
  noAdapter hnone := by
    obtain ⟨hattempts, htale⟩ := Node.snapshot_of_no_adapter h ht hi hc hnone
    rw [htale]
    exact ⟨hattempts, rfl, _, rfl, rfl⟩
  hasBlank hsome hblank := by
    obtain ⟨detail, hattempts, htale⟩ := Node.snapshot_of_hasBlank h ht hi hc hsome hblank
    rw [htale]
    exact ⟨hattempts, rfl, _, rfl, rfl⟩
  carried hsome hnamed := by
    have herrand := Node.snapshot_of_not_hasBlank h ht hi hc hsome hnamed
    refine ⟨herrand.attempts_le, herrand.asked_eq, fun res hres => ?_⟩
    obtain ⟨v, rfl, hcame⟩ := herrand.result_eq hres
    exact ⟨v, tells_snapshotResponse v, hcame⟩

/-! ## The request -/

/-- **A snapshot is put to the node at `index`**, and to no other: the fleet that
began as `start` is `f` after the moves `before`, and `p` is how the request is
met. What comes of the snapshot on its node, whatever happens since, is its
`Outcome`; a request that runs out of time is answered with 503. -/
structure PutTo (start f : Fleet) (before : List Fleet.Move) (index : Nat)
    (order : SnapshotOrder) (p : Plan) (millis : Nat) : Prop where
  planned : p = .call index (.snapshot order) "snapshot" snapshotAnswer
  timedOut : (p.response millis none).status = 503
  comes : ∃ calls g, f.nodes[index]? = some calls ∧
    f.apply (.node index (.submit (.snapshot order))) = some g ∧
    (∀ j, j ≠ index → g.nodes[j]? = f.nodes[j]?) ∧
    ∀ since last, g.applyAll since = some last → ∀ past,
      past = start.pastOn index (before ++ .node index (.submit (.snapshot order)) :: since) →
      (∀ t ∈ past, t.caller ≠ some calls.nextId) ∨
        ∃ t ∈ past, t.caller = some calls.nextId ∧
          t.cause = some (.fresh (.snapshot order), none) ∧
          Outcome order (fun res => (p.response millis (some res)).status) calls.nextId past t

theorem putTo {start f : Fleet} {before : List Fleet.Move} {n : Nat} {catalog : Catalog}
    (hf : start.applyAll before = some f)
    (hstart : start.nodes[index]? = some (Run.idle (Node.fresh n catalog)))
    (order : SnapshotOrder) (millis : Nat) :
    PutTo start f before index order (.call index (.snapshot order) "snapshot" snapshotAnswer)
      millis where
  planned := rfl
  timedOut := rfl
  comes := by
    obtain ⟨calls, hcalls, -⟩ := Fleet.execution_pastOn hf hstart
    obtain ⟨g, hg, -, hothers⟩ := Fleet.exists_submitted hcalls (.snapshot order)
    refine ⟨calls, g, hcalls, hg, hothers, ?_⟩
    rintro since last hlast past rfl
    obtain ⟨run, hpast, hidle | ⟨t, ht, hcaller, hcause⟩⟩ :=
      Fleet.begins_after_submit hf hstart (Run.bounded_idle _) hcalls hg hlast
    · exact .inl hidle
    · exact .inr ⟨t, ht, hcaller, hcause, outcome hpast ht hcaller hcause⟩

/-- **What comes of a request for a snapshot** is decided in this order. A body
that is too long is refused with 413. One that is neither blank nor spells an
object of texts is refused with 400, and an id that no node has with 404; then
no call is made on any node. Otherwise the snapshot is put to the node that is
asked for. -/
theorem snapshot_answered_in_order {parts : List (Managed × Catalog)} {before : List Fleet.Move}
    {f : Fleet} (hroster : Roster.ofList (parts.map (·.1)) = .ok roster)
    (hf : (fleetOf parts).applyAll before = some f)
    (hat : Resource.at? target.segments = some resource)
    (hread : Demand.read? resource target = some (.snapshot keyspace table tag id))
    (body : Octets) (monitors : List Monitor) (metrics : Metrics) (millis : Nat) :
    (Demand.longestBody < body.length →
      ∃ r, Demand.ofRequest "PUT" target body = .error r ∧ r.status = 413) ∧
    (body.length ≤ Demand.longestBody →
      Demand.ofRequest "PUT" target body = .ok (.snapshot keyspace table tag id)) ∧
    ∀ p, p = plan roster monitors metrics body (.snapshot keyspace table tag id) →
      (¬ IsBlank body → (∀ entries, ¬ SpellsTexts body entries) →
        ∃ r, p = .now r ∧ r.status = 400) ∧
      (IsBlank body ∨ (∃ entries, SpellsTexts body entries) →
        (∀ n, id = some n → (∀ part ∈ parts, part.1.id ≠ n) →
          ∃ r, p = .now r ∧ r.status = 404) ∧
        ∀ index m catalog, parts[index]? = some (m, catalog) → IsAsked id index m →
          ∃ options, GivesOptions body options ∧
            PutTo (fleetOf parts) f before index ⟨tag, keyspace, table, options⟩ p millis) := by
  have hrequest : Demand.ofRequest "PUT" target body = _ := ofRequest_snapshot hat hread
  refine ⟨fun hlong => ⟨.tooLong, ?_, rfl⟩, fun hshort => ?_, ?_⟩
  · rw [hrequest, if_pos hlong]
  · rw [hrequest, if_neg (Nat.not_lt.2 hshort)]
  rintro p rfl
  refine ⟨planSnapshot_of_unreadable, fun hreadable => ?_⟩
  obtain ⟨options, hoptions⟩ := exists_readOptions hreadable
  refine ⟨?_, fun index m catalog hpart hid => ?_⟩
  · rintro n rfl hno
    refine planSnapshot_of_unknown hroster hoptions fun m hm => ?_
    obtain ⟨part, hpart, rfl⟩ := List.mem_map.1 hm
    exact hno part hpart
  · have hm : (parts.map (·.1))[index]? = some m := by simp [hpart]
    have hplan : plan roster monitors metrics body (.snapshot keyspace table tag id) = _ :=
      planSnapshot_of_asked hroster hoptions hm hid
    refine ⟨options, givesOptions_of_readOptions hoptions, ?_⟩
    rw [hplan]
    exact putTo hf (nodes_fleetOf hpart) _ millis

/-! ## One node and one table -/

/-- The one node of a fleet. -/
def soleNode : Managed :=
  ⟨1, "127.0.0.1", 9042, [], .standard⟩

def soleFleet : Fleet :=
  fleetOf [(soleNode, .standard)]

/-- The target of a snapshot that leaves the node open. -/
def nightlyTarget : Http.Target :=
  ⟨["api", "v1", "keyspace", "ks", "table", "t", "snapshots", "nightly"].map String.toList, []⟩

def nightlyResource : Resource :=
  .snapshot "ks".toList "t".toList "nightly".toList

/-- A body that says how long the snapshot is to be kept. -/
def nightlyBody : Octets :=
  Text.encodeUtf8 "\x7b\"ttl\":\"1d\"\x7d".toList

theorem spellsTexts_nightlyBody : SpellsTexts nightlyBody [("ttl", "1d")] := by
  have hwrite : (Json.write (fun _ => "") (.object (Json.ofTexts [("ttl", "1d")]))).toList =
      "\x7b\"ttl\":\"1d\"\x7d".toList := by
    rw [Json.toList_write_ofTexts, Json.fieldChars_singleton, Json.toList_quoted,
      Json.toList_quoted]
    rfl
  have hspells := spellsTexts_write (fun _ => "") [("ttl", "1d")]
  rwa [hwrite] at hspells

theorem readOptions_nightlyBody : readOptions nightlyBody = .ok (some [("ttl", "1d")]) :=
  readOptions_of_spellsTexts (by unfold IsBlank; decide) spellsTexts_nightlyBody rfl

/-- The snapshot that is asked for, with the option of the body. -/
def nightlyOrder : SnapshotOrder :=
  ⟨"nightly", "ks", "t", some [("ttl", "1d")]⟩

/-- A probe finds the node up. -/
def probedOnce : List Fleet.Move :=
  (Node.firstProbe (.ofTexts [("release_version", "4.0.0"), ("partitioner", "Murmur3")])).map
    (.node 0)

/-- A connection is opened for the snapshot, and its request succeeds. -/
def takenAtOnce : List Fleet.Move :=
  [.node 0 (.start 2), .node 0 (.resume 2 .granted), .node 0 (.resume 2 (.connected (.ok ()))),
    .node 0 (.resume 2 (.value (.ok .null)))]

/-- What is done on the node when it is probed and then its snapshot is taken. -/
def nightlyPast : List Node.Moment :=
  soleFleet.pastOn 0 (probedOnce ++ .node 0 (.submit (.snapshot nightlyOrder)) :: takenAtOnce)

/-- A request with an option, for a node that was probed, is answered with 200 when
its snapshot is taken. -/
theorem nightly_snapshot_succeeds : ∃ (roster : Roster) (f g last : Fleet) (res : Node.Result),
    Roster.ofList [soleNode] = .ok roster ∧ soleFleet.applyAll probedOnce = some f ∧
    Demand.ofRequest "PUT" nightlyTarget nightlyBody =
      .ok (.snapshot "ks" "t" "nightly" none) ∧
    plan roster [] [] nightlyBody (.snapshot "ks" "t" "nightly" none) =
      .call 0 (.snapshot nightlyOrder) "snapshot" snapshotAnswer ∧
    f.apply (.node 0 (.submit (.snapshot nightlyOrder))) = some g ∧
    g.applyAll takenAtOnce = some last ∧
    (Node.taleOf 2 nightlyPast).results = [res] ∧ (snapshotAnswer res).status = 200 ∧
    (∃ k, (Node.taleOf 2 nightlyPast).asked = [(k, nightlyOrder.invocation)]) ∧
    Node.attempts 2 nightlyPast ≤ 1 := by
  obtain ⟨roster, hroster⟩ : ∃ roster,
      Roster.ofList ([(soleNode, Catalog.standard)].map (·.1)) = .ok roster := ⟨_, rfl⟩
  have hplan : plan roster [] [] nightlyBody (.snapshot "ks" "t" "nightly" none) =
      .call 0 (.snapshot nightlyOrder) "snapshot" snapshotAnswer := by
    rw [plan]
    have hsole : [soleNode][0]? = some soleNode := rfl
    exact planSnapshot_of_asked hroster readOptions_nightlyBody hsole (.inr ⟨rfl, rfl⟩)
  obtain ⟨f, hf, calls, hcalls, hid, g, hg, last, hlast, hbegun, hequipped, hresults, hreplies,
      htold⟩ :
      ∃ f, soleFleet.applyAll probedOnce = some f ∧ ∃ calls, f.nodes[0]? = some calls ∧
      calls.nextId = 2 ∧ ∃ g, f.apply (.node 0 (.submit (.snapshot nightlyOrder))) = some g ∧
      ∃ last, g.applyAll takenAtOnce = some last ∧
      (nightlyPast.any fun t => t.caller = some 2) = true ∧
      (nightlyPast.all fun t => t.caller ≠ some 2 || t.before.monitor.adapter.isSome) = true ∧
      (Node.taleOf 2 nightlyPast).results = [.value (.ok .null)] ∧
      (Node.taleOf 2 nightlyPast).replies = [(0, nightlyOrder.invocation, .ok .null)] ∧
      Node.toldOf 2 nightlyPast = [.ok ()] :=
    ⟨_, rfl, _, rfl, rfl, _, rfl, _, rfl, rfl, rfl, rfl, rfl, rfl⟩
  have hat : Resource.at? nightlyTarget.segments = some nightlyResource := rfl
  have hread : Demand.read? nightlyResource nightlyTarget =
    some (.snapshot "ks" "t" "nightly" none) := rfl
  obtain ⟨-, hasks, hdecided⟩ :=
    snapshot_answered_in_order hroster hf hat hread nightlyBody [] [] 5000
  obtain ⟨-, hplaced⟩ := (hdecided _ hplan.symm).2 (.inr ⟨_, spellsTexts_nightlyBody⟩)
  obtain ⟨options, -, hcall, -, calls', g', hcalls', hg', -, hpast⟩ :=
    hplaced 0 soleNode .standard rfl (.inr ⟨rfl, rfl⟩)
  obtain rfl : some [("ttl", "1d")] = options := by simpa [nightlyOrder] using hcall
  obtain rfl : calls = calls' := Option.some.inj (hcalls.symm.trans hcalls')
  obtain rfl : g = g' := Option.some.inj (hg.symm.trans hg')
  rcases hpast takenAtOnce last hlast nightlyPast rfl with hidle | ⟨t, ht, hcaller, -, houtcome⟩
  · obtain ⟨t, ht, hcaller⟩ := List.any_eq_true.1 hbegun
    exact absurd (hid ▸ of_decide_eq_true hcaller) (hidle t ht)
  rw [hid] at hcaller houtcome
  have hadapter : t.before.monitor.adapter.isSome := by
    simpa [hcaller] using List.all_eq_true.1 hequipped t ht
  obtain ⟨hattempts, -, hcame⟩ := houtcome.carried hadapter (by decide)
  obtain ⟨v, htells, ⟨fault, rfl, hfailed, -⟩ | ⟨k, hasked, hreplied⟩⟩ :=
    hcame _ (hresults ▸ List.mem_singleton_self _)
  · rw [htold] at hfailed
    cases hfailed
  · rw [hreplies] at hreplied
    obtain rfl : Except.ok Value.null = v := (Prod.mk.inj (Prod.mk.inj
      (List.singleton_inj.1 hreplied)).2).2
    exact ⟨roster, f, g, last, _, hroster, hf, hasks (by decide), hplan, hg, hlast, hresults,
      htells.success.2 ⟨_, rfl⟩, ⟨k, hasked⟩, hattempts⟩

/-- A body that is blank and too long. -/
def longBlank : Octets :=
  List.replicate (Demand.longestBody + 1) 0x20

/-- A blank body that is too long is refused with 413, although its request can
be read and asks for a node without an adapter. -/
theorem long_body_refused_first : ∃ (r : Http.Response) (calls : Node.Calls),
    Resource.at? nightlyTarget.segments = some nightlyResource ∧
    Demand.read? nightlyResource nightlyTarget = some (.snapshot "ks" "t" "nightly" none) ∧
    IsBlank longBlank ∧ soleFleet.nodes[0]? = some calls ∧ calls.monitor.adapter = none ∧
    Demand.ofRequest "PUT" nightlyTarget longBlank = .error r ∧ r.status = 413 := by
  have hat : Resource.at? nightlyTarget.segments = some nightlyResource := rfl
  have hread : Demand.read? nightlyResource nightlyTarget =
    some (.snapshot "ks" "t" "nightly" none) := rfl
  have hblank : IsBlank longBlank := by
    rw [IsBlank, longBlank, List.all_replicate]
    exact if_neg (Nat.succ_ne_zero _)
  have hlong : Demand.longestBody < longBlank.length := by
    rw [longBlank, List.length_replicate]
    exact Nat.lt_succ_self _
  have hrefused : Demand.ofRequest "PUT" nightlyTarget longBlank = .error .tooLong := by
    rw [ofRequest_snapshot hat hread, if_pos hlong]
  exact ⟨.tooLong, _, hat, hread, hblank, rfl, rfl, hrefused, rfl⟩

end NodeSidecar.Service
