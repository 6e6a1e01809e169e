import NodeSidecar.Configuration.Basic
import NodeSidecar.Proofs.Roster
import NodeSidecar.Proofs.Text.Cutting
/-!
# Configuration — which configurations can be used

When a node, and when a configuration, can be used is said without the order in
which flaws are looked for (`Usable`). What is refused is just what cannot be
used, and what can be used makes a roster whose nodes are the configured ones
(`Configures`).
-/

namespace NodeSidecar

namespace Configuration

/-- The directories are what stands between commas, without the blanks at its
ends, as far as something is left. -/
def Lists (text : String) (directories : List String) : Prop :=
  ∃ pieces trimmed, Text.CutInto ',' text.toList pieces ∧
    List.Forall₂ Text.TrimsTo pieces trimmed ∧
    directories.map String.toList = trimmed.filter (· ≠ [])

/-- Of flaws that are looked for one after the other, there is none if the first
is not there and there is none of the others. -/
theorem ite_some_eq_none_iff {α : Type} {flawed : Prop} [Decidable flawed] {flaw : α}
    {others : Option α} :
    (if flawed then some flaw else others) = none ↔ ¬ flawed ∧ others = none := by
  split <;> simp_all

/-! ## One node -/

namespace NodeSection

variable {s : NodeSection}

/-- The node can be managed so: its hosts are not blank, its ports not zero, there
is a character between the commas that is not blank, and there is a role just
when there is a password. -/
structure Usable (s : NodeSection) : Prop where
  host : ∃ x ∈ s.host.toList, ¬ Text.isBlank x
  port : 0 < s.port
  linkHost : ∃ x ∈ s.linkHost.toList, ¬ Text.isBlank x
  linkPort : 0 < s.linkPort
  directory : ∃ x ∈ s.directories.toList, x ≠ ',' ∧ ¬ Text.isBlank x
  login : s.role.isSome ↔ s.password.isSome

/-- The pieces between the commas, without the blanks at their ends. -/
theorem map_toList_directoryList (s : NodeSection) : s.directoryList.map String.toList =
    ((Text.pieces ',' s.directories.toList).map Text.trim).filter (· ≠ []) := by
  simp only [directoryList, List.map_map, Function.comp_def, String.toList_ofList, List.map_id']
  refine List.filter_congr fun cs _ => ?_
  cases cs <;> simp

/-- **A text lists one list of directories.** -/
theorem lists_iff {directories : List String} :
    Lists s.directories directories ↔ directories = s.directoryList := by
  have htrim {pieces trimmed : List (List Char)} :
      List.Forall₂ Text.TrimsTo pieces trimmed ↔ pieces.map Text.trim = trimmed := by
    have heq : Text.TrimsTo = fun cs ds => Text.trim cs = ds :=
      funext fun cs => funext fun ds => propext Text.trim_eq_iff.symm
    rw [heq, ← List.forall₂_map_left_iff, List.forall₂_eq_eq_eq]
  constructor
  · rintro ⟨pieces, trimmed, hpieces, htrimmed, hlist⟩
    obtain rfl := Text.pieces_eq_iff.2 hpieces
    obtain rfl := htrim.1 htrimmed
    rw [← map_toList_directoryList] at hlist
    exact List.map_injective_iff.2 (fun _ _ h => String.toList_injective h) hlist
  · rintro rfl
    exact ⟨_, _, Text.pieces_eq_iff.1 rfl, htrim.2 rfl, s.map_toList_directoryList⟩

theorem isAllBlank_iff {cs : List Char} :
    Text.isAllBlank cs = true ↔ ¬ ∃ x ∈ cs, ¬ Text.isBlank x := by
  simp [Text.isAllBlank]

/-- There is no directory just when there is nothing but commas and blanks. -/
theorem directoryList_isEmpty_iff : s.directoryList.isEmpty = true ↔
    ¬ ∃ x ∈ s.directories.toList, x ≠ ',' ∧ ¬ Text.isBlank x := by
  have hempty : s.directoryList.isEmpty = true ↔ s.directoryList.map String.toList = [] := by
    simp
  rw [hempty, map_toList_directoryList, List.filter_eq_nil_iff]
  constructor
  · rintro hnone ⟨x, hx, hcomma, hblank⟩
    obtain ⟨p, hp, hxp⟩ := Text.exists_mem_pieces_iff.2 ⟨hx, hcomma⟩
    have hp' := hnone _ (List.mem_map_of_mem hp)
    exact hblank (Text.trim_eq_nil_iff.1 (by simpa using hp') x hxp)
  · intro hnone cs hcs
    obtain ⟨p, hp, rfl⟩ := List.mem_map.1 hcs
    have htrim : Text.trim p = [] := Text.trim_eq_nil_iff.2 fun x hx => by
      obtain ⟨hmem, hcomma⟩ := Text.exists_mem_pieces_iff.1 ⟨p, hp, hx⟩
      by_contra hblank
      exact hnone ⟨x, hmem, hcomma, hblank⟩
    simp [htrim]

/-- **A node has no flaw just when it can be managed so.** -/
theorem flaw?_eq_none_iff : s.flaw? = none ↔ s.Usable := by
  simp only [flaw?, ite_some_eq_none_iff, isAllBlank_iff, directoryList_isEmpty_iff, not_not]
  constructor
  · rintro ⟨hhost, hport, hlinkHost, hlinkPort, hdirectory, hlogin, -⟩
    exact ⟨hhost, Nat.pos_of_ne_zero hport, hlinkHost, Nat.pos_of_ne_zero hlinkPort, hdirectory,
      by rw [hlogin]⟩
  · rintro ⟨hhost, hport, hlinkHost, hlinkPort, hdirectory, hlogin⟩
    exact ⟨hhost, Nat.pos_iff_ne_zero.1 hport, hlinkHost, Nat.pos_iff_ne_zero.1 hlinkPort,
      hdirectory, Bool.eq_iff_iff.2 hlogin, trivial⟩

/-- The managed node is what the section says. -/
structure Configures (timeout : Nat) (s : NodeSection) (m : Managed) : Prop where
  id : m.id = s.id
  host : m.host = s.host
  port : m.port = s.port
  directories : Lists s.directories m.directories
  endpoint : m.link.endpoint = s.linkHost ++ ":" ++ toString s.linkPort
  login : m.link.credentials.isSome ↔ s.role.isSome
  credentials : ∀ role password, m.link.credentials = some (role, password) ↔
    s.role = some role ∧ s.password = some password
  encrypted : m.link.encrypted = s.encrypted
  timeout : m.link.timeout = timeout

theorem credentials_link_iff {timeout : Nat} {role password : String} :
    (s.link timeout).credentials = some (role, password) ↔
      s.role = some role ∧ s.password = some password := by
  simp only [link, Management.LinkSettings.credentials]
  cases s.role <;> cases s.password <;> simp

/-- **A node that can be managed is managed as its section says.** -/
theorem Usable.configures (h : s.Usable) (timeout : Nat) :
    Configures timeout s (s.managed timeout) where
  id := rfl
  host := rfl
  port := rfl
  directories := lists_iff.2 rfl
  endpoint := rfl
  login := by
    constructor
    · intro hsome
      obtain ⟨⟨role, password⟩, hcredentials⟩ := Option.isSome_iff_exists.1 hsome
      rw [(credentials_link_iff.1 hcredentials).1]
      rfl
    · intro hsome
      obtain ⟨role, hrole⟩ := Option.isSome_iff_exists.1 hsome
      obtain ⟨password, hpassword⟩ := Option.isSome_iff_exists.1 (h.login.1 hsome)
      exact Option.isSome_iff_exists.2 ⟨_, credentials_link_iff.2 ⟨hrole, hpassword⟩⟩
  credentials role password := credentials_link_iff
  encrypted := rfl
  timeout := rfl

end NodeSection

/-! ## All nodes -/

/-- The configuration can be used: there is a node, the times are positive, each
node can be managed, and no two have one id. -/
structure Usable (c : Configuration) : Prop where
  nodes : c.nodes ≠ []
  period : 0 < c.probes.period
  requestTimeout : 0 < c.service.requestTimeout
  each : ∀ s ∈ c.nodes, s.Usable
  apart : (c.nodes.map (·.id)).Nodup

variable {c : Configuration} {f : Fault}

/-- Nodes have no flaw just when each can be managed and no id is repeated. -/
theorem firstFlaw?_eq_none_iff {seen : List Nat} {sections : List NodeSection} :
    firstFlaw? seen sections = none ↔ (∀ s ∈ sections, s.Usable) ∧
      firstRepeated? seen (sections.map (·.id)) = none := by
  induction sections generalizing seen with
  | nil => simp [firstFlaw?, firstRepeated?]
  | cons s sections ih =>
    rw [firstFlaw?, List.forall_mem_cons, ← NodeSection.flaw?_eq_none_iff, List.map_cons,
      firstRepeated?]
    rcases s.flaw? with - | reason
    · by_cases hseen : s.id ∈ seen
      · simp [hseen]
      · simp [hseen, ih]
    · simp

/-- A flaw is told as one of the configuration. -/
theorem configuration_of_firstFlaw? {seen : List Nat} {sections : List NodeSection}
    (h : firstFlaw? seen sections = some f) : ∃ reason, f = .configuration reason := by
  induction sections generalizing seen with
  | nil => cases h
  | cons s sections ih =>
    rw [firstFlaw?] at h
    split at h
    · exact ⟨_, (Option.some.inj h).symm⟩
    · split at h
      · exact ⟨_, (Option.some.inj h).symm⟩
      · exact ih h

theorem configuration_of_flaw? (h : c.flaw? = some f) : ∃ reason, f = .configuration reason := by
  unfold flaw? at h
  split at h
  · exact ⟨_, (Option.some.inj h).symm⟩
  · split at h
    · exact ⟨_, (Option.some.inj h).symm⟩
    · split at h
      · exact ⟨_, (Option.some.inj h).symm⟩
      · exact configuration_of_firstFlaw? h

/-- **A configuration has no flaw just when it can be used.** -/
theorem flaw?_eq_none_iff : c.flaw? = none ↔ c.Usable := by
  simp only [flaw?, ite_some_eq_none_iff, firstFlaw?_eq_none_iff, firstRepeated?_eq_none_iff]
  constructor
  · rintro ⟨hnodes, hperiod, htimeout, heach, hapart, -⟩
    exact ⟨by simpa using hnodes, Nat.pos_of_ne_zero hperiod, Nat.pos_of_ne_zero htimeout, heach,
      hapart⟩
  · rintro ⟨hnodes, hperiod, htimeout, heach, hapart⟩
    exact ⟨by simpa using hnodes, Nat.pos_iff_ne_zero.1 hperiod, Nat.pos_iff_ne_zero.1 htimeout,
      heach, hapart, by simp⟩

theorem validate_eq_ok_iff : c.validate = .ok c ↔ c.Usable := by
  rw [← flaw?_eq_none_iff, validate]
  rcases c.flaw? with - | f
  · simp
  · simp

/-- What cannot be used is refused. -/
theorem validate_of_not_usable (h : ¬ c.Usable) :
    ∃ reason, c.validate = .error (.configuration reason) := by
  obtain ⟨f, hf⟩ := Option.ne_none_iff_exists'.1 (mt flaw?_eq_none_iff.1 h)
  obtain ⟨reason, rfl⟩ := configuration_of_flaw? hf
  exact ⟨reason, by rw [validate, hf]⟩

/-! ## The roster -/

/-- **What can be used makes a roster** of the nodes in their order. -/
theorem Usable.exists_roster (h : c.Usable) : ∃ r, c.roster = .ok r ∧
    r.toList = c.nodes.map (·.managed c.service.requestTimeout) := by
  have hids : (c.nodes.map (·.managed c.service.requestTimeout)).map (·.id) =
      c.nodes.map (·.id) := by
    rw [List.map_map]
    rfl
  obtain ⟨r, hr⟩ := Roster.exists_ofList_iff.2
    ⟨fun hnil => h.nodes (List.map_eq_nil_iff.1 hnil), hids ▸ h.apart⟩
  exact ⟨r, hr, Roster.toList_of_ofList hr⟩

/-- **A configuration is refused just when it cannot be used, and makes a roster
otherwise.** A single node takes the place of the list, whatever the list holds.
The roster holds a node for each section, in their order and as the section
says. By an id just the node is found whose section has it, and any other id is
refused; it is looked up in a table of the nodes by id, which holds what a search of
the list would find. By a host the first node is found whose host is the same but for
the case of ASCII letters, and if no id is asked for the first of all. -/
theorem validation_is_exact (c : Configuration) :
    (∀ s, c.single = some s → c.nodes = [s]) ∧ (c.single = none → c.nodes = c.several) ∧
    (c.validate = .ok c ↔ c.Usable) ∧
    (¬ c.Usable → ∃ reason, c.validate = .error (.configuration reason)) ∧
    (c.Usable → ∃ r, c.roster = .ok r ∧
      List.Forall₂ (NodeSection.Configures c.service.requestTimeout) c.nodes r.toList ∧
      (∀ k s m, c.nodes[k]? = some s → r.toList[k]? = some m →
        r.find s.id = .ok m ∧ r.index s.id = .ok k) ∧
      (∀ id, (∀ s ∈ c.nodes, s.id ≠ id) →
        r.find id = .error (.instanceNotFound id) ∧ r.index id = .error (.instanceNotFound id)) ∧
      (∀ id, r.find id = (Roster.tableOf r.toList id).elim (.error (.instanceNotFound id)) .ok ∧
        Roster.tableOf r.toList id = r.toList.find? (·.id = id)) ∧
      (∀ host m, r.onHost? host = some m ↔ Roster.SameHost m.host host ∧
        ∃ before after, r.toList = before ++ m :: after ∧
          ∀ m' ∈ before, ¬ Roster.SameHost m'.host host) ∧
      ∃ first, r.toList.head? = some first ∧ r.findOrFirst none = .ok first) := by
  refine ⟨fun s hs => by rw [nodes, hs], fun hnone => by rw [nodes, hnone], validate_eq_ok_iff,
    validate_of_not_usable, fun h => ?_⟩
  obtain ⟨r, hr, hlist⟩ := h.exists_roster
  refine ⟨r, hr, ?_, fun k s m hs hm => ?_, fun id hid => ?_, fun id => ?_,
    fun host m => Roster.onHost?_eq_some_iff, r.first, rfl, rfl⟩
  · rw [hlist]
    exact List.forall₂_map_right_iff.2
      (List.forall₂_same.2 fun s hs => (h.each s hs).configures _)
  · rw [hlist, List.getElem?_map, hs] at hm
    obtain rfl := Option.some.inj hm
    have hk : (c.nodes.map (·.managed c.service.requestTimeout))[k]? =
        some (s.managed c.service.requestTimeout) := by
      rw [List.getElem?_map, hs]
      rfl
    exact ⟨Roster.find_of_mem hr (List.mem_of_getElem? hk), Roster.index_of_getElem? hr hk⟩
  · have hno : ∀ m ∈ c.nodes.map (·.managed c.service.requestTimeout), m.id ≠ id := by
      intro m hm
      obtain ⟨s, hs, rfl⟩ := List.mem_map.1 hm
      exact hid s hs
    exact ⟨Roster.find_of_unknown hr hno, Roster.index_of_unknown hr hno⟩
  · refine ⟨Roster.find_eq_tableOf r id, Roster.tableOf_eq_find? ?_ id⟩
    rw [hlist]
    exact Roster.nodup_of_ofList hr

/-! ## Two nodes on one machine -/

/-- A node with directories among blanks, and a login. -/
def elder : NodeSection where
  id := 2
  host := "Node-A"
  port := 9042
  directories := " /var/a , ,\u3000,/var/b"
  linkHost := "127.0.0.1"
  linkPort := 8778
  role := some "sidecar"
  password := some ""
  encrypted := true

/-- A node on the same host, without a login. -/
def younger : NodeSection where
  id := 0
  host := "node-a"
  port := 9043
  directories := "/var/c"
  linkHost := "127.0.0.1"
  linkPort := 8779
  role := none
  password := none
  encrypted := false

/-- Two nodes in a list. -/
def twoNodes : Configuration :=
  ⟨.standard, .standard, none, [elder, younger]⟩

/-- A single node in front of a list in which an id is repeated. -/
def oneBeforeList : Configuration :=
  ⟨.standard, .standard, some younger, [elder, elder]⟩

/-- Both are found by their ids, the first of them on their host, and the list
behind a single node does not matter. -/
theorem two_nodes_configured : oneBeforeList.validate = .ok oneBeforeList ∧
    twoNodes.validate = .ok twoNodes ∧ ∃ r, twoNodes.roster = .ok r ∧
      r.toList.map (·.directories) = [["/var/a", "/var/b"], ["/var/c"]] ∧
      r.find 0 = .ok (younger.managed 5000) ∧ r.index 2 = .ok 0 ∧
      r.find 1 = .error (.instanceNotFound 1) ∧
      r.onHost? "NODE-a" = some (elder.managed 5000) ∧
      r.findOrFirst none = .ok (elder.managed 5000) := by
  have hhidden : oneBeforeList.Usable := flaw?_eq_none_iff.1 (by decide +kernel)
  have husable : twoNodes.Usable := flaw?_eq_none_iff.1 (by decide +kernel)
  obtain ⟨-, -, hvalid, -, hroster⟩ := validation_is_exact twoNodes
  obtain ⟨r, hr, -, hids, hno, -, hhost, first, hfirst, hnone⟩ := hroster husable
  have hmade : twoNodes.roster = .ok ⟨elder.managed 5000, [younger.managed 5000]⟩ := by
    decide +kernel
  obtain rfl := Except.ok.inj (hr.symm.trans hmade)
  obtain rfl := Option.some.inj hfirst
  have hsame : Roster.SameHost "Node-A" "NODE-a" := Roster.sameHost_iff.1 (by decide +kernel)
  refine ⟨(validation_is_exact oneBeforeList).2.2.1.2 hhidden, hvalid.2 husable, _, hr, ?_,
    (hids 1 younger _ rfl rfl).1, (hids 0 elder _ rfl rfl).2, (hno 1 (by decide)).1,
    (hhost _ _).2 ⟨hsame, [], _, rfl, by simp⟩, hnone⟩
  decide +kernel

end Configuration

end NodeSidecar
