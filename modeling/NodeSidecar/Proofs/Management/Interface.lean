import Mathlib.Data.List.Nodup
import NodeSidecar.Management.Proxy
/-!
# Management — declared members and what they are used for

When a declaration is sound is said without the order in which its flaws are looked
for (`Declaration.Sound`), and which request a use of a proxy stands for without the
checks that are made (`Use.Asks`). A declaration is resolved just when it is sound;
a use is turned into the request that it stands for, or refused.
-/

namespace NodeSidecar.Management

/-! ## Declarations -/

/-- The member has both its names, and each parameter a type. -/
structure Member.Sound (m : Member) : Prop where
  method : m.method ≠ ""
  remote : m.remote ≠ ""
  typed : ∀ signature, m.access = .operation signature → "" ∉ signature

/-- Every member is sound, and no method is declared twice. -/
structure Declaration.Sound (d : Declaration) : Prop where
  each : ∀ m ∈ d.members, m.Sound
  once : (d.members.map (·.method)).Nodup

namespace Declaration

variable {d : Declaration} {i : Interface} {m : Member} {name method : String}
variable {earlier members : List Member}

/-- A member has no flaw just when it is sound and its method is a new one. -/
theorem flaw?_eq_none_iff :
    flaw? name earlier m = none ↔ m.Sound ∧ ∀ e ∈ earlier, e.method ≠ m.method := by
  have hnew {fault : Fault} :
      (if earlier.any (·.method = m.method) then some fault else none) = none ↔
        ∀ e ∈ earlier, e.method ≠ m.method := by simp
  unfold flaw?
  split
  · rename_i hnames
    simp only [Bool.or_eq_true, String.isEmpty_iff] at hnames
    exact iff_of_false nofun fun h => hnames.elim h.1.method h.1.remote
  · rename_i hnames
    simp only [Bool.or_eq_true, String.isEmpty_iff, not_or] at hnames
    have hsound : m.Sound ↔ ∀ signature, m.access = .operation signature → "" ∉ signature :=
      ⟨Member.Sound.typed, fun h => ⟨hnames.1, hnames.2, h⟩⟩
    rw [hsound]
    split
    · rename_i signature haccess
      have htyped : signature.any String.isEmpty = true ↔ "" ∈ signature := by simp
      split
      · rename_i hblank
        exact iff_of_false nofun fun h => h.1 signature haccess (htyped.1 hblank)
      · rename_i hblank
        have hall : ∀ other, m.access = .operation other → "" ∉ other := by
          intro other hother
          obtain rfl := Access.operation.inj (haccess.symm.trans hother)
          exact mt htyped.2 hblank
        rw [hnew, and_iff_right hall]
    · rename_i haccess
      have hall : ∀ other, m.access = .operation other → "" ∉ other := by
        intro other hother
        cases haccess.symm.trans hother
      rw [hnew, and_iff_right hall]

/-- **Members have no flaw just when each is sound and no method is repeated.** -/
theorem firstFlaw?_eq_none_iff : firstFlaw? name earlier members = none ↔
    (∀ m ∈ members, m.Sound) ∧ (members.map (·.method)).Nodup ∧
      ∀ m ∈ members, ∀ e ∈ earlier, e.method ≠ m.method := by
  induction members generalizing earlier with
  | nil => simp [firstFlaw?]
  | cons m members ih =>
    have hcons : firstFlaw? name earlier (m :: members) = none ↔
        flaw? name earlier m = none ∧ firstFlaw? name (earlier ++ [m]) members = none := by
      rw [firstFlaw?]
      split
      · rename_i fault hflaw
        simp [hflaw]
      · rename_i hflaw
        simp [hflaw]
    rw [hcons, flaw?_eq_none_iff, ih]
    simp only [List.forall_mem_cons, List.map_cons, List.nodup_cons, List.mem_map, List.mem_append,
      List.mem_singleton, not_exists, not_and]
    constructor
    · rintro ⟨⟨hm, hnew⟩, heach, honce, hlater⟩
      refine ⟨⟨hm, heach⟩, ⟨fun m' hm' heq => ?_, honce⟩, hnew, fun m' hm' e he => ?_⟩
      · exact hlater m' hm' m (.inr rfl) heq.symm
      · exact hlater m' hm' e (.inl he)
    · rintro ⟨⟨hm, heach⟩, ⟨hfirst, honce⟩, hnew, hlater⟩
      refine ⟨⟨hm, hnew⟩, heach, honce, fun m' hm' e he => ?_⟩
      rcases he with he | rfl
      · exact hlater m' hm' e he
      · exact fun heq => hfirst m' hm' heq.symm

/-- **Just the sound declarations are resolved**, to an interface of their
members. -/
theorem resolve_eq_ok_iff : d.resolve = .ok i ↔ d.Sound ∧ i = ⟨d.name, d.members⟩ := by
  have hsound : d.Sound ↔ firstFlaw? d.name [] d.members = none := by
    rw [firstFlaw?_eq_none_iff]
    exact ⟨fun h => ⟨h.each, h.once, by simp⟩, fun h => ⟨h.1, h.2.1⟩⟩
  rw [hsound, resolve]
  rcases firstFlaw? d.name [] d.members with - | fault
  · simp [eq_comm]
  · simp

/-- **A method is found just when it was declared**, as it was declared. -/
theorem member_eq_ok_iff (h : d.resolve = .ok i) :
    i.member method = .ok m ↔ m ∈ d.members ∧ m.method = method := by
  obtain ⟨hsound, rfl⟩ := resolve_eq_ok_iff.1 h
  have hfind : Interface.member ⟨d.name, d.members⟩ method = .ok m ↔
      d.members.find? (·.method = method) = some m := by
    unfold Interface.member
    split
    · rename_i m' hm'
      simp only at hm'
      simp [hm']
    · rename_i hnone
      simp only at hnone
      simp [hnone]
  rw [hfind]
  constructor
  · intro hm
    exact ⟨List.mem_of_find?_eq_some hm, by simpa using List.find?_some hm⟩
  · rintro ⟨hm, rfl⟩
    obtain ⟨m', hm'⟩ : ∃ m', d.members.find? (·.method = m.method) = some m' := by
      rw [← Option.isSome_iff_exists, List.find?_isSome]
      exact ⟨m, hm, by simp⟩
    have hsame : m' = m := List.inj_on_of_nodup_map hsound.once (List.mem_of_find?_eq_some hm') hm
      (by simpa using List.find?_some hm')
    rw [hm', hsame]

/-- No other method is found. -/
theorem member_of_unknown (h : d.resolve = .ok i) (hno : ∀ m ∈ d.members, m.method ≠ method) :
    ∃ detail, i.member method = .error (.internal detail) := by
  rcases hmember : i.member method with fault | m
  · unfold Interface.member at hmember
    split at hmember
    · cases hmember
    · cases hmember
      exact ⟨_, rfl⟩
  · obtain ⟨hm, hmethod⟩ := (member_eq_ok_iff h).1 hmember
    exact absurd hmethod (hno m hm)

end Declaration

/-! ## Uses -/

namespace Use

/-- **What a use asks for**: the attribute that is declared under its method, or the
operation, with the parameter types that are declared and its own arguments. -/
inductive Asks (members : List Member) (object : ObjectName) : Use → Request → Prop
  | get {m : Member} (hm : m ∈ members) (ha : m.access = .attributeRead) :
      Asks members object (.get m.method) (.read object m.remote)
  | call {m : Member} {signature : List String} {arguments : List Value} (hm : m ∈ members)
      (ha : m.access = .operation signature) (hn : arguments.length = signature.length) :
      Asks members object (.call m.method arguments) (.invoke object m.remote signature arguments)

/-- **What is refused.** -/
inductive Refused (members : List Member) : Use → Prop
  /-- The method is not declared. -/
  | unknown {u : Use} (h : ∀ m ∈ members, m.method ≠ u.method) : Refused members u
  /-- An operation cannot be read. -/
  | getOperation {m : Member} {signature : List String} (hm : m ∈ members)
      (ha : m.access = .operation signature) : Refused members (.get m.method)
  /-- An attribute cannot be invoked, even without arguments. -/
  | callAttribute {m : Member} (hm : m ∈ members) (ha : m.access = .attributeRead)
      (arguments : List Value) : Refused members (.call m.method arguments)
  /-- There are too many arguments, or too few. -/
  | arity {m : Member} {arguments : List Value} (hm : m ∈ members)
      (hn : arguments.length ≠ m.arity) : Refused members (.call m.method arguments)

variable {d : Declaration} {i : Interface} {object : ObjectName} {u : Use} {r : Request}

/-- Every use asks for something, or is refused. -/
theorem refused_or_asks (members : List Member) (object : ObjectName) (u : Use) :
    Refused members u ∨ ∃ r, Asks members object u r := by
  by_cases h : ∃ m ∈ members, m.method = u.method
  · obtain ⟨m, hm, hmethod⟩ := h
    cases u with
    | get method =>
      obtain rfl : m.method = method := hmethod
      rcases ha : m.access with - | signature
      · exact .inr ⟨_, .get hm ha⟩
      · exact .inl (.getOperation hm ha)
    | call method arguments =>
      obtain rfl : m.method = method := hmethod
      rcases ha : m.access with - | signature
      · exact .inl (.callAttribute hm ha arguments)
      · by_cases hn : arguments.length = signature.length
        · exact .inr ⟨_, .call hm ha hn⟩
        · exact .inl (.arity hm (by rwa [Member.arity, ha]))
  · exact .inl (.unknown (by simpa using h))

/-- **A use becomes the request that it asks for.** -/
theorem Asks.request (ha : Asks d.members object u r) (h : d.resolve = .ok i) :
    u.request ⟨object, i⟩ = .ok r := by
  cases ha with
  | @get m hm ha =>
    have hmember := (Declaration.member_eq_ok_iff h).2 ⟨hm, rfl⟩
    simp only [Use.request, Proxy.get, hmember, ha]
  | @call m signature arguments hm ha hn =>
    have hmember := (Declaration.member_eq_ok_iff h).2 ⟨hm, rfl⟩
    have hfits : ¬ arguments.length ≠ m.arity := by
      rw [Member.arity, ha]
      exact not_not.2 hn
    simp only [Use.request, Proxy.call, hmember, if_neg hfits, ha]

/-- **Any other use becomes no request.** -/
theorem Refused.request (hr : Refused d.members u) (h : d.resolve = .ok i) (object : ObjectName) :
    ∃ detail, u.request ⟨object, i⟩ = .error (.internal detail) := by
  cases hr with
  | unknown hno =>
    obtain ⟨detail, hmember⟩ := Declaration.member_of_unknown h hno
    refine ⟨detail, ?_⟩
    cases u with
    | get method => simp only [Use.request, Proxy.get, show i.member method = _ from hmember]
    | call method arguments =>
      simp only [Use.request, Proxy.call, show i.member method = _ from hmember]
  | getOperation hm ha =>
    have hmember := (Declaration.member_eq_ok_iff h).2 ⟨hm, rfl⟩
    simp only [Use.request, Proxy.get, hmember, ha]
    exact ⟨_, rfl⟩
  | callAttribute hm ha arguments =>
    have hmember := (Declaration.member_eq_ok_iff h).2 ⟨hm, rfl⟩
    simp only [Use.request, Proxy.call, hmember]
    split
    · exact ⟨_, rfl⟩
    · simp only [ha]
      exact ⟨_, rfl⟩
  | arity hm hn =>
    have hmember := (Declaration.member_eq_ok_iff h).2 ⟨hm, rfl⟩
    simp only [Use.request, Proxy.call, hmember, if_pos hn]
    exact ⟨_, rfl⟩

/-- What asks for something is not refused. -/
theorem Asks.not_refused (ha : Asks d.members object u r) (h : d.resolve = .ok i) :
    ¬ Refused d.members u := by
  intro hr
  obtain ⟨detail, hrequest⟩ := hr.request h object
  cases (ha.request h).symm.trans hrequest

end Use

end NodeSidecar.Management
