import Mathlib.Logic.Function.Basic
import NodeSidecar.Session.Connection
/-!
# Session — the table of those who wait

What the operations on a connection do to the table of those who wait, and to
what has come of their requests. An entry of the table is a stream and the
number of a request. `Booked` ties the table to the calls: its entries are
calls' entries, nothing has come of them yet, and something has come of every
other request that a call has made.
-/

namespace NodeSidecar.Session.Connection

variable {α : Type} {c c' : Connection α} {p q : Int × Nat} {n : Nat} {s : Int}
variable {o : Option Wire.Frame}

/-! ## One operation -/

theorem lookup_map_const {β γ : Type} (l : List (β × Nat)) (v : γ) :
    (l.map fun p => (p.2, v)).lookup n = if n ∈ l.map (·.2) then some v else none := by
  induction l with
  | nil => rfl
  | cons p l ih =>
    by_cases h : n = p.2
    · simp [h]
    · simp only [List.map_cons, List.mem_cons, h, false_or, ← ih]
      rw [List.lookup_cons, beq_false_of_ne h]

@[simp] theorem mem_pending_settle :
    p ∈ (c.settle s o).pending ↔ p ∈ c.pending ∧ p.1 ≠ s := by
  simp [settle]

@[simp] theorem mem_pending_enrol :
    p ∈ c.enrol.pending ↔
      (p ∈ c.pending ∧ p.1 ≠ streamAt c.counter) ∨ p = (streamAt c.counter, c.requests) := by
  simp [enrol, settle]

@[simp] theorem pending_clear : c.clear.pending = [] := rfl

/-- What has come of a request stays; it is the news if the request waited for
it. -/
theorem outcome?_settle : (c.settle s o).outcome? n =
    (c.outcome? n).or (if (s, n) ∈ c.pending then some o else none) := by
  have hiff : n ∈ (c.pending.filter (·.1 = s)).map (·.2) ↔ (s, n) ∈ c.pending := by
    simp
  simp only [outcome?, settle, List.lookup_append, lookup_map_const, hiff]

theorem outcome?_clear : c.clear.outcome? n =
    (c.outcome? n).or (if n ∈ c.pending.map (·.2) then some none else none) := by
  simp only [outcome?, clear, List.lookup_append, lookup_map_const]

theorem outcome?_enrol : c.enrol.outcome? n =
    (c.outcome? n).or (if (streamAt c.counter, n) ∈ c.pending then some none else none) :=
  outcome?_settle

/-- Two connections with the same table, and of whose requests the same has
come. -/
structure SameBooks (c c' : Connection α) : Prop where
  requests : c'.requests = c.requests
  pending : c'.pending = c.pending
  outcomes : c'.outcomes = c.outcomes

theorem SameBooks.outcome? (h : SameBooks c c') : c'.outcome? n = c.outcome? n := by
  rw [Connection.outcome?, Connection.outcome?, h.outcomes]

/-! ## Entries of calls -/

/-- The entry that a call which waits so made in the table. -/
def Wait.entry? : Wait → Option (Int × Nat)
  | .checking n s | .writing n s | .awaiting n s => some (s, n)
  | _ => none

/-- **The table and the calls agree**; `entry` says which entry each call
made. -/
structure Booked (c : Connection α) (entry : Nat → Option (Int × Nat)) : Prop where
  /-- Requests have numbers that were given out. -/
  lt : ∀ i p, entry i = some p → p.2 < c.requests
  /-- A number stands for one call. -/
  unique : ∀ i j p q, entry i = some p → entry j = some q → p.2 = q.2 → i = j
  /-- The table holds entries of calls. -/
  owner : ∀ p ∈ c.pending, ∃ i, entry i = some p
  /-- A stream has at most one entry. -/
  single : ∀ p ∈ c.pending, ∀ q ∈ c.pending, p.1 = q.1 → p = q
  /-- Nothing has come of the requests in the table. -/
  waits : ∀ p ∈ c.pending, c.outcome? p.2 = none
  /-- Something has come of a request that is not in the table. -/
  settled : ∀ i p, entry i = some p → p ∉ c.pending → (c.outcome? p.2).isSome
  /-- Nothing has come of a request that was not made. -/
  future : ∀ n, c.requests ≤ n → c.outcome? n = none

namespace Booked

variable {entry : Nat → Option (Int × Nat)} {i : Nat}

theorem opened (peer : Net.Endpoint) :
    Booked (Connection.opened peer : Connection α) fun _ => none where
  lt := nofun
  unique := nofun
  owner := nofun
  single := nofun
  waits := nofun
  settled := nofun
  future := fun _ _ => rfl

/-- An entry in the table and the entry of a call with the same number are the
same. -/
theorem eq_of_number (h : Booked c entry) (hp : p ∈ c.pending) (hi : entry i = some q)
    (hn : p.2 = q.2) : p = q := by
  obtain ⟨j, hj⟩ := h.owner p hp
  obtain rfl : j = i := h.unique j i p q hj hi hn
  exact Option.some.inj (hj.symm.trans hi)

theorem same (h : Booked c entry) (hc : SameBooks c c') : Booked c' entry where
  lt := hc.requests ▸ h.lt
  unique := h.unique
  owner := hc.pending ▸ h.owner
  single := hc.pending ▸ h.single
  waits p hp := hc.outcome?.trans (h.waits p (hc.pending ▸ hp))
  settled i p hi hp := hc.outcome? ▸ h.settled i p hi (hc.pending ▸ hp)
  future n hn := hc.outcome?.trans (h.future n (hc.requests ▸ hn))

/-- The news on a stream comes to all who wait there. -/
theorem settle (h : Booked c entry) (s : Int) (o : Option Wire.Frame) :
    Booked (c.settle s o) entry where
  lt := h.lt
  unique := h.unique
  owner p hp := h.owner p (mem_pending_settle.1 hp).1
  single p hp q hq := h.single p (mem_pending_settle.1 hp).1 q (mem_pending_settle.1 hq).1
  waits p hp := by
    rw [mem_pending_settle] at hp
    -- Its call has one entry, and that is not on this stream.
    have hne : (s, p.2) ∉ c.pending := fun hs => by
      obtain ⟨i, hi⟩ := h.owner p hp.1
      exact hp.2 (congrArg Prod.fst (h.eq_of_number hs hi rfl)).symm
    rw [outcome?_settle, h.waits p hp.1, if_neg hne]
    rfl
  settled i p hi hp := by
    rw [outcome?_settle]
    by_cases hmem : p ∈ c.pending
    · obtain rfl : p.1 = s := by simpa [hmem] using hp
      simp [hmem]
    · simp [h.settled i p hi hmem]
  future n hn := by
    have hne : (s, n) ∉ c.pending := fun hs => by
      obtain ⟨i, hi⟩ := h.owner _ hs
      exact absurd (h.lt i _ hi) (Nat.not_lt.2 hn)
    rw [outcome?_settle, h.future n hn, if_neg hne]
    rfl

/-- All who wait are told that nothing will come. -/
theorem clear (h : Booked c entry) : Booked c.clear entry where
  lt := h.lt
  unique := h.unique
  owner := nofun
  single := nofun
  waits := nofun
  settled i p hi _ := by
    rw [outcome?_clear]
    by_cases hmem : p ∈ c.pending
    · have hnumber : p.2 ∈ c.pending.map (·.2) := List.mem_map_of_mem hmem
      simp [hnumber]
    · simp [h.settled i p hi hmem]
  future n hn := by
    have hne : n ∉ c.pending.map (·.2) := fun hmem => by
      obtain ⟨p, hp, rfl⟩ := List.mem_map.1 hmem
      obtain ⟨i, hi⟩ := h.owner p hp
      exact absurd (h.lt i p hi) (Nat.not_lt.2 hn)
    rw [outcome?_clear, h.future n hn, if_neg hne]
    rfl

/-- A call without a request makes one. -/
theorem enrol (h : Booked c entry) (hi : entry i = none) :
    Booked c.enrol
      (Function.update entry i (some (streamAt c.counter, c.requests))) := by
  have hs := h.settle (streamAt c.counter) none
  -- The entries of calls are those from before, and the new one.
  have hold (j : Nat) (p : Int × Nat) (hj : entry j = some p) :
      Function.update entry i (some (streamAt c.counter, c.requests)) j = some p := by
    rw [Function.update_of_ne ?_, hj]
    rintro rfl
    cases hi.symm.trans hj
  have hcases (j : Nat) (p : Int × Nat)
      (hj : Function.update entry i (some (streamAt c.counter, c.requests)) j = some p) :
      (j = i ∧ p = (streamAt c.counter, c.requests)) ∨ entry j = some p := by
    by_cases hji : j = i
    · subst hji
      rw [Function.update_self] at hj
      exact .inl ⟨rfl, (Option.some.inj hj).symm⟩
    · rw [Function.update_of_ne hji] at hj
      exact .inr hj
  constructor
  case lt =>
    intro j p hj
    rcases hcases j p hj with ⟨-, rfl⟩ | hj
    · exact Nat.lt_succ_self _
    · exact Nat.lt_succ_of_lt (h.lt j p hj)
  case unique =>
    intro j k p q hj hk hn
    rcases hcases j p hj with ⟨hji, rfl⟩ | hj' <;> rcases hcases k q hk with ⟨hki, rfl⟩ | hk'
    · exact hji.trans hki.symm
    · exact absurd (h.lt k q hk') (by omega)
    · exact absurd (h.lt j p hj') (by omega)
    · exact h.unique j k p q hj' hk' hn
  case owner =>
    intro p hp
    rcases mem_pending_enrol.1 hp with ⟨hp, -⟩ | rfl
    · obtain ⟨j, hj⟩ := h.owner p hp
      exact ⟨j, hold j p hj⟩
    · exact ⟨i, Function.update_self _ _ _⟩
  case single =>
    intro p hp q hq hpq
    rcases mem_pending_enrol.1 hp with ⟨hp, hps⟩ | rfl <;>
      rcases mem_pending_enrol.1 hq with ⟨hq, hqs⟩ | rfl
    · exact h.single p hp q hq hpq
    · exact absurd hpq hps
    · exact absurd hpq.symm hqs
    · rfl
  case waits =>
    intro p hp
    rcases mem_pending_enrol.1 hp with hp | rfl
    · exact hs.waits p (mem_pending_settle.2 hp)
    · exact hs.future _ (Nat.le_refl _)
  case settled =>
    intro j p hj hp
    rw [mem_pending_enrol, not_or] at hp
    rcases hcases j p hj with ⟨-, rfl⟩ | hj
    · exact absurd rfl hp.2
    · exact hs.settled j p hj fun hmem => hp.1 (mem_pending_settle.1 hmem)
  case future =>
    intro n hn
    exact hs.future n (Nat.le_of_succ_le hn)

/-- A call whose request is not in the table is over. -/
theorem release (h : Booked c entry) (hi : ∀ p, entry i = some p → p ∉ c.pending) :
    Booked c (Function.update entry i none) := by
  have hcases (j : Nat) (p : Int × Nat) (hj : Function.update entry i none j = some p) :
      entry j = some p := by
    by_cases hji : j = i
    · rw [hji, Function.update_self] at hj
      cases hj
    · rwa [Function.update_of_ne hji] at hj
  constructor
  case lt => exact fun j p hj => h.lt j p (hcases j p hj)
  case unique => exact fun j k p q hj hk => h.unique j k p q (hcases j p hj) (hcases k q hk)
  case owner =>
    intro p hp
    obtain ⟨j, hj⟩ := h.owner p hp
    refine ⟨j, ?_⟩
    rw [Function.update_of_ne ?_, hj]
    rintro rfl
    exact hi p hj hp
  case single => exact h.single
  case waits => exact h.waits
  case settled => exact fun j p hj => h.settled j p (hcases j p hj)
  case future => exact h.future

end Booked

end NodeSidecar.Session.Connection
