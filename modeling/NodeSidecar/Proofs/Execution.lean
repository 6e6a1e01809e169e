import Mathlib.Logic.Function.Basic
import NodeSidecar.Interleaving
import NodeSidecar.Proofs.Moves
/-!
# Interleaving — executions

An execution is a run together with how it came about: one transition for each
move, in the order in which the moves were made. `Execution.applyAll`
and `execution_of_applyAll` say that executions are what `Run.applyAll` makes.

A move changes how far calls have come in one place only. `Run.waiting_submit`
and `Transition.Ran.waiting` say which, and every invariant of a run is proved
through them: a call that was submitted waits for nothing, and after a stretch
of one call all others wait for what they waited for.
-/

namespace NodeSidecar

variable {σ κ ω α ρ : Type}

/-- What a call waits for after a stretch; none if it is over. -/
def Turn.next : Turn ω ρ → Option ω
  | .wait w => some w
  | .done _ => none

/-- What a call results in with a stretch; none if it waits. -/
def Turn.result : Turn ω ρ → Option ρ
  | .wait _ => none
  | .done r => some r

/-- What a call that has come this far waits for; none if it has not begun. -/
def Progress.wait? : Progress κ ω → Option ω
  | .fresh _ => none
  | .waiting w => some w

/-- The next stretch of a call that has come this far. -/
def System.proceed (sys : System σ κ ω α ρ) :
    Progress κ ω → Option α → σ → Option (Stretch σ κ ω ρ)
  | .fresh c, none, s => some (sys.start c s)
  | .waiting w, some a, s => sys.resume w a s
  | _, _, _ => none

theorem System.proceed_eq_some_iff {sys : System σ κ ω α ρ} {p : Progress κ ω}
    {a : Option α} {s : σ} {st : Stretch σ κ ω ρ} :
    sys.proceed p a s = some st ↔
      (∃ c, p = .fresh c ∧ a = none ∧ sys.start c s = st) ∨
        ∃ w b, p = .waiting w ∧ a = some b ∧ sys.resume w b s = some st := by
  cases p <;> cases a <;> simp [proceed]

namespace Run

variable {sys : System σ κ ω α ρ} {run next : Run σ κ ω} {id i : Nat} {p : Progress κ ω}

/-- What the call with this id waits for, if it waits. -/
def waiting (run : Run σ κ ω) (id : Nat) : Option ω :=
  match run.progress id with
  | some (.waiting w) => some w
  | _ => none

/-- Every call in progress has an id that was given out. -/
def Bounded (run : Run σ κ ω) : Prop :=
  ∀ c ∈ run.calls, c.1 < run.nextId

theorem waiting_eq_some_iff {w : ω} :
    run.waiting i = some w ↔ run.progress i = some (.waiting w) := by
  unfold waiting
  split
  · rename_i v hv
    simp [hv]
  · rename_i hv
    simp only [reduceCtorEq, false_iff]
    exact hv w

/-- A call that waits is in progress. -/
theorem mem_calls_of_waiting {w : ω} (h : run.waiting i = some w) :
    (i, .waiting w) ∈ run.calls := by
  rw [waiting_eq_some_iff] at h
  simp only [progress, Option.map_eq_some_iff] at h
  obtain ⟨c, hc, hw⟩ := h
  have hi : c.1 = i := by simpa using List.find?_some hc
  have hmem := List.mem_of_find?_eq_some hc
  rwa [show c = (i, .waiting w) from Prod.ext hi hw] at hmem

/-- A call that waits can go on if what it waits for can be answered so. -/
theorem apply_resume_ne_none {w : ω} {a : α} (hw : run.waiting i = some w)
    (hr : (sys.resume w a run.state).isSome = true) : run.apply sys (.resume i a) ≠ none := by
  obtain ⟨st, hst⟩ := Option.isSome_iff_exists.1 hr
  have hstretch : run.stretch? sys i (some a) = some st := by
    simp only [stretch?, waiting_eq_some_iff.1 hw, hst]
  rw [apply, hstretch]
  nofun

theorem waiting_of_progress (h : run.progress i = some p) : run.waiting i = p.wait? := by
  cases p <;> simp [waiting, h, Progress.wait?]

theorem waiting_eq_none_of_progress (h : run.progress i = none) : run.waiting i = none := by
  simp [waiting, h]

/-- A call in progress has an id that was given out. -/
theorem Bounded.lt_of_progress (hb : run.Bounded) (h : run.progress i = some p) :
    i < run.nextId := by
  simp only [progress, Option.map_eq_some_iff] at h
  obtain ⟨c, hc, -⟩ := h
  have hi : c.1 = i := by simpa using List.find?_some hc
  exact hi ▸ hb c (List.mem_of_find?_eq_some hc)

/-- No call has an id that was not given out. -/
theorem Bounded.progress_eq_none (hb : run.Bounded) (hi : run.nextId ≤ i) :
    run.progress i = none := by
  rcases h : run.progress i with - | p
  · rfl
  · exact absurd (hb.lt_of_progress h) (by omega)

@[simp] theorem bounded_idle (s : σ) : (idle s : Run σ κ ω).Bounded := by
  simp [Bounded, idle]

@[simp] theorem waiting_idle (s : σ) (i : Nat) : (idle s : Run σ κ ω).waiting i = none := rfl

/-! ## Submitting -/

theorem Bounded.submit (hb : run.Bounded) (c : κ) : (run.submit c).Bounded := by
  intro x hx
  simp only [Run.submit, List.mem_append, List.mem_singleton] at hx ⊢
  rcases hx with hx | rfl
  · exact Nat.lt_succ_of_lt (hb x hx)
  · exact Nat.lt_succ_self _

/-- The call that is submitted gets the next id, and the others keep theirs. -/
theorem progress_submit (hb : run.Bounded) (c : κ) (i : Nat) :
    (run.submit c).progress i = if i = run.nextId then some (.fresh c) else run.progress i := by
  simp only [progress, Run.submit, List.find?_append]
  by_cases hi : i = run.nextId
  · subst hi
    have hnone : run.calls.find? (·.1 = run.nextId) = none := by
      simpa [progress] using hb.progress_eq_none (Nat.le_refl run.nextId)
    simp [hnone]
  · have hne : ¬ run.nextId = i := fun h => hi h.symm
    simp [hi, hne]

/-- **A call that was submitted waits for nothing**, and no other call goes
on. -/
theorem waiting_submit (hb : run.Bounded) (c : κ) : (run.submit c).waiting = run.waiting := by
  funext i
  simp only [waiting, progress_submit hb]
  by_cases hi : i = run.nextId
  · simp [hi, hb.progress_eq_none (Nat.le_refl run.nextId)]
  · simp [hi]

@[simp] theorem state_submitAll (cs : List κ) : (run.submitAll cs).state = run.state := by
  induction cs generalizing run with
  | nil => rfl
  | cons c cs ih =>
    rw [submitAll, List.foldl_cons]
    exact ih

theorem nextId_le_submitAll (cs : List κ) : run.nextId ≤ (run.submitAll cs).nextId := by
  induction cs generalizing run with
  | nil => exact Nat.le_refl _
  | cons c cs ih =>
    have hsub : (run.submit c).nextId ≤ ((run.submit c).submitAll cs).nextId := ih
    exact Nat.le_of_succ_le hsub

theorem Bounded.submitAll (hb : run.Bounded) (cs : List κ) : (run.submitAll cs).Bounded := by
  induction cs generalizing run with
  | nil => exact hb
  | cons c cs ih => exact ih (hb.submit c)

theorem waiting_submitAll (hb : run.Bounded) (cs : List κ) :
    (run.submitAll cs).waiting = run.waiting := by
  induction cs generalizing run with
  | nil => rfl
  | cons c cs ih => exact (ih (hb.submit c)).trans (waiting_submit hb c)

theorem progress_submitAll (hb : run.Bounded) (cs : List κ) (hi : i < run.nextId) :
    (run.submitAll cs).progress i = run.progress i := by
  induction cs generalizing run with
  | nil => rfl
  | cons c cs ih =>
    -- The call that is submitted takes the next id, which is not this one.
    have hne : i ≠ run.nextId := by omega
    have hi' : i < (run.submit c).nextId := Nat.lt_succ_of_lt hi
    calc (run.submitAll (c :: cs)).progress i
        = (run.submit c).progress i := ih (hb.submit c) hi'
      _ = run.progress i := by rw [progress_submit hb, if_neg hne]

/-! ## Settling -/

/-- The calls after a stretch of the call with this id, those that it
submitted left out. -/
def settled (run : Run σ κ ω) (id : Nat) (st : Stretch σ κ ω ρ) : Run σ κ ω :=
  ⟨st.state,
    match st.turn with
    | .done _ => run.calls.filter (·.1 ≠ id)
    | .wait w => run.calls.map fun c => if c.1 = id then (id, .waiting w) else c,
    run.nextId⟩

theorem settle_eq (st : Stretch σ κ ω ρ) :
    run.settle id st = (run.settled id st).submitAll st.spawned := rfl

theorem Bounded.settled (hb : run.Bounded) (st : Stretch σ κ ω ρ) :
    (run.settled id st).Bounded := by
  intro x hx
  simp only [Run.settled] at hx ⊢
  split at hx
  · exact hb x (List.mem_filter.1 hx).1
  · obtain ⟨c, hc, rfl⟩ := List.mem_map.1 hx
    have hlt := hb c hc
    by_cases hid : c.1 = id
    · simpa [hid] using hid ▸ hlt
    · simpa [hid] using hlt

/-- The call that ran has come as far as its stretch says. -/
theorem progress_settled_self (h : run.progress id = some p) (st : Stretch σ κ ω ρ) :
    (run.settled id st).progress id = st.turn.next.map .waiting := by
  simp only [progress, Run.settled] at h ⊢
  split
  · rename_i r hr
    rw [List.find?_filter]
    simp [hr, Turn.next]
  · rename_i w hw
    obtain ⟨c, hc, -⟩ := Option.map_eq_some_iff.1 h
    have hid : c.1 = id := by simpa using List.find?_some hc
    -- Replacing an entry keeps its id, so the search stops at the same place.
    have hfun : (fun c : Nat × Progress κ ω => decide (c.1 = id)) ∘
        (fun c => if c.1 = id then (id, .waiting w) else c) = fun c => decide (c.1 = id) := by
      funext x
      by_cases hx : x.1 = id <;> simp [hx]
    rw [List.find?_map, hfun, hc]
    simp [hid, hw, Turn.next]

/-- The other calls are where they were. -/
theorem progress_settled_of_ne (hi : i ≠ id) (st : Stretch σ κ ω ρ) :
    (run.settled id st).progress i = run.progress i := by
  simp only [progress, Run.settled]
  split
  · rw [List.find?_filter]
    congr 1
    congr 1
    funext x
    by_cases hx : x.1 = i <;> simp [hx, hi]
  · rename_i w _
    have hfun : (fun c : Nat × Progress κ ω => decide (c.1 = i)) ∘
        (fun c => if c.1 = id then (id, .waiting w) else c) = fun c => decide (c.1 = i) := by
      funext x
      by_cases hx : x.1 = id <;> simp [hx]
    rw [List.find?_map, hfun, Option.map_map]
    refine Option.map_congr fun c hf => ?_
    have hc : c.1 = i := by simpa using List.find?_some hf
    simp [hc, hi]

theorem Bounded.settle (hb : run.Bounded) (st : Stretch σ κ ω ρ) :
    (run.settle id st).Bounded :=
  (hb.settled st).submitAll _

@[simp] theorem state_settle (st : Stretch σ κ ω ρ) : (run.settle id st).state = st.state := by
  rw [settle_eq, state_submitAll]
  rfl

theorem nextId_le_settle (st : Stretch σ κ ω ρ) : run.nextId ≤ (run.settle id st).nextId := by
  have hsub : (run.settled id st).nextId ≤ (run.settle id st).nextId := nextId_le_submitAll _
  exact hsub

end Run

/-! ## Transitions -/

/-- One move: the run it was made in, the move, and the run it led to. -/
structure Transition (σ κ ω α : Type) where
  /-- The run it was made in. -/
  before : Run σ κ ω
  /-- The move. -/
  move : Move κ α
  /-- The run it led to. -/
  after : Run σ κ ω

namespace Transition

variable {sys : System σ κ ω α ρ} {t : Transition σ κ ω α}
variable {id i : Nat} {p : Progress κ ω} {a : Option α} {st : Stretch σ κ ω ρ}

/-- The id of the call that goes on; none if a call is submitted. -/
def caller (t : Transition σ κ ω α) : Option Nat :=
  match t.move with
  | .submit _ => none
  | .start id => some id
  | .resume id _ => some id

/-- How far the call that goes on had come, and what it is answered; none if a
call is submitted. -/
def cause (t : Transition σ κ ω α) : Option (Progress κ ω × Option α) :=
  match t.move with
  | .submit _ => none
  | .start id => (t.before.progress id).map (·, none)
  | .resume id a => (t.before.progress id).map (·, some a)

/-- The stretch that the call that goes on runs. -/
def stretch? (sys : System σ κ ω α ρ) (t : Transition σ κ ω α) : Option (Stretch σ κ ω ρ) :=
  t.cause.bind fun c => sys.proceed c.1 c.2 t.before.state

/-- What the call that goes on waits for then. -/
def next (sys : System σ κ ω α ρ) (t : Transition σ κ ω α) : Option ω :=
  (t.stretch? sys).bind (·.turn.next)

/-- What the call that goes on results in, if it is over then. -/
def result (sys : System σ κ ω α ρ) (t : Transition σ κ ω α) : Option ρ :=
  (t.stretch? sys).bind (·.turn.result)

/-- The call `id`, which had come as far as `p`, ran the stretch `st` when it
was answered `a`. -/
structure Ran (sys : System σ κ ω α ρ) (t : Transition σ κ ω α) (id : Nat)
    (p : Progress κ ω) (a : Option α) (st : Stretch σ κ ω ρ) : Prop where
  caller : t.caller = some id
  cause : t.cause = some (p, a)
  progress : t.before.progress id = some p
  proceed : sys.proceed p a t.before.state = some st
  settle : t.after = t.before.settle id st

/-- A move that lets no call go on. -/
structure Quiet (t : Transition σ κ ω α) : Prop where
  caller : t.caller = none
  cause : t.cause = none
  state : t.after.state = t.before.state
  waiting : t.after.waiting = t.before.waiting

/-- **A move submits a call or lets one run a stretch.** -/
theorem submitted_or_ran {run next : Run σ κ ω} {m : Move κ α}
    (h : run.apply sys m = some next) :
    (∃ c, m = .submit c ∧ next = run.submit c) ∨
      ∃ id p a st, Ran sys ⟨run, m, next⟩ id p a st := by
  cases m with
  | submit c =>
    simp only [Run.apply, Option.some.injEq] at h
    exact .inl ⟨c, rfl, h.symm⟩
  | start id =>
    simp only [Run.apply, Run.stretch?, Option.map_eq_some_iff] at h
    obtain ⟨st, hst, rfl⟩ := h
    split at hst
    · rename_i c hc _
      exact .inr ⟨id, .fresh c, none, st, rfl, by simp [Transition.cause, hc], hc, hst, rfl⟩
    · rename_i hnone
      cases hnone
    · cases hst
  | resume id a =>
    simp only [Run.apply, Run.stretch?, Option.map_eq_some_iff] at h
    obtain ⟨st, hst, rfl⟩ := h
    split at hst
    · rename_i hnone
      cases hnone
    · rename_i w b hw hb
      cases hb
      exact .inr ⟨id, .waiting w, some a, st, rfl, by simp [Transition.cause, hw], hw, hst, rfl⟩
    · cases hst

namespace Ran

theorem state (h : Ran sys t id p a st) : t.after.state = st.state := by
  rw [h.settle, Run.state_settle]

theorem stretch?_eq (h : Ran sys t id p a st) : t.stretch? sys = some st := by
  rw [stretch?, h.cause]
  exact h.proceed

theorem next_eq (h : Ran sys t id p a st) : t.next sys = st.turn.next := by
  rw [Transition.next, h.stretch?_eq]
  rfl

theorem result_eq (h : Ran sys t id p a st) : t.result sys = st.turn.result := by
  rw [Transition.result, h.stretch?_eq]
  rfl

/-- The call that ran has come as far as its stretch says. -/
theorem progress_self (h : Ran sys t id p a st) (hb : t.before.Bounded) :
    t.after.progress id = (t.next sys).map .waiting := by
  have hlt : id < (t.before.settled id st).nextId := hb.lt_of_progress h.progress
  rw [h.next_eq, h.settle, Run.settle_eq, Run.progress_submitAll (hb.settled st) _ hlt,
    Run.progress_settled_self h.progress]

/-- A call that was in progress and did not run is where it was. -/
theorem progress_of_ne (h : Ran sys t id p a st) (hb : t.before.Bounded) (hi : i ≠ id)
    (hlt : i < t.before.nextId) : t.after.progress i = t.before.progress i := by
  rw [h.settle, Run.settle_eq, Run.progress_submitAll (hb.settled st) _ hlt,
    Run.progress_settled_of_ne hi]

/-- **After a stretch of one call all others wait for what they waited for.** -/
theorem waiting (h : Ran sys t id p a st) (hb : t.before.Bounded) :
    t.after.waiting = Function.update t.before.waiting id (t.next sys) := by
  rw [h.next_eq, h.settle, Run.settle_eq, Run.waiting_submitAll (hb.settled st)]
  funext i
  by_cases hi : i = id
  · subst hi
    rw [Function.update_self, Run.waiting, Run.progress_settled_self h.progress]
    rcases st.turn.next with - | w <;> rfl
  · rw [Function.update_of_ne hi, Run.waiting, Run.progress_settled_of_ne hi, ← Run.waiting]

end Ran

end Transition

/-- A move lets no call go on, or lets one run a stretch. -/
theorem Transition.quiet_or_ran {sys : System σ κ ω α ρ} {t : Transition σ κ ω α}
    (hb : t.before.Bounded) (h : t.before.apply sys t.move = some t.after) :
    t.Quiet ∨ ∃ id p a st, Ran sys t id p a st := by
  rcases submitted_or_ran h with ⟨c, hc, hnext⟩ | hran
  · exact .inl ⟨by rw [caller, hc], by rw [cause, hc], by rw [hnext]; rfl,
      by rw [hnext, Run.waiting_submit hb c]⟩
  · exact .inr hran

theorem Run.Bounded.apply {sys : System σ κ ω α ρ} {run next : Run σ κ ω} {m : Move κ α}
    (hb : run.Bounded) (h : run.apply sys m = some next) : next.Bounded := by
  rcases Transition.submitted_or_ran h with ⟨c, -, rfl⟩ | ⟨id, p, a, st, hr⟩
  · exact hb.submit c
  · rw [show next = run.settle id st from hr.settle]
    exact hb.settle st

theorem Run.nextId_le_apply {sys : System σ κ ω α ρ} {run next : Run σ κ ω} {m : Move κ α}
    (h : run.apply sys m = some next) : run.nextId ≤ next.nextId := by
  rcases Transition.submitted_or_ran h with ⟨c, -, rfl⟩ | ⟨id, p, a, st, hr⟩
  · exact Nat.le_succ _
  · rw [show next = run.settle id st from hr.settle]
    exact Run.nextId_le_settle st

/-- A call that was submitted can begin. -/
theorem Run.exists_start {sys : System σ κ ω α ρ} {run : Run σ κ ω} (hb : run.Bounded)
    {id : Nat} {c : κ} (hc : run.progress id = some (.fresh c)) :
    ∃ next, run.apply sys (.start id) = some next ∧
      next.state = (sys.start c run.state).state ∧
      next.progress id = (sys.start c run.state).turn.next.map .waiting := by
  have hlt : id < (run.settled id (sys.start c run.state)).nextId := hb.lt_of_progress hc
  refine ⟨run.settle id (sys.start c run.state),
    by simp only [apply, stretch?, hc, Option.map_some], state_settle _, ?_⟩
  rw [settle_eq, progress_submitAll (hb.settled _) _ hlt, progress_settled_self hc]

/-- A call that waits can go on with what it can be answered. -/
theorem Run.exists_resume {sys : System σ κ ω α ρ} {run : Run σ κ ω} (hb : run.Bounded)
    {id : Nat} {w : ω} {a : α} {st : Stretch σ κ ω ρ} (hw : run.waiting id = some w)
    (hst : sys.resume w a run.state = some st) :
    ∃ next, run.apply sys (.resume id a) = some next ∧ next.state = st.state ∧
      next.progress id = st.turn.next.map .waiting := by
  have hp := waiting_eq_some_iff.1 hw
  have hlt : id < (run.settled id st).nextId := hb.lt_of_progress hp
  refine ⟨run.settle id st, by simp only [apply, stretch?, hp, hst, Option.map_some],
    state_settle st, ?_⟩
  rw [settle_eq, progress_submitAll (hb.settled st) _ hlt, progress_settled_self hp]

/-- The call with this id has begun, and is perhaps over. -/
def Run.Begun (run : Run σ κ ω) (id : Nat) : Prop :=
  id < run.nextId ∧ ∀ c, run.progress id ≠ some (.fresh c)

/-- A call that has begun and waits for nothing is over. -/
theorem Run.Begun.progress_eq_none {run : Run σ κ ω} {id : Nat} (h : run.Begun id)
    (hw : run.waiting id = none) : run.progress id = none := by
  rcases hp : run.progress id with - | c | w
  · rfl
  · exact absurd hp (h.2 c)
  · rw [waiting_eq_some_iff.2 hp] at hw
    cases hw

/-- What has begun does not begin again. -/
theorem Run.Begun.apply {sys : System σ κ ω α ρ} {run next : Run σ κ ω} {m : Move κ α}
    {id : Nat} (h : run.Begun id) (hb : run.Bounded) (hm : run.apply sys m = some next) :
    next.Begun id := by
  refine ⟨Nat.lt_of_lt_of_le h.1 (Run.nextId_le_apply hm), fun c => ?_⟩
  rcases Transition.submitted_or_ran hm with ⟨k, -, rfl⟩ | ⟨j, p, a, st, hr⟩
  · have hne : id ≠ run.nextId := Nat.ne_of_lt h.1
    rw [progress_submit hb, if_neg hne]
    exact h.2 c
  · by_cases hid : id = j
    · subst hid
      rw [hr.progress_self hb]
      rcases Transition.next sys ⟨run, m, next⟩ with - | w <;> simp
    · rw [hr.progress_of_ne hb hid h.1]
      exact h.2 c

/-- The call that goes on in a move has begun then. -/
theorem Run.begun_of_caller {sys : System σ κ ω α ρ} {run next : Run σ κ ω} {m : Move κ α}
    {id : Nat} (hb : run.Bounded) (hm : run.apply sys m = some next)
    (hid : Transition.caller ⟨run, m, next⟩ = some id) : next.Begun id := by
  rcases Transition.submitted_or_ran hm with ⟨c, rfl, -⟩ | ⟨i, p, a, st, hr⟩
  · cases hid
  · obtain rfl : i = id := Option.some.inj (hr.caller.symm.trans hid)
    have hlt : i < run.nextId := hb.lt_of_progress hr.progress
    refine ⟨Nat.lt_of_lt_of_le hlt (Run.nextId_le_apply hm), fun c => ?_⟩
    rw [hr.progress_self hb]
    rcases Transition.next sys ⟨run, m, next⟩ with - | w <;> simp

/-- Calls are submitted one after the other. -/
theorem Run.applyAll_submit {sys : System σ κ ω α ρ} (run : Run σ κ ω) (cs : List κ) :
    run.applyAll sys (cs.map .submit) = some (run.submitAll cs) := by
  induction cs generalizing run with
  | nil => rfl
  | cons c cs ih => exact ih (run.submit c)

/-- Where a list with one more element at its end is cut: at that element, or
before. -/
theorem concat_eq_append_cons {β : Type} {l pre post : List β} {x y : β}
    (h : l ++ [x] = pre ++ y :: post) :
    (pre = l ∧ y = x ∧ post = []) ∨ ∃ post', post = post' ++ [x] ∧ l = pre ++ y :: post' := by
  rcases List.eq_nil_or_concat post with rfl | ⟨post', z, rfl⟩
  · obtain ⟨hl, hx⟩ := List.append_inj' h rfl
    exact .inl ⟨hl.symm, (List.singleton_inj.1 hx).symm, rfl⟩
  · have hsplit : l ++ [x] = (pre ++ y :: post') ++ [z] := by simpa using h
    obtain ⟨hl, hx⟩ := List.append_inj' hsplit rfl
    obtain rfl := List.singleton_inj.1 hx
    exact .inr ⟨post', by simp, hl⟩

/-! ## Executions -/

/-- **The executions of a system** that begin in one run: the transitions made,
and the run that they led to. -/
inductive Execution (sys : System σ κ ω α ρ) (start : Run σ κ ω) :
    List (Transition σ κ ω α) → Run σ κ ω → Prop
  /-- No move was made. -/
  | refl : Execution sys start [] start
  /-- One more move was made. -/
  | move {past : List (Transition σ κ ω α)} {run next : Run σ κ ω} {m : Move κ α} :
      Execution sys start past run → run.apply sys m = some next →
      Execution sys start (past ++ [⟨run, m, next⟩]) next

namespace Execution

variable {sys : System σ κ ω α ρ} {start mid run : Run σ κ ω}
variable {past later : List (Transition σ κ ω α)} {t : Transition σ κ ω α}

/-- An execution goes on where another one ended. -/
theorem trans (h : Execution sys start past mid) (h' : Execution sys mid later run) :
    Execution sys start (past ++ later) run := by
  induction h' with
  | refl => simpa using h
  | move _ hm ih => simpa using ih.move hm

/-- The last transition of an execution leads to where it ends. -/
theorem of_concat (h : Execution sys start (past ++ [t]) run) :
    Execution sys start past t.before ∧ t.before.apply sys t.move = some t.after ∧
      t.after = run := by
  generalize hall : past ++ [t] = all at h
  cases h with
  | refl => simp at hall
  | move hx hm =>
    obtain ⟨rfl, ht⟩ := List.append_inj' hall rfl
    obtain rfl := List.singleton_inj.1 ht
    exact ⟨hx, hm, rfl⟩

/-- An execution can be cut at any point. -/
theorem exists_mid (h : Execution sys start (past ++ later) run) :
    ∃ mid, Execution sys start past mid ∧ Execution sys mid later run := by
  -- The list of transitions is generalised first: as it stands it is no variable to induct on.
  generalize hall : past ++ later = all at h
  induction h generalizing later with
  | refl =>
    obtain ⟨rfl, rfl⟩ := List.append_eq_nil_iff.1 hall
    exact ⟨start, .refl, .refl⟩
  | @move past' before next m hx hm ih =>
    rcases List.eq_nil_or_concat later with rfl | ⟨later, t, rfl⟩
    · rw [List.append_nil] at hall
      exact ⟨next, hall ▸ hx.move hm, .refl⟩
    · rw [List.concat_eq_append, ← List.append_assoc] at hall
      obtain ⟨hpast, ht⟩ := List.append_inj' hall rfl
      obtain ⟨mid, h1, h2⟩ := ih hpast
      obtain rfl := List.singleton_inj.1 ht
      exact ⟨mid, h1, by simpa using h2.move hm⟩

/-- An execution can be cut at a transition: what led to it, the transition,
and what came of it. -/
theorem of_append_cons (h : Execution sys start (past ++ t :: later) run) :
    Execution sys start past t.before ∧ t.before.apply sys t.move = some t.after ∧
      Execution sys t.after later run := by
  rw [List.append_cons] at h
  obtain ⟨mid, hmid, hlater⟩ := h.exists_mid
  obtain ⟨hpast, hm, rfl⟩ := hmid.of_concat
  exact ⟨hpast, hm, hlater⟩

/-- An execution can be cut at the transition at a place. -/
theorem of_getElem? {k : Nat} (h : Execution sys start past run) (hk : past[k]? = some t) :
    Execution sys start (past.take k) t.before ∧ t.before.apply sys t.move = some t.after ∧
      Execution sys t.after (past.drop (k + 1)) run := by
  obtain ⟨hlt, rfl⟩ := List.getElem?_eq_some_iff.1 hk
  have hsplit : past = past.take k ++ past[k] :: past.drop (k + 1) := by
    rw [← List.drop_eq_getElem_cons hlt, List.take_append_drop]
  exact (hsplit ▸ h).of_append_cons

/-- A transition of an execution was made in a run that the execution led
to. -/
theorem of_mem (h : Execution sys start past run) (ht : t ∈ past) :
    ∃ earlier, Execution sys start earlier t.before ∧
      t.before.apply sys t.move = some t.after := by
  induction h with
  | refl => simp at ht
  | move hx hm ih =>
    rcases List.mem_append.1 ht with ht | ht
    · exact ih ht
    · obtain rfl := List.mem_singleton.1 ht
      exact ⟨_, hx, hm⟩

/-- What every move keeps, every execution keeps. -/
theorem invariant {I : Run σ κ ω → Prop} (h : Execution sys start past run) (h0 : I start)
    (hstep : ∀ r m next, I r → r.apply sys m = some next → I next) : I run := by
  induction h with
  | refl => exact h0
  | move _ hm ih => exact hstep _ _ _ ih hm

theorem bounded (h : Execution sys start past run) (hb : start.Bounded) : run.Bounded :=
  h.invariant hb fun _ _ _ hr hm => hr.apply hm

/-- **Induction along an execution**: what holds at the beginning, and is kept
by each move, holds of every execution. -/
theorem induction {I : List (Transition σ κ ω α) → Run σ κ ω → Prop}
    (h : Execution sys start past run) (hb : start.Bounded) (h0 : I [] start)
    (hquiet : ∀ past t, Execution sys start past t.before → I past t.before →
      t.Quiet → I (past ++ [t]) t.after)
    (hran : ∀ past t id p a st, Execution sys start past t.before → I past t.before →
      t.Ran sys id p a st → I (past ++ [t]) t.after) : I past run := by
  induction h with
  | refl => exact h0
  | @move past run next m hx hm ih =>
    rcases Transition.quiet_or_ran (t := ⟨run, m, next⟩) (hx.bounded hb) hm with
      hq | ⟨id, p, a, st, hr⟩
    · exact hquiet past _ hx ih hq
    · exact hran past _ id p a st hx ih hr

/-- Whoever has begun does not begin again. -/
theorem begun_of_begun (h : Execution sys start past run) (hb : start.Bounded) {id : Nat}
    (hid : start.Begun id) : run.Begun id := by
  induction h with
  | refl => exact hid
  | move hx hm ih => exact ih.apply (hx.bounded hb) hm

/-- Whoever went on in an execution has begun. -/
theorem begun (h : Execution sys start past run) (hb : start.Bounded) (ht : t ∈ past)
    {id : Nat} (hid : t.caller = some id) : run.Begun id := by
  induction h with
  | refl => simp at ht
  | @move past run next m hx hm ih =>
    rcases List.mem_append.1 ht with ht | ht
    · exact (ih ht).apply (hx.bounded hb) hm
    · obtain rfl := List.mem_singleton.1 ht
      exact Run.begun_of_caller (hx.bounded hb) hm hid

/-- A call that has not begun has made no move. -/
theorem caller_ne_of_fresh (h : Execution sys start past run) (hb : start.Bounded)
    {id : Nat} {c : κ} (hid : run.progress id = some (.fresh c)) :
    ∀ t ∈ past, t.caller ≠ some id :=
  fun _ ht hcaller => (h.begun hb ht hcaller).2 c hid

theorem countP_caller_of_fresh (h : Execution sys start past run) (hb : start.Bounded)
    {id : Nat} {c : κ} (hid : run.progress id = some (.fresh c)) :
    past.countP (·.caller = some id) = 0 :=
  List.countP_eq_zero.2 fun t ht => by simpa using h.caller_ne_of_fresh hb hid t ht

theorem nextId_le (h : Execution sys start past run) : start.nextId ≤ run.nextId := by
  induction h with
  | refl => exact Nat.le_refl _
  | move _ hm ih => exact Nat.le_trans ih (Run.nextId_le_apply hm)

/-- A call that has made no move is where it was. -/
theorem progress_of_no_move (h : Execution sys start past run) (hb : start.Bounded) {id : Nat}
    (hlt : id < start.nextId) (hno : past.countP (·.caller = some id) = 0) :
    run.progress id = start.progress id := by
  induction h with
  | refl => rfl
  | @move past run next m hx hm ih =>
    rw [List.countP_append, Nat.add_eq_zero_iff] at hno
    have hcaller : Transition.caller ⟨run, m, next⟩ ≠ some id := by
      simpa using hno.2
    have hlt' : id < run.nextId := Nat.lt_of_lt_of_le hlt hx.nextId_le
    refine Eq.trans ?_ (ih hno.1)
    rcases Transition.submitted_or_ran hm with ⟨c, -, rfl⟩ | ⟨i, p, a, st, hr⟩
    · rw [Run.progress_submit (hx.bounded hb), if_neg (Nat.ne_of_lt hlt')]
    · refine hr.progress_of_ne (hx.bounded hb) (fun hi => hcaller ?_) hlt'
      rw [hi, hr.caller]

theorem progress_of_caller_ne (h : Execution sys start past run) (hb : start.Bounded) {id : Nat}
    (hlt : id < start.nextId) (hidle : ∀ t ∈ past, t.caller ≠ some id) :
    run.progress id = start.progress id :=
  h.progress_of_no_move hb hlt (List.countP_eq_zero.2 fun t ht => by simpa using hidle t ht)

/-- A call that is over makes no more moves. -/
theorem caller_ne_of_over (h : Execution sys start past run) (hb : start.Bounded) {id : Nat}
    (hlt : id < start.nextId) (hover : start.progress id = none) :
    ∀ t ∈ past, t.caller ≠ some id := by
  induction h with
  | refl => simp
  | @move past run next m hx hm ih =>
    intro t ht
    rcases List.mem_append.1 ht with ht | ht
    · exact ih t ht
    · obtain rfl := List.mem_singleton.1 ht
      have hnone : run.progress id = none := (hx.progress_of_caller_ne hb hlt ih).trans hover
      intro hcaller
      rcases Transition.submitted_or_ran hm with ⟨c, rfl, -⟩ | ⟨i, p, a, st, hr⟩
      · cases hcaller
      · obtain rfl : i = id := Option.some.inj (hr.caller.symm.trans hcaller)
        exact absurd (hr.progress.symm.trans hnone) (by simp)

/-- **A call that had not begun** has made no move since, or began in some
move. -/
theorem exists_begin (h : Execution sys start past run) (hb : start.Bounded) {id : Nat} {c : κ}
    (hid : start.progress id = some (.fresh c)) :
    (∀ t ∈ past, t.caller ≠ some id) ∨
      ∃ t ∈ past, t.caller = some id ∧ t.cause = some (.fresh c, none) := by
  induction h with
  | refl => exact .inl (by simp)
  | @move past run next m hx hm ih =>
    rcases ih with hidle | ⟨t, ht, hbegin⟩
    · by_cases hcaller : Transition.caller ⟨run, m, next⟩ = some id
      · refine .inr ⟨⟨run, m, next⟩, by simp, hcaller, ?_⟩
        have hfresh : run.progress id = some (.fresh c) :=
          (hx.progress_of_caller_ne hb (hb.lt_of_progress hid) hidle).trans hid
        rcases Transition.submitted_or_ran hm with ⟨k, rfl, -⟩ | ⟨i, p, a, st, hr⟩
        · cases hcaller
        · obtain rfl : i = id := Option.some.inj (hr.caller.symm.trans hcaller)
          obtain rfl : p = .fresh c := Option.some.inj (hr.progress.symm.trans hfresh)
          rcases System.proceed_eq_some_iff.1 hr.proceed with ⟨k, -, rfl, -⟩ | ⟨w, b, hw, -⟩
          · exact hr.cause
          · cases hw
      · refine .inl fun t ht => ?_
        rcases List.mem_append.1 ht with ht | ht
        · exact hidle t ht
        · obtain rfl := List.mem_singleton.1 ht
          exact hcaller
    · exact .inr ⟨t, List.mem_append_left _ ht, hbegin⟩

/-- The moves of an execution can be made one after the other. -/
theorem applyAll (h : Execution sys start past run) :
    start.applyAll sys (past.map (·.move)) = some run := by
  induction h with
  | refl => rfl
  | move _ hm ih =>
    rw [List.map_append]
    exact foldlM_concat_of_eq_some ih hm

end Execution

/-- The transitions that moves make, one after the other, as far as they can
be made. -/
def Run.transitions (sys : System σ κ ω α ρ) (run : Run σ κ ω) :
    List (Move κ α) → List (Transition σ κ ω α)
  | [] => []
  | m :: moves =>
    match run.apply sys m with
    | some next => ⟨run, m, next⟩ :: next.transitions sys moves
    | none => []

theorem Run.transitions_append {sys : System σ κ ω α ρ} {run mid : Run σ κ ω}
    {moves : List (Move κ α)} (h : run.applyAll sys moves = some mid) (more : List (Move κ α)) :
    run.transitions sys (moves ++ more) =
      run.transitions sys moves ++ mid.transitions sys more := by
  induction moves generalizing run with
  | nil =>
    obtain rfl : run = mid := Option.some.inj h
    rfl
  | cons m moves ih =>
    obtain ⟨next, hnext, hrest⟩ := foldlM_cons_eq_some_iff.1 h
    simp only [List.cons_append, Run.transitions, hnext, ih hrest]

/-- **Moves that can be made one after the other make an execution.** -/
theorem execution_of_applyAll {sys : System σ κ ω α ρ} {start run : Run σ κ ω}
    {moves : List (Move κ α)} (h : start.applyAll sys moves = some run) :
    Execution sys start (start.transitions sys moves) run := by
  induction moves generalizing start with
  | nil =>
    obtain rfl : start = run := Option.some.inj h
    exact .refl
  | cons m moves ih =>
    obtain ⟨next, hnext, hrest⟩ := foldlM_cons_eq_some_iff.1 h
    have hone : Execution sys start [⟨start, m, next⟩] next := Execution.refl.move hnext
    have hfirst : start.transitions sys (m :: moves) =
        [⟨start, m, next⟩] ++ next.transitions sys moves := by
      simp [Run.transitions, hnext]
    rw [hfirst]
    exact hone.trans (ih hrest)

end NodeSidecar
