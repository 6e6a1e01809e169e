import Mathlib.Data.List.Induction
/-!
# Moves one after the other

A run of calls, a fleet and the whole program are each moved by a step that is
not always possible, and moves made one after the other are `List.foldlM` of that
step in `Option`. What holds of such moves whatever the step is said here, once
for all of them.
-/

namespace NodeSidecar

variable {σ μ : Type} {step : σ → μ → Option σ} {s mid t : σ} {m : μ} {moves more : List μ}

theorem foldlM_cons_eq_some_iff :
    (m :: moves).foldlM step s = some t ↔
      ∃ next, step s m = some next ∧ moves.foldlM step next = some t := by
  rw [List.foldlM_cons]
  exact Option.bind_eq_some_iff

/-- **Moves that were made can be cut at any point.** -/
theorem foldlM_append_eq_some_iff :
    (moves ++ more).foldlM step s = some t ↔
      ∃ mid, moves.foldlM step s = some mid ∧ more.foldlM step mid = some t := by
  rw [List.foldlM_append]
  exact Option.bind_eq_some_iff

/-- After the first moves, what more of them lead to is a matter of these alone. -/
theorem foldlM_append_of_eq_some (h : moves.foldlM step s = some mid) (more : List μ) :
    (moves ++ more).foldlM step s = more.foldlM step mid := by
  rw [List.foldlM_append, h]
  rfl

/-- Moves with one more move after them. -/
theorem foldlM_concat_of_eq_some (h : moves.foldlM step s = some mid) (hm : step mid m = some t) :
    (moves ++ [m]).foldlM step s = some t :=
  (foldlM_append_of_eq_some h [m]).trans (foldlM_cons_eq_some_iff.2 ⟨t, hm, rfl⟩)

/-- **What every move keeps holds when all moves are made**; it may be said of the
moves that were made so far. -/
theorem foldlM_induction {P : List μ → σ → Prop} (h : moves.foldlM step s = some t)
    (start : P [] s)
    (keeps : ∀ made mid m next, P made mid → step mid m = some next → P (made ++ [m]) next) :
    P moves t := by
  induction moves using List.reverseRecOn generalizing t with
  | nil =>
    obtain rfl : s = t := Option.some.inj h
    exact start
  | append_singleton made m ih =>
    obtain ⟨mid, hmid, hlast⟩ := foldlM_append_eq_some_iff.1 h
    obtain ⟨next, hm, hnext⟩ := foldlM_cons_eq_some_iff.1 hlast
    obtain rfl : next = t := Option.some.inj hnext
    exact keeps made mid m next (ih hmid) hm

end NodeSidecar
