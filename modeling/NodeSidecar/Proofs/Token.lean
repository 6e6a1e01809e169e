import Mathlib.Logic.ExistsUnique
import Mathlib.Logic.Function.Basic
/-!
# Token — a flag that one call at a time holds

A flag in the state of a system stands for one of the calls in progress: it is
up just when some call waits in a way that holds it, and no two calls do. A
stretch of one call leaves the flag with its holder, takes it while it is down,
or gives it back; each of the three keeps this (`Token.keep`, `Token.take`,
`Token.release`). The lock of a monitor is such a flag, and so is the one that
lets one probe at a time run.
-/

namespace NodeSidecar

variable {ω : Type} {Holds : Option ω → Prop} {up up' : Prop} {waiting : Nat → Option ω}
variable {id : Nat} {w : Option ω}

/-- **The flag is up just when a call holds it, and one call at most does.** -/
structure Token (Holds : Option ω → Prop) (up : Prop) (waiting : Nat → Option ω) : Prop where
  up_iff : up ↔ ∃ i, Holds (waiting i)
  unique : ∀ i j, Holds (waiting i) → Holds (waiting j) → i = j

namespace Token

/-- Nobody holds a flag that is down while nobody waits. -/
theorem init (hdown : ¬ up) (hnone : ¬ Holds none) : Token Holds up fun _ => none where
  up_iff := iff_of_false hdown fun ⟨_, hi⟩ => hnone hi
  unique _ _ hi := absurd hi hnone

theorem not_holds (h : Token Holds up waiting) (hdown : ¬ up) (i : Nat) : ¬ Holds (waiting i) :=
  fun hi => hdown (h.up_iff.2 ⟨i, hi⟩)

/-- The flag is up just when exactly one call holds it. -/
theorem up_iff_existsUnique (h : Token Holds up waiting) : up ↔ ∃! i, Holds (waiting i) := by
  rw [h.up_iff]
  refine ⟨?_, ExistsUnique.exists⟩
  rintro ⟨i, hi⟩
  exact ⟨i, hi, fun j hj => h.unique j i hj hi⟩

/-- **The flag stays as it is** while the call that goes on holds it just when
it did. -/
theorem keep (h : Token Holds up waiting) (hw : Holds w ↔ Holds (waiting id))
    (hup : up' ↔ up) : Token Holds up' (Function.update waiting id w) := by
  have hsame (i : Nat) : Holds (Function.update waiting id w i) ↔ Holds (waiting i) := by
    by_cases hi : i = id
    · subst hi
      rw [Function.update_self]
      exact hw
    · rw [Function.update_of_ne hi]
  refine ⟨?_, fun i j hi hj => h.unique i j ((hsame i).1 hi) ((hsame j).1 hj)⟩
  simp only [hup, hsame]
  exact h.up_iff

/-- **A flag that is down can be taken.** -/
theorem take (h : Token Holds up waiting) (hdown : ¬ up) (hw : Holds w) (hup : up') :
    Token Holds up' (Function.update waiting id w) := by
  -- Nobody held the flag while it was down, so none but the taker holds it.
  have honly {i : Nat} (hi : Holds (Function.update waiting id w i)) : i = id := by
    by_contra hne
    rw [Function.update_of_ne hne] at hi
    exact h.not_holds hdown i hi
  refine ⟨iff_of_true hup ⟨id, ?_⟩, fun i j hi hj => (honly hi).trans (honly hj).symm⟩
  rwa [Function.update_self]

/-- **The one who holds the flag can give it back.** -/
theorem release (h : Token Holds up waiting) (hheld : Holds (waiting id)) (hw : ¬ Holds w)
    (hdown : ¬ up') : Token Holds up' (Function.update waiting id w) := by
  -- Who gives the flag back was the only one to hold it.
  have hnone (i : Nat) : ¬ Holds (Function.update waiting id w i) := by
    intro hi
    by_cases hne : i = id
    · subst hne
      rw [Function.update_self] at hi
      exact hw hi
    · rw [Function.update_of_ne hne] at hi
      exact hne (h.unique i id hi hheld)
  exact ⟨iff_of_false hdown fun ⟨i, hi⟩ => hnone i hi, fun i _ hi => absurd hi (hnone i)⟩

end Token

end NodeSidecar
