import Mathlib.Data.List.SplitBy
import NodeSidecar.Proofs.Text.Decimal
import NodeSidecar.Proofs.Version.Order
import NodeSidecar.Proofs.Version.Runs
/-!
# Version — numbers in qualifiers

A qualifier falls apart where digits begin or end (`runs_append`), and two runs of
digits are compared as the numbers they denote, however long they are
(`compareDigits_eq`). So versions whose qualifiers differ first in a number are
ordered as the numbers are: `numbers_order_builds`.
-/

namespace NodeSidecar.Version

open Std
open Text (digitsValue isDigits)

variable {as bs cs : List Char} {a b : Version}

/-! ## Runs -/

/-- **A text falls apart where digits begin or end.** -/
theorem runs_append (h : ∀ c ∈ as.getLast?, ∀ d ∈ bs.head?, c.isDigit ≠ d.isDigit) :
    runs (as ++ bs) = runs as ++ runs bs := by
  simp only [runs_eq_splitBy]
  exact List.splitBy_append fun c hc d hd => beq_eq_false_iff_ne.2 (h c hc d hd)

/-- A run of digits is a run. -/
theorem runs_of_isDigits (h : isDigits cs = true) : runs cs = [cs] := by
  obtain ⟨hne, hdigits⟩ := Text.isDigits_iff.1 h
  rw [runs_eq_splitBy]
  refine List.splitBy_of_isChain hne (List.Pairwise.isChain ?_)
  exact List.pairwise_of_forall_mem_list fun c hc d hd => by
    simp [sameKind, hdigits c hc, hdigits d hd]

/-! ## Runs of digits are compared as numbers -/

/-- Numbers that lie alike are compared alike. -/
theorem compare_eq_compare {m n k l : Nat} (hlt : m < n ↔ k < l) (hgt : n < m ↔ l < k) :
    compare m n = compare k l := by
  simp only [Nat.compare_eq_ite_lt, hlt, hgt]

/-- Where the digits of one weight differ, they decide over all that are behind
them. -/
theorem compare_mul_add {p x y : Nat} (hx : x < p) (hy : y < p) (m n : Nat) :
    compare (p * m + x) (p * n + y) = (compare m n).then (compare x y) := by
  have hbelow {k l : Nat} (h : k < l) : p * k + p ≤ p * l := Nat.mul_le_mul_left p h
  rcases Nat.lt_trichotomy m n with h | rfl | h
  · have hweight := hbelow h
    rw [Nat.compare_eq_lt.2 h, Nat.compare_eq_lt.2 (by omega)]
    rfl
  · rw [Nat.compare_eq_eq.2 rfl]
    exact compare_eq_compare (by omega) (by omega)
  · have hweight := hbelow h
    rw [Nat.compare_eq_gt.2 h, Nat.compare_eq_gt.2 (by omega)]
    rfl

/-- Runs of one length are compared as numbers when they are compared as texts. -/
theorem compareText_of_digits (hlength : as.length = bs.length)
    (has : ∀ c ∈ as, c.isDigit = true) (hbs : ∀ c ∈ bs, c.isDigit = true) :
    compareText as bs = compare (digitsValue as) (digitsValue bs) := by
  induction as generalizing bs with
  | nil =>
    obtain rfl := List.length_eq_zero_iff.1 hlength.symm
    rfl
  | cons c as ih =>
    cases bs with
    | nil => cases hlength
    | cons d bs =>
      obtain ⟨hc, has⟩ := List.forall_mem_cons.1 has
      obtain ⟨hd, hbs⟩ := List.forall_mem_cons.1 hbs
      have htail : as.length = bs.length := Nat.succ.inj hlength
      have hfirst : compare c.toNat d.toNat = compare (c.toNat - 48) (d.toNat - 48) := by
        have hc48 := Text.toNat_of_isDigit hc
        have hd48 := Text.toNat_of_isDigit hd
        exact compare_eq_compare (by omega) (by omega)
      have hlt : digitsValue as < 10 ^ bs.length := htail ▸ Text.digitsValue_lt_pow has
      rw [compareText, ih htail has hbs, hfirst, Text.digitsValue_cons, Text.digitsValue_cons,
        htail, compare_mul_add hlt (Text.digitsValue_lt_pow hbs)]

theorem digitsValue_significant (cs : List Char) : digitsValue (significant cs) = digitsValue cs :=
  Text.digitsValue_dropWhile cs

theorem isDigit_of_mem_significant (h : ∀ c ∈ cs, c.isDigit = true) :
    ∀ c ∈ significant cs, c.isDigit = true :=
  fun c hc => h c ((List.dropWhile_suffix _).subset hc)

/-- Leading zeros apart, the longer run is the larger number. -/
theorem digitsValue_lt_of_length_lt (h : (significant as).length < (significant bs).length)
    (has : ∀ c ∈ as, c.isDigit = true) (hbs : ∀ c ∈ bs, c.isDigit = true) :
    digitsValue as < digitsValue bs := by
  rcases hsig : significant bs with - | ⟨c, tail⟩
  · rw [hsig] at h
    exact absurd h (Nat.not_lt_zero _)
  · have hdigit : c.isDigit = true := isDigit_of_mem_significant hbs c (by simp [hsig])
    have hzero : c ≠ '0' := by
      have hfirst := List.head?_dropWhile_not (fun c => decide (c = '0')) bs
      rw [← significant, hsig] at hfirst
      simpa using hfirst
    rw [hsig, List.length_cons] at h
    calc digitsValue as = digitsValue (significant as) := (digitsValue_significant as).symm
      _ < 10 ^ (significant as).length :=
        Text.digitsValue_lt_pow (isDigit_of_mem_significant has)
      _ ≤ 10 ^ tail.length := Nat.pow_le_pow_right (by decide) (Nat.le_of_lt_succ h)
      _ ≤ digitsValue (c :: tail) := Text.pow_le_digitsValue hdigit hzero
      _ = digitsValue bs := by rw [← hsig, digitsValue_significant]

/-- **Runs of digits are compared as the numbers they denote.** -/
theorem compareDigits_eq (has : ∀ c ∈ as, c.isDigit = true) (hbs : ∀ c ∈ bs, c.isDigit = true) :
    compareDigits as bs = compare (digitsValue as) (digitsValue bs) := by
  rcases Nat.lt_trichotomy (significant as).length (significant bs).length with h | h | h
  · rw [compareDigits, Nat.compare_eq_lt.2 h,
      Nat.compare_eq_lt.2 (digitsValue_lt_of_length_lt h has hbs)]
    rfl
  · rw [compareDigits, Nat.compare_eq_eq.2 h, ← digitsValue_significant as,
      ← digitsValue_significant bs]
    exact compareText_of_digits h (isDigit_of_mem_significant has) (isDigit_of_mem_significant hbs)
  · rw [compareDigits, Nat.compare_eq_gt.2 h,
      Nat.compare_eq_gt.2 (digitsValue_lt_of_length_lt h hbs has)]
    rfl

/-! ## The first runs that differ decide -/

theorem compareRun_of_isDigits (has : isDigits as = true) (hbs : isDigits bs = true) :
    compareRun as bs = compare (digitsValue as) (digitsValue bs) := by
  obtain ⟨-, has⟩ := Text.isDigits_iff.1 has
  obtain ⟨-, hbs⟩ := Text.isDigits_iff.1 hbs
  rw [compareRun, List.all_eq_true.2 has, List.all_eq_true.2 hbs]
  exact compareDigits_eq has hbs

theorem compareRuns_append_cons (front : List (List Char)) (r q : List Char)
    (rs qs : List (List Char)) : compareRuns (front ++ r :: rs) (front ++ q :: qs) =
      (compareRun r q).then (compareRuns rs qs) := by
  induction front with
  | nil => rfl
  | cons f front ih =>
    have hlevel : compareRun f f = .eq := ReflCmp.compare_self
    rw [List.cons_append, List.cons_append, compareRuns, ih, hlevel]
    rfl

/-- The text does not end with a digit. -/
def EndsInText (cs : List Char) : Prop :=
  ∀ c ∈ cs.getLast?, c.isDigit = false

/-- The text does not begin with a digit. -/
def BeginsInText (cs : List Char) : Prop :=
  ∀ c ∈ cs.head?, c.isDigit = false

/-- A number between other characters is a run. -/
theorem runs_number (hp : EndsInText as) (hm : isDigits bs = true) (hs : BeginsInText cs) :
    runs (as ++ bs ++ cs) = runs as ++ bs :: runs cs := by
  obtain ⟨hne, hdigits⟩ := Text.isDigits_iff.1 hm
  have hfirst (d) (hd : d ∈ (bs ++ cs).head?) : d.isDigit = true := by
    rw [List.head?_append_of_ne_nil _ hne] at hd
    exact hdigits d (List.mem_of_mem_head? hd)
  have hlast (d) (hd : d ∈ bs.getLast?) : d.isDigit = true :=
    hdigits d (List.mem_of_mem_getLast? hd)
  rw [List.append_assoc, runs_append fun c hc d hd => by simp [hp c hc, hfirst d hd],
    runs_append fun c hc d hd => by simp [hlast c hc, hs d hd], runs_of_isDigits hm]
  rfl

/-! ## The order of builds -/

/-- **Qualifiers that differ first in a number are ordered as the numbers are.** -/
theorem compareQualifier_of_numbers {p m n s t : String} (hp : EndsInText p.toList)
    (hm : isDigits m.toList = true) (hn : isDigits n.toList = true)
    (hs : BeginsInText s.toList) (ht : BeginsInText t.toList)
    (hne : digitsValue m.toList ≠ digitsValue n.toList) :
    compareQualifier (p ++ m ++ s) (p ++ n ++ t) =
      compare (digitsValue m.toList) (digitsValue n.toList) := by
  simp only [compareQualifier, String.toList_append, runs_number hp hm hs, runs_number hp hn ht,
    compareRuns_append_cons, compareRun_of_isDigits hm hn]
  rcases Nat.lt_or_gt_of_ne hne with h | h
  · rw [Nat.compare_eq_lt.2 h]
    rfl
  · rw [Nat.compare_eq_gt.2 h]
    rfl

/-- The three numbers of `a` come before those of `b`. -/
def EarlierRelease (a b : Version) : Prop :=
  a.major < b.major ∨ a.major = b.major ∧
    (a.minor < b.minor ∨ a.minor = b.minor ∧ a.patch < b.patch)

theorem compareRelease_eq_lt_iff : compareRelease a b = .lt ↔ EarlierRelease a b := by
  simp only [compareRelease, Ordering.then_eq_lt, Nat.compare_eq_lt, Nat.compare_eq_eq,
    EarlierRelease]

theorem order_of_earlierRelease (h : EarlierRelease a b) : order a b = .lt := by
  have hlt := compareRelease_eq_lt_iff.2 h
  rw [order_of_compareRelease_ne (by simp [hlt]), hlt]

/-- Versions with the same numbers are ordered by what marks them. -/
theorem order_of_same_release (major minor patch : Nat) (q r : Option String) :
    order ⟨major, minor, patch, q⟩ ⟨major, minor, patch, r⟩ = comparePreRelease q r := by
  have hlevel : compareRelease ⟨major, minor, patch, q⟩ ⟨major, minor, patch, r⟩ = .eq :=
    compareRelease_eq_eq_iff.2 ⟨rfl, rfl, rfl⟩
  rw [order, hlevel]
  rfl

/-- **Numbers order the builds of a release.** Two builds whose qualifiers are alike
up to a number of any length are ordered as the two numbers are, if these differ,
whatever is behind them. A build comes before its release, and a build or a release
after all that belongs to an earlier one. -/
theorem numbers_order_builds :
    (∀ (major minor patch : Nat) (p m n s t : String), EndsInText p.toList →
      isDigits m.toList = true → isDigits n.toList = true → BeginsInText s.toList →
      BeginsInText t.toList → digitsValue m.toList ≠ digitsValue n.toList →
      order ⟨major, minor, patch, some (p ++ m ++ s)⟩ ⟨major, minor, patch, some (p ++ n ++ t)⟩ =
        compare (digitsValue m.toList) (digitsValue n.toList)) ∧
    (∀ (major minor patch : Nat) (q : String),
      order ⟨major, minor, patch, some q⟩ (release major minor patch) = .lt) ∧
    ∀ v w : Version, EarlierRelease w v → order v w = .gt := by
  refine ⟨fun major minor patch p m n s t hp hm hn hs ht hne => ?_,
    fun major minor patch q => ?_, fun v w hearlier => ?_⟩
  · rw [order_of_same_release]
    exact compareQualifier_of_numbers hp hm hn hs ht hne
  · exact order_of_same_release major minor patch (some q) none
  · have hswap : order v w = (order w v).swap := transCmp_order.eq_swap
    rw [hswap, order_of_earlierRelease hearlier]
    rfl

/-- The ninth candidate, with zeros in front, comes before one whose number has more
than sixty-four bits, and a beta of 4.0 comes after 3.11.14. -/
theorem ninth_candidate_before_huge_one :
    EndsInText "rc".toList ∧ isDigits "0009".toList = true ∧
      isDigits "18446744073709551617".toList = true ∧ BeginsInText "-z7".toList ∧
      BeginsInText "".toList ∧
      digitsValue "0009".toList ≠ digitsValue "18446744073709551617".toList ∧
      order ⟨4, 0, 0, some ("rc" ++ "0009" ++ "-z7")⟩
        ⟨4, 0, 0, some ("rc" ++ "18446744073709551617" ++ "")⟩ = .lt ∧
      EarlierRelease (release 3 11 14) ⟨4, 0, 0, some "beta4"⟩ ∧
      order ⟨4, 0, 0, some "beta4"⟩ (release 3 11 14) = .gt := by
  have hp : EndsInText "rc".toList := by simp [EndsInText]
  have hm : isDigits "0009".toList = true := by decide
  have hn : isDigits "18446744073709551617".toList = true := by decide
  have hs : BeginsInText "-z7".toList := by simp [BeginsInText]
  have ht : BeginsInText "".toList := by simp [BeginsInText]
  have hne : digitsValue "0009".toList ≠ digitsValue "18446744073709551617".toList := by decide
  have hearlier : EarlierRelease (release 3 11 14) ⟨4, 0, 0, some "beta4"⟩ := .inl (by decide)
  refine ⟨hp, hm, hn, hs, ht, hne, ?_, hearlier, numbers_order_builds.2.2 _ _ hearlier⟩
  exact (numbers_order_builds.1 4 0 0 _ _ _ _ _ hp hm hn hs ht hne).trans (by decide)

end NodeSidecar.Version
