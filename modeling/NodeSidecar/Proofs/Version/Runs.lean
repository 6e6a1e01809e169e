import Mathlib.Data.List.SplitBy
import NodeSidecar.Proofs.Text.Utf8
import NodeSidecar.Version.Order
/-!
# Version — the runs of a qualifier

A text falls apart where digits begin or end. `FallsInto` says of a text and its
segments alone what that means, whether the text is taken as characters or as the
octets that spell them: either way there is one list of segments (`fallsInto_iff`).
An octet is a digit just when it spells one, so both lists are the same and no
character is cut: `text_falls_into_its_runs`. A walk finds the segments, as what it has
come past falls into what it cut off and what lies behind it (`Walk.Past.pass`).
-/

namespace NodeSidecar.Version

open Text (Octets encodeChar encodeUtf8)

/-! ## Segments of one kind -/

section General

variable {α β : Type} {digit : α → Bool} {digit' : β → Bool} {spell : α → List β}
variable {x y : α} {xs s : List α} {segments front : List (List α)}

/-- There are digits alone, or none. -/
def OfOneKind (digit : α → Bool) (s : List α) : Prop :=
  (∀ x ∈ s, digit x = true) ∨ ∀ x ∈ s, digit x = false

/-- The segments are what `xs` falls apart into where digits begin or end. -/
structure FallsInto (digit : α → Bool) (xs : List α) (segments : List (List α)) : Prop where
  /-- One behind the other, they are `xs`. -/
  joined : segments.flatten = xs
  ne_nil : ∀ s ∈ segments, s ≠ []
  one_kind : ∀ s ∈ segments, OfOneKind digit s
  /-- Neighbours are of different kinds. -/
  alternate : segments.IsChain fun s t => ∀ x ∈ s, ∀ y ∈ t, digit x ≠ digit y

theorem OfOneKind.eq (h : OfOneKind digit s) {x y : α} (hx : x ∈ s) (hy : y ∈ s) :
    digit x = digit y := by
  rcases h with h | h
  · rw [h x hx, h y hy]
  · rw [h x hx, h y hy]

theorem OfOneKind.of_eq (h : ∀ z ∈ s, digit z = digit y) : OfOneKind digit s := by
  cases hdigit : digit y with
  | true => exact .inl fun z hz => (h z hz).trans hdigit
  | false => exact .inr fun z hz => (h z hz).trans hdigit

/-- What is of one kind is so from each item to the next. -/
theorem ofOneKind_iff_isChain :
    OfOneKind digit s ↔ s.IsChain fun x y => (digit x == digit y) = true := by
  constructor
  · intro h
    exact (List.pairwise_of_forall_mem_list fun x hx y hy => beq_iff_eq.2 (h.eq hx hy)).isChain
  · intro h
    rcases s with - | ⟨x, s⟩
    · exact .inl (by simp)
    have hpairs : ((x :: s).map digit).Pairwise (· = ·) :=
      ((List.isChain_map digit).2 (h.imp fun _ _ => beq_iff_eq.1)).pairwise
    have hfirst : ∀ y ∈ x :: s, digit y = digit x := by
      obtain ⟨hrest, -⟩ := List.pairwise_cons.1 (List.pairwise_map.1 hpairs)
      exact List.forall_mem_cons.2 ⟨rfl, fun y hy => (hrest y hy).symm⟩
    exact .of_eq hfirst

/-- **There is one list of segments**: the longest pieces in which each item is of the
kind of the one in front of it. -/
theorem fallsInto_iff : FallsInto digit xs segments ↔
    segments = xs.splitBy fun x y => digit x == digit y := by
  rw [eq_comm, List.splitBy_eq_iff]
  constructor
  · rintro ⟨rfl, hne, hkind, halternate⟩
    refine ⟨rfl, fun hnil => hne [] hnil rfl, fun s hs => ofOneKind_iff_isChain.1 (hkind s hs), ?_⟩
    refine halternate.imp_of_mem_imp fun s t hs ht hdiffer => ⟨hne s hs, hne t ht, ?_⟩
    exact beq_eq_false_iff_ne.2 (hdiffer _ (List.getLast_mem _) _ (List.head_mem _))
  · rintro ⟨rfl, hnil, hchains, hborders⟩
    have hkind (s) (hs : s ∈ segments) : OfOneKind digit s :=
      ofOneKind_iff_isChain.2 (hchains s hs)
    refine ⟨rfl, fun s hs hempty => hnil (hempty ▸ hs), hkind, hborders.imp_of_mem_imp ?_⟩
    -- At a border the last item and the first one differ, and each stands for its segment.
    rintro s t hs ht ⟨hs', ht', hborder⟩ x hx y hy
    rw [(hkind s hs).eq hx (List.getLast_mem hs'), (hkind t ht).eq hy (List.head_mem ht')]
    exact beq_eq_false_iff_ne.1 hborder

/-- An item of the kind of the last segment goes into it. -/
theorem FallsInto.concat_of_eq (h : FallsInto digit xs (front ++ [s])) (hy : y ∈ s)
    (heq : digit y = digit x) : FallsInto digit (xs ++ [x]) (front ++ [s ++ [x]]) := by
  obtain ⟨rfl, hne, hkind, halternate⟩ := h
  obtain ⟨hfront, -⟩ := List.forall_mem_append.1 hne
  obtain ⟨hkinds, hlast⟩ := List.forall_mem_append.1 hkind
  obtain ⟨hchain, -, hborder⟩ := List.isChain_append.1 halternate
  have hsame : ∀ z ∈ s ++ [x], digit z = digit y :=
    List.forall_mem_append.2 ⟨fun z hz => (List.forall_mem_singleton.1 hlast).eq hz hy,
      List.forall_mem_singleton.2 heq.symm⟩
  refine ⟨by simp, List.forall_mem_append.2 ⟨hfront, List.forall_mem_singleton.2 (by simp)⟩,
    List.forall_mem_append.2 ⟨hkinds, List.forall_mem_singleton.2 (.of_eq hsame)⟩,
    List.isChain_append.2 ⟨hchain, List.isChain_singleton _, ?_⟩⟩
  rintro t ht _ ⟨⟩ z hz w hw
  rw [hsame w hw]
  exact hborder t ht s rfl z hz y hy

/-- An item of the other kind begins a segment. -/
theorem FallsInto.concat_of_ne (h : FallsInto digit xs (front ++ [s])) (hy : y ∈ s)
    (hdiffer : digit y ≠ digit x) : FallsInto digit (xs ++ [x]) (front ++ [s] ++ [[x]]) := by
  obtain ⟨rfl, hne, hkind, halternate⟩ := h
  have hlast := hkind s (by simp)
  refine ⟨by simp, List.forall_mem_append.2 ⟨hne, List.forall_mem_singleton.2 (by simp)⟩,
    List.forall_mem_append.2 ⟨hkind, List.forall_mem_singleton.2 (.of_eq (y := x) (by simp))⟩,
    List.isChain_append.2 ⟨halternate, List.isChain_singleton _, ?_⟩⟩
  rintro t ht _ ⟨⟩ z hz w hw
  obtain rfl : t = s := by simpa using ht.symm
  rw [hlast.eq hz hy, List.mem_singleton.1 hw]
  exact hdiffer

theorem OfOneKind.flatMap (h : OfOneKind digit s)
    (hkind : ∀ x, ∀ y ∈ spell x, digit' y = digit x) : OfOneKind digit' (s.flatMap spell) := by
  refine h.imp (fun h y hy => ?_) fun h y hy => ?_
  all_goals
    obtain ⟨x, hx, hy⟩ := List.mem_flatMap.1 hy
    rw [hkind x y hy, h x hx]

/-- Segments that are spelled out make what is spelled out. -/
theorem flatten_map_flatMap (spell : α → List β) (segments : List (List α)) :
    (segments.map fun s => s.flatMap spell).flatten = segments.flatten.flatMap spell := by
  rw [← List.flatMap_def, List.flatten_eq_flatMap, List.flatMap_assoc]
  rfl

/-- **What is spelled out falls apart where it did before**, when each item is spelled
in items of its own kind. -/
theorem FallsInto.flatMap (h : FallsInto digit xs segments) (hne : ∀ x, spell x ≠ [])
    (hkind : ∀ x, ∀ y ∈ spell x, digit' y = digit x) :
    FallsInto digit' (xs.flatMap spell) (segments.map fun s => s.flatMap spell) := by
  obtain ⟨rfl, hnil, hone, halternate⟩ := h
  refine ⟨flatten_map_flatMap spell segments, List.forall_mem_map.2 fun s hs hempty => ?_,
    List.forall_mem_map.2 fun s hs => (hone s hs).flatMap hkind,
    (List.isChain_map _).2 (halternate.imp fun s t hdiffer y hy z hz => ?_)⟩
  · obtain ⟨x, hx⟩ := List.exists_mem_of_ne_nil s (hnil s hs)
    exact hne x (List.flatMap_eq_nil_iff.1 hempty x hx)
  · obtain ⟨x, hx, hy⟩ := List.mem_flatMap.1 hy
    obtain ⟨w, hw, hz⟩ := List.mem_flatMap.1 hz
    rw [hkind x y hy, hkind w z hz]
    exact hdiffer x hx w hw

/-! ## The walk -/

variable {w : Walk α} {i n : Nat}

/-- **Where a walk stands when it has come past `n` items**: these fall into what was
cut off and what lies behind the walk since. -/
structure Walk.Past (digit : α → Bool) (xs : List α) (n : Nat) (w : Walk α) : Prop where
  start_lt : w.start < n
  falls : FallsInto digit (xs.take n) (w.cut ++ [(xs.take n).drop w.start])

theorem Walk.past_one (digit : α → Bool) (h : xs ≠ []) : Walk.Past digit xs 1 ⟨[], 0⟩ := by
  obtain ⟨x, xs, rfl⟩ := List.exists_cons_of_ne_nil h
  exact ⟨Nat.one_pos, fallsInto_iff.2 rfl⟩

/-- What lies behind a walk grows by the item that it passes. -/
theorem drop_take_succ (hi : i < xs.length) (hn : n ≤ i) :
    (xs.take (i + 1)).drop n = (xs.take i).drop n ++ [xs[i]] := by
  have hlength : n ≤ (xs.take i).length := by rw [List.length_take]; omega
  rw [← List.take_append_getElem hi, List.drop_append_of_le_length hlength]

/-- **Each item goes to the piece that the walk is in, or begins the next one.** -/
theorem Walk.Past.pass (h : Walk.Past digit xs (i + 1) w) (hi : i + 1 < xs.length) :
    Walk.Past digit xs (i + 2) (w.pass digit xs (i + 1)) := by
  obtain ⟨hstart, hfalls⟩ := h
  have hmem : xs[i] ∈ (xs.take (i + 1)).drop w.start := by
    rw [drop_take_succ (Nat.lt_of_succ_lt hi) (Nat.le_of_lt_succ hstart)]
    exact List.mem_append_right _ (List.mem_singleton_self _)
  have htake : xs.take (i + 2) = xs.take (i + 1) ++ [xs[i + 1]] :=
    (List.take_append_getElem hi).symm
  have hturns : xs[i + 1]?.map digit = xs[i + 1 - 1]?.map digit ↔
      digit xs[i] = digit xs[i + 1] := by
    rw [Nat.add_sub_cancel, List.getElem?_eq_getElem hi,
      List.getElem?_eq_getElem (Nat.lt_of_succ_lt hi), Option.map_some, Option.map_some,
      Option.some_inj, eq_comm]
  unfold Walk.pass
  by_cases hsame : digit xs[i] = digit xs[i + 1]
  · rw [if_pos (hturns.2 hsame)]
    refine ⟨Nat.lt_succ_of_lt hstart, ?_⟩
    rw [drop_take_succ hi (Nat.le_of_lt hstart), htake]
    exact hfalls.concat_of_eq hmem hsame
  · rw [if_neg (mt hturns.1 hsame)]
    refine ⟨Nat.lt_succ_self _, ?_⟩
    have hnew : (xs.take (i + 1)).drop (i + 1) = [] :=
      List.drop_eq_nil_of_le (List.length_take_le _ _)
    rw [drop_take_succ hi (Nat.le_refl _), hnew, htake]
    exact hfalls.concat_of_ne hmem hsame

/-- A walk that has not come to the end stands so, however far it has come. -/
theorem Walk.past_foldl (digit : α → Bool) (h : xs ≠ []) (hi : i < xs.length) :
    Walk.Past digit xs (i + 1) ((List.range' 1 i).foldl (Walk.pass digit xs) ⟨[], 0⟩) := by
  induction i with
  | zero => exact Walk.past_one digit h
  | succ i ih =>
    rw [List.range'_1_concat, List.foldl_concat, Nat.add_comm 1 i]
    exact (ih (by omega)).pass hi

/-- **A text falls into what a walk cuts off and what is left at its end.** -/
theorem fallsInto_walk (digit : α → Bool) (xs : List α) : FallsInto digit xs (walk digit xs) := by
  by_cases h : xs = []
  · subst h
    exact fallsInto_iff.2 rfl
  · have hlength := List.length_pos_iff.2 h
    obtain ⟨hstart, hfalls⟩ := Walk.past_foldl digit h (i := xs.length - 1) (by omega)
    rw [Nat.sub_add_cancel hlength] at hstart hfalls
    rw [List.take_length] at hfalls
    rw [walk, Walk.finish, if_pos hstart]
    exact hfalls

end General

/-! ## Runs of characters -/

variable {cs : List Char}

/-- Two characters that stand in one run. -/
def sameKind (c d : Char) : Bool :=
  c.isDigit == d.isDigit

/-- **Runs are the longest pieces of one kind.** -/
theorem runs_eq_splitBy (cs : List Char) : runs cs = cs.splitBy sameKind :=
  fallsInto_iff.1 (fallsInto_walk Char.isDigit cs)

theorem fallsInto_isDigit_iff {segments : List (List Char)} :
    FallsInto Char.isDigit cs segments ↔ segments = runs cs := by
  rw [runs_eq_splitBy]
  exact fallsInto_iff

theorem runs_eq_nil_iff : runs cs = [] ↔ cs = [] := by
  rw [runs_eq_splitBy, List.splitBy_eq_nil]

/-! ## Runs of octets -/

/-- An octet that spells a digit. -/
def isDigitOctet (b : UInt8) : Bool :=
  0x30 ≤ b && b ≤ 0x39

/-- **A character is spelled in octets of its own kind**: what is no digit has no digit
among its octets. -/
theorem isDigitOctet_of_mem_encodeChar {b : UInt8} {c : Char} (h : b ∈ encodeChar c) :
    isDigitOctet b = c.isDigit := by
  have hb : isDigitOctet b = true ↔ 48 ≤ b.toNat ∧ b.toNat ≤ 57 := by
    simp [isDigitOctet, UInt8.le_iff_toNat_le]
  have hc : c.isDigit = true ↔ 48 ≤ c.toNat ∧ c.toNat ≤ 57 := Char.isDigit_iff_toNat
  rw [Bool.eq_iff_iff, hb, hc]
  rcases Text.toNat_of_mem_encodeChar h with h | h
  · rw [h]
  · omega

theorem encodeChar_ne_nil (c : Char) : encodeChar c ≠ [] := by
  obtain ⟨a, tail, hcons, -⟩ := (Text.spelled_encodeChar c).utf8Head []
  exact hcons ▸ List.cons_ne_nil a tail

/-- The octets of a text fall into those of its runs. -/
theorem fallsInto_isDigitOctet_iff {pieces : List Octets} :
    FallsInto isDigitOctet (encodeUtf8 cs) pieces ↔ pieces = (runs cs).map encodeUtf8 := by
  have hruns : FallsInto isDigitOctet (encodeUtf8 cs) ((runs cs).map encodeUtf8) :=
    (fallsInto_isDigit_iff.2 rfl).flatMap encodeChar_ne_nil
      fun _ _ => isDigitOctet_of_mem_encodeChar
  rw [fallsInto_iff, fallsInto_iff.1 hruns]

/-! ## The runs of a text -/

/-- Each of the pieces begins and ends between two characters of the string, or at one
of its ends. -/
def KeepsCharacters (q : String) (pieces : List Octets) : Prop :=
  ∀ n, String.Pos.Raw.IsValid q ⟨(pieces.take n).flatten.length⟩

theorem keepsCharacters_of_flatten {q : String} {segments : List (List Char)}
    (h : segments.flatten = q.toList) : KeepsCharacters q (segments.map encodeUtf8) := by
  intro n
  have hoctets : ((segments.map encodeUtf8).take n).flatten =
      encodeUtf8 (segments.take n).flatten := by
    rw [← List.map_take]
    exact flatten_map_flatMap encodeChar _
  have hsplit : q.toList = (segments.take n).flatten ++ (segments.drop n).flatten := by
    rw [← List.flatten_append, List.take_append_drop, h]
  rw [hoctets]
  exact Text.isValid_length_encodeUtf8 hsplit

/-- **A text falls into its runs, and into nothing else.** The runs of a text are the
one list of segments that make it, none of them empty, each with digits alone or none,
and neighbours of different kinds; there is none just when the text is empty. The octets
of the text, taken for themselves, fall into the octets of these runs and no others, which
is what a walk over them cuts off, so no character is cut. -/
theorem text_falls_into_its_runs (q : String) :
    (∀ segments, FallsInto Char.isDigit q.toList segments ↔ segments = runs q.toList) ∧
    (runs q.toList = [] ↔ q = "") ∧
    (∀ pieces, FallsInto isDigitOctet (encodeUtf8 q.toList) pieces ↔
      pieces = (runs q.toList).map encodeUtf8) ∧
    walk isDigitOctet (encodeUtf8 q.toList) = (runs q.toList).map encodeUtf8 ∧
    KeepsCharacters q ((runs q.toList).map encodeUtf8) := by
  have hfalls : FallsInto Char.isDigit q.toList (runs q.toList) := fallsInto_isDigit_iff.2 rfl
  refine ⟨fun _ => fallsInto_isDigit_iff, ?_, fun _ => fallsInto_isDigitOctet_iff,
    fallsInto_isDigitOctet_iff.1 (fallsInto_walk _ _), keepsCharacters_of_flatten hfalls.joined⟩
  rw [runs_eq_nil_iff, String.toList_eq_nil_iff]

example : runs "٣β12é007".toList =
    ["٣β".toList, "12".toList, "é".toList, "007".toList] := by decide

end NodeSidecar.Version
