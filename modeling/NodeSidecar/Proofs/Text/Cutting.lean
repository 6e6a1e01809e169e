import Mathlib.Data.List.TakeWhile
import NodeSidecar.Text.Blank
import NodeSidecar.Text.Split
/-!
# Text — pieces and blanks

What the pieces of a text are (`CutInto`) and what is left of a piece without
the blanks at its ends (`TrimsTo`), said of the text alone. Each text has one
list of pieces and each piece is trimmed in one way (`pieces_eq_iff`,
`trim_eq_iff`). A text that is cut once is a head and perhaps a part behind a
mark (`exists_marked`, `cutAt_marked`).
-/

namespace NodeSidecar.Text

variable {c x : Char} {cs ds : List Char} {ps : List (List Char)}

/-! ## Pieces -/

/-- There is a piece at least, no piece has the separator in it, and with the
separator in between they make the text. -/
structure CutInto (c : Char) (cs : List Char) (ps : List (List Char)) : Prop where
  ne_nil : ps ≠ []
  free : ∀ p ∈ ps, c ∉ p
  joined : [c].intercalate ps = cs

/-- Pieces are those of the standard library. -/
theorem pieces_eq_splitOn (c : Char) (cs : List Char) : pieces c cs = cs.splitOn c := by
  induction cs with
  | nil => rfl
  | cons x cs ih =>
    obtain ⟨p, ps, hps⟩ := List.exists_cons_of_ne_nil (pieces_ne_nil c cs)
    rw [pieces_cons, List.splitOn_cons_eq_if_modifyHead, ← ih, hps]
    by_cases hx : x = c
    · simp [pushPiece, hx]
    · simp [pushPiece, hx]

theorem exists_mem_pushPiece_iff {y : Char} (h : ps ≠ []) :
    (∃ p ∈ pushPiece c y ps, x ∈ p) ↔ (x = y ∧ y ≠ c) ∨ ∃ p ∈ ps, x ∈ p := by
  obtain ⟨p, ps, rfl⟩ := List.exists_cons_of_ne_nil h
  by_cases hy : y = c
  · simp [pushPiece, hy]
  · simp [pushPiece, hy, or_assoc]

/-- What stands in some piece is what stands in the text and is no separator. -/
theorem exists_mem_pieces_iff : (∃ p ∈ pieces c cs, x ∈ p) ↔ x ∈ cs ∧ x ≠ c := by
  induction cs with
  | nil => simp
  | cons y cs ih =>
    rw [pieces_cons, exists_mem_pushPiece_iff (pieces_ne_nil c cs), ih, List.mem_cons]
    constructor
    · rintro (⟨rfl, hne⟩ | ⟨hx, hne⟩)
      · exact ⟨.inl rfl, hne⟩
      · exact ⟨.inr hx, hne⟩
    · rintro ⟨rfl | hx, hne⟩
      · exact .inl ⟨rfl, hne⟩
      · exact .inr ⟨hx, hne⟩

/-- **A text has one list of pieces.** -/
theorem pieces_eq_iff : pieces c cs = ps ↔ CutInto c cs ps := by
  constructor
  · rintro rfl
    refine ⟨pieces_ne_nil c cs, fun p hp hc => ?_, ?_⟩
    · exact (exists_mem_pieces_iff.1 ⟨p, hp, hc⟩).2 rfl
    · rw [pieces_eq_splitOn, List.intercalate_splitOn]
  · rintro ⟨hne, hfree, rfl⟩
    rw [pieces_eq_splitOn, List.splitOn_intercalate c hfree hne]

/-- Pieces with the separator behind each of them, the last one too, are the pieces of
the whole, and an empty one is behind them. -/
theorem pieces_flatMap_concat (h : ∀ p ∈ ps, c ∉ p) :
    pieces c (ps.flatMap (· ++ [c])) = ps ++ [[]] := by
  have hjoined : [c].intercalate (ps ++ [[]]) = ps.flatMap (· ++ [c]) := by
    induction ps with
    | nil => rfl
    | cons p ps ih =>
      obtain ⟨q, qs, hqs⟩ := List.exists_cons_of_ne_nil (List.append_ne_nil_of_right_ne_nil ps
        (List.cons_ne_nil ([] : List Char) []))
      rw [List.cons_append, hqs, List.intercalate_cons_cons, ← hqs,
        ih (List.forall_mem_cons.1 h).2, List.flatMap_cons]
  refine pieces_eq_iff.2 ⟨by simp, fun p hp => ?_, hjoined⟩
  rcases List.mem_append.1 hp with hp | hp
  · exact h p hp
  · simp [List.mem_singleton.1 hp]

/-- **Items are read one by one**: when an item is read just if it is what is written
of a value that fits, so are many. -/
theorem mapM_eq_some_iff {α β : Type} {read : α → Option β} {write : β → α} {Fits : β → Prop}
    (h : ∀ a b, read a = some b ↔ a = write b ∧ Fits b) {as : List α} {bs : List β} :
    as.mapM read = some bs ↔ as = bs.map write ∧ ∀ b ∈ bs, Fits b := by
  induction as generalizing bs with
  | nil => cases bs <;> simp
  | cons a as ih =>
    cases bs with
    | nil => simp [List.mapM_cons, Option.bind_eq_some_iff]
    | cons b bs =>
      have hsplit : (a :: as).mapM read = some (b :: bs) ↔
          read a = some b ∧ as.mapM read = some bs := by
        simp [List.mapM_cons, Option.bind_eq_some_iff]
      rw [hsplit, h, ih, List.map_cons, List.cons.injEq, List.forall_mem_cons]
      exact and_and_and_comm

/-- The same of items that are read whatever value they are written of. -/
theorem mapM_eq_some_iff_eq_map {α β : Type} {read : α → Option β} {write : β → α}
    (h : ∀ a b, read a = some b ↔ a = write b) {as : List α} {bs : List β} :
    as.mapM read = some bs ↔ as = bs.map write := by
  have hfits (a : α) (b : β) : read a = some b ↔ a = write b ∧ True := by
    rw [h, and_true]
  rw [mapM_eq_some_iff hfits]
  simp

/-! ## A part behind a mark -/

/-- A part that may be there, behind the mark that announces it. -/
def marked (c : Char) : Option (List Char) → List Char
  | none => []
  | some part => c :: part

theorem mem_marked_iff {part : Option (List Char)} :
    x ∈ marked c part ↔ ∃ p ∈ part, x = c ∨ x ∈ p := by
  cases part <;> simp [marked]

/-- **A text is cut at its first mark.** -/
theorem cutAt_marked (h : c ∉ cs) (part : Option (List Char)) :
    cutAt c (cs ++ marked c part) = part.map fun p => (cs, p) := by
  have hother (x) (hx : x ∈ cs) : (x != c) = true := bne_iff_ne.2 fun he => h (he ▸ hx)
  rw [cutAt, List.dropWhile_append_of_pos hother, List.takeWhile_append_of_pos hother]
  cases part <;> simp [marked]

/-- Every text is a head without the mark, and perhaps a part behind it. -/
theorem exists_marked (c : Char) (cs : List Char) :
    ∃ head part, c ∉ head ∧ cs = head ++ marked c part := by
  by_cases h : c ∈ cs
  · obtain ⟨head, part, rfl, hhead⟩ := List.eq_append_cons_of_mem h
    exact ⟨head, some part, hhead, rfl⟩
  · exact ⟨cs, none, h, (List.append_nil cs).symm⟩

/-- **A text is cut in one way**: the mark that it is cut at is the first. -/
theorem cutAt_eq_some_iff {head tail : List Char} :
    cutAt c cs = some (head, tail) ↔ c ∉ head ∧ cs = head ++ c :: tail := by
  constructor
  · intro h
    obtain ⟨front, part, hfront, rfl⟩ := exists_marked c cs
    rw [cutAt_marked hfront, Option.map_eq_some_iff] at h
    obtain ⟨behind, rfl, hcut⟩ := h
    obtain ⟨rfl, rfl⟩ := Prod.mk.inj hcut
    exact ⟨hfront, rfl⟩
  · rintro ⟨hfree, rfl⟩
    exact cutAt_marked hfree (some tail)

/-! ## Blanks -/

/-- With blanks alone in front and behind, `ds` is the text, and it neither
begins nor ends with a blank. -/
structure TrimsTo (cs ds : List Char) : Prop where
  inside : ∃ front back, cs = front ++ ds ++ back ∧
    (∀ x ∈ front, isBlank x) ∧ ∀ x ∈ back, isBlank x
  first : ∀ x ∈ ds.head?, ¬ isBlank x
  last : ∀ x ∈ ds.getLast?, ¬ isBlank x

theorem dropWhile_isBlank_eq (h : ∀ x ∈ ds.head?, ¬ isBlank x) :
    ds.dropWhile isBlank = ds := by
  cases ds with
  | nil => rfl
  | cons x ds => exact List.dropWhile_cons_of_neg (h x rfl)

theorem not_isBlank_of_head?_dropWhile (h : x ∈ (cs.dropWhile isBlank).head?) :
    ¬ isBlank x := by
  have hfirst := List.head?_dropWhile_not isBlank cs
  rw [Option.mem_def.1 h] at hfirst
  simpa using hfirst

/-- What is trimmed is between blanks. -/
theorem trimsTo_trim (cs : List Char) : TrimsTo cs (trim cs) := by
  -- What is left without the blanks in front, from its end.
  have hmid : (cs.dropWhile isBlank).reverse =
      (cs.dropWhile isBlank).reverse.takeWhile isBlank ++ (trim cs).reverse := by
    rw [trim, List.reverse_reverse, List.takeWhile_append_dropWhile]
  generalize hback : (cs.dropWhile isBlank).reverse.takeWhile isBlank = back at hmid
  have hrest : cs.dropWhile isBlank = trim cs ++ back.reverse := by
    rw [← List.reverse_inj, hmid, List.reverse_append, List.reverse_reverse]
  refine ⟨⟨cs.takeWhile isBlank, back.reverse, ?_, fun x hx => List.mem_takeWhile_imp hx,
    fun x hx => ?_⟩, fun x hx => ?_, fun x hx => ?_⟩
  · rw [List.append_assoc, ← hrest, List.takeWhile_append_dropWhile]
  · rw [← hback] at hx
    exact List.mem_takeWhile_imp (List.mem_reverse.1 hx)
  · have hhead : x ∈ (cs.dropWhile isBlank).head? := by
      rw [hrest, List.head?_append, Option.mem_def.1 hx]
      rfl
    exact not_isBlank_of_head?_dropWhile hhead
  · rw [trim, List.getLast?_reverse] at hx
    exact not_isBlank_of_head?_dropWhile hx

/-- **A text is trimmed in one way.** -/
theorem trim_eq_iff : trim cs = ds ↔ TrimsTo cs ds := by
  constructor
  · rintro rfl
    exact trimsTo_trim cs
  · rintro ⟨⟨front, back, rfl, hfront, hback⟩, hfirst, hlast⟩
    have hbehind (x) (hx : x ∈ back.reverse) : isBlank x = true := hback x (List.mem_reverse.1 hx)
    rw [trim, List.append_assoc, List.dropWhile_append_of_pos hfront]
    rcases ds with - | ⟨x, ds⟩
    · rw [List.nil_append, List.dropWhile_eq_nil_iff.2 hback]
      rfl
    · have hfront' : (x :: ds ++ back).dropWhile isBlank = x :: ds ++ back :=
        dropWhile_isBlank_eq hfirst
      have hend : (x :: ds).reverse.dropWhile isBlank = (x :: ds).reverse :=
        dropWhile_isBlank_eq (by rwa [List.head?_reverse])
      rw [hfront', List.reverse_append, List.dropWhile_append_of_pos hbehind, hend,
        List.reverse_reverse]

/-- A text without blanks is left as it is. -/
theorem trim_eq_self (h : ∀ x ∈ cs, ¬ isBlank x) : trim cs = cs :=
  trim_eq_iff.2 ⟨⟨[], [], by simp, by simp, by simp⟩,
    fun x hx => h x (List.mem_of_mem_head? hx), fun x hx => h x (List.mem_of_mem_getLast? hx)⟩

/-- Nothing is left of a text just when it is blank. -/
theorem trim_eq_nil_iff : trim cs = [] ↔ ∀ x ∈ cs, isBlank x := by
  rw [trim_eq_iff]
  constructor
  · rintro ⟨⟨front, back, rfl, hfront, hback⟩, -, -⟩ x hx
    rw [List.append_nil] at hx
    exact (List.mem_append.1 hx).elim (hfront x) (hback x)
  · intro h
    exact ⟨⟨cs, [], by simp, h, by simp⟩, by simp, by simp⟩

end NodeSidecar.Text
