import NodeSidecar.Proofs.Wire.ResultSet
/-!
# Wire — what a result costs

How many octets a result takes. A column takes four octets at least and a cell
four, so counts of columns and cells that are larger than what is left of the
body are refused. A row takes as many octets as its cells do: without columns it
takes none, and then any count of rows is believed (`rows_are_backed`).
-/

namespace NodeSidecar.Wire

open Text (Octets)
open Read (Reads Short Signed32)

variable {octets rest tail : Octets} {names : List String} {rows : List Row} {n : Int}

/-- How many cells rows have, all together. -/
def cellCount (rows : List Row) : Nat :=
  (rows.flatMap (·.cells)).length

/-! ## How long the parts are -/

@[simp] theorem length_putSigned (n : Int) : (putSigned n).length = 4 := rfl

theorem Cell.four_le_length_encode (c : Cell) : 4 ≤ c.encode.length := by
  cases c with
  | null length => simp [Cell.encode]
  | octets value => simp [Cell.encode]

theorem two_le_length_putText (s : String) : 2 ≤ (putText s).length := by
  simp [putText, put16]

theorem ColumnType.two_le_length_encode (t : ColumnType) : 2 ≤ t.encode.length := by
  cases t <;> simp [ColumnType.encode, put16]

theorem Column.four_le_length_encode (c : Column) : 4 ≤ c.encode.length := by
  have hname := two_le_length_putText c.name
  have htype := c.type.two_le_length_encode
  simp only [Column.encode, List.length_append]
  omega

/-- What takes so many octets at least takes as many for each. -/
theorem mul_length_le_length_flatMap {δ : Type} {encode : δ → Octets} {least : Nat}
    {ds : List δ} (h : ∀ d ∈ ds, least ≤ (encode d).length) :
    least * ds.length ≤ (ds.flatMap encode).length := by
  induction ds with
  | nil => simp
  | cons d ds ih =>
    obtain ⟨hd, hds⟩ := List.forall_mem_cons.1 h
    have hrest := ih hds
    rw [List.length_cons, List.flatMap_cons, List.length_append, Nat.mul_succ]
    omega

/-- Rows take four octets for each of their cells. -/
theorem length_cells_le {width : Nat} {cells : List (List Cell)}
    (h : ∀ cs ∈ cells, cs.length = width) :
    4 * width * cells.length ≤ (cells.flatMap (·.flatMap Cell.encode)).length := by
  refine mul_length_le_length_flatMap fun cs hcs => ?_
  rw [← h cs hcs]
  exact mul_length_le_length_flatMap fun c _ => c.four_le_length_encode

/-! ## How many cells there are -/

theorem length_rowOf {cells : List Cell} (h : cells.length = names.length) :
    (rowOf names cells).cells.length = names.length := by
  simp [rowOf, h]

/-- Each row has a cell for every column. -/
theorem cellCount_rowOf {cells : List (List Cell)} (h : ∀ cs ∈ cells, cs.length = names.length) :
    cellCount (cells.map (rowOf names)) = names.length * cells.length := by
  induction cells with
  | nil => rfl
  | cons cs cells ih =>
    obtain ⟨hcs, hcells⟩ := List.forall_mem_cons.1 h
    have hrest := ih hcells
    simp only [cellCount, List.map_cons, List.flatMap_cons, List.length_append,
      List.length_cons] at hrest ⊢
    rw [hrest, length_rowOf hcs, Nat.mul_succ, Nat.add_comm]

namespace ResultSet

variable {s : ResultSet}

/-- The octets in front of the count of rows. -/
def head (s : ResultSet) : Octets :=
  s.opening ++ s.columns.flatMap Column.encode

theorem length_names (s : ResultSet) : s.names.length = s.columns.length := by
  simp [names]

theorem Fits.cellCount_value (h : s.Fits) :
    cellCount s.value = s.columns.length * s.rows.length := by
  have hwidth (cs) (hcs : cs ∈ s.rows) : cs.length = s.names.length := by
    rw [length_names]
    exact (h.rows cs hcs).1
  rw [value, cellCount_rowOf hwidth, length_names]

/-- There are no more rows than cells, unless the rows have no cells. -/
theorem Fits.length_value_le (h : s.Fits) :
    s.value.length ≤ cellCount s.value ∨ ∀ row ∈ s.value, row.cells = [] := by
  rcases Nat.eq_zero_or_pos s.columns.length with hnone | hsome
  · refine .inr fun row hrow => ?_
    obtain ⟨cells, -, rfl⟩ := List.mem_map.1 hrow
    have hnames : s.names = [] := List.length_eq_zero_iff.1 (s.length_names.trans hnone)
    rw [hnames]
    rfl
  · refine .inl ?_
    rw [h.cellCount_value, value, List.length_map]
    exact Nat.le_mul_of_pos_left _ hsome

/-- **A result set takes four octets for each column and each cell.** -/
theorem Fits.length_encode (h : s.Fits) :
    16 + 4 * s.columns.length + 4 * cellCount s.value ≤ s.encode.length := by
  have hcolumns : 4 * s.columns.length ≤ (s.columns.flatMap Column.encode).length :=
    mul_length_le_length_flatMap fun c _ => c.four_le_length_encode
  have hrows := length_cells_le fun cs hcs => (h.rows cs hcs).1
  rw [Nat.mul_assoc] at hrows
  simp only [encode, encodeTable, List.length_append, length_putSigned, h.cellCount_value]
  omega

/-! ## Reading up to the count of rows -/

/-- **What is in front of the count of rows is read**, whatever follows. -/
theorem Fits.readResult_head (h : s.Fits) (hs : s.Shallow) (rest : Octets) :
    readResult (s.head ++ rest) = readHeight s.names rest := by
  have hcolumns : ((columnFormat s.table.isSome).listOf s.columns.length).Fits s.columns :=
    ⟨rfl, fun c hc => h.column hs hc⟩
  rw [head, List.append_assoc, h.readResult_opening]
  exact (Read.reads_gather (reads_column _) _).andThen_of_fits hcolumns _

end ResultSet

/-! ## Counts that are refused -/

/-- The body is refused, and what is wrong with it is told. -/
def Refused (body : Octets) : Prop :=
  ∃ detail, (parseRows body).mapError Flaw.fault = .error (.protocol detail)

/-- What is not read is refused. -/
theorem refused_of_ne_ok {body : Octets} (h : ∀ rows, parseRows body ≠ .ok rows) :
    Refused body := by
  rcases hparse : parseRows body with flaw | rows
  · exact ⟨flaw.message, by rw [hparse]; rfl⟩
  · exact absurd hparse (h rows)

/-- Numbers that are written alike are the same. -/
theorem putSigned_append_inj {m n : Int} (hm : Signed32 m) (hn : Signed32 n)
    (h : putSigned m ++ rest = putSigned n ++ tail) : m = n ∧ rest = tail := by
  have hread : (Except.ok m, rest) = ((.ok n : Except Flaw Int), tail) :=
    (Read.reads_i32.of_fits hm rest).symm.trans
      ((congrArg Read.i32 h).trans (Read.reads_i32.of_fits hn tail))
  obtain ⟨hnumber, hrest⟩ := Prod.mk.inj hread
  exact ⟨Except.ok.inj hnumber, hrest⟩

theorem readResult_of_parseRows {body : Octets} (h : parseRows body = .ok rows) :
    readResult body = (.ok rows, (readResult body).2) :=
  Prod.ext h rfl

/-- A result that holds rows and is parsed was written. -/
theorem exists_of_parseRows {body : Octets} (hkind : (Read.i32 body).1 = .ok rowsKind)
    (h : parseRows body = .ok rows) :
    ∃ (s : ResultSet) (trailing : Octets), s.Fits ∧ body = s.encode ++ trailing ∧
      s.value = rows := by
  obtain ⟨s, hfits, -, hbody, hvalue⟩ :=
    ResultSet.exists_of_readResult hkind (readResult_of_parseRows h)
  exact ⟨s, _, hfits, hbody, hvalue⟩

/-- A result of another kind than rows has none. -/
theorem rows_eq_nil {body : Octets} (hkind : (Read.i32 body).1 ≠ .ok rowsKind)
    (h : parseRows body = .ok rows) : rows = [] := by
  obtain ⟨kind, mid, hsigned, rfl, hrest⟩ :=
    Read.i32_andThen_eq_ok_iff.1 (readResult_of_parseRows h)
  have hother : kind ≠ rowsKind := by
    rintro rfl
    exact hkind (congrArg Prod.fst (Read.reads_i32.of_fits hsigned mid))
  rw [if_neg hother] at hrest
  exact (Read.done_eq_ok_iff.1 hrest).1.symm

/-- **Columns that are read are backed by octets.** -/
theorem width_le_of_parseRows {flags width : Int} (hwidth : Signed32 width)
    (h : parseRows (putSigned rowsKind ++ putSigned flags ++ putSigned width ++ tail) =
      .ok rows) : 0 ≤ width ∧ 4 * width ≤ tail.length := by
  have hkind : Signed32 rowsKind := ⟨by decide, by decide⟩
  simp only [List.append_assoc] at h
  obtain ⟨s, trailing, hfits, hbody, -⟩ := exists_of_parseRows
    (congrArg Prod.fst (Read.reads_i32.of_fits hkind _)) h
  have hlong := hfits.length_encode
  have hsize := congrArg List.length hbody
  have hwide := hfits.width
  simp only [List.length_append, length_putSigned] at hsize
  simp only [ResultSet.encode, List.append_assoc] at hbody
  obtain ⟨-, hflags⟩ := List.append_inj hbody rfl
  obtain ⟨-, hcount⟩ := List.append_inj hflags rfl
  obtain ⟨rfl, -⟩ := putSigned_append_inj hwidth ⟨by omega, by omega⟩ hcount
  omega

/-- **Rows that are read are backed by octets**, as far as they have cells. -/
theorem height_le_of_readHeight (hn : Signed32 n)
    (h : readHeight names (putSigned n ++ tail) = (.ok rows, rest)) :
    0 ≤ n ∧ 4 * names.length * n ≤ tail.length := by
  rw [readHeight, Read.i32_andThen hn] at h
  split at h
  · exact absurd h Read.fail_ne_ok
  · obtain ⟨cells, ⟨hheight, hcells⟩, -, rfl⟩ := (Read.reads_gather (reads_row names) _ _ _ _).1 h
    have hlength : cells.length = n.toNat := hheight
    obtain rfl : n = cells.length := by omega
    have hlong : 4 * names.length * cells.length ≤
        (((rowFormat names).listOf cells.length).encode cells).length :=
      length_cells_le fun cs hcs => (hcells cs hcs).1
    refine ⟨by omega, ?_⟩
    rw [List.length_append]
    exact_mod_cast Nat.le_add_right_of_le hlong

/-- Without columns, rows are read from nothing. -/
theorem readHeight_nil (hn : Signed32 n) (hpos : 0 ≤ n) (tail : Octets) :
    readHeight [] (putSigned n ++ tail) = (.ok (List.replicate n.toNat ⟨[]⟩), tail) := by
  have hcells : ((rowFormat []).listOf n.toNat).Fits (List.replicate n.toNat []) := by
    simp [Format.listOf, rowFormat]
  have hnothing : ((rowFormat []).listOf n.toNat).encode (List.replicate n.toNat []) = [] := by
    simp [Format.listOf, rowFormat]
  have hread := (Read.reads_gather (reads_row []) n.toNat).of_fits hcells tail
  rw [hnothing, List.nil_append] at hread
  rw [readHeight, Read.i32_andThen hn, if_neg (by omega), hread]
  simp [Format.listOf, rowFormat, rowOf]

/-! ## All together -/

/-- **What a result holds is backed by its octets, but for rows without cells.**
A result that is read has at most a cell for every four octets and a row for
every four octets, unless its rows have no cells. A count of columns or of rows
that is negative, or whose cells would take more octets than follow, is refused.
But where there are no columns, any count of rows is believed, and nothing need
follow. -/
theorem rows_are_backed (body : Octets) :
    (∀ rows, parseRows body = .ok rows → 4 * cellCount rows ≤ body.length ∧
      (4 * rows.length ≤ body.length ∨ ∀ row ∈ rows, row.cells = [])) ∧
    (∀ (flags width : Int) (tail : Octets), Signed32 width →
      body = putSigned rowsKind ++ putSigned flags ++ putSigned width ++ tail →
      width < 0 ∨ tail.length < 4 * width → Refused body) ∧
    ∀ (s : ResultSet) (n : Int) (tail : Octets), s.Fits → s.Shallow → Signed32 n →
      body = s.head ++ putSigned n ++ tail →
      (n < 0 ∨ tail.length < 4 * s.columns.length * n → Refused body) ∧
      (s.columns = [] → 0 ≤ n → parseRows body = .ok (List.replicate n.toNat ⟨[]⟩)) := by
  refine ⟨fun rows h => ?_, fun flags width tail hwidth hbody hcount => ?_,
    fun s n tail hfits hshallow hn hbody => ⟨fun hcount => ?_, fun hcolumns hpos => ?_⟩⟩
  · by_cases hkind : (Read.i32 body).1 = .ok rowsKind
    · obtain ⟨s, trailing, hfits, rfl, rfl⟩ := exists_of_parseRows hkind h
      have hlong := hfits.length_encode
      rw [List.length_append]
      refine ⟨by omega, hfits.length_value_le.imp (fun hle => by omega) id⟩
    · rw [rows_eq_nil hkind h]
      exact ⟨Nat.zero_le _, .inl (Nat.zero_le _)⟩
  · subst hbody
    refine refused_of_ne_ok fun rows h => ?_
    have hbacked := width_le_of_parseRows hwidth h
    omega
  · subst hbody
    refine refused_of_ne_ok fun rows h => ?_
    have hread := readResult_of_parseRows h
    rw [List.append_assoc, hfits.readResult_head hshallow] at hread
    have hbacked := height_le_of_readHeight hn hread
    rw [s.length_names] at hbacked
    omega
  · have hnames : s.names = [] := by simp [ResultSet.names, hcolumns]
    rw [hbody, parseRows, Read.run, List.append_assoc, hfits.readResult_head hshallow, hnames,
      readHeight_nil hn hpos]

namespace ResultSet

/-- A result set without columns. -/
def columnless : ResultSet where
  spare := 0
  paging := none
  table := none
  columns := []
  rows := []

theorem fits_columnless : columnless.Fits where
  spare := by decide
  paging := by simp [columnless]
  table := by simp [columnless]
  width := by decide
  columns := by simp [columnless]
  height := by decide
  rows := by simp [columnless]

theorem shallow_columnless : columnless.Shallow := by
  simp [Shallow, columnless]

end ResultSet

/-- The largest count is refused of columns and of rows with a cell, and
believed of rows without cells. -/
theorem largest_count_refused_or_believed :
    parseRows (ResultSet.nestedLists 0).encode =
        .ok [⟨[("v", none)]⟩, ⟨[("v", some [7])]⟩] ∧
      4 * cellCount [⟨[("v", none)]⟩, ⟨[("v", some [7])]⟩] ≤
        (ResultSet.nestedLists 0).encode.length ∧
      Refused (putSigned rowsKind ++ putSigned 1 ++ putSigned 2147483647 ++
        (putText "system" ++ putText "local" ++ putText "c")) ∧
      Refused ((ResultSet.nestedLists 0).head ++ putSigned 2147483647 ++
        [0, 0, 0, 5, 52, 46, 48, 46, 48]) ∧
      parseRows (ResultSet.columnless.head ++ putSigned 2147483647 ++ []) =
        .ok (List.replicate (2147483647 : Int).toNat ⟨[]⟩) := by
  have hlargest : Signed32 2147483647 := ⟨by decide, by decide⟩
  have hread : parseRows (ResultSet.nestedLists 0).encode =
      .ok [⟨[("v", none)]⟩, ⟨[("v", some [7])]⟩] := by decide +kernel
  have hshallow := ResultSet.shallow_nestedLists_iff.2 (Nat.zero_le nestingLimit)
  refine ⟨hread, ((rows_are_backed _).1 _ hread).1,
    (rows_are_backed _).2.1 _ _ _ hlargest rfl (.inr (by decide)), ?_, ?_⟩
  · exact ((rows_are_backed _).2.2 _ _ _ (ResultSet.fits_nestedLists 0) hshallow hlargest rfl).1
      (.inr (by decide))
  · exact ((rows_are_backed _).2.2 _ _ _ ResultSet.fits_columnless ResultSet.shallow_columnless
      hlargest rfl).2 rfl (by decide)

/-- It is not so that a result has no more rows than octets: seventeen rows
without cells are read from sixteen octets. -/
theorem rows_outnumber_octets : ¬ ∀ (body : Octets) (rows : List Row),
    parseRows body = .ok rows → rows.length ≤ body.length := by
  intro hbacked
  have hread : parseRows [0, 0, 0, 2, 0, 0, 0, 0, 0, 0, 0, 0, 0, 0, 0, 17] =
      .ok (List.replicate 17 ⟨[]⟩) := by decide +kernel
  exact absurd (hbacked _ _ hread) (by decide)

end NodeSidecar.Wire
