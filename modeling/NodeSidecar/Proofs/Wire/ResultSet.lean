import NodeSidecar.Proofs.Wire.ColumnType
/-!
# Wire — result sets

The format of a result that holds rows: flags, the number of columns, perhaps a
paging state, a table for all columns or one for each, the columns, the rows.
Reading a result answers the rows of what was written, refuses a result set in
which a type is nested too deep, and answers nothing else.
-/

namespace NodeSidecar.Wire

open Text (Octets)
open Read (Reads Short Signed32)

variable {α β δ : Type} {r : Read α} {f : Format δ α} {octets rest : Octets} {b : β}

/-! ## The parts of a result set -/

/-- A cell as it is written. -/
inductive Cell where
  /-- Null, as some negative length. -/
  | null (length : Int)
  | octets (value : Octets)

namespace Cell

/-- What the cell holds. -/
def value : Cell → Option Octets
  | .null _ => none
  | .octets value => some value

/-- The length is negative just when the cell is null, and has room in four
octets. -/
def Fits : Cell → Prop
  | .null length => -2147483648 ≤ length ∧ length < 0
  | .octets value => value.length < 2147483648

/-- The octets of the cell. -/
def encode : Cell → Octets
  | .null length => putSigned length
  | .octets value => putSigned value.length ++ value

end Cell

/-- A table and its keyspace. -/
structure Table where
  /-- The keyspace. -/
  keyspace : String
  /-- The name of the table. -/
  name : String

namespace Table

/-- Both names fit where they are written. -/
def Fits (t : Table) : Prop :=
  Short t.keyspace ∧ Short t.name

/-- The octets of the two names. -/
def encode (t : Table) : Octets :=
  putText t.keyspace ++ putText t.name

end Table

/-- The octets of what is there, or none. -/
def putOptional (encode : δ → Octets) : Option δ → Octets
  | none => []
  | some d => encode d

/-- A column. -/
structure Column where
  /-- The table of the column, unless one is named for all columns. -/
  table : Option Table
  /-- The name of the column. -/
  name : String
  /-- Its type. -/
  type : ColumnType

namespace Column

/-- All names and numbers fit where they are written. -/
def Fits (c : Column) : Prop :=
  (∀ t ∈ c.table, t.Fits) ∧ Short c.name ∧ c.type.Fits

/-- The octets of the column. -/
def encode (c : Column) : Octets :=
  putOptional Table.encode c.table ++ putText c.name ++ c.type.encode

end Column

/-- A result set as it is written. -/
structure ResultSet where
  /-- The bits of the flags that say nothing of how it is written. -/
  spare : Int
  /-- The paging state. -/
  paging : Option Cell
  /-- The table of all columns, if it is named once. -/
  table : Option Table
  /-- The columns. -/
  columns : List Column
  /-- The rows, each with a cell for every column. -/
  rows : List (List Cell)

/-- The row that cells make under these names. -/
def rowOf (names : List String) (cells : List Cell) : Row :=
  ⟨List.zipWith (fun name cell => (name, cell.value)) names cells⟩

namespace ResultSet

/-- The flags: whether one table is named for all columns, whether a paging
state follows, and that the columns are not left out. -/
def flags (s : ResultSet) : Int :=
  8 * s.spare + (if s.paging.isSome then 2 else 0) + (if s.table.isSome then 1 else 0)

/-- The names of the columns. -/
def names (s : ResultSet) : List String :=
  s.columns.map Column.name

/-- What the result set says: its rows, each cell under the name of its
column. -/
def value (s : ResultSet) : List Row :=
  s.rows.map (rowOf s.names)

/-- The octets of the columns and the rows. -/
def encodeTable (s : ResultSet) : Octets :=
  s.columns.flatMap Column.encode ++ putSigned s.rows.length ++
    s.rows.flatMap (·.flatMap Cell.encode)

/-- The octets in front of the columns. -/
def opening (s : ResultSet) : Octets :=
  putSigned rowsKind ++ putSigned s.flags ++ putSigned s.columns.length ++
    putOptional Cell.encode s.paging ++ putOptional Table.encode s.table

/-- The octets of the result set. -/
def encode (s : ResultSet) : Octets :=
  putSigned rowsKind ++ putSigned s.flags ++ putSigned s.columns.length ++
    putOptional Cell.encode s.paging ++ putOptional Table.encode s.table ++ s.encodeTable

/-- All names, numbers and cells fit where they are written, each column has a
table of its own unless one is named for all, and each row has as many cells as
there are columns. -/
structure Fits (s : ResultSet) : Prop where
  spare : -268435456 ≤ s.spare ∧ s.spare < 268435456
  paging : ∀ c ∈ s.paging, c.Fits
  table : ∀ t ∈ s.table, t.Fits
  width : s.columns.length < 2147483648
  columns : ∀ c ∈ s.columns, c.Fits ∧ c.table.isNone = s.table.isSome
  height : s.rows.length < 2147483648
  rows : ∀ cells ∈ s.rows, cells.length = s.columns.length ∧ ∀ c ∈ cells, c.Fits

/-- No type node of any column has more enclosing types than are allowed. -/
def Shallow (s : ResultSet) : Prop :=
  ∀ c ∈ s.columns, ∀ k q, c.type.Node k q → k ≤ nestingLimit

end ResultSet

/-! ## Reading the parts -/

/-- **A cell is read as it is written.** -/
theorem reads_cell : Reads Read.octets ⟨Cell.Fits, Cell.value, Cell.encode⟩ := by
  intro octets o rest
  rw [Read.octets, Read.i32_andThen_eq_ok_iff]
  constructor
  · rintro ⟨length, mid, ⟨hlow, hhigh⟩, rfl, hread⟩
    split at hread
    · rename_i hneg
      obtain ⟨rfl, rfl⟩ := Read.done_eq_ok_iff.1 hread
      exact ⟨.null length, ⟨hlow, hneg⟩, rfl, rfl⟩
    · obtain ⟨taken, left, htake, hdone⟩ := Read.andThen_eq_ok_iff.1 hread
      obtain ⟨rfl, rfl⟩ := Read.done_eq_ok_iff.1 hdone
      obtain ⟨hlong, rfl⟩ := Read.take_eq_ok_iff.1 htake
      have htaken : taken.length = length.toNat := hlong
      have hback : (taken.length : Int) = length := by omega
      refine ⟨.octets taken, ?_, rfl, ?_⟩
      · simp only [Cell.Fits]
        omega
      · simp [Cell.encode, hback]
  · rintro ⟨c, hc, rfl, rfl⟩
    cases c with
    | null length =>
      obtain ⟨hlow, hneg⟩ := hc
      refine ⟨length, rest, ⟨hlow, by omega⟩, rfl, ?_⟩
      rw [if_pos hneg]
      rfl
    | octets value =>
      have hlong : value.length < 2147483648 := hc
      refine ⟨value.length, value ++ rest, ⟨by omega, by omega⟩, ?_, ?_⟩
      · simp [Cell.encode]
      · rw [if_neg (by omega)]
        exact Read.andThen_eq_ok_iff.2
          ⟨value, rest, Read.take_eq_ok_iff.2 ⟨by simp, rfl⟩, Read.done_eq_ok_iff.2 ⟨rfl, rfl⟩⟩

theorem reads_table : Reads skipTable ⟨Table.Fits, fun _ => (), Table.encode⟩ := by
  intro octets u rest
  rw [skipTable, Read.reads_text.andThen_eq_ok_iff]
  constructor
  · rintro ⟨keyspace, left, hkeyspace, rfl, hread⟩
    obtain ⟨name, left₁, hname, rfl, hdone⟩ := Read.reads_text.andThen_eq_ok_iff.1 hread
    obtain ⟨-, rfl⟩ := Read.done_eq_ok_iff.1 hdone
    exact ⟨⟨keyspace, name⟩, ⟨hkeyspace, hname⟩, rfl, by simp [Table.encode]⟩
  · rintro ⟨⟨keyspace, name⟩, ⟨hkeyspace, hname⟩, -, rfl⟩
    refine ⟨keyspace, putText name ++ rest, hkeyspace, by simp [Table.encode], ?_⟩
    exact Read.reads_text.andThen_of_fits hname rest

/-- What may be there and is not asked for is read over. -/
theorem optional_of_fits (h : Reads r f) {o : Option δ} (ho : ∀ d ∈ o, f.Fits d) {k : Read β}
    (rest : Octets) :
    (if o.isSome = true then r >>= fun _ => k else k) (putOptional f.encode o ++ rest) =
      k rest := by
  cases o with
  | none => rfl
  | some d => exact h.andThen_of_fits (ho d rfl) rest

theorem optional_eq_ok_iff (h : Reads r f) {c : Bool} {k : Read β} :
    (if c = true then r >>= fun _ => k else k) octets = (.ok b, rest) ↔
      ∃ o : Option δ, o.isSome = c ∧ (∀ d ∈ o, f.Fits d) ∧
        ∃ mid, octets = putOptional f.encode o ++ mid ∧ k mid = (.ok b, rest) := by
  constructor
  · intro hread
    cases c with
    | false => exact ⟨none, rfl, nofun, octets, rfl, hread⟩
    | true =>
      obtain ⟨d, mid, hd, rfl, hk⟩ := h.andThen_eq_ok_iff.1 hread
      exact ⟨some d, rfl, by simpa using hd, mid, rfl, hk⟩
  · rintro ⟨o, rfl, ho, mid, rfl, hk⟩
    rw [optional_of_fits h ho]
    exact hk

/-- The columns that are read when a table is named for all of them, or for
none. -/
def columnFormat (shared : Bool) : Format Column String where
  Fits c := c.Fits ∧ c.table.isNone = shared ∧ c.type.Within (nestingLimit + 1)
  value := Column.name
  encode := Column.encode

/-- The name and the type of a column. -/
def readNamed : Read String := do
  let name ← Read.text
  skipType (nestingLimit + 1)
  Read.done name

theorem readColumn_eq (shared : Bool) : readColumn shared =
    if (!shared) = true then skipTable >>= fun _ => readNamed else readNamed := by
  cases shared <;> rfl

theorem reads_column (shared : Bool) : Reads (readColumn shared) (columnFormat shared) := by
  intro octets name rest
  rw [readColumn_eq, optional_eq_ok_iff reads_table]
  constructor
  · rintro ⟨table, htable, hfits, mid, rfl, hread⟩
    obtain ⟨name', left, hname, rfl, hread₁⟩ := Read.reads_text.andThen_eq_ok_iff.1 hread
    obtain ⟨t, left₁, ⟨ht, hw⟩, rfl, hdone⟩ :=
      ColumnType.reads_skipType.andThen_eq_ok_iff.1 hread₁
    obtain ⟨rfl, rfl⟩ := Read.done_eq_ok_iff.1 hdone
    refine ⟨⟨table, name', t⟩, ⟨⟨hfits, hname, ht⟩, ?_, hw⟩, rfl, ?_⟩
    · cases table <;> simp_all
    · simp [columnFormat, Column.encode, ColumnType.format]
  · rintro ⟨⟨table, name', t⟩, ⟨⟨hfits, hname, ht⟩, hshared, hw⟩, rfl, rfl⟩
    refine ⟨table, ?_, hfits, putText name' ++ (t.encode ++ rest), ?_, ?_⟩
    · cases table <;> simp_all
    · simp [columnFormat, Column.encode]
    · have htype : (ColumnType.format (nestingLimit + 1)).Fits t := ⟨ht, hw⟩
      exact (Read.reads_text.andThen_of_fits hname _).trans
        (ColumnType.reads_skipType.andThen_of_fits htype rest)

/-- A column in whose type some type is nested too deep is refused. -/
theorem readColumn_of_deep {c : Column} (hfits : c.Fits)
    (hdeep : ¬ c.type.Within (nestingLimit + 1)) (rest : Octets) :
    (readColumn c.table.isNone (c.encode ++ rest)).1 = .error .nesting := by
  obtain ⟨htable, hname, htype⟩ := hfits
  have hnamed : (readNamed (putText c.name ++ (c.type.encode ++ rest))).1 = .error .nesting := by
    rw [readNamed, Read.text_andThen hname]
    exact Read.andThen_of_error (ColumnType.skipType_of_deep htype hdeep rest)
  rw [readColumn_eq, Option.not_isNone]
  simp only [Column.encode, List.append_assoc]
  exact (congrArg Prod.fst (optional_of_fits reads_table htable _)).trans hnamed

/-- The rows that are read under these names. -/
def rowFormat (names : List String) : Format (List Cell) Row where
  Fits cells := cells.length = names.length ∧ ∀ c ∈ cells, c.Fits
  value := rowOf names
  encode := List.flatMap Cell.encode

theorem reads_row (names : List String) : Reads (readRow names) (rowFormat names) := by
  have hcell (name : String) : Reads
      (do let cell ← Read.octets; Read.done (name, cell) : Read (String × Option Octets))
      ⟨Cell.Fits, fun cell => (name, cell.value), Cell.encode⟩ := by
    intro octets pair rest
    rw [reads_cell.andThen_eq_ok_iff]
    constructor
    · rintro ⟨c, mid, hc, rfl, hdone⟩
      obtain ⟨rfl, rfl⟩ := Read.done_eq_ok_iff.1 hdone
      exact ⟨c, hc, rfl, rfl⟩
    · rintro ⟨c, hc, rfl, rfl⟩
      exact ⟨c, rest, hc, rfl, rfl⟩
  intro octets row rest
  rw [readRow, (Read.reads_forEach hcell names).andThen_eq_ok_iff]
  constructor
  · rintro ⟨cells, mid, hcells, rfl, hdone⟩
    obtain ⟨rfl, rfl⟩ := Read.done_eq_ok_iff.1 hdone
    exact ⟨cells, hcells, rfl, rfl⟩
  · rintro ⟨cells, hcells, rfl, rfl⟩
    exact ⟨cells, rest, hcells, rfl, rfl⟩

/-! ## Reading a whole result set -/

/-- What is read of a result once its columns are: the rows. -/
def readHeight (names : List String) : Read (List Row) := do
  let height ← Read.i32
  if height < 0 then Read.fail (.rowCount height)
  else Read.gather height.toNat (readRow names)

/-- What is read of a result once its head is: the columns and the rows. -/
def readTable (shared : Bool) (width : Nat) : Read (List Row) := do
  let names ← Read.gather width (readColumn shared)
  readHeight names

/-- What is read of a result after the paging state. -/
def readUnpaged (flags : Int) (width : Nat) : Read (List Row) :=
  if hasFlag flags noMetadataBit then Read.fail .noMetadata
  else if hasFlag flags globalTableBit then
    skipTable >>= fun _ => readTable (hasFlag flags globalTableBit) width
  else readTable (hasFlag flags globalTableBit) width

theorem readRows_eq : readRows = Read.i32 >>= fun flags => Read.i32 >>= fun width =>
    if width < 0 then Read.fail (.columnCount width)
    else if hasFlag flags morePagesBit then
      Read.octets >>= fun _ => readUnpaged flags width.toNat
    else readUnpaged flags width.toNat := rfl

theorem hasFlag_globalTableBit {flags : Int} :
    hasFlag flags globalTableBit = true ↔ flags % 2 = 1 := by
  simp [hasFlag, globalTableBit]

theorem hasFlag_morePagesBit {flags : Int} :
    hasFlag flags morePagesBit = true ↔ flags / 2 % 2 = 1 := by
  simp [hasFlag, morePagesBit]

theorem hasFlag_noMetadataBit {flags : Int} :
    hasFlag flags noMetadataBit = true ↔ flags / 4 % 2 = 1 := by
  have hfour : ((Nat.pow 2 2 : Nat) : Int) = 4 := rfl
  rw [hasFlag, noMetadataBit, decide_eq_true_iff, hfour]

/-- Flags are what three of their bits say and what the spare bits are. -/
theorem eq_spare_of_flags {flags : Int} (h : ¬ hasFlag flags noMetadataBit = true) :
    flags = 8 * (flags / 8) + (if hasFlag flags morePagesBit = true then 2 else 0) +
      (if hasFlag flags globalTableBit = true then 1 else 0) := by
  rw [hasFlag_noMetadataBit] at h
  simp only [hasFlag_morePagesBit, hasFlag_globalTableBit]
  split <;> split <;> omega

namespace ResultSet

variable {s : ResultSet}

theorem flags_globalTableBit (s : ResultSet) :
    hasFlag s.flags globalTableBit = s.table.isSome := by
  rw [Bool.eq_iff_iff, hasFlag_globalTableBit, flags]
  cases s.table.isSome <;> cases s.paging.isSome <;> simp <;> omega

theorem flags_morePagesBit (s : ResultSet) :
    hasFlag s.flags morePagesBit = s.paging.isSome := by
  rw [Bool.eq_iff_iff, hasFlag_morePagesBit, flags]
  cases s.table.isSome <;> cases s.paging.isSome <;> simp <;> omega

theorem flags_noMetadataBit (s : ResultSet) : ¬ hasFlag s.flags noMetadataBit = true := by
  rw [hasFlag_noMetadataBit, flags]
  cases s.table.isSome <;> cases s.paging.isSome <;> simp <;> omega

theorem Fits.signed32_flags (h : s.Fits) : Signed32 s.flags := by
  obtain ⟨hlow, hhigh⟩ := h.spare
  unfold flags Signed32
  cases s.table.isSome <;> cases s.paging.isSome <;> simp <;> omega

/-- A result set without types that are nested too deep has columns that are
read. -/
theorem Fits.column (h : s.Fits) (hs : s.Shallow) {c : Column} (hc : c ∈ s.columns) :
    (columnFormat s.table.isSome).Fits c :=
  ⟨(h.columns c hc).1, (h.columns c hc).2, fun k q hq => Nat.lt_succ_of_le (hs c hc k q hq)⟩

/-! ### What is written is read -/

/-- **The opening of what is written is read**, and the columns and rows are
left, whatever they are. -/
theorem Fits.readResult_opening (h : s.Fits) (rest : Octets) :
    readResult (s.opening ++ rest) = readTable s.table.isSome s.columns.length rest := by
  have hkind : Signed32 rowsKind := ⟨by decide, by decide⟩
  have hwidth : Signed32 (s.columns.length : Int) := ⟨by omega, by have := h.width; omega⟩
  have hrest : readUnpaged s.flags s.columns.length (putOptional Table.encode s.table ++ rest) =
      readTable s.table.isSome s.columns.length rest := by
    rw [readUnpaged, if_neg s.flags_noMetadataBit, s.flags_globalTableBit]
    exact optional_of_fits reads_table h.table _
  simp only [opening, List.append_assoc]
  rw [readResult, Read.i32_andThen hkind, if_pos rfl, readRows_eq,
    Read.i32_andThen h.signed32_flags, Read.i32_andThen hwidth, if_neg (by omega),
    Int.toNat_natCast, s.flags_morePagesBit]
  exact (optional_of_fits reads_cell h.paging _).trans hrest

theorem Fits.readResult_encode (h : s.Fits) (rest : Octets) :
    readResult (s.encode ++ rest) =
      readTable s.table.isSome s.columns.length (s.encodeTable ++ rest) := by
  have hencode : s.encode = s.opening ++ s.encodeTable := rfl
  rw [hencode, List.append_assoc, h.readResult_opening]

/-- **The columns and rows of what is written are read.** -/
theorem Fits.readTable_encode (h : s.Fits) (hs : s.Shallow) (rest : Octets) :
    readTable s.table.isSome s.columns.length (s.encodeTable ++ rest) = (.ok s.value, rest) := by
  have hcolumns : ((columnFormat s.table.isSome).listOf s.columns.length).Fits s.columns :=
    ⟨rfl, fun c hc => h.column hs hc⟩
  have hheight : Signed32 (s.rows.length : Int) := ⟨by omega, by have := h.height; omega⟩
  have hnames : s.names.length = s.columns.length := by simp [names]
  have hcells : ((rowFormat s.names).listOf s.rows.length).Fits s.rows :=
    ⟨rfl, fun cells hcells => ⟨(h.rows cells hcells).1.trans hnames.symm, (h.rows cells hcells).2⟩⟩
  have hrows := (Read.reads_gather (reads_row s.names) s.rows.length).of_fits hcells rest
  have hbelow : readHeight s.names (putSigned s.rows.length ++
      (s.rows.flatMap (·.flatMap Cell.encode) ++ rest)) = (.ok s.value, rest) := by
    rw [readHeight, Read.i32_andThen hheight, if_neg (by omega), Int.toNat_natCast]
    exact hrows
  simp only [encodeTable, List.append_assoc]
  exact ((Read.reads_gather (reads_column _) _).andThen_of_fits hcolumns _).trans hbelow

/-- **A column in which some type is nested too deep is where reading stops.** -/
theorem Fits.readTable_of_deep (h : s.Fits) (hs : ¬ s.Shallow) (rest : Octets) :
    (readTable s.table.isSome s.columns.length (s.encodeTable ++ rest)).1 =
      .error .nesting := by
  simp only [Shallow, not_forall, Nat.not_le] at hs
  obtain ⟨c, hc, k, q, hq, hk⟩ := hs
  have hdeep : ¬ c.type.Within (nestingLimit + 1) := by
    intro hw
    have hlt := hw k q hq
    omega
  have hgood (c) (hc : c ∈ s.columns) (hw : c.type.Within (nestingLimit + 1)) (rest) :
      readColumn s.table.isSome (c.encode ++ rest) = (.ok c.name, rest) := by
    obtain ⟨hfits, hshared⟩ := h.columns c hc
    exact (reads_column s.table.isSome).of_fits (d := c) ⟨hfits, hshared, hw⟩ rest
  have hbad (c) (hc : c ∈ s.columns) (hd : ¬ c.type.Within (nestingLimit + 1)) (rest) :
      (readColumn s.table.isSome (c.encode ++ rest)).1 = .error .nesting := by
    obtain ⟨hfits, hshared⟩ := h.columns c hc
    rw [← hshared]
    exact readColumn_of_deep hfits hd rest
  simp only [encodeTable, List.append_assoc]
  exact Read.andThen_of_error (Read.gather_of_error hgood hbad ⟨c, hc, hdeep⟩ _)

/-! ### What is read was written -/

/-- **Columns and rows that are read were written.** -/
theorem exists_of_readTable {shared : Bool} {width : Nat} {rows : List Row}
    (h : readTable shared width octets = (.ok rows, rest)) :
    ∃ (columns : List Column) (cells : List (List Cell)), columns.length = width ∧
      (∀ c ∈ columns, (columnFormat shared).Fits c) ∧ cells.length < 2147483648 ∧
      (∀ cs ∈ cells, cs.length = width ∧ ∀ c ∈ cs, c.Fits) ∧
      rows = cells.map (rowOf (columns.map Column.name)) ∧
      octets = columns.flatMap Column.encode ++
        (putSigned cells.length ++ (cells.flatMap (·.flatMap Cell.encode) ++ rest)) := by
  obtain ⟨columns, mid, ⟨hlength, hcolumns⟩, rfl, hread⟩ :=
    (Read.reads_gather (reads_column shared) width).andThen_eq_ok_iff.1 h
  obtain ⟨height, left, ⟨hlow, hhigh⟩, rfl, hread₁⟩ := Read.i32_andThen_eq_ok_iff.1 hread
  split at hread₁
  · exact absurd hread₁ Read.fail_ne_ok
  · obtain ⟨cells, ⟨hcells, hrows⟩, rfl, rfl⟩ := (Read.reads_gather (reads_row _) _ _ _ _).1 hread₁
    have hlong : cells.length = height.toNat := hcells
    have hback : (cells.length : Int) = height := by omega
    refine ⟨columns, cells, hlength, hcolumns, by omega, fun cs hcs => ?_, rfl, ?_⟩
    · obtain ⟨hwidth, hfits⟩ := hrows cs hcs
      have hmap : (columns.map Column.name).length = width := by rw [List.length_map, hlength]
      exact ⟨hwidth.trans hmap, hfits⟩
    · rw [hback]
      rfl

/-- **A result that holds rows and is read was written.** -/
theorem exists_of_readResult {rows : List Row} (hkind : (Read.i32 octets).1 = .ok rowsKind)
    (h : readResult octets = (.ok rows, rest)) :
    ∃ s : ResultSet, s.Fits ∧ s.Shallow ∧ octets = s.encode ++ rest ∧ s.value = rows := by
  obtain ⟨kind, mid, hsigned, rfl, hread⟩ := Read.i32_andThen_eq_ok_iff.1 h
  obtain rfl : kind = rowsKind := by
    have hvalue : Read.i32 (putSigned kind ++ mid) = (.ok kind, mid) :=
      Read.reads_i32.of_fits hsigned mid
    simpa [hvalue] using hkind
  rw [if_pos rfl, readRows_eq, Read.i32_andThen_eq_ok_iff] at hread
  obtain ⟨flags, mid₁, hflags, rfl, hread₁⟩ := hread
  obtain ⟨width, mid₂, hwidth, rfl, hread₂⟩ := Read.i32_andThen_eq_ok_iff.1 hread₁
  split at hread₂
  · exact absurd hread₂ Read.fail_ne_ok
  · obtain ⟨paging, hpaging, hcell, mid₃, rfl, hread₃⟩ := (optional_eq_ok_iff reads_cell).1 hread₂
    rw [readUnpaged] at hread₃
    split at hread₃
    · exact absurd hread₃ Read.fail_ne_ok
    · rename_i hwidth₀ hmetadata
      obtain ⟨table, htable, hnames, mid₄, rfl, hread₄⟩ :=
        (optional_eq_ok_iff reads_table).1 hread₃
      obtain ⟨columns, cells, hlength, hcolumns, hheight, hrows, rfl, rfl⟩ :=
        exists_of_readTable hread₄
      have hback : (columns.length : Int) = width := by omega
      have hspare := eq_spare_of_flags hmetadata
      rw [← hpaging, ← htable] at hspare
      obtain ⟨hlow, hhigh⟩ := hflags
      have hroom : -268435456 ≤ flags / 8 ∧ flags / 8 < 268435456 := ⟨by omega, by omega⟩
      refine ⟨⟨flags / 8, paging, table, columns, cells⟩,
        ⟨hroom, hcell, hnames, ?_, fun c hc => ?_, hheight, fun cs hcs => ?_⟩,
        fun c hc k q hq => ?_, ?_, rfl⟩
      · have := hwidth.2
        change columns.length < 2147483648
        omega
      · obtain ⟨hfits, hshared, -⟩ := hcolumns c hc
        exact ⟨hfits, hshared.trans htable.symm⟩
      · obtain ⟨hcount, hfits⟩ := hrows cs hcs
        exact ⟨hcount.trans hlength.symm, hfits⟩
      · obtain ⟨-, -, hwithin⟩ := hcolumns c hc
        exact Nat.le_of_lt_succ (hwithin k q hq)
      · simp only [encode, encodeTable, ResultSet.flags, ← hspare, hback, List.append_assoc]

end ResultSet

/-! ## Reading is exact -/

/-- **Reading a result answers exactly what was written.** The octets of a
result set, and whatever follows them, are read as its rows if no type in it has
more than sixteen enclosing types, and are refused otherwise. A result that
holds rows and is read starts with the octets of such a result set. -/
theorem parseRows_exact :
    (∀ (s : ResultSet) (trailing : Octets), s.Fits →
      (s.Shallow → parseRows (s.encode ++ trailing) = .ok s.value) ∧
      (¬ s.Shallow → (parseRows (s.encode ++ trailing)).mapError Flaw.fault =
        .error (.protocol "column type nested deeper than 16"))) ∧
    ∀ (body : Octets) (rows : List Row),
      (Read.i32.run body).1 = .ok rowsKind → parseRows body = .ok rows →
        ∃ (s : ResultSet) (trailing : Octets), s.Fits ∧ s.Shallow ∧
          body = s.encode ++ trailing ∧ s.value = rows := by
  refine ⟨fun s trailing hfits => ⟨fun hshallow => ?_, fun hdeep => ?_⟩,
    fun body rows hkind hrows => ?_⟩
  · rw [parseRows, Read.run, hfits.readResult_encode, hfits.readTable_encode hshallow]
  · rw [parseRows, Read.run, hfits.readResult_encode, hfits.readTable_of_deep hdeep]
    rfl
  · have hread : readResult body = (.ok rows, (readResult body).2) := Prod.ext hrows rfl
    obtain ⟨s, hfits, hshallow, hbody, hvalue⟩ := ResultSet.exists_of_readResult hkind hread
    exact ⟨s, _, hfits, hshallow, hbody, hvalue⟩

namespace ResultSet

/-- Lists, one in the other. -/
def lists : Nat → ColumnType
  | 0 => .plain 13
  | depth + 1 => .list (lists depth)

/-- A column of lists, one in the other, with a null cell and one of an octet. -/
def nestedLists (depth : Nat) : ResultSet where
  spare := 0
  paging := some (.null (-1))
  table := some ⟨"ks", "t"⟩
  columns := [⟨none, "v", lists depth⟩]
  rows := [[.null (-2)], [.octets [7]]]

theorem node_lists (depth : Nat) :
    (lists depth).Node depth (.plain 13) := by
  induction depth with
  | zero => exact .root
  | succ depth ih => exact .inside (List.mem_singleton_self _) ih

theorem le_of_node_lists {depth k : Nat} {q : ColumnType}
    (h : (lists depth).Node k q) : k ≤ depth ∧ q.Sized := by
  induction depth generalizing k with
  | zero =>
    cases h with
    | root => exact ⟨Nat.le_refl 0, by decide, by decide⟩
    | inside hp _ => exact absurd hp List.not_mem_nil
  | succ depth ih =>
    cases h with
    | root => exact ⟨Nat.zero_le _, trivial⟩
    | inside hp hq =>
      obtain rfl := List.mem_singleton.1 hp
      obtain ⟨hk, hsized⟩ := ih hq
      exact ⟨Nat.succ_le_succ hk, hsized⟩

theorem fits_nestedLists (depth : Nat) : (nestedLists depth).Fits where
  spare := by simp [nestedLists]
  paging := by simp [nestedLists, Cell.Fits]
  table := by
    have hnames : Table.Fits ⟨"ks", "t"⟩ := ⟨by decide, by decide⟩
    simpa [nestedLists] using hnames
  width := by simp [nestedLists]
  columns c hc := by
    obtain rfl := List.mem_singleton.1 hc
    have hname : Short "v" := by decide
    exact ⟨⟨nofun, hname, fun k q hq => (le_of_node_lists hq).2⟩, rfl⟩
  height := by simp [nestedLists]
  rows := by simp [nestedLists, Cell.Fits]

theorem shallow_nestedLists_iff {depth : Nat} :
    (nestedLists depth).Shallow ↔ depth ≤ nestingLimit := by
  constructor
  · intro h
    exact h _ (List.mem_singleton_self _) _ _ (node_lists depth)
  · intro h c hc k q hq
    obtain rfl := List.mem_singleton.1 hc
    exact Nat.le_trans (le_of_node_lists hq).1 h

end ResultSet

/-- Sixteen types around another are read, seventeen are not. -/
theorem nested_lists_read_or_refused :
    parseRows ((ResultSet.nestedLists 16).encode ++ [1]) =
        .ok [⟨[("v", none)]⟩, ⟨[("v", some [7])]⟩] ∧
      (parseRows ((ResultSet.nestedLists 17).encode ++ [1])).mapError Flaw.fault =
        .error (.protocol "column type nested deeper than 16") ∧
      ∃ (s : ResultSet) (trailing : Octets), s.Fits ∧ s.Shallow ∧
        (ResultSet.nestedLists 16).encode ++ [1] = s.encode ++ trailing ∧
        s.value = [⟨[("v", none)]⟩, ⟨[("v", some [7])]⟩] := by
  have hread : parseRows ((ResultSet.nestedLists 16).encode ++ [1]) =
      .ok [⟨[("v", none)]⟩, ⟨[("v", some [7])]⟩] :=
    (parseRows_exact.1 _ [1] (ResultSet.fits_nestedLists 16)).1
      (ResultSet.shallow_nestedLists_iff.2 (Nat.le_refl 16))
  have hdeep : ¬ (ResultSet.nestedLists 17).Shallow := by
    rw [ResultSet.shallow_nestedLists_iff]
    decide
  exact ⟨hread, (parseRows_exact.1 _ [1] (ResultSet.fits_nestedLists 17)).2 hdeep,
    parseRows_exact.2 _ _ (by decide) hread⟩

end NodeSidecar.Wire
