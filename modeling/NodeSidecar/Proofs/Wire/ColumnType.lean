import NodeSidecar.Proofs.Wire.Reading
import NodeSidecar.Wire.Rows
/-!
# Wire — column types

The types that a result can give its columns, as trees, and the octets in which
they are written. `reads_skipType` says that a type is read over by exactly its
own octets if no type in it is nested too deep; `skipType_of_deep` that it is
refused otherwise.
-/

namespace NodeSidecar.Wire

open Text (Octets)
open Read (Reads Short)

/-- The type of a column. -/
inductive ColumnType where
  /-- A type that an id tells. -/
  | plain (id : Nat)
  /-- A type that a class of the server tells. -/
  | custom (className : String)
  | list (items : ColumnType)
  | set (items : ColumnType)
  | map (keys values : ColumnType)
  /-- A type that users declared, with its fields. -/
  | udt (keyspace name : String) (fields : List (String × ColumnType))
  | tuple (items : List ColumnType)

namespace ColumnType

variable {t p q : ColumnType} {room k : Nat} {octets rest : Octets}

/-! ## How types are written -/

mutual
/-- The octets of a type. -/
def encode : ColumnType → Octets
  | plain id => put16 id
  | custom className => put16 0x0000 ++ putText className
  | list items => put16 0x0020 ++ items.encode
  | set items => put16 0x0022 ++ items.encode
  | map keys values => put16 0x0021 ++ keys.encode ++ values.encode
  | udt keyspace name fields =>
    put16 0x0030 ++ putText keyspace ++ putText name ++ put16 fields.length ++
      encodeFields fields
  | tuple items => put16 0x0031 ++ put16 items.length ++ encodeItems items

/-- The octets of fields, each its name and its type. -/
def encodeFields : List (String × ColumnType) → Octets
  | [] => []
  | (name, t) :: fields => putText name ++ t.encode ++ encodeFields fields

/-- The octets of items. -/
def encodeItems : List ColumnType → Octets
  | [] => []
  | t :: items => t.encode ++ encodeItems items
end

theorem encodeFields_eq_flatMap (fields : List (String × ColumnType)) :
    encodeFields fields = fields.flatMap fun f => putText f.1 ++ f.2.encode := by
  induction fields with
  | nil => rfl
  | cons f fields ih => rw [encodeFields, ih, List.flatMap_cons]

theorem encodeItems_eq_flatMap (items : List ColumnType) :
    encodeItems items = items.flatMap encode := by
  induction items with
  | nil => rfl
  | cons t items ih => rw [encodeItems, ih, List.flatMap_cons]

/-! ## The nodes of a type -/

/-- The types that a type is made of. -/
def parts : ColumnType → List ColumnType
  | plain _ | custom _ => []
  | list items | set items => [items]
  | map keys values => [keys, values]
  | udt _ _ fields => fields.map (·.2)
  | tuple items => items

/-- `t.Node k q` says that `q` is a node of the tree `t`, and that `k` types
enclose it. -/
inductive Node : ColumnType → Nat → ColumnType → Prop
  | root {t : ColumnType} : Node t 0 t
  | inside {t p q : ColumnType} {k : Nat} : p ∈ t.parts → Node p k q → Node t (k + 1) q

/-- Fewer than `room` types enclose any node. -/
def Within (room : Nat) (t : ColumnType) : Prop :=
  ∀ k q, t.Node k q → k < room

/-- The ids that begin a type which is not plain. -/
def shapedIds : List Nat :=
  [0x0000, 0x0020, 0x0021, 0x0022, 0x0030, 0x0031]

/-- The names and numbers of a node fit where they are written. -/
def Sized : ColumnType → Prop
  | plain id => id < 65536 ∧ id ∉ shapedIds
  | custom className => Short className
  | list _ | set _ | map _ _ => True
  | udt keyspace name fields =>
    Short keyspace ∧ Short name ∧ fields.length < 65536 ∧ ∀ f ∈ fields, Short f.1
  | tuple items => items.length < 65536

/-- The names and numbers of all nodes fit where they are written. -/
def Fits (t : ColumnType) : Prop :=
  ∀ k q, t.Node k q → q.Sized

theorem fits_iff : t.Fits ↔ t.Sized ∧ ∀ p ∈ t.parts, p.Fits := by
  constructor
  · intro h
    exact ⟨h 0 t .root, fun p hp k q hq => h (k + 1) q (.inside hp hq)⟩
  · rintro ⟨hsized, hparts⟩ k q hq
    cases hq with
    | root => exact hsized
    | inside hp hq => exact hparts _ hp _ q hq

theorem not_within_zero : ¬ t.Within 0 :=
  fun h => absurd (h 0 t .root) (Nat.not_lt_zero 0)

theorem within_succ_iff : t.Within (room + 1) ↔ ∀ p ∈ t.parts, p.Within room := by
  constructor
  · intro h p hp k q hq
    have hlt := h (k + 1) q (.inside hp hq)
    omega
  · intro h k q hq
    cases hq with
    | root => omega
    | @inside _ p _ k hp hq =>
      have hlt := h p hp k q hq
      omega

/-- The types that are read over with this much room. -/
def format (room : Nat) : Format ColumnType Unit where
  Fits t := t.Fits ∧ t.Within room
  value _ := ()
  encode := encode

theorem format_fits_succ_iff : (format (room + 1)).Fits t ↔
    t.Sized ∧ ∀ p ∈ t.parts, (format room).Fits p := by
  change t.Fits ∧ t.Within (room + 1) ↔ _
  rw [fits_iff, within_succ_iff]
  exact ⟨fun h => ⟨h.1.1, fun p hp => ⟨h.1.2 p hp, h.2 p hp⟩⟩,
    fun h => ⟨⟨h.1, fun p hp => (h.2 p hp).1⟩, fun p hp => (h.2 p hp).2⟩⟩

/-- The fields that are read over with this much room. -/
def fieldFormat (room : Nat) : Format (String × ColumnType) Unit where
  Fits f := Short f.1 ∧ (format room).Fits f.2
  value _ := ()
  encode f := putText f.1 ++ f.2.encode

/-! ## Reading over a type -/

theorem reads_field (h : Reads (skipType room) (format room)) :
    Reads (Read.text >>= fun _ => skipType room) (fieldFormat room) := by
  intro octets u rest
  rw [Read.reads_text.andThen_eq_ok_iff]
  constructor
  · rintro ⟨name, mid, hname, rfl, hread⟩
    obtain ⟨t, ht, -, rfl⟩ := (h _ _ _).1 hread
    exact ⟨(name, t), ⟨hname, ht⟩, rfl, (List.append_assoc _ _ _).symm⟩
  · rintro ⟨⟨name, t⟩, ⟨hname, ht⟩, -, rfl⟩
    exact ⟨name, t.encode ++ rest, hname, List.append_assoc _ _ _, h.of_fits ht rest⟩

/-- What is read of a type after the id it begins with. -/
def skipRest (room kind : Nat) : Read Unit :=
  match kind with
  | 0x0000 => do
    let _ ← Read.text
    Read.done ()
  | 0x0020 => skipType room
  | 0x0022 => skipType room
  | 0x0021 => do
    skipType room
    skipType room
  | 0x0030 => do
    let _ ← Read.text
    let _ ← Read.text
    let fields ← Read.u16
    Read.times fields do
      let _ ← Read.text
      skipType room
  | 0x0031 => do
    let items ← Read.u16
    Read.times items (skipType room)
  | _ => Read.done ()

theorem skipType_succ : skipType (room + 1) = Read.u16 >>= skipRest room := rfl

/-- The fields of a type are read over. -/
theorem reads_fields (h : Reads (skipType room) (format room)) (n : Nat) :
    Reads (Read.times n do let _ ← Read.text; skipType room)
      ⟨((fieldFormat room).listOf n).Fits, fun _ => (), encodeFields⟩ := by
  intro octets u rest
  rw [Read.reads_times (reads_field h)]
  simp only [Format.listOf, encodeFields_eq_flatMap]
  rfl

theorem reads_items (h : Reads (skipType room) (format room)) (n : Nat) :
    Reads (Read.times n (skipType room))
      ⟨((format room).listOf n).Fits, fun _ => (), encodeItems⟩ := by
  intro octets u rest
  rw [Read.reads_times h]
  simp only [Format.listOf, encodeItems_eq_flatMap]
  rfl

/-- **A type is read over by its own octets**: the step from one room to the
next. -/
theorem skipRest_eq_ok (h : Reads (skipType room) (format room)) {kind : Nat}
    (hkind : kind < 65536) {u : Unit} (hread : skipRest room kind octets = (.ok u, rest)) :
    ∃ t, (format (room + 1)).Fits t ∧ put16 kind ++ octets = t.encode ++ rest := by
  simp only [format_fits_succ_iff]
  unfold skipRest at hread
  split at hread
  · obtain ⟨name, mid, hname, rfl, hdone⟩ := Read.reads_text.andThen_eq_ok_iff.1 hread
    obtain ⟨-, rfl⟩ := Read.done_eq_ok_iff.1 hdone
    exact ⟨custom name, ⟨hname, nofun⟩, by simp [encode]⟩
  · obtain ⟨t, ht, -, rfl⟩ := (h _ _ _).1 hread
    exact ⟨list t, ⟨trivial, by simpa [parts] using ht⟩, by simp [encode, format]⟩
  · obtain ⟨t, ht, -, rfl⟩ := (h _ _ _).1 hread
    exact ⟨set t, ⟨trivial, by simpa [parts] using ht⟩, by simp [encode, format]⟩
  · obtain ⟨keys, mid, hkeys, rfl, hvalues⟩ := h.andThen_eq_ok_iff.1 hread
    obtain ⟨values, ht, -, rfl⟩ := (h _ _ _).1 hvalues
    exact ⟨map keys values, ⟨trivial, by simpa [parts] using ⟨hkeys, ht⟩⟩,
      by simp [encode, format]⟩
  · obtain ⟨keyspace, left, hkeyspace, rfl, hread₁⟩ := Read.reads_text.andThen_eq_ok_iff.1 hread
    obtain ⟨name, left₁, hname, rfl, hread₂⟩ := Read.reads_text.andThen_eq_ok_iff.1 hread₁
    obtain ⟨n, left₂, hn, rfl, hread₃⟩ := Read.reads_u16.andThen_eq_ok_iff.1 hread₂
    obtain ⟨fields, ⟨rfl, hfields⟩, -, rfl⟩ := (reads_fields h _ _ _ _).1 hread₃
    refine ⟨udt keyspace name fields, ⟨⟨hkeyspace, hname, hn, fun f hf => (hfields f hf).1⟩, ?_⟩,
      by simp [encode]⟩
    simpa [parts] using fun t name hf => (hfields (name, t) hf).2
  · obtain ⟨n, left, hn, rfl, hread₁⟩ := Read.reads_u16.andThen_eq_ok_iff.1 hread
    obtain ⟨items, ⟨rfl, hitems⟩, -, rfl⟩ := (reads_items h _ _ _ _).1 hread₁
    exact ⟨tuple items, ⟨hn, hitems⟩, by simp [encode]⟩
  · rename_i h0 h20 h22 h21 h30 h31
    obtain ⟨-, rfl⟩ := Read.done_eq_ok_iff.1 hread
    refine ⟨plain kind, ⟨⟨hkind, ?_⟩, nofun⟩, by simp [encode]⟩
    simpa [shapedIds] using ⟨h0, h20, h21, h22, h30, h31⟩

/-- A plain id says all there is to say. -/
theorem skipRest_of_plain {id : Nat} (hid : id ∉ shapedIds) :
    skipRest room id = Read.done () := by
  unfold skipRest
  split
  all_goals first | rfl | simp [shapedIds] at hid

/-- A type begins with an id, and the id says how to read on. -/
theorem skipType_of_id {kind : Nat} (hkind : kind < 65536) (octets : Octets) :
    skipType (room + 1) (put16 kind ++ octets) = skipRest room kind octets :=
  Read.reads_u16.andThen_of_fits hkind octets

theorem skipType_of_fits (h : Reads (skipType room) (format room))
    (ht : (format (room + 1)).Fits t) (rest : Octets) :
    skipType (room + 1) (t.encode ++ rest) = (.ok (), rest) := by
  obtain ⟨hsized, hparts⟩ := format_fits_succ_iff.1 ht
  cases t with
  | plain id =>
    obtain ⟨hlt, hplain⟩ := hsized
    rw [encode, skipType_of_id hlt, skipRest_of_plain hplain]
    rfl
  | custom className =>
    rw [encode, List.append_assoc, skipType_of_id (by omega)]
    exact Read.reads_text.andThen_of_fits hsized rest
  | list items =>
    have hitems : (format room).Fits items := hparts items (by simp [parts])
    rw [encode, List.append_assoc, skipType_of_id (by omega)]
    exact h.of_fits hitems rest
  | set items =>
    have hitems : (format room).Fits items := hparts items (by simp [parts])
    rw [encode, List.append_assoc, skipType_of_id (by omega)]
    exact h.of_fits hitems rest
  | map keys values =>
    have hkeys : (format room).Fits keys := hparts keys (by simp [parts])
    have hvalues : (format room).Fits values := hparts values (by simp [parts])
    rw [encode, List.append_assoc, List.append_assoc, skipType_of_id (by omega)]
    exact (h.andThen_of_fits hkeys _).trans (h.of_fits hvalues rest)
  | udt keyspace name fields =>
    obtain ⟨hkeyspace, hname, hlength, hnames⟩ := hsized
    have hfields : ((fieldFormat room).listOf fields.length).Fits fields :=
      ⟨rfl, fun f hf => ⟨hnames f hf, hparts f.2 (List.mem_map_of_mem hf)⟩⟩
    simp only [encode, List.append_assoc]
    rw [skipType_of_id (by omega)]
    exact (Read.reads_text.andThen_of_fits hkeyspace _).trans <|
      (Read.reads_text.andThen_of_fits hname _).trans <|
      (Read.reads_u16.andThen_of_fits hlength _).trans <|
      (reads_fields h fields.length).of_fits hfields rest
  | tuple items =>
    have hitems : ((format room).listOf items.length).Fits items := ⟨rfl, hparts⟩
    simp only [encode, List.append_assoc]
    rw [skipType_of_id (by omega)]
    exact (Read.reads_u16.andThen_of_fits hsized _).trans <|
      (reads_items h items.length).of_fits hitems rest

/-- **A type is read over by its own octets if no type in it is nested too
deep**, and by no others. -/
theorem reads_skipType : Reads (skipType room) (format room) := by
  induction room with
  | zero =>
    intro octets u rest
    constructor
    · intro h
      exact absurd h Read.fail_ne_ok
    · rintro ⟨t, ⟨-, hwithin⟩, -⟩
      exact absurd hwithin not_within_zero
  | succ room ih =>
    intro octets u rest
    constructor
    · intro h
      rw [skipType_succ, Read.reads_u16.andThen_eq_ok_iff] at h
      obtain ⟨kind, mid, hkind, rfl, hread⟩ := h
      obtain ⟨t, ht, hoctets⟩ := skipRest_eq_ok ih hkind hread
      exact ⟨t, ht, rfl, hoctets⟩
    · rintro ⟨t, ht, -, rfl⟩
      exact skipType_of_fits ih ht rest

/-! ## Types that are nested too deep -/

theorem skipField_of_deep {f : String × ColumnType} (hname : Short f.1)
    (hdeep : ∀ rest, (skipType room (f.2.encode ++ rest)).1 = .error .nesting) (rest : Octets) :
    ((Read.text >>= fun _ => skipType room) ((fieldFormat room).encode f ++ rest)).1 =
      .error .nesting := by
  have hread : (Read.text >>= fun _ => skipType room) (putText f.1 ++ (f.2.encode ++ rest)) =
      skipType room (f.2.encode ++ rest) := Read.reads_text.andThen_of_fits hname _
  simp only [fieldFormat, List.append_assoc]
  rw [hread]
  exact hdeep rest

/-- **A type in which some type is nested too deep is refused.** -/
theorem skipType_of_deep (hfits : t.Fits) (hdeep : ¬ t.Within room) (rest : Octets) :
    (skipType room (t.encode ++ rest)).1 = .error .nesting := by
  induction room generalizing t rest with
  | zero => rfl
  | succ room ih =>
    obtain ⟨hsized, hparts⟩ := fits_iff.1 hfits
    simp only [within_succ_iff, not_forall] at hdeep
    obtain ⟨p, hp, hpdeep⟩ := hdeep
    have hread (q : ColumnType) (hq : q ∈ t.parts) (hw : q.Within room) (rest : Octets) :
        skipType room (q.encode ++ rest) = (.ok (), rest) :=
      reads_skipType.of_fits (f := format room) ⟨hparts q hq, hw⟩ rest
    have hrefuse (q : ColumnType) (hq : q ∈ t.parts) (hd : ¬ q.Within room) (rest : Octets) :
        (skipType room (q.encode ++ rest)).1 = .error .nesting := ih (hparts q hq) hd rest
    cases t with
    | plain id => simp [parts] at hp
    | custom className => simp [parts] at hp
    | list items =>
      obtain rfl : p = items := by simpa [parts] using hp
      rw [encode, List.append_assoc, skipType_of_id (by omega)]
      exact hrefuse p hp hpdeep rest
    | set items =>
      obtain rfl : p = items := by simpa [parts] using hp
      rw [encode, List.append_assoc, skipType_of_id (by omega)]
      exact hrefuse p hp hpdeep rest
    | map keys values =>
      rw [encode, List.append_assoc, List.append_assoc, skipType_of_id (by omega)]
      by_cases hkeys : keys.Within room
      -- The keys are read over, so it is the values that are too deep.
      · obtain rfl : p = values := by
          have hor : p = keys ∨ p = values := by simpa [parts] using hp
          exact hor.resolve_left fun he => hpdeep (he ▸ hkeys)
        have hpast := hread keys (by simp [parts]) hkeys (p.encode ++ rest)
        exact (congrArg Prod.fst (Read.andThen_of_ok hpast)).trans (hrefuse p hp hpdeep rest)
      · exact Read.andThen_of_error (hrefuse keys (by simp [parts]) hkeys _)
    | udt keyspace name fields =>
      obtain ⟨hkeyspace, hname, hlength, hnames⟩ := hsized
      have hfield : p ∈ fields.map (·.2) := hp
      obtain ⟨f, hf, rfl⟩ := List.mem_map.1 hfield
      have hmem (g : String × ColumnType) (hg : g ∈ fields) :
          g.2 ∈ (udt keyspace name fields).parts := List.mem_map_of_mem hg
      have hfields := Read.times_of_error (P := fun g : String × ColumnType => g.2.Within room)
        (fun g hg hw rest => (reads_field reads_skipType).of_fits (f := fieldFormat room)
          ⟨hnames g hg, hparts g.2 (hmem g hg), hw⟩ rest)
        (fun g hg hd rest => skipField_of_deep (hnames g hg) (hrefuse g.2 (hmem g hg) hd) rest)
        ⟨f, hf, hpdeep⟩ rest
      simp only [encode, List.append_assoc, encodeFields_eq_flatMap]
      rw [skipType_of_id (by omega)]
      exact (congrArg Prod.fst ((Read.reads_text.andThen_of_fits hkeyspace _).trans <|
        (Read.reads_text.andThen_of_fits hname _).trans
        (Read.reads_u16.andThen_of_fits hlength _))).trans hfields
    | tuple items =>
      have hitems := Read.times_of_error hread hrefuse ⟨p, hp, hpdeep⟩ rest
      simp only [encode, List.append_assoc, encodeItems_eq_flatMap]
      rw [skipType_of_id (by omega)]
      exact (congrArg Prod.fst (Read.reads_u16.andThen_of_fits hsized _)).trans hitems

end ColumnType

end NodeSidecar.Wire
