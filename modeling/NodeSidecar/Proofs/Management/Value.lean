import Mathlib.Algebra.Group.Int.Defs
import NodeSidecar.Proofs.Json.Canonical
import NodeSidecar.Proofs.Management.Double
/-!
# Management — managed values as JSON

A JSON value becomes a managed value of the first shape that its content fits,
and the shapes do not overlap: lists and objects of texts are flat, other lists
and objects are kept as they came (`ofJson_array`, `ofJson_object`). So a value
comes back from the other side as it was, but for a whole number that has no
room in 64 bits and a sign, which becomes a double: `nothing_is_lost`.
-/

namespace NodeSidecar.Management.Value

variable {items : List Json} {fields : List (String × Json)} {j : Json}

/-- What the type of managed values cannot say of a flat value: its number has room
in 64 bits and a sign, its double is finite. -/
def Flat : Value → Prop
  | long n => -2 ^ 63 ≤ n ∧ n < 2 ^ 63
  | double bits => isFinite bits = true
  | composite _ => False
  | _ => True

/-- A number in JSON is finite. -/
def Spellable (j : Json) : Prop :=
  ∀ bits, j = .number (.double bits) → isFinite bits = true

/-! ## The shapes -/

theorem string?_eq_some_iff {s : String} : j.string? = some s ↔ j = .string s := by
  cases j <;> simp [Json.string?]

theorem mapM_string?_eq_some_iff {ss : List String} :
    items.mapM Json.string? = some ss ↔ items = ss.map .string :=
  Text.mapM_eq_some_iff_eq_map fun _ _ => string?_eq_some_iff

/-- **A list of texts is flat**, any other list is kept. -/
theorem ofJson_array (items : List Json) :
    (∃ ss : List String, items = ss.map .string ∧ ofJson (.array items) = texts ss) ∨
      ofJson (.array items) = composite (.array items) := by
  rw [ofJson]
  cases h : items.mapM Json.string? with
  | none => exact .inr rfl
  | some ss => exact .inl ⟨ss, mapM_string?_eq_some_iff.1 h, rfl⟩

/-- **An object of texts is flat**, any other object is kept. -/
theorem ofJson_object (fields : List (String × Json)) :
    (∃ entries, fields = Json.ofTexts entries ∧ ofJson (.object fields) = table entries) ∨
      ofJson (.object fields) = composite (.object fields) := by
  have htexts (entries) : (fields.mapM fun f => f.2.string?.map (f.1, ·)) = some entries ↔
      fields = Json.ofTexts entries := Json.texts?_eq_some_iff
  rw [ofJson]
  cases h : fields.mapM fun f => f.2.string?.map (f.1, ·) with
  | none => exact .inr rfl
  | some entries => exact .inl ⟨entries, (htexts entries).1 h, rfl⟩

theorem ofJson_texts (ss : List String) : ofJson (.array (ss.map .string)) = texts ss := by
  rw [ofJson, mapM_string?_eq_some_iff.2 rfl]

theorem ofJson_table (entries : List (String × String)) :
    ofJson (.object (Json.ofTexts entries)) = table entries := by
  have htexts : (Json.ofTexts entries).mapM (fun f => f.2.string?.map (f.1, ·)) = some entries :=
    Json.texts?_eq_some_iff.2 rfl
  rw [ofJson, htexts]

/-! ## There and back -/

/-- **A JSON value comes back**, unless it is a whole number with no room. -/
theorem toJson_ofJson_iff (h : Spellable j) :
    toJson (ofJson j) = j ↔ ∀ n, j = .number (.whole n) → n < 2 ^ 63 := by
  cases j with
  | number n =>
    cases n with
    | whole n =>
      by_cases hroom : n ≤ longMax
      · refine iff_of_true (by simp [ofJson, ofNumber, hroom, toJson]) ?_
        rintro _ ⟨⟩
        simp only [longMax] at hroom
        omega
      · refine iff_of_false (by simp [ofJson, ofNumber, hroom, toJson, isFinite_toFloat])
          fun hall => hroom ?_
        have := hall n rfl
        simp only [longMax]
        omega
    | double bits => simp [ofJson, ofNumber, toJson, h bits rfl]
  | array items =>
    refine iff_of_true ?_ (by simp)
    rcases ofJson_array items with ⟨ss, rfl, hss⟩ | hkept
    · rw [hss]
      rfl
    · rw [hkept]
      rfl
  | object fields =>
    refine iff_of_true ?_ (by simp)
    rcases ofJson_object fields with ⟨entries, rfl, hentries⟩ | hkept
    · rw [hentries]
      rfl
    · rw [hkept]
      rfl
  | _ => exact iff_of_true rfl (by simp)

/-- **A flat value comes back.** -/
theorem ofJson_toJson {v : Value} (h : v.Flat) : ofJson (toJson v) = v := by
  cases v with
  | long n =>
    have hle : n ≤ longMax := by
      have := h.2
      simp only [longMax]
      omega
    simp [toJson, ofJson, ofNumber, hle]
  | double bits =>
    have hfinite : isFinite bits = true := h
    simp [toJson, ofJson, ofNumber, hfinite]
  | texts ss => exact ofJson_texts ss
  | table entries => exact ofJson_table entries
  | composite j => cases h
  | _ => rfl

/-- **Nothing is lost between the two sides.** A JSON value comes back from a managed
value just when it is no whole number of more than 63 bits, and even of that nothing
more is lost on a second way; and every flat value comes back from JSON. -/
theorem nothing_is_lost :
    (∀ j, Spellable j → (toJson (ofJson j) = j ↔ ∀ n, j = .number (.whole n) → n < 2 ^ 63) ∧
      ofJson (toJson (ofJson j)) = ofJson j) ∧
    ∀ v : Value, v.Flat → ofJson (toJson v) = v := by
  refine ⟨fun j hj => ⟨toJson_ofJson_iff hj, ?_⟩, fun v hv => ofJson_toJson hv⟩
  by_cases hback : toJson (ofJson j) = j
  · rw [hback]
  · -- What does not come back is a whole number, and its double is finite.
    rw [toJson_ofJson_iff hj] at hback
    obtain ⟨n, hn⟩ := Classical.not_forall.1 hback
    obtain ⟨rfl, hn⟩ := Classical.not_imp.1 hn
    have hroom : ¬ n ≤ longMax := by
      simp only [longMax]
      omega
    have hflat : (ofJson (.number (.whole n))).Flat := by
      simp [ofJson, ofNumber, hroom, Flat, isFinite_toFloat]
    exact ofJson_toJson hflat

/-- A keyspace with a list of its tables. -/
def tablesOfKeyspace : Json :=
  .object [("keyspace", .string "ks"), ("tables", .array [.string "t1"])]

/-- The largest whole number of JSON. -/
def largestWhole : Json :=
  .number (.whole 18446744073709551615)

/-- A nested object is kept as it came, the largest whole number becomes a double
once and for all, and a table without entries stays one. -/
theorem tables_kept_and_count_rounded :
    Spellable tablesOfKeyspace ∧ toJson (ofJson tablesOfKeyspace) = tablesOfKeyspace ∧
    Spellable largestWhole ∧ toJson (ofJson largestWhole) ≠ largestWhole ∧
    ofJson (toJson (ofJson largestWhole)) = ofJson largestWhole ∧
    (table []).Flat ∧ ofJson (toJson (table [])) = table [] := by
  have htables : Spellable tablesOfKeyspace := by
    rintro bits ⟨⟩
  have hlargest : Spellable largestWhole := by
    rintro bits ⟨⟩
  refine ⟨htables, (nothing_is_lost.1 _ htables).1.2 ?_, hlargest, fun hback => ?_,
    (nothing_is_lost.1 _ hlargest).2, trivial, nothing_is_lost.2 _ trivial⟩
  · rintro n ⟨⟩
  · have := (nothing_is_lost.1 _ hlargest).1.1 hback _ rfl
    omega

end NodeSidecar.Management.Value
