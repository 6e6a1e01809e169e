import NodeSidecar.Json.Basic
import NodeSidecar.Proofs.Text.Cutting
/-!
# Json — the canonical form of an object

The canonical form lists fields in the order of their names, each name once
(`sorted_canonicalFields`), and of fields with one name the last one counts
(`lookup_canonicalFields`). An object of texts stays one.
-/

namespace NodeSidecar.Json

variable {α : Type} {key name : String} {value : Json} {fields : List (String × Json)}

/-- The names come in order, and none comes twice. -/
def Sorted (fields : List (String × α)) : Prop :=
  fields.Pairwise (·.1 < ·.1)

/-- Fields with these texts. -/
def ofTexts (entries : List (String × String)) : List (String × Json) :=
  entries.map fun e => (e.1, .string e.2)

/-! ## Adding a field -/

theorem mem_addField {f : String × Json} (hf : f ∈ addField key value fields) :
    f = (key, value) ∨ f ∈ fields := by
  induction fields with
  | nil => exact .inl (List.mem_singleton.1 hf)
  | cons g rest ih =>
    obtain ⟨k, v⟩ := g
    rw [addField] at hf
    split at hf
    · exact .inr hf
    · split at hf
      · exact List.mem_cons.1 hf
      · rcases List.mem_cons.1 hf with rfl | hf
        · exact .inr List.mem_cons_self
        · exact (ih hf).imp_right (List.mem_cons_of_mem _)

/-- Of two names that are not in order the other way around, the second is
smaller. -/
theorem lt_of_not_lt {k : String} (hne : key ≠ k) (hlt : ¬ key < k) : k < key := by
  refine Decidable.byContradiction fun hge => hne ?_
  exact String.le_antisymm (String.not_lt.1 hge) (String.not_lt.1 hlt)

theorem sorted_addField (h : Sorted fields) : Sorted (addField key value fields) := by
  induction fields with
  | nil => exact List.pairwise_singleton _ _
  | cons g rest ih =>
    obtain ⟨k, v⟩ := g
    obtain ⟨hfirst, hrest⟩ := List.pairwise_cons.1 h
    rw [addField]
    split
    · exact h
    · rename_i hne
      split
      · rename_i hlt
        refine List.pairwise_cons.2 ⟨fun f hf => ?_, h⟩
        rcases List.mem_cons.1 hf with rfl | hf
        · exact hlt
        · exact String.lt_trans hlt (hfirst f hf)
      · rename_i hge
        refine List.pairwise_cons.2 ⟨fun f hf => ?_, ih hrest⟩
        rcases mem_addField hf with rfl | hf
        · exact lt_of_not_lt hne hge
        · exact hfirst f hf

/-- A field of another name is passed over. -/
theorem lookup_cons_of_ne {k : String} {v : α} {rest : List (String × α)} (hne : name ≠ k) :
    ((k, v) :: rest).lookup name = rest.lookup name := by
  have hk : (name == k) = false := by simpa using hne
  rw [List.lookup_cons, hk]

/-- A name that is smaller than all others is not among them. -/
theorem lookup_of_lt (h : ∀ f ∈ fields, key < f.1) : fields.lookup key = none := by
  refine List.lookup_eq_none_iff.2 fun f hf => ?_
  have hne : key ≠ f.1 := fun heq => String.lt_irrefl f.1 (heq ▸ h f hf)
  simpa using hne

/-- **A field that is added** counts if its name was not there. -/
theorem lookup_addField (h : Sorted fields) (name : String) :
    (addField key value fields).lookup name =
      (fields.lookup name).or ([(key, value)].lookup name) := by
  induction fields with
  | nil => rfl
  | cons g rest ih =>
    obtain ⟨k, v⟩ := g
    obtain ⟨hfirst, hrest⟩ := List.pairwise_cons.1 h
    rw [addField]
    split
    · rename_i heq
      subst heq
      by_cases hname : name = key
      · simp [hname]
      · rw [lookup_cons_of_ne hname, lookup_cons_of_ne hname, List.lookup_nil, Option.or_none]
    · rename_i hne
      split
      · rename_i hlt
        by_cases hname : name = key
        · subst hname
          have hnone : ((k, v) :: rest).lookup name = none := by
            refine lookup_of_lt fun f hf => ?_
            rcases List.mem_cons.1 hf with rfl | hf
            · exact hlt
            · exact String.lt_trans hlt (hfirst f hf)
          simp [hnone]
        · rw [lookup_cons_of_ne hname, lookup_cons_of_ne hname, List.lookup_nil, Option.or_none]
      · by_cases hname : name = k
        · simp [hname]
        · rw [lookup_cons_of_ne hname, lookup_cons_of_ne hname]
          exact ih hrest

/-! ## Canonical fields -/

theorem sorted_canonicalFields (fields : List (String × Json)) :
    Sorted (canonicalFields fields) := by
  induction fields with
  | nil => exact .nil
  | cons f rest ih =>
    obtain ⟨k, v⟩ := f
    rw [canonicalFields]
    exact sorted_addField ih

/-- **Of fields with one name the last one counts.** -/
theorem lookup_canonicalFields (fields : List (String × Json)) (name : String) :
    (canonicalFields fields).lookup name = (fields.reverse.lookup name).map canonical := by
  induction fields with
  | nil => rfl
  | cons f rest ih =>
    obtain ⟨k, v⟩ := f
    rw [canonicalFields, lookup_addField (sorted_canonicalFields rest), ih, List.reverse_cons,
      List.lookup_append]
    cases rest.reverse.lookup name with
    | some u => rfl
    | none =>
      by_cases hname : name = k
      · simp [hname]
      · rw [lookup_cons_of_ne hname, lookup_cons_of_ne hname]
        rfl

/-! ## Objects of texts -/

theorem text?_eq_some_iff {f : String × Json} {e : String × String} :
    f.2.string?.map (f.1, ·) = some e ↔ f = (e.1, .string e.2) := by
  obtain ⟨k, j⟩ := f
  obtain ⟨k', s⟩ := e
  cases j <;> simp [string?]

/-- **An object has its texts** just when it is an object of those. -/
theorem texts?_eq_some_iff {entries : List (String × String)} :
    (Json.object fields).texts? = some entries ↔ fields = ofTexts entries :=
  Text.mapM_eq_some_iff_eq_map fun _ _ => text?_eq_some_iff

/-- Fields are those of some texts if each of them is a text. -/
theorem exists_ofTexts (h : ∀ f ∈ fields, ∃ s, f.2 = .string s) :
    ∃ entries, fields = ofTexts entries := by
  induction fields with
  | nil => exact ⟨[], rfl⟩
  | cons f rest ih =>
    obtain ⟨k, j⟩ := f
    obtain ⟨⟨s, rfl⟩, hrest⟩ := List.forall_mem_cons.1 h
    obtain ⟨entries, rfl⟩ := ih hrest
    exact ⟨(k, s) :: entries, rfl⟩

theorem lookup_ofTexts (entries : List (String × String)) (name : String) :
    (ofTexts entries).lookup name = (entries.lookup name).map .string := by
  induction entries with
  | nil => rfl
  | cons e entries ih =>
    obtain ⟨k, s⟩ := e
    rw [ofTexts, List.map_cons, ← ofTexts]
    by_cases hname : name = k
    · simp [hname]
    · rw [lookup_cons_of_ne hname, lookup_cons_of_ne hname, ih]

/-- The canonical fields of texts are texts. -/
theorem string_of_mem_canonicalFields (entries : List (String × String)) :
    ∀ f ∈ canonicalFields (ofTexts entries), ∃ s, f.2 = .string s := by
  induction entries with
  | nil => simp [ofTexts, canonicalFields]
  | cons e entries ih =>
    intro f hf
    rcases mem_addField hf with rfl | hf
    · exact ⟨e.2, rfl⟩
    · exact ih f hf

/-- **The canonical form of an object of texts** has the last text of each name,
in the order of the names. -/
theorem exists_canonicalTexts (entries : List (String × String)) :
    ∃ texts, (Json.object (ofTexts entries)).canonical.texts? = some texts ∧ Sorted texts ∧
      ∀ name, texts.lookup name = entries.reverse.lookup name := by
  obtain ⟨texts, htexts⟩ := exists_ofTexts (string_of_mem_canonicalFields entries)
  have hsorted : Sorted texts := by
    have hfields : Sorted (ofTexts texts) := htexts ▸ sorted_canonicalFields (ofTexts entries)
    simpa [Sorted, ofTexts, List.pairwise_map] using hfields
  refine ⟨texts, texts?_eq_some_iff.2 htexts, hsorted, fun name => ?_⟩
  have hlookup := lookup_canonicalFields (ofTexts entries) name
  have hreverse : (ofTexts entries).reverse = ofTexts entries.reverse := List.map_reverse.symm
  rw [htexts, hreverse, lookup_ofTexts, lookup_ofTexts] at hlookup
  cases hfound : entries.reverse.lookup name with
  | none => simpa [hfound] using hlookup
  | some s => simpa [hfound, canonical] using hlookup

end NodeSidecar.Json
