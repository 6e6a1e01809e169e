import Mathlib.Data.List.Basic
import NodeSidecar.Management.ObjectName
import NodeSidecar.Proofs.Text.Cutting
/-!
# Management — how object names are spelled

A name is a domain and one or more key properties, put together with a colon,
commas and equals signs (`Spells`). The texts that are read are those that some
domain and properties spell, and each is spelled in one way. A name keeps its text
and how long its domain is; with that the domain and the properties are found again
in the text (`Spells.domain_eq`, `Spells.properties_eq`).
-/

namespace NodeSidecar.Management.ObjectName

open Text (pieces cutAt)

variable {cs : List Char} {ps : List (List Char)} {p : String × String}
variable {domain text key value : String} {properties : List (String × String)}
variable {name : ObjectName}

/-- A key property as it is written. -/
def shown (p : String × String) : String :=
  p.1 ++ "=" ++ p.2

/-- A key property that can stand in a name: the first equals sign is behind its
key, and there is no comma in it. -/
structure Property (p : String × String) : Prop where
  key_ne : p.1 ≠ ""
  value_ne : p.2 ≠ ""
  key_free : '=' ∉ p.1.toList
  comma_free : ',' ∉ p.1.toList ∧ ',' ∉ p.2.toList

/-- **The text spells a name with this domain and these key properties.** -/
structure Spells (text domain : String) (properties : List (String × String)) : Prop where
  domain_ne : domain ≠ ""
  domain_free : ':' ∉ domain.toList
  properties_ne : properties ≠ []
  property : ∀ p ∈ properties, Property p
  text_eq : text = domain ++ ":" ++ ",".intercalate (properties.map shown)

/-- The value of a key as the text alone gives it: behind the first colon, in the
first piece between commas that has this key in front of its first equals
sign. -/
def lookUp (text key : String) : Option String :=
  ((pieces ',' ((text.toList.dropWhile (· != ':')).tail)).filterMap (cutAt '=')).find?
    (·.1 = key.toList) |>.map fun p => String.ofList p.2

/-! ## One key property -/

theorem toList_shown (p : String × String) :
    (shown p).toList = p.1.toList ++ '=' :: p.2.toList := by
  simp [shown, String.toList_append]

theorem comma_free_shown_iff :
    ',' ∉ (shown p).toList ↔ ',' ∉ p.1.toList ∧ ',' ∉ p.2.toList := by
  simp [toList_shown]

/-- **What is read as a key property is what is written of one.** -/
theorem property?_eq_some_iff : property? cs = some p ↔
    cs = (shown p).toList ∧ p.1 ≠ "" ∧ p.2 ≠ "" ∧ '=' ∉ p.1.toList := by
  rw [toList_shown]
  constructor
  · intro h
    unfold property? at h
    split at h
    · rename_i k ks v vs hcut
      obtain ⟨hfree, rfl⟩ := Text.cutAt_eq_some_iff.1 hcut
      obtain rfl := Option.some.inj h
      simp [hfree]
    · cases h
  · rintro ⟨rfl, hkey, hvalue, hfree⟩
    obtain ⟨key, value⟩ := p
    have hcut : cutAt '=' (key.toList ++ '=' :: value.toList) = some (key.toList, value.toList) :=
      Text.cutAt_eq_some_iff.2 ⟨hfree, rfl⟩
    rw [property?, hcut]
    obtain ⟨k, ks, hks⟩ := List.exists_cons_of_ne_nil (mt String.toList_eq_nil_iff.1 hkey)
    obtain ⟨v, vs, hvs⟩ := List.exists_cons_of_ne_nil (mt String.toList_eq_nil_iff.1 hvalue)
    simp only at hks hvs ⊢
    rw [hks, hvs]
    simp [← hks, ← hvs]

/-! ## All of them -/

/-- The key properties as they are written. -/
def written (properties : List (String × String)) : List (List Char) :=
  properties.map fun p => (shown p).toList

theorem toList_spelled (domain : String) (properties : List (String × String)) :
    (domain ++ ":" ++ ",".intercalate (properties.map shown)).toList =
      domain.toList ++ ':' :: [','].intercalate (written properties) := by
  simp [written, String.toList_append, String.toList_intercalate, Function.comp_def]

theorem mapM_property?_eq_some_iff : ps.mapM property? = some properties ↔
    ps = written properties ∧
      ∀ p ∈ properties, p.1 ≠ "" ∧ p.2 ≠ "" ∧ '=' ∉ p.1.toList :=
  Text.mapM_eq_some_iff fun _ _ => property?_eq_some_iff

/-- **What is behind the domain is cut into its key properties.** -/
theorem mapM_pieces_eq_some_iff : (pieces ',' cs).mapM property? = some properties ↔
    properties ≠ [] ∧ (∀ p ∈ properties, Property p) ∧
      cs = [','].intercalate (written properties) := by
  rw [mapM_property?_eq_some_iff, Text.pieces_eq_iff]
  constructor
  · rintro ⟨⟨hne, hfree, hjoined⟩, hproperties⟩
    refine ⟨by simpa [written] using hne, fun p hp => ?_, hjoined.symm⟩
    obtain ⟨hkey, hvalue, hequals⟩ := hproperties p hp
    exact ⟨hkey, hvalue, hequals, comma_free_shown_iff.1 (hfree _ (List.mem_map_of_mem hp))⟩
  · rintro ⟨hne, hproperties, rfl⟩
    refine ⟨⟨by simpa [written] using hne, fun cs hcs => ?_, rfl⟩, fun p hp => ?_⟩
    · obtain ⟨p, hp, rfl⟩ := List.mem_map.1 hcs
      exact comma_free_shown_iff.2 (hproperties p hp).comma_free
    · have hproperty := hproperties p hp
      exact ⟨hproperty.key_ne, hproperty.value_ne, hproperty.key_free⟩

/-! ## Names -/

namespace Spells

variable (h : Spells text domain properties)

include h

/-- The characters of a spelling. -/
theorem toList_eq :
    text.toList = domain.toList ++ ':' :: [','].intercalate (written properties) := by
  rw [h.text_eq, toList_spelled]

/-- **A spelling is read.** -/
theorem parse : ObjectName.parse text = .ok ⟨text, domain.length⟩ := by
  have hcut : cutAt ':' text.toList =
      some (domain.toList, [','].intercalate (written properties)) :=
    Text.cutAt_eq_some_iff.2 ⟨h.domain_free, h.toList_eq⟩
  have hpairs := mapM_pieces_eq_some_iff.2 ⟨h.properties_ne, h.property, rfl⟩
  generalize [','].intercalate (written properties) = behind at hcut hpairs
  have hdomain : domain.toList.isEmpty = false := by simpa using h.domain_ne
  have hbehind : behind.isEmpty = false := by
    cases behind with
    | nil => cases hpairs
    | cons c cs => rfl
  rw [ObjectName.parse, hcut]
  simp only [hdomain, hbehind, hpairs, Bool.false_eq_true, if_false, String.length_toList]

/-- The properties are the pieces of what is behind the domain, each cut at its first
equals sign. -/
theorem filterMap_cutAt :
    (pieces ',' ([','].intercalate (written properties))).filterMap (cutAt '=') =
      properties.map fun p => (p.1.toList, p.2.toList) := by
  have hpieces : pieces ',' ([','].intercalate (written properties)) = written properties :=
    (mapM_property?_eq_some_iff.1 (mapM_pieces_eq_some_iff.2 ⟨h.properties_ne, h.property, rfl⟩)).1
  rw [hpieces, written, List.filterMap_map]
  refine List.filterMap_eq_map_iff_forall_eq_some.2 fun p hp => ?_
  exact Text.cutAt_eq_some_iff.2 ⟨(h.property p hp).key_free, toList_shown p⟩

/-- **The domain is found again in the text.** -/
theorem domain_eq : ObjectName.domain ⟨text, domain.length⟩ = domain := by
  rw [ObjectName.domain, h.toList_eq, ← String.length_toList, List.take_left,
    String.ofList_toList]

/-- **The properties are found again in the text.** -/
theorem properties_eq : ObjectName.properties ⟨text, domain.length⟩ = properties := by
  rw [ObjectName.properties, h.toList_eq, ← String.length_toList, List.drop_length_add_append,
    List.drop_succ_cons, List.drop_zero, h.filterMap_cutAt]
  simp [Function.comp_def]

end Spells

/-- **What is read is a spelling.** -/
theorem spells_of_parse (h : parse text = .ok name) :
    name.text = text ∧ Spells text name.domain name.properties := by
  unfold parse at h
  split at h
  · cases h
  · rename_i front behind hcut
    obtain ⟨hfree, htext⟩ := Text.cutAt_eq_some_iff.1 hcut
    split at h
    · cases h
    · rename_i hfront
      split at h
      · cases h
      · split at h
        · cases h
        · rename_i pairs hpairs
          obtain rfl := Except.ok.inj h
          obtain ⟨hne, hproperties, rfl⟩ := mapM_pieces_eq_some_iff.1 hpairs
          have hspells : Spells text (String.ofList front) pairs := by
            refine ⟨by simpa using hfront, by simpa using hfree, hne, hproperties, ?_⟩
            rw [← String.toList_inj, toList_spelled, htext, String.toList_ofList]
          have hlength : (String.ofList front).length = front.length := String.length_ofList
          rw [← hlength, hspells.domain_eq, hspells.properties_eq]
          exact ⟨rfl, hspells⟩

/-- A text that is not read is quoted with the reason. -/
theorem parse_eq_ok_or (text : String) :
    (∃ name, parse text = .ok name) ∨ ∃ reason, parse text = .error (invalid text reason) := by
  unfold parse
  split
  · exact .inr ⟨_, rfl⟩
  · split
    · exact .inr ⟨_, rfl⟩
    · split
      · exact .inr ⟨_, rfl⟩
      · split
        · exact .inr ⟨_, rfl⟩
        · exact .inl ⟨_, rfl⟩

/-! ## Looking for a property -/

/-- **The first property with a key is found**, and none if there is none. -/
theorem property_eq_some_iff : name.property key = some value ↔
    ∃ before after, name.properties = before ++ (key, value) :: after ∧
      ∀ p ∈ before, p.1 ≠ key := by
  rw [property, Option.map_eq_some_iff]
  constructor
  · rintro ⟨⟨k, v⟩, hfind, rfl⟩
    obtain ⟨hkey, before, after, hproperties, hbefore⟩ := List.find?_eq_some_iff_append.1 hfind
    obtain rfl : k = key := by simpa using hkey
    exact ⟨before, after, hproperties, by simpa using hbefore⟩
  · rintro ⟨before, after, hproperties, hbefore⟩
    have hfind : name.properties.find? (·.1 = key) = some (key, value) :=
      List.find?_eq_some_iff_append.2
        ⟨by simp, before, after, hproperties, by simpa using hbefore⟩
    exact ⟨_, hfind, rfl⟩

theorem property_eq_none_iff : name.property key = none ↔ ∀ p ∈ name.properties, p.1 ≠ key := by
  simp [property]

/-- **Looking in the text is looking among the properties.** -/
theorem Spells.lookUp_eq (h : Spells text domain properties) (key : String) :
    lookUp text key = (properties.find? (·.1 = key)).map (·.2) := by
  have hbehind : (text.toList.dropWhile (· != ':')).tail =
      [','].intercalate (written properties) := by
    have hother (c) (hc : c ∈ domain.toList) : (c != ':') = true :=
      bne_iff_ne.2 fun he => h.domain_free (he ▸ hc)
    rw [h.toList_eq, List.dropWhile_append_of_pos hother]
    simp
  rw [lookUp, hbehind, h.filterMap_cutAt, List.find?_map, Option.map_map]
  simp [Function.comp_def, String.toList_inj]

/-- **Exactly the spellings are names.** A text is read just when it is spelled by a
domain and key properties, and any other text is refused and quoted. What is read
keeps the text, has that domain and those properties, and gives for every key the
value of the first property with it, if there is one; looked for in the text, it
is the same. -/
theorem exactly_spellings_are_names (text : String) :
    ((∃ name, parse text = .ok name) ↔ ∃ domain properties, Spells text domain properties) ∧
    ((∃ reason, parse text = .error (invalid text reason)) ↔
      ¬ ∃ domain properties, Spells text domain properties) ∧
    ∀ domain properties, Spells text domain properties → ∃ name, parse text = .ok name ∧
      name.text = text ∧ name.domain = domain ∧ name.properties = properties ∧
      ∀ key, (∀ value, name.property key = some value ↔
          ∃ before after, properties = before ++ (key, value) :: after ∧
            ∀ p ∈ before, p.1 ≠ key) ∧
        (name.property key = none ↔ ∀ p ∈ properties, p.1 ≠ key) ∧
        name.property key = lookUp text key := by
  refine ⟨?_, ?_, fun domain properties h => ?_⟩
  · constructor
    · rintro ⟨name, hname⟩
      exact ⟨_, _, (spells_of_parse hname).2⟩
    · rintro ⟨domain, properties, h⟩
      exact ⟨_, h.parse⟩
  · constructor
    · rintro ⟨reason, herror⟩ ⟨domain, properties, h⟩
      cases herror.symm.trans h.parse
    · intro hnone
      refine (parse_eq_ok_or text).resolve_left ?_
      rintro ⟨name, hname⟩
      exact hnone ⟨_, _, (spells_of_parse hname).2⟩
  · have hproperty (key : String) : ObjectName.property ⟨text, domain.length⟩ key =
        (properties.find? (·.1 = key)).map (·.2) := by
      rw [ObjectName.property, h.properties_eq]
    refine ⟨_, h.parse, rfl, h.domain_eq, h.properties_eq, fun key => ⟨fun value => ?_, ?_, ?_⟩⟩
    · rw [property_eq_some_iff, h.properties_eq]
    · rw [property_eq_none_iff, h.properties_eq]
    · rw [hproperty, h.lookUp_eq]

/-- The tables of a keyspace: a key that stands twice, and values with a colon and with
equals signs. -/
def tablesOfKeyspace : List (String × String) :=
  [("type", "Tables"), ("keyspace", "größe:1"), ("table", "a=b="), ("keyspace", "ks")]

/-- Of two values of a key the first is found. -/
theorem first_keyspace_found :
    Spells "org.apache.cassandra.db:type=Tables,keyspace=größe:1,table=a=b=,keyspace=ks"
      "org.apache.cassandra.db" tablesOfKeyspace ∧
    ∃ name, parse "org.apache.cassandra.db:type=Tables,keyspace=größe:1,table=a=b=,keyspace=ks" =
        .ok name ∧
      name.property "keyspace" = some "größe:1" ∧ name.property "table" = some "a=b=" ∧
      name.property "KEYSPACE" = none := by
  have hspells :
      Spells "org.apache.cassandra.db:type=Tables,keyspace=größe:1,table=a=b=,keyspace=ks"
        "org.apache.cassandra.db" tablesOfKeyspace := by
    refine ⟨by decide, by decide, by decide, fun p hp => ?_, by decide +kernel⟩
    simp only [tablesOfKeyspace, List.mem_cons, List.not_mem_nil, or_false] at hp
    rcases hp with rfl | rfl | rfl | rfl <;> exact ⟨by decide, by decide, by decide, by decide⟩
  obtain ⟨name, hparse, -, -, hproperties, hproperty⟩ :=
    (exactly_spellings_are_names _).2.2 _ _ hspells
  refine ⟨hspells, name, hparse, ?_, ?_, ?_⟩
  · exact ((hproperty "keyspace").1 _).2 ⟨[("type", "Tables")], _, rfl, by simp⟩
  · exact ((hproperty "table").1 _).2
      ⟨[("type", "Tables"), ("keyspace", "größe:1")], _, rfl, by simp⟩
  · exact (hproperty "KEYSPACE").2.1.2 (by simp [tablesOfKeyspace])

end NodeSidecar.Management.ObjectName
