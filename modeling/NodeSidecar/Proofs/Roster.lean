import Mathlib.Data.List.Forall2
import Mathlib.Data.List.Induction
import NodeSidecar.Roster
/-!
# Roster — how a node is found

Nodes make a roster just when there is one and no two have one id
(`exists_ofList_iff`). The roster holds them in their order, so the node with an
id has one place (`index_of_getElem?`), and the table by ids has what a search of
the list finds (`tableOf_eq_find?`): the node with an id is found (`find_of_mem`),
and an id that no node has is refused (`index_of_unknown`, `find_of_unknown`). On a
host the first node is found whose host differs in the case of ASCII letters at
most (`onHost?_eq_some_iff`).
-/

namespace NodeSidecar

variable {nodes : List Managed} {r : Roster} {m : Managed} {k n : Nat}

/-- Numbers are without a repetition just when they are pairwise different and
none has been there. -/
theorem firstRepeated?_eq_none_iff {seen rest : List Nat} :
    firstRepeated? seen rest = none ↔ rest.Nodup ∧ ∀ n ∈ rest, n ∉ seen := by
  induction rest generalizing seen with
  | nil => simp [firstRepeated?]
  | cons m rest ih =>
    rw [firstRepeated?, List.nodup_cons, List.forall_mem_cons]
    split
    · rename_i hm
      exact iff_of_false (by simp) fun h => h.2.1 hm
    · rename_i hm
      rw [ih]
      constructor
      · rintro ⟨hnodup, hnew⟩
        refine ⟨⟨fun hmem => hnew m hmem List.mem_cons_self, hnodup⟩, hm, fun n hn hseen => ?_⟩
        exact hnew n hn (List.mem_cons_of_mem _ hseen)
      · rintro ⟨⟨hfresh, hnodup⟩, -, hnew⟩
        refine ⟨hnodup, fun n hn hseen => ?_⟩
        rcases List.mem_cons.1 hseen with rfl | hseen
        · exact hfresh hn
        · exact hnew n hn hseen

namespace Roster

/-- A roster holds the nodes that it was made of. -/
theorem toList_of_ofList (h : ofList nodes = .ok r) : r.toList = nodes := by
  cases nodes with
  | nil => cases h
  | cons first others =>
    rw [ofList] at h
    split at h
    · cases h
    · obtain rfl := Except.ok.inj h
      rfl

/-- **No two nodes of a roster have one id.** -/
theorem nodup_of_ofList (h : ofList nodes = .ok r) : (nodes.map (·.id)).Nodup := by
  cases nodes with
  | nil => cases h
  | cons first others =>
    rw [ofList] at h
    split at h
    · cases h
    · rename_i hnone
      exact (firstRepeated?_eq_none_iff.1 hnone).1

theorem pairwise_of_ofList (h : ofList nodes = .ok r) : nodes.Pairwise fun a b => a.id ≠ b.id :=
  List.pairwise_map.1 (nodup_of_ofList h)

/-- **Nodes make a roster** just when there is one, and no two have one id. -/
theorem exists_ofList_iff :
    (∃ r, ofList nodes = .ok r) ↔ nodes ≠ [] ∧ (nodes.map (·.id)).Nodup := by
  constructor
  · rintro ⟨r, h⟩
    refine ⟨?_, nodup_of_ofList h⟩
    rintro rfl
    cases h
  · rintro ⟨hne, hnodup⟩
    obtain ⟨first, others, rfl⟩ := List.exists_cons_of_ne_nil hne
    have hnone : firstRepeated? [] ((first :: others).map (·.id)) = none :=
      firstRepeated?_eq_none_iff.2 ⟨hnodup, by simp⟩
    exact ⟨⟨first, others⟩, by rw [ofList, hnone]⟩

/-- **The node with an id is found at its place.** -/
theorem index_of_getElem? (h : ofList nodes = .ok r) (hk : nodes[k]? = some m) :
    r.index m.id = .ok k := by
  obtain ⟨hlt, rfl⟩ := List.getElem?_eq_some_iff.1 hk
  have hfind : nodes.findIdx? (·.id = nodes[k].id) = some k := by
    refine List.findIdx?_eq_some_iff_getElem.2 ⟨hlt, by simp, fun j hj => ?_⟩
    simpa using List.pairwise_iff_getElem.1 (pairwise_of_ofList h) j k (Nat.lt_trans hj hlt) hlt hj
  rw [index, toList_of_ofList h, hfind]

/-- **An id that no node has is refused.** -/
theorem index_of_unknown (h : ofList nodes = .ok r) (hno : ∀ m ∈ nodes, m.id ≠ n) :
    r.index n = .error (.instanceNotFound n) := by
  have hfind : nodes.findIdx? (·.id = n) = none :=
    List.findIdx?_eq_none_iff.2 fun m hm => by simpa using hno m hm
  rw [index, toList_of_ofList h, hfind]

/-! ## The table by ids -/

/-- Where no id is repeated, the table holds what a search of the list finds. -/
theorem tableOf_eq_find? (h : (nodes.map (·.id)).Nodup) (n : Nat) :
    tableOf nodes n = nodes.find? (·.id = n) := by
  induction nodes using List.reverseRecOn with
  | nil => rfl
  | append_singleton nodes m ih =>
    rw [List.map_append, List.nodup_append] at h
    obtain ⟨hnodup, -, hapart⟩ := h
    have hlast : tableOf (nodes ++ [m]) n = if n = m.id then some m else tableOf nodes n := by
      rw [tableOf, List.foldl_append]
      rfl
    rw [hlast, ih hnodup, List.find?_append]
    split
    · rename_i hn
      subst hn
      have hnone : nodes.find? (·.id = m.id) = none := List.find?_eq_none.2 fun m' hm' => by
        simpa using hapart m'.id (List.mem_map_of_mem hm') m.id (by simp)
      simp [hnone]
    · rename_i hn
      simp [Ne.symm hn]

/-- **The table is looked into.** -/
theorem find_eq_tableOf (r : Roster) (n : Nat) :
    r.find n = (tableOf r.toList n).elim (.error (.instanceNotFound n)) .ok := by
  rw [find]
  cases tableOf r.toList n <;> rfl

/-- **Looking into the table is searching the list.** -/
theorem find_eq_find? (h : ofList nodes = .ok r) (n : Nat) :
    r.find n = (nodes.find? (·.id = n)).elim (.error (.instanceNotFound n)) .ok := by
  rw [find_eq_tableOf, toList_of_ofList h, tableOf_eq_find? (nodup_of_ofList h)]

/-- **The node with an id is the one that is found.** -/
theorem find_of_mem (h : ofList nodes = .ok r) (hm : m ∈ nodes) : r.find m.id = .ok m := by
  obtain ⟨k, hk⟩ := List.mem_iff_getElem?.1 hm
  obtain ⟨hlt, rfl⟩ := List.getElem?_eq_some_iff.1 hk
  have hfind : nodes.find? (·.id = nodes[k].id) = some nodes[k] := by
    refine List.find?_eq_some_iff_getElem.2 ⟨by simp, k, hlt, rfl, fun j hj => ?_⟩
    simpa using List.pairwise_iff_getElem.1 (pairwise_of_ofList h) j k (Nat.lt_trans hj hlt) hlt hj
  rw [find_eq_find? h, hfind]
  rfl

theorem find_of_unknown (h : ofList nodes = .ok r) (hno : ∀ m ∈ nodes, m.id ≠ n) :
    r.find n = .error (.instanceNotFound n) := by
  have hfind : nodes.find? (·.id = n) = none :=
    List.find?_eq_none.2 fun m hm => by simpa using hno m hm
  rw [find_eq_find? h, hfind]
  rfl

/-! ## Hosts -/

/-- One letter in its two cases, or one and the same character. -/
def SameLetter (a b : Char) : Prop :=
  a = b ∨ ∃ k < 26, (a.toNat = 65 + k ∧ b.toNat = 97 + k) ∨ (a.toNat = 97 + k ∧ b.toNat = 65 + k)

/-- Two hosts that differ in the case of ASCII letters at most. -/
def SameHost (a b : String) : Prop :=
  List.Forall₂ SameLetter a.toList b.toList

theorem toNat_toLower (a : Char) :
    a.toLower.toNat = if 65 ≤ a.toNat ∧ a.toNat ≤ 90 then a.toNat + 32 else a.toNat := by
  have hupper : (a.val ≥ 'A'.val ∧ a.val ≤ 'Z'.val) ↔ 65 ≤ a.toNat ∧ a.toNat ≤ 90 := Iff.rfl
  simp only [← hupper]
  unfold Char.toLower
  split
  · rename_i h
    have hle : a.val.toNat ≤ 90 := h.2
    have hgap : ('a'.val - 'A'.val).toNat = 32 := rfl
    have hsum : (a.val + ('a'.val - 'A'.val)).toNat = a.val.toNat + 32 := by
      rw [UInt32.toNat_add, hgap]
      omega
    exact hsum
  · rfl

theorem toLower_eq_iff {a b : Char} : a.toLower = b.toLower ↔ SameLetter a b := by
  rw [← Char.toNat_inj, toNat_toLower, toNat_toLower, SameLetter, ← Char.toNat_inj]
  constructor
  · intro h
    split at h <;> split at h
    · exact .inl (by omega)
    · exact .inr ⟨a.toNat - 65, by omega, by omega⟩
    · exact .inr ⟨b.toNat - 65, by omega, by omega⟩
    · exact .inl h
  · rintro (h | ⟨k, hk, h⟩)
    · rw [h]
    · split <;> split <;> omega

theorem sameHost_iff {a b : String} : sameHost a b = true ↔ SameHost a b := by
  simp only [sameHost, decide_eq_true_iff, SameHost, ← List.forall₂_eq_eq_eq,
    List.forall₂_map_left_iff, List.forall₂_map_right_iff, toLower_eq_iff]

/-- **On a host the first node is found** whose host is the same. -/
theorem onHost?_eq_some_iff {host : String} : r.onHost? host = some m ↔
    SameHost m.host host ∧ ∃ before after, r.toList = before ++ m :: after ∧
      ∀ m' ∈ before, ¬ SameHost m'.host host := by
  simp only [onHost?, List.find?_eq_some_iff_append, sameHost_iff, Bool.not_eq_true',
    ← Bool.not_eq_true]

end Roster

end NodeSidecar
