import NodeSidecar.Proofs.Json.Reading
import NodeSidecar.Proofs.Text.Utf8
import NodeSidecar.Service.Plan
/-!
# Service — the options in a body

A body gives no options if it is blank, and the texts of an object if it spells
one; any other body is refused (`readOptions_of_unreadable`). Of texts with one
name the last one counts, and their order says nothing (`GivesOptions`).
-/

namespace NodeSidecar.Service

open Text (Octets)

variable {body : Octets} {fields : List (String × Json)} {entries : List (String × String)}
variable {options : Option (List (String × String))}

/-- Nothing but ASCII blanks. -/
def IsBlank (body : Octets) : Prop :=
  body.all Text.isAsciiBlank = true

/-- The body spells an object with these texts. -/
def SpellsTexts (body : Octets) (entries : List (String × String)) : Prop :=
  ∃ text, Text.decodeUtf8 body = .ok text ∧
    Json.read? text = some (.object (Json.ofTexts entries))

/-- **The options that a body gives**: none if it is blank, and else the texts
of the object that it spells, by their names. -/
inductive GivesOptions (body : Octets) : Option (List (String × String)) → Prop
  | none : IsBlank body → GivesOptions body none
  | some {entries options : List (String × String)} : ¬ IsBlank body →
      SpellsTexts body entries → Json.Sorted options →
      (∀ name, options.lookup name = entries.reverse.lookup name) →
      GivesOptions body (some options)

/-- **The body that is written for some texts spells them.** -/
theorem spellsTexts_write (double : UInt64 → String) (entries : List (String × String)) :
    SpellsTexts (Text.encodeUtf8 (Json.write double (.object (Json.ofTexts entries))).toList)
      entries :=
  ⟨_, Text.decodeUtf8_eq_ok_iff.2 rfl, Json.read?_write_ofTexts double entries⟩

/-! ## Reading a body -/

/-- All fields have a text just when they are those of some texts. -/
theorem exists_texts_iff :
    (∃ texts, (fields.mapM fun f => f.2.string?) = some texts) ↔
      ∃ entries, fields = Json.ofTexts entries := by
  induction fields with
  | nil => exact iff_of_true ⟨[], rfl⟩ ⟨[], rfl⟩
  | cons f rest ih =>
    obtain ⟨k, j⟩ := f
    constructor
    · rintro ⟨texts, htexts⟩
      simp only [List.mapM_cons, Option.bind_eq_bind, Option.bind_eq_some_iff] at htexts
      obtain ⟨s, hs, others, hothers, -⟩ := htexts
      obtain ⟨entries, rfl⟩ := ih.1 ⟨others, hothers⟩
      cases j with
      | string s' => exact ⟨(k, s') :: entries, rfl⟩
      | _ => cases hs
    · rintro ⟨entries, hentries⟩
      cases entries with
      | nil => cases hentries
      | cons e entries =>
        obtain ⟨hfirst, hrest⟩ := List.cons.inj hentries
        obtain ⟨others, hothers⟩ := ih.2 ⟨entries, hrest⟩
        obtain ⟨-, rfl⟩ := Prod.mk.inj hfirst
        refine ⟨e.2 :: others, ?_⟩
        rw [List.mapM_cons, hothers]
        rfl

/-- **The options of a value** are the texts of an object, by their names. -/
theorem optionsOf?_eq_some {j : Json} {options : List (String × String)}
    (h : optionsOf? j = some options) :
    ∃ entries, j = .object (Json.ofTexts entries) ∧ Json.Sorted options ∧
      ∀ name, options.lookup name = entries.reverse.lookup name := by
  cases j with
  | object fields =>
    rw [optionsOf?] at h
    split at h
    · cases h
    · rename_i texts htexts
      obtain ⟨entries, rfl⟩ := exists_texts_iff.1 ⟨texts, htexts⟩
      obtain ⟨options', hoptions, hsorted, hlookup⟩ := Json.exists_canonicalTexts entries
      obtain rfl : options' = options := Option.some.inj (hoptions.symm.trans h)
      exact ⟨entries, rfl, hsorted, hlookup⟩
  | _ => cases h

theorem exists_optionsOf? (entries : List (String × String)) :
    ∃ options, optionsOf? (.object (Json.ofTexts entries)) = some options := by
  obtain ⟨texts, htexts⟩ := exists_texts_iff.2 ⟨entries, rfl⟩
  obtain ⟨options, hoptions, -⟩ := Json.exists_canonicalTexts entries
  refine ⟨options, ?_⟩
  rw [optionsOf?, htexts]
  exact hoptions

/-- **What is read off a body is what it gives.** -/
theorem givesOptions_of_readOptions (h : readOptions body = .ok options) :
    GivesOptions body options := by
  unfold readOptions at h
  split at h
  · rename_i hblank
    obtain rfl := Except.ok.inj h
    exact .none hblank
  · rename_i hblank
    split at h
    · cases h
    · rename_i text htext
      split at h
      · rename_i read hread
        obtain rfl := Except.ok.inj h
        obtain ⟨j, hj, hoptions⟩ := Option.bind_eq_some_iff.1 hread
        obtain ⟨entries, rfl, hsorted, hlookup⟩ := optionsOf?_eq_some hoptions
        exact .some hblank ⟨text, htext, hj⟩ hsorted hlookup
      · cases h

/-- A body that spells texts is read as the options that those are. -/
theorem readOptions_of_spellsTexts {options : List (String × String)} (hblank : ¬ IsBlank body)
    (h : SpellsTexts body entries)
    (hoptions : optionsOf? (.object (Json.ofTexts entries)) = some options) :
    readOptions body = .ok (some options) := by
  obtain ⟨text, htext, hread⟩ := h
  rw [readOptions, if_neg (show ¬ body.all Text.isAsciiBlank = true from hblank), htext]
  simp only [hread, Option.bind_some, hoptions]

/-- A body that is blank or spells an object of texts can be read. -/
theorem exists_readOptions (h : IsBlank body ∨ ∃ entries, SpellsTexts body entries) :
    ∃ options, readOptions body = .ok options := by
  by_cases hblank : IsBlank body
  · exact ⟨none, if_pos hblank⟩
  · obtain ⟨entries, hspells⟩ := h.resolve_left hblank
    obtain ⟨options, hoptions⟩ := exists_optionsOf? entries
    exact ⟨some options, readOptions_of_spellsTexts hblank hspells hoptions⟩

/-- **Any other body is refused**, as malformed. -/
theorem readOptions_of_unreadable (hblank : ¬ IsBlank body)
    (hno : ∀ entries, ¬ SpellsTexts body entries) :
    ∃ detail, readOptions body = .error (.malformedJson detail) := by
  rw [readOptions, if_neg (show ¬ body.all Text.isAsciiBlank = true from hblank)]
  split
  · exact ⟨_, rfl⟩
  · rename_i text htext
    split
    · rename_i options hoptions
      obtain ⟨j, hj, hoptions⟩ := Option.bind_eq_some_iff.1 hoptions
      obtain ⟨entries, rfl, -⟩ := optionsOf?_eq_some hoptions
      exact absurd ⟨text, htext, hj⟩ (hno entries)
    · exact ⟨_, rfl⟩

end NodeSidecar.Service
