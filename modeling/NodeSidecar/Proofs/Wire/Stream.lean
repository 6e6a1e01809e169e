import NodeSidecar.Wire.Stream
/-!
# Wire — how a stream is cut into frames

`Begins octets f rest` says that the frame `f` stands at the front of `octets` and
`rest` behind it: a header in nine octets that can be decoded, and a body as long as
it tells. A stream that begins with no frame has a header in front that cannot be
decoded (`Undecodable`), or less than a frame (`CutOff`). More octets make a frame
of the latter and never of the former. `Cut` takes frames off the front one after
the other; a stream that is `Framed` is cut as far as it can be, which is as far as
`frames` goes.
-/

namespace NodeSidecar.Wire

open Text (Octets)

variable {octets mid rest tail tail' head behind : Octets}
variable {f : Frame} {fs gs : List Frame}

/-- The frame `f` stands at the front of a stream, and `rest` behind it. -/
structure Begins (octets : Octets) (f : Frame) (rest : Octets) : Prop where
  header : ∃ head, head.length = headerLength ∧ Header.decode head = .ok f.header ∧
    octets = head ++ (f.body ++ rest)
  body : f.body.length = f.header.length

/-- A header stands at the front of a stream that cannot be decoded. -/
def Undecodable (octets : Octets) : Prop :=
  ∃ head behind flaw, octets = head ++ behind ∧ head.length = headerLength ∧
    Header.decode head = .error flaw

/-- There is less than a header, or less behind a header than it tells. -/
def CutOff (octets : Octets) : Prop :=
  octets.length < headerLength ∨
    ∃ head behind h, octets = head ++ behind ∧ head.length = headerLength ∧
      Header.decode head = .ok h ∧ behind.length < h.length

/-- The frames `fs` stand at the front of a stream one after the other, and `rest`
behind them. -/
inductive Cut : Octets → List Frame → Octets → Prop
  /-- Nothing is cut off. -/
  | nil {octets : Octets} : Cut octets [] octets
  /-- A frame is cut off, and others behind it. -/
  | cons {octets behind rest : Octets} {f : Frame} {fs : List Frame} :
      Begins octets f behind → Cut behind fs rest → Cut octets (f :: fs) rest

/-- A stream is cut into frames, and there is no other frame behind them. -/
structure Framed (octets : Octets) (fs : List Frame) (tail : Octets) : Prop where
  cut : Cut octets fs tail
  last : Undecodable tail ∨ CutOff tail

/-! ## What is at the front -/

theorem front_of_short (hshort : octets.length < headerLength) : front octets = .unfinished := by
  have hno : Read.hasAtLeast headerLength octets = false := by
    rw [Bool.eq_false_iff, Ne, Read.hasAtLeast_iff]
    omega
  simp only [front, hno, Bool.not_false, ↓reduceIte]

theorem front_append (hhead : head.length = headerLength) : front (head ++ behind) =
    match Header.decode head with
    | .error flaw => .broken flaw
    | .ok h =>
      if h.length ≤ behind.length then .frame ⟨h, behind.take h.length⟩ (behind.drop h.length)
      else .unfinished := by
  have hlong : Read.hasAtLeast headerLength (head ++ behind) = true := by
    rw [Read.hasAtLeast_iff, List.length_append]
    omega
  rcases hdecode : Header.decode head with flaw | h <;>
    simp only [front, hlong, hdecode, Bool.not_true, Bool.false_eq_true, ↓reduceIte,
      List.take_left' hhead, List.drop_left' hhead, Read.hasAtLeast_iff]

theorem front_of_begins (hf : Begins octets f rest) : front octets = .frame f rest := by
  obtain ⟨⟨head, hhead, hdecode, rfl⟩, hbody⟩ := hf
  have hle : f.header.length ≤ (f.body ++ rest).length := by
    rw [List.length_append]
    omega
  simp only [front_append hhead, hdecode, hle, ↓reduceIte, List.take_left' hbody,
    List.drop_left' hbody]

theorem front_of_undecodable (hu : Undecodable octets) : ∃ flaw, front octets = .broken flaw := by
  obtain ⟨head, behind, flaw, rfl, hhead, hdecode⟩ := hu
  exact ⟨flaw, by simp only [front_append hhead, hdecode]⟩

theorem front_of_cutOff (hc : CutOff octets) : front octets = .unfinished := by
  rcases hc with hshort | ⟨head, behind, h, rfl, hhead, hdecode, hless⟩
  · exact front_of_short hshort
  · simp only [front_append hhead, hdecode, Nat.not_le.2 hless, ↓reduceIte]

/-- **A stream begins with a frame, or with a header that cannot be decoded, or is
cut off.** -/
theorem begins_or_ends (octets : Octets) :
    (∃ f rest, Begins octets f rest) ∨ Undecodable octets ∨ CutOff octets := by
  by_cases hshort : octets.length < headerLength
  · exact .inr (.inr (.inl hshort))
  have hhead : (octets.take headerLength).length = headerLength := by
    rw [List.length_take]
    omega
  have hsplit : octets = octets.take headerLength ++ octets.drop headerLength :=
    (List.take_append_drop _ _).symm
  generalize octets.take headerLength = head, octets.drop headerLength = behind at hhead hsplit
  subst hsplit
  rcases hdecode : Header.decode head with flaw | h
  · exact .inr (.inl ⟨head, behind, flaw, rfl, hhead, hdecode⟩)
  by_cases hless : behind.length < h.length
  · exact .inr (.inr (.inr ⟨head, behind, h, rfl, hhead, hdecode, hless⟩))
  · refine .inl ⟨⟨h, behind.take h.length⟩, behind.drop h.length, ⟨head, hhead, hdecode, ?_⟩, ?_⟩
    · rw [List.take_append_drop]
    · exact List.length_take_of_le (Nat.not_lt.1 hless)

theorem front_eq_frame_iff : front octets = .frame f rest ↔ Begins octets f rest := by
  refine ⟨fun hfront => ?_, front_of_begins⟩
  rcases begins_or_ends octets with ⟨g, rest', hg⟩ | hu | hc
  · cases (front_of_begins hg).symm.trans hfront
    exact hg
  · obtain ⟨flaw, hbroken⟩ := front_of_undecodable hu
    cases hbroken.symm.trans hfront
  · cases (front_of_cutOff hc).symm.trans hfront

theorem undecodable_of_front {flaw : Flaw} (hfront : front octets = .broken flaw) :
    Undecodable octets := by
  rcases begins_or_ends octets with ⟨g, rest', hg⟩ | hu | hc
  · cases (front_of_begins hg).symm.trans hfront
  · exact hu
  · cases (front_of_cutOff hc).symm.trans hfront

theorem cutOff_of_front (hfront : front octets = .unfinished) : CutOff octets := by
  rcases begins_or_ends octets with ⟨g, rest', hg⟩ | hu | hc
  · cases (front_of_begins hg).symm.trans hfront
  · obtain ⟨flaw, hbroken⟩ := front_of_undecodable hu
    cases hbroken.symm.trans hfront
  · exact hc

/-- There is no frame at the front, and will never be. -/
def Front.isBroken : Front → Bool
  | .broken _ => true
  | _ => false

instance : DecidablePred Undecodable := fun octets =>
  decidable_of_iff ((front octets).isBroken = true) <| by
    constructor
    · intro hbroken
      rcases hfront : front octets with ⟨f, rest⟩ | - | flaw
      · simp [hfront, Front.isBroken] at hbroken
      · simp [hfront, Front.isBroken] at hbroken
      · exact undecodable_of_front hfront
    · intro hu
      obtain ⟨flaw, hfront⟩ := front_of_undecodable hu
      rw [hfront]
      rfl

theorem Undecodable.not_begins (hu : Undecodable octets) : ¬ Begins octets f rest := by
  intro hf
  obtain ⟨flaw, hbroken⟩ := front_of_undecodable hu
  cases hbroken.symm.trans (front_of_begins hf)

theorem CutOff.not_begins (hc : CutOff octets) : ¬ Begins octets f rest := fun hf =>
  nomatch (front_of_cutOff hc).symm.trans (front_of_begins hf)

theorem CutOff.not_undecodable (hc : CutOff octets) : ¬ Undecodable octets := by
  intro hu
  obtain ⟨flaw, hbroken⟩ := front_of_undecodable hu
  cases hbroken.symm.trans (front_of_cutOff hc)

/-! ## More octets -/

theorem Begins.append (hf : Begins octets f rest) (more : Octets) :
    Begins (octets ++ more) f (rest ++ more) := by
  obtain ⟨⟨head, hhead, hdecode, rfl⟩, hbody⟩ := hf
  exact ⟨⟨head, hhead, hdecode, by simp⟩, hbody⟩

/-- A stream that is broken stays so. -/
theorem Undecodable.append (hu : Undecodable octets) (more : Octets) :
    Undecodable (octets ++ more) := by
  obtain ⟨head, behind, flaw, rfl, hhead, hdecode⟩ := hu
  exact ⟨head, behind ++ more, flaw, by simp, hhead, hdecode⟩

namespace Cut

/-- What is cut off stays so as more arrives. -/
theorem append (hc : Cut octets fs rest) (more : Octets) :
    Cut (octets ++ more) fs (rest ++ more) := by
  induction hc with
  | nil => exact .nil
  | cons hf _ ih => exact .cons (hf.append more) ih

theorem trans (hc : Cut octets fs mid) (hc' : Cut mid gs rest) : Cut octets (fs ++ gs) rest := by
  induction hc with
  | nil => exact hc'
  | cons hf _ ih => exact .cons hf (ih hc')

theorem single (hf : Begins octets f rest) : Cut octets [f] rest :=
  .cons hf .nil

/-- From a stream that begins with no frame, none is cut off. -/
theorem of_ends (hc : Cut octets fs rest) (hends : Undecodable octets ∨ CutOff octets) :
    fs = [] ∧ rest = octets := by
  cases hc with
  | nil => exact ⟨rfl, rfl⟩
  | cons hf _ =>
    rcases hends with hu | hcut
    · exact absurd hf hu.not_begins
    · exact absurd hf hcut.not_begins

/-- **Where a stream is cut is fixed**: one cutting goes on from the other. -/
theorem of_framed (hc : Cut octets gs rest) (hf : Framed octets fs tail) :
    ∃ later, fs = gs ++ later ∧ Framed rest later tail := by
  induction hc generalizing fs with
  | nil => exact ⟨fs, rfl, hf⟩
  | cons hbegins _ ih =>
    obtain ⟨hcut, hlast⟩ := hf
    cases hcut with
    | nil =>
      rcases hlast with hu | hcutOff
      · exact absurd hbegins hu.not_begins
      · exact absurd hbegins hcutOff.not_begins
    | cons hbegins' hcut =>
      cases (front_of_begins hbegins).symm.trans (front_of_begins hbegins')
      obtain ⟨later, rfl, hlater⟩ := ih ⟨hcut, hlast⟩
      exact ⟨later, rfl, hlater⟩

end Cut

/-- **A stream is cut as far as it can be in one way.** -/
theorem Framed.unique (hf : Framed octets fs tail) (hg : Framed octets gs tail') :
    gs = fs ∧ tail' = tail := by
  obtain ⟨later, rfl, hlater⟩ := hf.cut.of_framed hg
  obtain ⟨rfl, rfl⟩ := hlater.cut.of_ends hf.last
  exact ⟨List.append_nil _, rfl⟩

/-- **Every stream is cut as far as it can be by `frames`.** -/
theorem exists_framed (octets : Octets) : ∃ tail, Framed octets (frames octets) tail := by
  induction octets using frames.induct with
  | case1 octets f rest hfront hshorter ih =>
    obtain ⟨tail, hcut, hlast⟩ := ih
    refine ⟨tail, ?_, hlast⟩
    rw [frames]
    split
    · rename_i g rest' hfront'
      cases hfront.symm.trans hfront'
      exact .cons (front_eq_frame_iff.1 hfront) hcut
    · rename_i hno
      exact absurd hfront (hno f rest)
  | case2 octets hno =>
    refine ⟨octets, ?_, ?_⟩
    · rw [frames]
      split
      · rename_i f rest hfront
        exact absurd hfront (hno f rest)
      · exact .nil
    · rcases begins_or_ends octets with ⟨f, rest, hf⟩ | hends
      · exact absurd (front_of_begins hf) (hno f rest)
      · exact hends

end NodeSidecar.Wire
