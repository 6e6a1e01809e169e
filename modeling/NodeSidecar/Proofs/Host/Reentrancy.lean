import Mathlib.Data.List.Basic
import NodeSidecar.Host.Listeners
import NodeSidecar.Proofs.Execution
/-!
# Host — listeners that change the table

A listener that is told of an event may itself register and unregister
listeners, itself and later ones included. What it does is a `Script`: calls on
the table, each of which may depend on what the ones before it answered. A
`World` is the table together with what else listeners see, and a log of what
was done to the table and who was told. `standing` reads off the log who is
registered; `Kept` says that the table agrees with it, and every script keeps
that.
-/

namespace NodeSidecar.Host

variable {α τ : Type}

/-- The listener, with something done to each of its reactions. -/
def Listener.map {β : Type} (f : α → β) (l : Listener α) : Listener β :=
  ⟨l.onAdded.map f, l.onUp.map f, l.onDown.map f, l.onRemoved.map f⟩

@[simp] theorem Listener.reaction_map {β : Type} (f : α → β) (l : Listener α) (c : Change) :
    (l.map f).reaction c = (l.reaction c).map f := by
  cases c <;> rfl

/-! ## The log -/

/-- What is noted down. -/
inductive Note (α : Type) where
  /-- A listener registered and got this id. -/
  | registered (id : Nat) (l : Listener α)
  /-- The listener with this id was to be taken out, and was found or not. -/
  | unregistered (id : Nat) (found : Bool)
  /-- The table was said to have so many listeners. -/
  | sized (n : Nat)
  /-- The listener with this id ran a reaction. -/
  | ran (id : Nat) (a : α)

namespace Note

/-- The listener that registered. -/
def registration? : Note α → Option (Nat × Listener α)
  | .registered id l => some (id, l)
  | _ => none

/-- The listener that was taken out. -/
def removal? : Note α → Option Nat
  | .unregistered id true => some id
  | _ => none

/-- The reaction that was run, and whose it is. -/
def run? : Note α → Option (Nat × α)
  | .ran id a => some (id, a)
  | _ => none

end Note

/-- The listeners that registered, in order. -/
def registrations (log : List (Note α)) : List (Nat × Listener α) :=
  log.filterMap Note.registration?

/-- The ids of the listeners that were taken out, in order. -/
def removals (log : List (Note α)) : List Nat :=
  log.filterMap Note.removal?

/-- The reactions that were run and whose they are, in order. -/
def runs (log : List (Note α)) : List (Nat × α) :=
  log.filterMap Note.run?

/-- **Who is registered**: the listeners that registered and were not taken out,
in the order they registered. -/
def standing (log : List (Note α)) : List (Nat × Listener α) :=
  (registrations log).filter (·.1 ∉ removals log)

/-- The reactions that a change sets off, and whose they are: those of the
listeners that are registered and react to it, in the order they registered. -/
def concerned (log : List (Note α)) (c : Change) : List (Nat × α) :=
  (standing log).filterMap fun x => (x.2.reaction c).map (x.1, ·)

@[simp] theorem registrations_append (log notes : List (Note α)) :
    registrations (log ++ notes) = registrations log ++ registrations notes :=
  List.filterMap_append

@[simp] theorem removals_append (log notes : List (Note α)) :
    removals (log ++ notes) = removals log ++ removals notes :=
  List.filterMap_append

@[simp] theorem runs_append (log notes : List (Note α)) :
    runs (log ++ notes) = runs log ++ runs notes :=
  List.filterMap_append

/-- A note of something else changes nothing about who is registered. -/
theorem standing_concat {n : Note α} (hr : n.registration? = none) (hu : n.removal? = none)
    (log : List (Note α)) : standing (log ++ [n]) = standing log := by
  simp [standing, registrations, removals, hr, hu]

/-- Who is registered may be taken out, and is not registered then. -/
theorem mem_standing {log : List (Note α)} {id : Nat} :
    id ∈ (standing log).map (·.1) ↔
      id ∈ (registrations log).map (·.1) ∧ id ∉ removals log := by
  simp only [standing, List.mem_map, List.mem_filter, decide_eq_true_eq]
  constructor
  · rintro ⟨x, ⟨hx, hnot⟩, rfl⟩
    exact ⟨⟨x, hx, rfl⟩, hnot⟩
  · rintro ⟨⟨x, hx, rfl⟩, hnot⟩
    exact ⟨x, ⟨hx, hnot⟩, rfl⟩

theorem standing_unregistered {log : List (Note α)} {id : Nat} {found : Bool}
    (h : found = true ↔ id ∈ (standing log).map (·.1)) :
    standing (log ++ [.unregistered id found]) = (standing log).filter (·.1 ≠ id) := by
  cases found with
  | true =>
    have hremovals : removals (log ++ [.unregistered id true]) = removals log ++ [id] := by
      simp [removals, Note.removal?]
    have hregistrations : registrations (log ++ [.unregistered id true]) = registrations log := by
      simp [registrations, Note.registration?]
    rw [standing, hremovals, hregistrations, standing, List.filter_filter]
    refine List.filter_congr fun x _ => ?_
    simp [Bool.and_comm]
  -- Nobody of that id was registered, so nobody is left out.
  | false =>
    rw [Bool.false_eq_true, false_iff] at h
    have hall : (standing log).filter (·.1 ≠ id) = standing log := by
      refine List.filter_eq_self.2 fun x hx => decide_eq_true fun hid => h ?_
      exact hid ▸ List.mem_map_of_mem hx
    rw [hall, standing_concat rfl rfl]

/-- The listeners that a change concerns are registered, and it concerns each
once. -/
theorem concerned_sublist (log : List (Note α)) (c : Change) :
    ((concerned log c).map (·.1)).Sublist ((registrations log).map (·.1)) := by
  have hids (l : List (Nat × Listener α)) :
      (l.filterMap fun x => (x.2.reaction c).map (x.1, ·)).map (·.1) =
        (l.filter fun x => (x.2.reaction c).isSome).map (·.1) := by
    induction l with
    | nil => rfl
    | cons x l ih => cases h : x.2.reaction c <;> simp [h, ih]
  rw [concerned, hids]
  exact (List.filter_sublist.trans List.filter_sublist).map _

/-- Who registers later is not concerned. -/
theorem not_concerned_of_registered {log notes : List (Note α)}
    (hids : ((registrations (log ++ notes)).map (·.1)).Nodup) (c : Change)
    {x : Nat × Listener α} (hx : x ∈ registrations notes) :
    x.1 ∉ (concerned log c).map (·.1) := by
  intro hmem
  rw [registrations_append, List.map_append] at hids
  exact (List.nodup_append.1 hids).2.2 x.1 ((concerned_sublist log c).mem hmem) x.1
    (List.mem_map_of_mem hx) rfl

/-! ## The world of the listeners -/

/-- What a listener does when it is told of an event. -/
inductive Script (α τ : Type) where
  /-- It is done, and leaves this behind. -/
  | ends (rest : τ)
  /-- It registers a listener, and goes on with its id. -/
  | register (l : Listener α) (next : Nat → Script α τ)
  /-- It takes a listener out, and goes on with whether there was one. -/
  | unregister (id : Nat) (next : Bool → Script α τ)
  /-- It asks how many listeners there are. -/
  | size (next : Nat → Script α τ)

/-- A table of listeners, what else they see, and what was done so far. Each
reaction carries the id of the listener it belongs to. -/
structure World (α τ : Type) where
  /-- The table. -/
  table : Listeners (Nat × α)
  /-- What else the listeners see and change. -/
  rest : τ
  /-- What was done. -/
  log : List (Note α)

/-- A call on the table from outside, an event, or a change of what the
listeners see. -/
inductive WorldStep (α τ : Type) where
  /-- A listener is registered. -/
  | register (l : Listener α)
  /-- A listener is taken out. -/
  | unregister (id : Nat)
  /-- The listeners are counted. -/
  | size
  /-- An event is told. -/
  | notify (e : Event)
  /-- The listeners come to see something else. -/
  | alter (rest : τ)

namespace World

/-- No listeners, and nothing done. -/
def empty (rest : τ) : World α τ :=
  ⟨.empty, rest, []⟩

/-- Takes down a note. -/
def note (w : World α τ) (n : Note α) : World α τ :=
  { w with log := w.log ++ [n] }

/-- Registers a listener; answers its id. -/
def register (w : World α τ) (l : Listener α) : World α τ × Nat :=
  let (table, id) := w.table.register (l.map (w.table.nextId, ·))
  ({ w with table := table }.note (.registered id l), id)

/-- Takes a listener out; answers whether there was one. -/
def unregister (w : World α τ) (id : Nat) : World α τ × Bool :=
  let (table, found) := w.table.unregister id
  ({ w with table := table }.note (.unregistered id found), found)

/-- Counts the listeners. -/
def size (w : World α τ) : World α τ × Nat :=
  (w.note (.sized w.table.size), w.table.size)

/-- The world after a script. -/
def perform : Script α τ → World α τ → World α τ
  | .ends rest, w => { w with rest := rest }
  | .register l next, w => perform (next (w.register l).2) (w.register l).1
  | .unregister id next, w => perform (next (w.unregister id).2) (w.unregister id).1
  | .size next, w => perform (next w.size.2) w.size.1

/-- A listener runs a reaction: what it `does` depends on its id, the reaction,
the event and what it sees. -/
def react (does : Nat → α → Event → τ → Script α τ) (r : Nat × α) (e : Event)
    (w : World α τ) : World α τ :=
  perform (does r.1 r.2 e w.rest) (w.note (.ran r.1 r.2))

/-- Tells an event to the listeners. -/
def notify (does : Nat → α → Event → τ → Script α τ) (e : Event) (w : World α τ) : World α τ :=
  Listeners.notify World.table (react does) e w

/-- The world after a step. -/
def step (does : Nat → α → Event → τ → Script α τ) (w : World α τ) :
    WorldStep α τ → World α τ
  | .register l => (w.register l).1
  | .unregister id => (w.unregister id).1
  | .size => w.size.1
  | .notify e => w.notify does e
  | .alter rest => { w with rest := rest }

/-! ## The table agrees with the log -/

/-- **The table holds who is registered**, and what it answered was right when
it did. -/
structure Kept (w : World α τ) : Prop where
  /-- The table holds who is registered. -/
  entries : w.table.entries = (standing w.log).map fun x => (x.1, x.2.map (x.1, ·))
  /-- Ids are counted up. -/
  ids : (registrations w.log).map (·.1) = List.range w.table.nextId
  /-- Only listeners that registered were taken out. -/
  given : ∀ id ∈ removals w.log, id < w.table.nextId
  /-- None was taken out twice. -/
  once : (removals w.log).Nodup
  /-- Who was found was registered then. -/
  found : ∀ pre id found post, w.log = pre ++ .unregistered id found :: post →
    (found = true ↔ id ∈ (standing pre).map (·.1))
  /-- The listeners were counted right. -/
  sized : ∀ pre n post, w.log = pre ++ .sized n :: post →
    n + (removals pre).length = (registrations pre).length

theorem kept_empty (rest : τ) : Kept (empty rest : World α τ) where
  entries := rfl
  ids := rfl
  given := nofun
  once := List.nodup_nil
  found pre id found post h := by simp [empty] at h
  sized pre n post h := by simp [empty] at h

namespace Kept

variable {w : World α τ}

/-- No id is given twice. -/
theorem ids_nodup (h : Kept w) : ((registrations w.log).map (·.1)).Nodup := by
  rw [h.ids]
  exact List.nodup_range

theorem has_iff (h : Kept w) (id : Nat) :
    w.table.has id = true ↔ id ∈ (standing w.log).map (·.1) := by
  rw [Listeners.has, h.entries, List.any_map, List.any_eq_true, List.mem_map]
  exact exists_congr fun x => and_congr_right fun _ => decide_eq_true_iff

/-- **There are as many listeners as registered and were not taken out.** -/
theorem size_add (h : Kept w) :
    w.table.size + (removals w.log).length = (registrations w.log).length := by
  have hperm : (((registrations w.log).map (·.1)).filter (· ∈ removals w.log)).Perm
      (removals w.log) := by
    refine (List.perm_ext_iff_of_nodup (h.ids_nodup.filter _) h.once).2 fun id => ?_
    rw [List.mem_filter, h.ids, List.mem_range, decide_eq_true_eq, and_iff_right_iff_imp]
    exact h.given id
  have hin : ((registrations w.log).filter fun x => x.1 ∈ removals w.log).length =
      (removals w.log).length := by
    rw [← hperm.length_eq, List.filter_map, List.length_map]
    rfl
  have hout : w.table.size =
      ((registrations w.log).filter fun x => !decide (x.1 ∈ removals w.log)).length := by
    rw [Listeners.size, h.entries, List.length_map, standing]
    simp only [decide_not]
  have hsplit : (registrations w.log).length = _ :=
    List.length_eq_length_filter_add fun x => decide (x.1 ∈ removals w.log)
  rw [hsplit, hin, hout, Nat.add_comm]

/-- What is noted down with a change of the table is right, if it is right
then. -/
theorem concat (h : Kept w) {table : Listeners (Nat × α)} {n : Note α}
    (hentries : table.entries = (standing (w.log ++ [n])).map fun x => (x.1, x.2.map (x.1, ·)))
    (hids : (registrations (w.log ++ [n])).map (·.1) = List.range table.nextId)
    (hgiven : ∀ id ∈ removals (w.log ++ [n]), id < table.nextId)
    (honce : (removals (w.log ++ [n])).Nodup)
    (hfound : ∀ id found, n = .unregistered id found →
      (found = true ↔ id ∈ (standing w.log).map (·.1)))
    (hsized : ∀ k, n = .sized k → k = w.table.size) :
    Kept ({ w with table := table }.note n) where
  entries := hentries
  ids := hids
  given := hgiven
  once := honce
  found pre id found post hlog := by
    rcases concat_eq_append_cons hlog with ⟨rfl, hn, -⟩ | ⟨post', -, hpre⟩
    · exact hfound id found hn.symm
    · exact h.found pre id found post' hpre
  sized pre k post hlog := by
    rcases concat_eq_append_cons hlog with ⟨rfl, hn, -⟩ | ⟨post', -, hpre⟩
    · rw [hsized k hn.symm]
      exact h.size_add
    · exact h.sized pre k post' hpre

/-- A note that is not about a change of the table. -/
theorem note (h : Kept w) {n : Note α} (hr : n.registration? = none) (hu : n.removal? = none)
    (hfound : ∀ id found, n ≠ .unregistered id found)
    (hsized : ∀ k, n = .sized k → k = w.table.size) : Kept (w.note n) := by
  have hremovals : removals (w.log ++ [n]) = removals w.log := by simp [removals, hu]
  suffices hsame : Kept ({ w with table := w.table }.note n) from hsame
  refine h.concat ?_ ?_ ?_ ?_ (fun id found hn => absurd hn (hfound id found)) hsized
  · rw [standing_concat hr hu]
    exact h.entries
  · simpa [registrations, hr] using h.ids
  · rw [hremovals]
    exact h.given
  · rw [hremovals]
    exact h.once

theorem size (h : Kept w) : Kept w.size.1 :=
  h.note rfl rfl nofun fun _ hk => (Note.sized.inj hk).symm

theorem ran (h : Kept w) (id : Nat) (a : α) : Kept (w.note (.ran id a)) :=
  h.note rfl rfl nofun nofun

/-- **A listener that registers** stands behind all others, under a new id. -/
theorem register (h : Kept w) (l : Listener α) : Kept (w.register l).1 := by
  have hnew : w.table.nextId ∉ removals w.log := fun hmem => Nat.lt_irrefl _ (h.given _ hmem)
  have hremovals : removals (w.log ++ [.registered w.table.nextId l]) = removals w.log := by
    simp [removals, Note.removal?]
  have hregistrations : registrations (w.log ++ [.registered w.table.nextId l]) =
      registrations w.log ++ [(w.table.nextId, l)] := by
    simp [registrations, Note.registration?]
  refine h.concat ?_ ?_ ?_ ?_ nofun nofun
  · rw [standing, hremovals, hregistrations, List.filter_append, ← standing, List.map_append,
      ← h.entries]
    simp [hnew]
  · rw [hregistrations, List.map_append, h.ids]
    exact List.range_succ.symm
  · rw [hremovals]
    exact fun id hid => Nat.lt_succ_of_lt (h.given id hid)
  · rw [hremovals]
    exact h.once

/-- **A listener that is taken out** was there, and is no more. -/
theorem unregister (h : Kept w) (id : Nat) : Kept (w.unregister id).1 := by
  have hfound := h.has_iff id
  have hremovals : removals (w.log ++ [.unregistered id (w.table.has id)]) =
      removals w.log ++ if w.table.has id then [id] else [] := by
    cases w.table.has id <;> simp [removals, Note.removal?]
  -- Who is found has registered, and was not taken out before.
  have hgone (hhas : w.table.has id = true) :
      id ∈ (registrations w.log).map (·.1) ∧ id ∉ removals w.log := mem_standing.1 (hfound.1 hhas)
  have hregistrations : registrations (w.log ++ [.unregistered id (w.table.has id)]) =
      registrations w.log := by
    cases w.table.has id <;> simp [registrations, Note.registration?]
  have hentries : (w.table.unregister id).1.entries =
      ((standing w.log).filter (·.1 ≠ id)).map fun x => (x.1, x.2.map (x.1, ·)) := by
    rw [Listeners.unregister, h.entries, List.filter_map]
    rfl
  refine h.concat ?_ ?_ ?_ ?_ ?_ nofun
  · rw [standing_unregistered hfound]
    exact hentries
  · rw [hregistrations]
    exact h.ids
  · intro x hx
    rw [hremovals, List.mem_append] at hx
    rcases hx with hx | hx
    · exact h.given x hx
    · split at hx
      · rename_i hhas
        obtain rfl := List.mem_singleton.1 hx
        have hmem := (hgone hhas).1
        rwa [h.ids, List.mem_range] at hmem
      · cases hx
  · rw [hremovals]
    split
    · rename_i hhas
      refine List.nodup_append.2 ⟨h.once, by simp, fun x hx y hy hxy => ?_⟩
      exact (hgone hhas).2 (List.mem_singleton.1 hy ▸ hxy ▸ hx)
    · rw [List.append_nil]
      exact h.once
  · rintro _ _ ⟨⟩
    exact hfound

/-- What else the listeners see is no matter of the table. -/
theorem alter (h : Kept w) (rest : τ) : Kept { w with rest := rest } :=
  ⟨h.entries, h.ids, h.given, h.once, h.found, h.sized⟩

end Kept

/-! ## What listeners do meanwhile -/

/-- What was done after a world came to another one: the notes that were added,
among them those of these runs. -/
def Since (w w' : World α τ) (rs : List (Nat × α)) : Prop :=
  ∃ notes, w'.log = w.log ++ notes ∧ runs notes = rs

theorem Since.trans {w w' w'' : World α τ} {rs rs' : List (Nat × α)} (h : Since w w' rs)
    (h' : Since w' w'' rs') : Since w w'' (rs ++ rs') := by
  obtain ⟨notes, hlog, hruns⟩ := h
  obtain ⟨notes', hlog', hruns'⟩ := h'
  exact ⟨notes ++ notes', by rw [hlog', hlog, List.append_assoc], by simp [hruns, hruns']⟩

theorem since_note (w : World α τ) (n : Note α) : Since w (w.note n) n.run?.toList :=
  ⟨[n], rfl, by cases h : n.run? <;> simp [runs, h]⟩

/-- **A script keeps the table in agreement with the log**, and runs no other
listener. -/
theorem Kept.perform {w : World α τ} (h : Kept w) (s : Script α τ) :
    Kept (w.perform s) ∧ Since w (w.perform s) [] := by
  induction s generalizing w with
  | ends rest => exact ⟨h.alter rest, [], (List.append_nil _).symm, rfl⟩
  | register l next ih =>
    obtain ⟨hkept, hsince⟩ := ih (w.register l).2 (h.register l)
    exact ⟨hkept, (since_note _ _).trans hsince⟩
  | unregister id next ih =>
    obtain ⟨hkept, hsince⟩ := ih (w.unregister id).2 (h.unregister id)
    exact ⟨hkept, (since_note _ _).trans hsince⟩
  | size next ih =>
    obtain ⟨hkept, hsince⟩ := ih w.size.2 h.size
    exact ⟨hkept, (since_note _ _).trans hsince⟩

variable {does : Nat → α → Event → τ → Script α τ}

/-- **Telling an event** runs the reactions it set out to run, whatever they do
to the table meanwhile. -/
theorem Kept.foldl_react {w : World α τ} (h : Kept w) (rs : List (Nat × α)) (e : Event) :
    Kept (rs.foldl (fun w r => react does r e w) w) ∧
      Since w (rs.foldl (fun w r => react does r e w) w) rs := by
  induction rs generalizing w with
  | nil => exact ⟨h, [], (List.append_nil _).symm, rfl⟩
  | cons r rs ih =>
    obtain ⟨hone, hran⟩ := (h.ran r.1 r.2).perform (does r.1 r.2 e w.rest)
    obtain ⟨hall, hrest⟩ := ih hone
    exact ⟨hall, ((since_note w (.ran r.1 r.2)).trans hran).trans hrest⟩

/-- The reactions that an event sets off are those of who is registered. -/
theorem Kept.reactions {w : World α τ} (h : Kept w) (c : Change) :
    w.table.reactions c = concerned w.log c := by
  rw [Listeners.reactions, h.entries, List.filterMap_map]
  exact List.filterMap_congr fun x _ => Listener.reaction_map _ x.2 c

theorem Kept.notify {w : World α τ} (h : Kept w) (e : Event) :
    Kept (w.notify does e) ∧ Since w (w.notify does e) (concerned w.log e.change) := by
  rw [← h.reactions]
  exact h.foldl_react _ e

/-- **Every step keeps the table in agreement with the log.** -/
theorem Kept.step {w : World α τ} (h : Kept w) (s : WorldStep α τ) : Kept (w.step does s) := by
  cases s with
  | register l => exact h.register l
  | unregister id => exact h.unregister id
  | size => exact h.size
  | notify e => exact (h.notify e).1
  | alter rest => exact h.alter rest

theorem Kept.steps {w : World α τ} (h : Kept w) (ss : List (WorldStep α τ)) :
    Kept (ss.foldl (World.step does) w) := by
  induction ss generalizing w with
  | nil => exact h
  | cons s ss ih => exact ih (h.step s)

/-- **An event is told to those who are registered when it comes**, once each and
in the order they registered, whatever they do to the table when they are told;
who registers meanwhile is not told. After any steps, and whatever the listeners
do, the table holds those who registered and were not taken out, no id was given
twice, taking a listener out answered whether it was registered at that moment,
which it was at most once, and there are as many listeners as registered and
were not taken out. -/
theorem told_are_those_registered (does : Nat → α → Event → τ → Script α τ) (start : τ)
    (steps : List (WorldStep α τ)) (w : World α τ)
    (hw : steps.foldl (World.step does) (empty start) = w) :
    (∀ e, ∃ notes, (w.notify does e).log = w.log ++ notes ∧
      runs notes = concerned w.log e.change ∧
      ((runs notes).map (·.1)).Nodup ∧
      ∀ x ∈ registrations notes, x.1 ∉ (runs notes).map (·.1)) ∧
    (w.table.entries = (standing w.log).map fun x => (x.1, x.2.map (x.1, ·))) ∧
    ((registrations w.log).map (·.1)).Nodup ∧
    (∀ pre id found post, w.log = pre ++ .unregistered id found :: post →
      (found = true ↔ id ∈ (standing pre).map (·.1))) ∧
    (removals w.log).Nodup ∧
    (∀ pre n post, w.log = pre ++ .sized n :: post →
      n + (removals pre).length = (registrations pre).length) ∧
    w.table.size + (removals w.log).length = (registrations w.log).length := by
  have h : Kept w := hw ▸ (kept_empty start).steps steps
  refine ⟨fun e => ?_, h.entries, h.ids_nodup, h.found, h.once, h.sized, h.size_add⟩
  obtain ⟨hkept, notes, hlog, hruns⟩ : Kept (w.notify does e) ∧
    Since w (w.notify does e) (concerned w.log e.change) := h.notify e
  refine ⟨notes, hlog, hruns, ?_, fun x hx => ?_⟩
  · rw [hruns]
    exact (concerned_sublist w.log e.change).nodup h.ids_nodup
  · rw [hruns]
    exact not_concerned_of_registered (hlog ▸ hkept.ids_nodup) e.change hx

/-- A listener that takes out the one after it and registers another one. -/
def usurper (id : Nat) : Unit → Event → Unit → Script Unit Unit
  | _, _, _ => .unregister (id + 1) fun _ => .register (.on [.up] ()) fun _ => .ends ()

/-- Of two such listeners the second one is told although the first one has taken
it out, and those that they registered are not. -/
theorem usurped_listener_is_told : ∃ w : World Unit Unit,
    [.register (.on [.up] ()), .register (.on [.up] ())].foldl (World.step usurper)
      (empty ()) = w ∧
    runs (w.notify usurper ⟨.up, ⟨.v4 127 0 0 1, 9042, 0⟩⟩).log = [(0, ()), (1, ())] ∧
    removals (w.notify usurper ⟨.up, ⟨.v4 127 0 0 1, 9042, 0⟩⟩).log = [1, 2] ∧
    (standing (w.notify usurper ⟨.up, ⟨.v4 127 0 0 1, 9042, 0⟩⟩).log).map (·.1) = [0, 3] := by
  obtain ⟨w, hw, hbefore, hconcerned, hremovals, hstanding⟩ : ∃ w : World Unit Unit,
      [.register (.on [.up] ()), .register (.on [.up] ())].foldl (World.step usurper)
        (empty ()) = w ∧ runs w.log = [] ∧ concerned w.log .up = [(0, ()), (1, ())] ∧
      removals (w.notify usurper ⟨.up, ⟨.v4 127 0 0 1, 9042, 0⟩⟩).log = [1, 2] ∧
      (standing (w.notify usurper ⟨.up, ⟨.v4 127 0 0 1, 9042, 0⟩⟩).log).map (·.1) = [0, 3] :=
    ⟨_, rfl, rfl, rfl, rfl, rfl⟩
  obtain ⟨htold, -⟩ := told_are_those_registered usurper () _ w hw
  obtain ⟨notes, hnotes, hruns, -⟩ := htold ⟨.up, ⟨.v4 127 0 0 1, 9042, 0⟩⟩
  refine ⟨w, hw, ?_, hremovals, hstanding⟩
  rw [hnotes, runs_append, hbefore, hruns]
  exact hconcerned

end World

end NodeSidecar.Host
