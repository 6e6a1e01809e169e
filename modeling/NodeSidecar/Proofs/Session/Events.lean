import NodeSidecar.Proofs.Session.Loss
import NodeSidecar.Proofs.Wire.Stream
/-!
# Session — the events that listeners are told

The one who reads a connection takes frames off the octets that arrived, and
passes on what they announce. `Intake` says what one move does about octets,
frames and events. Along a history this adds up to `Account`: what has arrived is
cut into the frames that were read and what is left, and the listeners were told
what these frames announce. No frame is read once the end has come (`Spent`), so
word of the loss comes last. How far the one who reads has come by then is
`ReadStage`.
-/

namespace NodeSidecar.Session.Connection

open Text (Octets)
open Wire (Begins Undecodable CutOff Cut Framed)

variable {α : Type} {c c' : Connection α} {st : Step α} {f : Wire.Frame}
variable {fs : List Wire.Frame} {rest tail : Octets} {e : Host.Event}
variable {t : Moment α} {peer : Net.Endpoint} {past : List (Moment α)} {run : Calls α}
variable {id i : Nat} {p : Progress (Call α) Wait} {a : Option Answer}
variable {turn : Turn Wait Result}

/-! ## What a frame announces -/

/-- The event that a frame announces to the listeners: a change that is tracked, on
the stream of events. That a host is down counts only if it is the peer. -/
def announced (peer : Net.Endpoint) (f : Wire.Frame) : Option Host.Event :=
  if f.header.stream = Wire.eventStream then
    match Host.parseEvent f.body with
    | .ok (some e) => if e.change = .down ∧ e.endpoint.host ≠ peer.host then none else some e
    | _ => none
  else none

theorem announced_eq : announced peer f =
    if f.header.stream = Wire.eventStream then (event? f).filter (concerns peer) else none := by
  unfold announced event?
  split
  · rcases Host.parseEvent f.body with flaw | - | e
    · rfl
    · rfl
    · by_cases hdown : e.change = .down <;> by_cases hpeer : e.endpoint.host = peer.host <;>
        simp [Option.filter_some, concerns, hdown, hpeer]
  · rfl

/-- What a frame announces is passed on. -/
theorem receive_of_some (h : announced c.peer f = some e) : c.receive f = c.tell e := by
  rw [announced_eq] at h
  by_cases hstream : f.header.stream = Wire.eventStream
  · rw [if_pos hstream] at h
    rw [receive, if_pos hstream, h]
  · rw [if_neg hstream] at h
    cases h

/-- A frame that announces nothing goes to who waits for it, if it is an answer. -/
theorem receive_of_none (h : announced c.peer f = none) : c.receive f =
    if f.header.stream = Wire.eventStream then c
    else c.settle f.header.stream (some f) := by
  rw [announced_eq] at h
  by_cases hstream : f.header.stream = Wire.eventStream
  · rw [if_pos hstream] at h
    rw [receive, if_pos hstream, if_pos hstream, h]
  · rw [receive, if_neg hstream, if_neg hstream]

/-- What the listeners of a table do on an event. -/
def heard (d : Host.Listeners α × Host.Event) : List (α × Host.Event) :=
  (d.1.reactions d.2.change).map (·, d.2)

/-- What receiving a frame does about octets and events. -/
theorem receive_intake (c : Connection α) (f : Wire.Frame) :
    (c.receive f).inbox = c.inbox ∧ (c.receive f).hungUp = c.hungUp ∧
      (c.receive f).closed = c.closed ∧ (c.receive f).told = c.told ++
        ((announced c.peer f).map (c.listeners, ·)).toList.flatMap heard := by
  rcases hf : announced c.peer f with - | e
  · rw [receive_of_none hf]
    split <;> simp [settle]
  · rw [receive_of_some hf]
    simp [tell, heard]

/-! ## What a move does about octets, frames and events -/

/-- No frame is there to read, and none will come. -/
def Spent (c : Connection α) : Prop :=
  Undecodable c.inbox ∨ (c.hungUp = true ∧ CutOff c.inbox)

theorem Spent.ends (h : Spent c) : Undecodable c.inbox ∨ CutOff c.inbox :=
  h.imp_right And.right

theorem Spent.not_begins (h : Spent c) : ¬ Begins c.inbox f rest := by
  rcases h.ends with hu | hc
  · exact hu.not_begins
  · exact hc.not_begins

/-- What the one who reads does: it receives a frame, or comes to the end. -/
inductive Reading (c : Connection α) : Step α → Prop
  /-- A frame is taken off. -/
  | receives {f : Wire.Frame} {rest : Octets} : Begins c.inbox f rest →
      Reading c (({ c with inbox := rest }.receive f).waits .reading)
  /-- There is none, and none will come. -/
  | ends : Spent c → Reading c c.endReading

theorem readNext_eq_some_iff : c.readNext = some st ↔ Reading c st := by
  constructor
  · intro h
    unfold readNext at h
    split at h
    · rename_i f rest hfront
      obtain rfl := Option.some.inj h
      exact .receives (Wire.front_eq_frame_iff.1 hfront)
    · rename_i flaw hfront
      obtain rfl := Option.some.inj h
      exact .ends (.inl (Wire.undecodable_of_front hfront))
    · rename_i hfront
      split at h
      · rename_i hhung
        obtain rfl := Option.some.inj h
        exact .ends (.inr ⟨hhung, Wire.cutOff_of_front hfront⟩)
      · cases h
  · rintro (hf | hu | ⟨hhung, hc⟩)
    · rw [readNext, Wire.front_of_begins hf]
    · obtain ⟨flaw, hfront⟩ := Wire.front_of_undecodable hu
      rw [readNext, hfront]
    · rw [readNext, Wire.front_of_cutOff hc]
      exact if_pos hhung

theorem reading_of_ran (hr : t.Ran system id (.waiting .reading) a st) :
    Reading t.before.state st := by
  rcases System.proceed_eq_some_iff.1 hr.proceed with ⟨k, hk, -⟩ | ⟨w, b, hw, rfl, hst⟩
  · cases hk
  · cases hw
    cases b with
    | turn => exact readNext_eq_some_iff.1 hst
    | _ => cases hst

/-- The octets that arrive with a call. None do once the stream has ended. -/
def incoming (c : Connection α) : Call α → Octets
  | .arrive octets => if c.hungUp then [] else octets
  | _ => []

/-- The octets that arrive with a move. -/
def arrived (t : Moment α) : Octets :=
  match t.cause with
  | some (.fresh k, _) => t.before.state.incoming k
  | _ => []

/-- The frame that is read in a move. -/
def frameRead? (t : Moment α) : Option Wire.Frame :=
  match t.cause with
  | some (.waiting .reading, _) =>
    match Wire.front t.before.state.inbox with
    | .frame f _ => some f
    | _ => none
  | _ => none

theorem frameRead?_eq_some_iff (hc : t.cause = some (.waiting .reading, a)) :
    frameRead? t = some f ↔ ∃ rest, Begins t.before.state.inbox f rest := by
  simp only [frameRead?, hc, ← Wire.front_eq_frame_iff]
  rcases Wire.front t.before.state.inbox with g | - | flaw <;> simp

theorem cause_of_frameRead? (h : frameRead? t = some f) :
    ∃ a, t.cause = some (.waiting .reading, a) := by
  unfold frameRead? at h
  split at h
  · exact ⟨_, ‹_›⟩
  · cases h

/-- The event that the listeners are told of in a move: what the frame announces that
is read, or the loss. -/
def delivered? (t : Moment α) : Option Host.Event :=
  if reports t then some t.before.state.lossEvent
  else (frameRead? t).bind (announced t.before.state.peer)

/-- **What a move does about octets, frames and events.** -/
structure Intake (t : Moment α) : Prop where
  /-- Octets are put behind those that are left, or a frame is taken off them. -/
  cut : Cut (t.before.state.inbox ++ arrived t) (frameRead? t).toList t.after.state.inbox
  /-- Listeners that are registered then are told. -/
  told : t.after.state.told = t.before.state.told ++
    ((delivered? t).map (t.before.state.listeners, ·)).toList.flatMap heard
  /-- A stream does not end twice. -/
  hungUp : t.before.state.hungUp = true → t.after.state.hungUp = true ∧ arrived t = []
  /-- The loss is found when no frame is there to read. -/
  lost : loses t = true → Spent t.before.state

/-- A move in which no frame is read. -/
theorem Intake.unread (hread : frameRead? t = none)
    (hinbox : t.after.state.inbox = t.before.state.inbox ++ arrived t)
    (htold : t.after.state.told = t.before.state.told ++
      if reports t then heard (t.before.state.listeners, t.before.state.lossEvent) else [])
    (hhung : t.before.state.hungUp = true → t.after.state.hungUp = true ∧ arrived t = [])
    (hlost : loses t = true → Spent t.before.state) : Intake t where
  cut := by
    rw [hread, hinbox]
    exact .nil
  told := by
    rcases hreports : reports t with - | -
    · simpa [delivered?, hread, hreports] using htold
    · simpa [delivered?, hreports] using htold
  hungUp := hhung
  lost := hlost

theorem Intake.quiet (hq : t.Quiet) : Intake t := by
  have harrived : arrived t = [] := by rw [arrived, hq.cause]
  have hreports : reports t = false := by rw [reports, hq.cause]
  refine .unread (by rw [frameRead?, hq.cause]) ?_ ?_ (fun h => ⟨hq.state ▸ h, harrived⟩) ?_
  · rw [hq.state, harrived, List.append_nil]
  · simp [hq.state, hreports]
  · simp [loses, hq.cause]

/-- The first stretch of a call takes octets in, or leaves them alone. -/
theorem start_intake (k : Call α) (c : Connection α) :
    (start k c).state.inbox = c.inbox ++ c.incoming k ∧ (start k c).state.told = c.told ∧
      (c.hungUp = true → (start k c).state.hungUp = true ∧ c.incoming k = []) := by
  cases k with
  | arrive octets => rcases hhung : c.hungUp with - | - <;> simp [start, incoming, hhung, ends]
  | close => rcases hclosed : c.closed with - | - <;> simp [start, incoming, hclosed, ends, waits]
  | _ => simp [start, incoming, ends, waits, enrol, settle, withListeners]

theorem Intake.of_start {k : Call α}
    (hr : t.Ran system id (.fresh k) none (start k t.before.state)) : Intake t := by
  have harrived : arrived t = t.before.state.incoming k := by rw [arrived, hr.cause]
  have hreports : reports t = false := by rw [reports, hr.cause]
  obtain ⟨hinbox, htold, hhung⟩ := start_intake k t.before.state
  rw [← hr.state] at hinbox htold hhung
  refine .unread (by rw [frameRead?, hr.cause]) ?_ ?_ (by rwa [harrived]) ?_
  · rw [hinbox, harrived]
  · simp [htold, hreports]
  · simp [loses, hr.cause]

/-- Who waits for anything but a frame leaves the octets alone, and tells the
listeners of the loss or nothing. -/
theorem Passage.intake {w : Wait} (h : Passage c (.waiting w) a c' turn) (hw : w ≠ .reading) :
    c'.inbox = c.inbox ∧ c'.hungUp = c.hungUp ∧ c'.told = c.told ++
      if w = .reporting then heard (c.listeners, c.lossEvent) else [] := by
  cases h with
  | hears | overhears | answers | endsReading => exact absurd rfl hw
  | reports => exact ⟨rfl, rfl, rfl⟩
  | _ => simp [settle, clear]

theorem Intake.of_passage {w : Wait} (hr : t.Ran system id (.waiting w) a st)
    (h : Passage t.before.state (.waiting w) a t.after.state turn) (hw : w ≠ .reading) :
    Intake t := by
  obtain ⟨hinbox, hhung, htold⟩ := h.intake hw
  have harrived : arrived t = [] := by rw [arrived, hr.cause]
  have hreports : reports t = decide (w = .reporting) := by
    simp only [reports, hr.cause]
    cases w <;> rfl
  obtain ⟨hread, hloses⟩ : frameRead? t = none ∧ loses t = false := by
    simp only [frameRead?, loses, hr.cause]
    cases w with
    | reading => exact absurd rfl hw
    | _ => exact ⟨rfl, rfl⟩
  refine .unread hread ?_ ?_ (fun h => ⟨hhung.trans h, harrived⟩) (by simp [hloses])
  · rw [hinbox, harrived, List.append_nil]
  · simpa [hreports] using htold

/-- The one who reads takes a frame off, or comes to the end. -/
theorem Intake.reading (hr : t.Ran system id (.waiting .reading) a st) : Intake t := by
  have hst := reading_of_ran hr
  have hstate := hr.state
  have harrived : arrived t = [] := by rw [arrived, hr.cause]
  have hreports : reports t = false := by rw [reports, hr.cause]
  cases hst with
  | @receives f rest hf =>
    have hread : frameRead? t = some f := (frameRead?_eq_some_iff hr.cause).2 ⟨rest, hf⟩
    obtain ⟨hinbox, hhung, hclosed, htold⟩ :=
      receive_intake { t.before.state with inbox := rest } f
    constructor
    case cut =>
      rw [harrived, hread, List.append_nil, hstate]
      exact hinbox ▸ Cut.single hf
    case told =>
      simp only [delivered?, hreports, hread, hstate]
      exact htold
    case hungUp =>
      rw [hstate]
      exact fun h => ⟨hhung.trans h, harrived⟩
    case lost =>
      -- The mark is left as it was.
      intro hloses
      have hsame : t.after.state.closed = t.before.state.closed := hstate ▸ hclosed
      simp [loses, hr.cause, hsame] at hloses
  | ends hs =>
    have hread : frameRead? t = none := by
      refine Option.eq_none_iff_forall_ne_some.2 fun f hf => ?_
      obtain ⟨rest, hbegins⟩ := (frameRead?_eq_some_iff hr.cause).1 hf
      exact hs.not_begins hbegins
    refine .unread hread ?_ ?_ (fun h => ⟨hstate ▸ h, harrived⟩) fun _ => hs
    · simp [hstate, harrived, endReading, waits]
    · simp [hstate, hreports, endReading, waits]

/-- **Every move takes octets in, takes one frame off, or leaves both alone**, and
tells the listeners what it has to. -/
theorem intake (hb : t.before.Bounded) (hm : t.before.apply system t.move = some t.after) :
    Intake t := by
  rcases Transition.quiet_or_ran hb hm with hq | ⟨id, p, a, st, hr⟩
  · exact .quiet hq
  rcases System.proceed_eq_some_iff.1 hr.proceed with ⟨k, rfl, rfl, rfl⟩ | ⟨w, b, rfl, rfl, hst⟩
  · exact .of_start hr
  · by_cases hw : w = .reading
    · subst hw
      exact .reading hr
    · exact .of_passage hr (passes_of_ran hb hr).passage hw

/-- **Once nothing is left to read, nothing ever is.** -/
theorem Intake.spent (h : Intake t) (hs : Spent t.before.state) :
    frameRead? t = none ∧ Spent t.after.state := by
  rcases hs with hu | ⟨hhung, hc⟩
  · have hstill := hu.append (arrived t)
    obtain ⟨hread, hinbox⟩ := h.cut.of_ends (.inl hstill)
    exact ⟨Option.toList_eq_nil_iff.1 hread, .inl (hinbox ▸ hstill)⟩
  · obtain ⟨hhung', harrived⟩ := h.hungUp hhung
    have hcut := h.cut
    rw [harrived, List.append_nil] at hcut
    obtain ⟨hread, hinbox⟩ := hcut.of_ends (.inr hc)
    exact ⟨Option.toList_eq_nil_iff.1 hread, .inr ⟨hhung', hinbox ▸ hc⟩⟩

/-! ## What a history has received and told -/

/-- The octets that have arrived. -/
def received (past : List (Moment α)) : Octets :=
  past.flatMap arrived

/-- The frames that were read, in order. -/
def framesRead (past : List (Moment α)) : List Wire.Frame :=
  past.filterMap frameRead?

/-- The events that were delivered, in order, each with the listeners that were
registered then. -/
def deliveries (past : List (Moment α)) : List (Host.Listeners α × Host.Event) :=
  past.filterMap fun t => (delivered? t).map (t.before.state.listeners, ·)

theorem received_concat : received (past ++ [t]) = received past ++ arrived t := by
  simp [received]

theorem framesRead_concat :
    framesRead (past ++ [t]) = framesRead past ++ (frameRead? t).toList := by
  rcases h : frameRead? t <;> simp [framesRead, h]

theorem deliveries_concat : deliveries (past ++ [t]) =
    deliveries past ++ ((delivered? t).map (t.before.state.listeners, ·)).toList := by
  rcases h : delivered? t <;> simp [deliveries, h]

/-- **What has arrived and what the listeners were told**, by the frames that were
read. -/
structure Account (peer : Net.Endpoint) (past : List (Moment α)) (run : Calls α) : Prop where
  /-- What has arrived is the frames that were read, and what is left. -/
  cut : Cut (received past) (framesRead past) run.state.inbox
  /-- The listeners were told what was delivered. -/
  told : run.state.told = (deliveries past).flatMap heard
  /-- The loss was found with nothing left to read. -/
  lost : 0 < past.countP loses → Spent run.state
  /-- What the frames announce was delivered, and then the loss. -/
  events : (deliveries past).map (·.2) = (framesRead past).filterMap (announced peer) ++
    List.replicate (past.countP reports) ⟨.down, peer⟩

theorem Account.step (h : Account peer past t.before) (hr : Reporting past t.before)
    (hpeer : t.before.state.peer = peer) (hi : Intake t) : Account peer (past ++ [t]) t.after := by
  constructor
  case cut =>
    rw [received_concat, framesRead_concat]
    exact (h.cut.append (arrived t)).trans hi.cut
  case told => rw [hi.told, h.told, deliveries_concat, List.flatMap_append]
  case lost =>
    intro hpos
    suffices Spent t.before.state from (hi.spent this).2
    rcases hloses : loses t with - | -
    · refine h.lost ?_
      simpa [List.countP_append, hloses] using hpos
    · exact hi.lost hloses
  case events =>
    rw [deliveries_concat, framesRead_concat, List.map_append, h.events, List.countP_append,
      List.filterMap_append]
    rcases hread : frameRead? t with - | f
    · rcases hreports : reports t with - | -
      · simp [delivered?, hread, hreports]
      · simp [delivered?, hreports, lossEvent, hpeer, List.replicate_succ']
    · -- A frame is read, so the end has not been found yet, let alone told.
      have hnone : past.countP reports = 0 := by
        have hle := hr.le
        have hno : ¬ 0 < past.countP loses := fun hpos => by
          cases (hi.spent (h.lost hpos)).1.symm.trans hread
        omega
      obtain ⟨a, hcause⟩ := cause_of_frameRead? hread
      have hreports : reports t = false := by rw [reports, hcause]
      rcases hannounced : announced peer f with - | e <;>
        simp [delivered?, hread, hreports, hnone, hpeer, hannounced]

theorem account (h : History peer past run) : Account peer past run := by
  induction h with
  | refl => exact ⟨.nil, rfl, nofun, rfl⟩
  | @move past run next m hx hm ih =>
    exact ih.step (t := ⟨run, m, next⟩) (reporting hx) (peer_eq hx)
      (intake (hx.bounded bounded_fresh) hm)

/-! ## How far the one who reads has come -/

/-- What the one who reads waits for once it came to the end, and how many moves it
made by then besides taking frames off. -/
inductive Winding : Option Wait → Nat → Prop
  /-- It clears the table. -/
  | clears {isLoss : Bool} : Winding (some (.clearing (.reader isLoss))) 2
  /-- It tells the loss. -/
  | tells : Winding (some .reporting) 3
  /-- It is over. -/
  | finished : Winding none 4

/-- The end has come, and nothing is left to read. -/
structure Ended (c : Connection α) : Prop where
  spent : Spent c
  closed : c.closed = true

/-- **How far the one who reads has come**, and how many moves it made at most. -/
inductive ReadStage (past : List (Moment α)) (run : Calls α) : Prop
  /-- It has yet to begin. -/
  | begins : movesOf past 0 = 0 → ReadStage past run
  /-- It reads. -/
  | reads : run.waiting 0 = some .reading → movesOf past 0 ≤ (framesRead past).length + 1 →
      ReadStage past run
  /-- It came to the end. -/
  | ends {k : Nat} : Winding (run.waiting 0) k → Ended run.state → 0 < movesOf past 0 →
      movesOf past 0 ≤ (framesRead past).length + k → ReadStage past run

theorem Ended.step (h : Ended t.before.state) (hb : t.before.Bounded)
    (hm : t.before.apply system t.move = some t.after) : Ended t.after.state where
  spent := ((intake hb hm).spent h.spent).2
  closed := closed_of_closed (Execution.refl.move hm) hb h.closed

/-- A move of another call leaves the one who reads where it is. -/
theorem ReadStage.keep (h : ReadStage past t.before) (hb : t.before.Bounded)
    (hm : t.before.apply system t.move = some t.after) (hcaller : t.caller ≠ some 0)
    (hw : t.after.waiting 0 = t.before.waiting 0) : ReadStage (past ++ [t]) t.after := by
  have hmoves : movesOf (past ++ [t]) 0 = movesOf past 0 := movesOf_concat_of_ne hcaller
  have hframes : (framesRead past).length ≤ (framesRead (past ++ [t])).length := by
    rw [framesRead_concat, List.length_append]
    exact Nat.le_add_right _ _
  cases h with
  | begins hnone => exact .begins (hmoves.trans hnone)
  | reads hwait hle => exact .reads (hw.trans hwait) (by omega)
  | ends hwind hended hpos hle =>
    exact .ends (hw ▸ hwind) (hended.step hb hm) (by omega) (by omega)

/-- Who came to the end clears the table, tells the loss if it has to, and is
over. -/
theorem Passage.winding {w : Wait} {k : Nat} (h : Passage c (.waiting w) a c' turn)
    (hw : Winding (some w) k) : ∃ k', k + 1 ≤ k' ∧ Winding turn.next k' := by
  cases hw with
  | @clears isLoss =>
    cases h with
    | sweeps =>
      cases isLoss with
      | true => exact ⟨3, by omega, .tells⟩
      | false => exact ⟨4, by omega, .finished⟩
  | tells =>
    cases h with
    | reports => exact ⟨4, by omega, .finished⟩

/-- The one who reads goes on. -/
theorem ReadStage.step (h : ReadStage past t.before) (hx : History peer past t.before)
    (hm : t.before.apply system t.move = some t.after) (hr : t.Ran system 0 p a st) :
    ReadStage (past ++ [t]) t.after := by
  have hb := hx.bounded bounded_fresh
  have hp := passes_of_ran hb hr
  have hpass := hp.passage
  have hmoves : movesOf (past ++ [t]) 0 = movesOf past 0 + 1 := movesOf_concat_self hp.caller
  have hframes : (framesRead (past ++ [t])).length =
      (framesRead past).length + (frameRead? t).toList.length := by
    rw [framesRead_concat, List.length_append]
  cases h with
  | begins hnone =>
    -- It was submitted before the first move, and has not begun since.
    have hfresh : t.before.progress 0 = some (.fresh .read) :=
      hx.progress_of_no_move bounded_fresh (Nat.lt_succ_self 0) hnone
    obtain rfl := Option.some.inj (hp.progress.symm.trans hfresh)
    refine .reads (hp.waiting_self.trans ?_) (by omega)
    generalize t.after.state = c', st.turn = turn at hpass ⊢
    cases hpass with
    | reads => rfl
    | comes hk => cases hk
  | reads hwait hle =>
    obtain rfl := hp.eq_waiting hwait
    have hst := reading_of_ran hr
    have hstate := hr.state
    cases hst with
    | receives hf =>
      have hread := (frameRead?_eq_some_iff hr.cause).2 ⟨_, hf⟩
      refine .reads hp.waiting_self ?_
      rw [hread, Option.toList_some, List.length_singleton] at hframes
      omega
    | ends hs =>
      have hended : Ended t.after.state := by
        rw [hstate]
        exact ⟨hs, rfl⟩
      refine .ends (k := 2) ?_ hended (by omega) (by omega)
      rw [hp.waiting_self]
      exact .clears
  | @ends k hwind hended hpos hle =>
    rcases hwait : t.before.waiting 0 with - | w
    · -- It is over, and makes no move.
      obtain ⟨u, hu, hcaller⟩ := List.countP_pos_iff.1 hpos
      have hbegun := hx.begun bounded_fresh hu (of_decide_eq_true hcaller)
      cases (hbegun.progress_eq_none hwait).symm.trans hp.progress
    · obtain rfl := hp.eq_waiting hwait
      obtain ⟨k', hk, hwind'⟩ := hpass.winding (hwait ▸ hwind)
      exact .ends (hp.waiting_self ▸ hwind') (hended.step hb hm) (by omega) (by omega)

theorem readStage (h : History peer past run) : ReadStage past run := by
  induction h with
  | refl => exact .begins rfl
  | @move past run next m hx hm ih =>
    have hb := hx.bounded bounded_fresh
    rcases Transition.quiet_or_ran (t := ⟨run, m, next⟩) hb hm with hq | ⟨id, p, a, st, hr⟩
    · exact ih.keep (t := ⟨run, m, next⟩) hb hm (by rw [hq.caller]; nofun) (by rw [hq.waiting])
    · by_cases hid : id = 0
      · subst hid
        exact ih.step hx hm hr
      · have hp := passes_of_ran hb hr
        have hne : 0 ≠ id := fun h => hid h.symm
        exact ih.keep hb hm (hp.caller_ne hne) (hp.waiting_of_ne hne)

/-- **The one who reads makes four moves at most** besides taking frames off. -/
theorem movesOf_le (h : History peer past run) :
    movesOf past 0 ≤ (framesRead past).length + 4 := by
  cases readStage h with
  | begins hnone => omega
  | reads _ hle => omega
  | ends hwind _ _ hle =>
    generalize run.waiting 0 = w at hwind
    cases hwind <;> omega

/-! ## At rest -/

/-- Who waits so reads the connection. -/
def Wait.isReader : Wait → Bool
  | .reading | .clearing (.reader _) | .reporting => true
  | _ => false

/-- Nobody who reads the connection can go on. -/
def AtRest (run : Calls α) : Prop :=
  ∀ i, run.progress i ≠ some (.fresh .read) ∧
    ∀ w, run.waiting i = some w → w.isReader = true → run.apply system (.resume i .turn) = none

theorem AtRest.resume_eq_none (h : AtRest run) {w : Wait} (hw : run.waiting i = some w)
    (hreader : w.isReader = true) : resume w .turn run.state = none := by
  by_contra hsome
  have hgoes : run.apply system (.resume i .turn) ≠ none :=
    Run.apply_resume_ne_none hw (Option.isSome_iff_ne_none.2 hsome)
  exact hgoes ((h i).2 w hw hreader)

/-- Who tells the loss can do so at once. -/
theorem AtRest.not_reporter (h : AtRest run) : ¬ Reporter (run.waiting i) := by
  rintro (hw | hw)
  · cases h.resume_eq_none hw rfl
  · cases h.resume_eq_none hw rfl

/-- Who reads waits for more octets. -/
theorem AtRest.waits_for_more (h : AtRest run) (hw : run.waiting i = some .reading) :
    CutOff run.state.inbox ∧ run.state.hungUp = false := by
  have hnone : run.state.readNext = none := h.resume_eq_none hw rfl
  have hno (st : Step α) : ¬ Reading run.state st := fun hst => by
    cases (readNext_eq_some_iff.2 hst).symm.trans hnone
  rcases Wire.begins_or_ends run.state.inbox with ⟨f, rest, hf⟩ | hu | hc
  · exact absurd (.receives hf) (hno _)
  · exact absurd (.ends (.inl hu)) (hno _)
  · refine ⟨hc, Bool.eq_false_iff.2 fun hhung => ?_⟩
    exact hno _ (.ends (.inr ⟨hhung, hc⟩))

/-- **At rest everything has been read**: more octets are waited for, or the end has
come. -/
theorem AtRest.waits_or_ended (h : AtRest run) (hx : History peer past run) :
    (CutOff run.state.inbox ∧ run.state.hungUp = false) ∨ Ended run.state := by
  cases readStage hx with
  | begins hnone =>
    have hfresh : run.progress 0 = some (.fresh .read) :=
      hx.progress_of_no_move bounded_fresh (Nat.lt_succ_self 0) hnone
    exact absurd hfresh (h 0).1
  | reads hw _ => exact .inl (h.waits_for_more hw)
  | ends _ hended _ _ => exact .inr hended

/-! ## All together -/

/-- **What is to be told of a stream** that is cut into the frames `fs` and `tail`: what
the frames announce, and that the peer is down once the stream has ended or is
broken, unless the connection was closed from this side. -/
def tidings (peer : Net.Endpoint) (past : List (Moment α)) (run : Calls α)
    (fs : List Wire.Frame) (tail : Octets) : List Host.Event :=
  fs.filterMap (announced peer) ++
    if (run.state.hungUp = true ∨ Undecodable tail) ∧ past.any shuts = false then
      [⟨.down, peer⟩]
    else []

theorem any_shuts_eq_false_iff : past.any shuts = false ↔ past.countP shuts = 0 := by
  simp [List.any_eq_false, List.countP_eq_zero]

/-- The loss has been found, so nothing is left to read and nobody has closed the
connection from this side. -/
theorem tidings_of_loses (h : History peer past run) (hpos : 0 < past.countP loses)
    (hframed : Framed (received past) fs tail) : past.countP loses = 1 ∧
      tidings peer past run fs tail =
        (framesRead past).filterMap (announced peer) ++ [⟨.down, peer⟩] := by
  have hspent := (account h).lost hpos
  obtain ⟨later, rfl, hlater⟩ := (account h).cut.of_framed hframed
  obtain ⟨rfl, rfl⟩ := hlater.cut.of_ends hspent.ends
  have hmarks := (reporting h).marks
  have hone := (reporting h).loses_le_one
  have hshuts : past.any shuts = false := by
    rw [any_shuts_eq_false_iff]
    split at hmarks <;> omega
  have hend : run.state.hungUp = true ∨ Undecodable run.state.inbox :=
    hspent.symm.imp_left And.left
  refine ⟨by omega, ?_⟩
  rw [tidings, if_pos ⟨hend, hshuts⟩, List.append_nil]

theorem deliveries_prefix (h : History peer past run) (hframed : Framed (received past) fs tail) :
    (deliveries past).map (·.2) <+: tidings peer past run fs tail := by
  have hle := (reporting h).le
  rw [(account h).events]
  by_cases hpos : 0 < past.countP loses
  · obtain ⟨hone, htidings⟩ := tidings_of_loses h hpos hframed
    rw [htidings, List.prefix_append_right_inj]
    obtain hcount | hcount : past.countP reports = 0 ∨ past.countP reports = 1 := by omega
    · rw [hcount]
      exact List.nil_prefix
    · rw [hcount]
      exact List.prefix_rfl
  · have hnone : past.countP reports = 0 := by omega
    obtain ⟨later, rfl, -⟩ := (account h).cut.of_framed hframed
    rw [hnone, List.replicate_zero, List.append_nil, tidings, List.filterMap_append,
      List.append_assoc]
    exact List.prefix_append _ _

theorem deliveries_eq (h : History peer past run) (hrest : AtRest run)
    (hshuts : past.any shuts = false) (hframed : Framed (received past) fs tail) :
    (deliveries past).map (·.2) = tidings peer past run fs tail := by
  have hr := reporting h
  have hle := hr.le
  have hup : ¬ past.countP reports < past.countP loses := by
    intro hlt
    obtain ⟨i, hi⟩ := hr.token.up_iff.1 hlt
    exact hrest.not_reporter hi
  rw [(account h).events]
  rcases hrest.waits_or_ended h with ⟨hc, hhung⟩ | hended
  · -- More octets may come, so the loss has not been found.
    have hgoes : ¬ (run.state.hungUp = true ∨ Undecodable run.state.inbox) := by
      simp [hhung, hc.not_undecodable]
    have hnone : past.countP reports = 0 := by
      have hno : ¬ 0 < past.countP loses := fun hpos =>
        hgoes (((account h).lost hpos).symm.imp_left And.left)
      omega
    obtain ⟨later, rfl, hlater⟩ := (account h).cut.of_framed hframed
    obtain ⟨rfl, rfl⟩ := hlater.cut.of_ends (.inr hc)
    rw [tidings, if_neg fun hend => hgoes hend.1, hnone]
    simp
  · -- The mark is set, and not by a caller.
    have hmarks := hr.marks
    rw [if_pos hended.closed, any_shuts_eq_false_iff.1 hshuts] at hmarks
    obtain ⟨-, htidings⟩ := tidings_of_loses h (by omega) hframed
    rw [htidings, show past.countP reports = 1 by omega]
    rfl

/-- **A frame that announces nothing is dropped**, if nobody waits for it: nothing
changes but what is left to read. -/
theorem dropped_of_none (h : History peer past run) (ht : t ∈ past) (hread : frameRead? t = some f)
    (hnone : announced peer f = none)
    (hnobody : f.header.stream ≠ Wire.eventStream →
      ∀ n, (f.header.stream, n) ∉ t.before.state.pending) :
    t.after.waiting = t.before.waiting ∧ ∃ rest, Begins t.before.state.inbox f rest ∧
      t.after.state = { t.before.state with inbox := rest } := by
  obtain ⟨earlier, hearlier, hm⟩ := h.of_mem ht
  have hb := hearlier.bounded bounded_fresh
  obtain ⟨b, hcause⟩ := cause_of_frameRead? hread
  rcases Transition.quiet_or_ran hb hm with hq | ⟨id, p, a, st, hr⟩
  · cases hq.cause.symm.trans hcause
  obtain ⟨rfl, rfl⟩ := Prod.mk.inj (Option.some.inj (hr.cause.symm.trans hcause))
  have hp := passes_of_ran hb hr
  have hstate := hr.state
  obtain ⟨rest, hbegins⟩ := (frameRead?_eq_some_iff hcause).1 hread
  cases reading_of_ran hr with
  | @receives g rest' hg =>
    cases (Wire.front_of_begins hbegins).symm.trans (Wire.front_of_begins hg)
    have hsame : t.before.waiting id = some .reading := hp.waiting_before
    refine ⟨?_, rest, hbegins, ?_⟩
    · rw [hp.waiting]
      change Function.update t.before.waiting id (some .reading) = _
      rw [← hsame, Function.update_eq_self]
    · have hpeer : announced t.before.state.peer f = none := by rwa [peer_eq hearlier]
      rw [hstate]
      refine (receive_of_none (c := { t.before.state with inbox := rest }) hpeer).trans ?_
      split
      · rfl
      · exact settle_eq_self (hnobody ‹_›)
  | ends hs => exact absurd hbegins hs.not_begins

/-- **Listeners are told what the frames announce, and of the loss.** In every history
of a connection: each event that was delivered was told to the listeners that
were registered then. What has arrived is cut as far as it can be into the
whole frames in front and a tail, in one way. The events that were delivered are,
in order, what these frames announce, followed by the loss once the stream has
ended or is broken and if the connection was not closed from this side. They
are all of it once nobody who reads can go on, and the one who reads makes four
moves at most besides one for each frame. A frame that announces nothing and
that nobody waits for is dropped, and nothing else changes. -/
theorem events_follow_frames (h : History peer past run) :
    run.state.told = (deliveries past).flatMap heard ∧
    (∃ tail, Framed (received past) (Wire.frames (received past)) tail) ∧
    (∀ fs tail, Framed (received past) fs tail → fs = Wire.frames (received past) ∧
      (deliveries past).map (·.2) <+: tidings peer past run fs tail ∧
      (AtRest run → past.any shuts = false →
        (deliveries past).map (·.2) = tidings peer past run fs tail) ∧
      movesOf past 0 ≤ fs.length + 4) ∧
    ∀ t ∈ past, ∀ f, frameRead? t = some f → announced peer f = none →
      (f.header.stream ≠ Wire.eventStream →
        ∀ n, (f.header.stream, n) ∉ t.before.state.pending) →
      t.after.waiting = t.before.waiting ∧ ∃ rest, Begins t.before.state.inbox f rest ∧
        t.after.state = { t.before.state with inbox := rest } := by
  obtain ⟨whole, hwhole⟩ := Wire.exists_framed (received past)
  refine ⟨(account h).told, ⟨whole, hwhole⟩, fun fs tail hframed => ⟨?_, ?_, ?_, ?_⟩,
    fun t ht f => dropped_of_none h ht⟩
  · exact (hwhole.unique hframed).1
  · exact deliveries_prefix h hframed
  · exact fun hrest hshuts => deliveries_eq h hrest hshuts hframed
  · obtain ⟨later, rfl, -⟩ := (account h).cut.of_framed hframed
    have hmoves := movesOf_le h
    rw [List.length_append]
    omega

/-- The node next to the peer. -/
def neighbour : Net.Endpoint :=
  ⟨.v4 127 0 0 2, 9042, 0⟩

/-- A change in the state of the neighbour. -/
def statusBody (word : String) : Octets :=
  Wire.putText "STATUS_CHANGE" ++ Wire.putText word ++ [4, 127, 0, 0, 2, 0, 0, 0x23, 0x52]

/-- The header of an event with a body as long. -/
def eventHeader (length : UInt8) : Octets :=
  [0x84, 0, 0xff, 0xff, 0x0c, 0, 0, 0, length]

/-- An event with this body. -/
def eventFrame (body : Octets) : Wire.Frame :=
  ⟨⟨0x84, 0, -1, .event, body.length⟩, body⟩

/-- The neighbour is up, then down, then an event without a body, and an answer that
nobody waits for. -/
def mixedFrames : List Wire.Frame :=
  [eventFrame (statusBody "UP"), eventFrame (statusBody "DOWN"), eventFrame [], voidFrame 7]

/-- A header of another protocol. -/
def brokenHeader : Octets := [3, 0, 0, 0, 0, 0, 0, 0, 0]

/-- These in octets, and a header of another protocol behind them. -/
def mixedOctets : Octets :=
  eventHeader 28 ++ statusBody "UP" ++ eventHeader 30 ++ statusBody "DOWN" ++ eventHeader 0 ++
    voidOn 7 ++ brokenHeader

/-- Somebody listens, the octets come in two parts, and are read to the end. -/
def readsMixed : List (Move (Call Unit) Answer) :=
  [.submit (.listen (.on [.up, .down] ())), .start 1, .submit (.arrive (mixedOctets.take 40)),
    .start 2, .start 0, .resume 0 .turn, .submit (.arrive (mixedOctets.drop 40)), .start 3,
    .resume 0 .turn, .resume 0 .turn, .resume 0 .turn, .resume 0 .turn, .resume 0 .turn,
    .resume 0 .turn]

theorem framed_mixed : Framed mixedOctets mixedFrames brokenHeader := by
  have hup : Begins mixedOctets (eventFrame (statusBody "UP")) (mixedOctets.drop 37) :=
    Wire.front_eq_frame_iff.1 (by decide +kernel)
  have hdown : Begins (mixedOctets.drop 37) (eventFrame (statusBody "DOWN"))
      (mixedOctets.drop 76) := Wire.front_eq_frame_iff.1 (by decide +kernel)
  have hempty : Begins (mixedOctets.drop 76) (eventFrame []) (mixedOctets.drop 85) :=
    Wire.front_eq_frame_iff.1 (by decide +kernel)
  have hanswer : Begins (mixedOctets.drop 85) (voidFrame 7) brokenHeader :=
    Wire.front_eq_frame_iff.1 (by decide +kernel)
  exact ⟨.cons hup (.cons hdown (.cons hempty (.single hanswer))), .inl (by decide +kernel)⟩

/-- The neighbour coming up is told, then the loss of the peer; what stands between them
in the stream is not. -/
theorem mixed_frames_told : ∃ (past : List (Moment Unit)) (run : Calls Unit),
    History loopback past run ∧ Framed (received past) mixedFrames brokenHeader ∧ AtRest run ∧
    past.any shuts = false ∧
    (deliveries past).map (·.2) = [⟨.up, neighbour⟩, ⟨.down, loopback⟩] ∧
    run.state.told = [((), ⟨.up, neighbour⟩), ((), ⟨.down, loopback⟩)] := by
  obtain ⟨run, hrun, hover, htold, hreceived, hshuts⟩ :
      ∃ run, (fresh loopback).applyAll system readsMixed = some run ∧ run.calls = [] ∧
      run.state.told = [((), ⟨.up, neighbour⟩), ((), ⟨.down, loopback⟩)] ∧
      received ((fresh loopback).transitions system readsMixed) = mixedOctets ∧
      ((fresh loopback).transitions system readsMixed).any shuts = false :=
    ⟨_, rfl, by decide +kernel, by decide +kernel, by decide +kernel, by decide +kernel⟩
  have hpast := execution_of_applyAll hrun
  generalize (fresh loopback).transitions system readsMixed = past at hpast hreceived hshuts
  have hframed : Framed (received past) mixedFrames brokenHeader := hreceived ▸ framed_mixed
  have hrest : AtRest run := fun i => by
    have hnone : run.progress i = none := by simp [Run.progress, hover]
    simp [hnone, Run.waiting]
  obtain ⟨-, -, hevents, -⟩ := events_follow_frames hpast
  have hall := (hevents mixedFrames brokenHeader hframed).2.2.1 hrest hshuts
  refine ⟨past, run, hpast, hframed, hrest, hshuts, hall.trans ?_, htold⟩
  rw [tidings, if_pos ⟨.inr (by decide +kernel), hshuts⟩]
  decide +kernel

end NodeSidecar.Session.Connection
