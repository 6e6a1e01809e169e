import NodeSidecar.Proofs.Wire.Inet
/-!
# Host — events as they are written

An event is written as the two words for its change, the length of an address, the
address, and a port with a sign. Of an address of version 4 the four octets are
written, of one of version 6 the eight groups. `events_decode_exactly` sorts all
bodies: into those that begin with a written event, which is what they are parsed as,
those that begin with words that are not tracked, and those that are malformed.
-/

namespace NodeSidecar.Host

open Text (Octets)
open Wire (Flaw NoInet NoText Read putInet putSigned putText)
open Wire.Read (Short)

namespace Change

/-- The type of event that tells of the change. -/
def type : Change → String
  | .added | .removed => "TOPOLOGY_CHANGE"
  | .up | .down => "STATUS_CHANGE"

/-- The word for the change. -/
def word : Change → String
  | .added => "NEW_NODE"
  | .removed => "REMOVED_NODE"
  | .up => "UP"
  | .down => "DOWN"

/-- The words for a change, as they are written. -/
def words (change : Change) : Octets :=
  putText change.type ++ putText change.word

/-- **Words stand for the change whose words they are.** -/
theorem ofWords?_eq_some_iff {type word : String} {change : Change} :
    ofWords? type word = some change ↔ type = change.type ∧ word = change.word := by
  constructor
  · intro h
    unfold ofWords? at h
    split_ifs at h with hadded hremoved hup hdown
    · cases h
      exact hadded
    · cases h
      exact hremoved
    · cases h
      exact hup
    · cases h
      exact hdown
  · rintro ⟨rfl, rfl⟩
    cases change with
    | added => rfl
    | up => rfl
    | down => rfl
    | removed => rfl

theorem short_type (change : Change) : Short change.type := by
  cases change <;> decide

theorem short_word (change : Change) : Short change.word := by
  cases change <;> decide

end Change

/-- An event as it is written. -/
def Event.encode (event : Event) : Octets :=
  event.change.words ++ putInet event.endpoint.host event.endpoint.port.toNat

/-- The body is neither an event nor passed over: one of its texts is not there, or
there is no host behind words that are tracked. -/
inductive Malformed : Octets → Prop
  | type {body : Octets} (h : NoText body) : Malformed body
  | word {type : String} {after : Octets} (hs : Short type) (h : NoText after) :
      Malformed (putText type ++ after)
  | inet (change : Change) {after : Octets} (h : NoInet after) : Malformed (change.words ++ after)

variable {body after : Octets}

/-- What is read behind the words of an event. -/
def readWhere : Option Change → Read (Option Event)
  | none => Read.done none
  | some change => Read.endpoint >>= fun endpoint => Read.done (some ⟨change, endpoint⟩)

theorem parseEvent_of_short {type word : String} (ht : Short type) (hw : Short word)
    (after : Octets) : parseEvent (putText type ++ (putText word ++ after)) =
      (readWhere (Change.ofWords? type word) after).1 := by
  have hread : readEvent = Read.text >>= fun type => Read.text >>= fun word =>
      readWhere (Change.ofWords? type word) := rfl
  rw [parseEvent, Read.run, hread, Read.text_andThen ht, Read.text_andThen hw]

theorem parseEvent_words (change : Change) (after : Octets) :
    parseEvent (change.words ++ after) = (readWhere (some change) after).1 := by
  rw [Change.words, List.append_assoc,
    parseEvent_of_short change.short_type change.short_word,
    Change.ofWords?_eq_some_iff.2 ⟨rfl, rfl⟩]

/-- **What is written is read, whatever follows.** -/
theorem parseEvent_encode {event : Event} (h : event.endpoint.scope = 0) (rest : Octets) :
    parseEvent (event.encode ++ rest) = .ok (some event) := by
  obtain ⟨change, host, port, scope⟩ := event
  obtain rfl : scope = 0 := h
  have hlt := port.toNat_lt
  have hread : Read.endpoint (putInet host port.toNat ++ rest) = (.ok (.on host port), rest) := by
    rw [Read.endpoint_putInet host ⟨by omega, by omega⟩, if_pos ⟨by omega, by omega⟩]
    simp
  rw [Event.encode, List.append_assoc, parseEvent_words]
  exact congrArg Prod.fst (Read.andThen_of_ok hread)

/-- **Words that are not tracked are passed over, whatever follows.** -/
theorem parseEvent_untracked {type word : String} (ht : Short type) (hw : Short word)
    (h : ∀ change : Change, ¬ (type = change.type ∧ word = change.word)) (rest : Octets) :
    parseEvent (putText type ++ (putText word ++ rest)) = .ok none := by
  have hnone : Change.ofWords? type word = none :=
    Option.eq_none_iff_forall_ne_some.2 fun change hsome =>
      h change (Change.ofWords?_eq_some_iff.1 hsome)
  rw [parseEvent_of_short ht hw, hnone]
  rfl

/-- **A malformed body is refused.** -/
theorem Malformed.refused (h : Malformed body) : ∃ flaw, parseEvent body = .error flaw := by
  cases h with
  | type h =>
    obtain ⟨flaw, hflaw⟩ := Read.text_of_noText h
    exact ⟨flaw, Read.andThen_of_error hflaw⟩
  | @word type after hs h =>
    obtain ⟨flaw, hflaw⟩ := Read.text_of_noText h
    refine ⟨flaw, ?_⟩
    rw [parseEvent, Read.run, readEvent, Read.text_andThen hs]
    exact Read.andThen_of_error hflaw
  | @inet change after h =>
    obtain ⟨flaw, hflaw⟩ := Read.endpoint_of_noInet h
    refine ⟨flaw, ?_⟩
    rw [parseEvent_words]
    exact Read.andThen_of_error hflaw

/-- **Nothing else can stand in a body.** -/
theorem malformed_or (body : Octets) : Malformed body ∨
    (∃ event : Event, event.endpoint.scope = 0 ∧ event.encode <+: body) ∨
    ∃ type word, Short type ∧ Short word ∧
      (∀ change : Change, ¬ (type = change.type ∧ word = change.word)) ∧
      putText type ++ putText word <+: body := by
  obtain htype | ⟨type, after, ht, rfl⟩ := Read.noText_or body
  · exact .inl (.type htype)
  obtain hword | ⟨word, after, hw, rfl⟩ := Read.noText_or after
  · exact .inl (.word ht hword)
  by_cases h : ∃ change : Change, type = change.type ∧ word = change.word
  · obtain ⟨change, rfl, rfl⟩ := h
    rw [← List.append_assoc]
    obtain hinet | ⟨host, port, rest, hport, rfl⟩ := Read.noInet_or after
    · exact .inl (.inet change hinet)
    · have hback : (port.toNat.toUInt16.toNat : Int) = port := by
        rw [Nat.toUInt16, UInt16.toNat_ofNat']
        omega
      refine .inr (.inl ⟨⟨change, .on host port.toNat.toUInt16⟩, rfl, rest, ?_⟩)
      rw [Event.encode, Change.words, List.append_assoc]
      simp only [Net.Endpoint.on, hback]
  · refine .inr (.inr ⟨type, word, ht, hw, not_exists.1 h, after, ?_⟩)
    rw [List.append_assoc]

/-- **Events decode exactly.** A body is parsed as an event just when that event is
written in front, and no two are written in front of one body; it is passed over just
when words are written in front that are not tracked; otherwise it is malformed, and
breaks the protocol. -/
theorem events_decode_exactly (body : Octets) :
    (∀ event, parseEvent body = .ok (some event) ↔
      event.endpoint.scope = 0 ∧ event.encode <+: body) ∧
    (∀ event event' : Event, event.endpoint.scope = 0 → event'.endpoint.scope = 0 →
      event.encode <+: body → event'.encode <+: body → event = event') ∧
    (parseEvent body = .ok none ↔ ∃ type word, Short type ∧ Short word ∧
      (∀ change : Change, ¬ (type = change.type ∧ word = change.word)) ∧
      putText type ++ putText word <+: body) ∧
    ((∃ detail, (parseEvent body).mapError Flaw.fault = .error (.protocol detail)) ↔
      Malformed body) := by
  have hevent (event : Event) (hscope : event.endpoint.scope = 0) (h : event.encode <+: body) :
      parseEvent body = .ok (some event) := by
    obtain ⟨rest, rfl⟩ := h
    exact parseEvent_encode hscope rest
  have hwords (h : ∃ type word, Short type ∧ Short word ∧
      (∀ change : Change, ¬ (type = change.type ∧ word = change.word)) ∧
      putText type ++ putText word <+: body) : parseEvent body = .ok none := by
    obtain ⟨type, word, ht, hw, hchange, rest, rfl⟩ := h
    rw [List.append_assoc]
    exact parseEvent_untracked ht hw hchange rest
  have hother (h : Malformed body) (found : Option Event) : parseEvent body ≠ .ok found := by
    obtain ⟨flaw, hflaw⟩ := h.refused
    rw [hflaw]
    exact nofun
  refine ⟨fun event => ⟨fun h => ?_, fun h => hevent event h.1 h.2⟩, ?_, ⟨fun h => ?_, hwords⟩,
    fun h => ?_, fun h => ?_⟩
  · obtain hbad | ⟨event', hscope, hfront⟩ | hnone := malformed_or body
    · exact absurd h (hother hbad _)
    · cases h.symm.trans (hevent event' hscope hfront)
      exact ⟨hscope, hfront⟩
    · cases h.symm.trans (hwords hnone)
  · intro event event' hscope hscope' h h'
    cases (hevent event hscope h).symm.trans (hevent event' hscope' h')
    rfl
  · obtain hbad | ⟨event', hscope, hfront⟩ | hnone := malformed_or body
    · exact absurd h (hother hbad _)
    · cases h.symm.trans (hevent event' hscope hfront)
    · exact hnone
  · obtain ⟨detail, hdetail⟩ := h
    obtain hbad | ⟨event', hscope, hfront⟩ | hnone := malformed_or body
    · exact hbad
    · rw [hevent event' hscope hfront] at hdetail
      cases hdetail
    · rw [hwords hnone] at hdetail
      cases hdetail
  · obtain ⟨flaw, hflaw⟩ := h.refused
    exact ⟨flaw.message, by rw [hflaw]; rfl⟩

/-- A host that is down, one that was added under an address of version 6, one that
moved, one with a port that is too high and one with an address of five octets. -/
theorem bodies_of_each_kind :
    parseEvent Wire.downNews = .ok (some ⟨.down, .on (.v4 10 0 0 5) 9042⟩) ∧
    parseEvent (Event.encode ⟨.added, .on (.v6 0x2001 0xDB8 0 0 0 0 0 5) 9042⟩ ++ [255]) =
      .ok (some ⟨.added, .on (.v6 0x2001 0xDB8 0 0 0 0 0 5) 9042⟩) ∧
    parseEvent (putText "TOPOLOGY_CHANGE" ++ putText "MOVED_NODE" ++ [255]) = .ok none ∧
    (∃ detail, (parseEvent (Change.down.words ++ (putInet (.v4 10 0 0 5) 65536 ++ []))).mapError
      Flaw.fault = .error (.protocol detail)) ∧
    ∃ detail, (parseEvent (Change.down.words ++ [5, 10, 0, 0, 5, 7])).mapError Flaw.fault =
      .error (.protocol detail) := by
  refine ⟨((events_decode_exactly _).1 _).2 ⟨rfl, [255], by decide +kernel⟩,
    ((events_decode_exactly _).1 _).2 ⟨rfl, [255], rfl⟩,
    (events_decode_exactly _).2.2.1.2 ⟨"TOPOLOGY_CHANGE", "MOVED_NODE", by decide, by decide,
      fun change => by cases change <;> decide, [255], rfl⟩,
    (events_decode_exactly _).2.2.2.2 (.inet .down (.port ⟨by decide, by decide⟩ (by decide) _ _)),
    (events_decode_exactly _).2.2.2.2 (.inet .down (.hostLength (by decide) (by decide) _))⟩

end NodeSidecar.Host
