import NodeSidecar.Host.Event
import NodeSidecar.Proofs.Wire.ResultSet
/-!
# Wire — bodies that are cut short

A read looks at no octet that it does not take, and does not ask how many there
are behind those. So what it answers is settled by the octets that it takes: with
anything else behind them it answers the same, and of fewer it says that some are
missing (`Read.Settled`). The property passes from reads to what is put together
from them, up to whole bodies: `truncation_is_told`.
-/

namespace NodeSidecar.Wire

open Text (Octets)

namespace Read

variable {α β : Type} {r r' : Read α} {next : α → Read β} {octets used more : Octets}
variable {a : α} {b : β} {n : Nat}

/-- The octets end inside a field: it needs more than there are. -/
def Misses (e : Except Flaw α) : Prop :=
  ∃ need left, left < need ∧ e = .error (.truncated need left)

/-- The read takes `used` and answers `a`, whatever follows; of anything less it
says that octets are missing. -/
structure Takes (r : Read α) (used : Octets) (a : α) : Prop where
  whole : ∀ rest, r (used ++ rest) = (.ok a, rest)
  cut : ∀ front back, used = front ++ back → back ≠ [] → Misses (r front).1

/-- What the read answers is settled by the octets that it takes. -/
def Settled (r : Read α) : Prop :=
  ∀ octets a rest, r octets = (.ok a, rest) → ∃ used, octets = used ++ rest ∧ r.Takes used a

/-! ## Reads put together -/

theorem misses_andThen (h : Misses (r octets).1) : Misses ((r >>= next) octets).1 := by
  obtain ⟨need, left, hlt, herror⟩ := h
  exact ⟨need, left, hlt, andThen_of_error herror⟩

/-- A cut falls into what the first read takes, or the second read finds too
little. -/
theorem Takes.andThen (h : r.Takes used a) (hnext : (next a).Takes more b) :
    (r >>= next).Takes (used ++ more) b where
  whole rest := by
    rw [List.append_assoc, andThen_of_ok (h.whole _), hnext.whole]
  cut front back hsplit hback := by
    have hsecond (behind : Octets) (hmore : more = behind ++ back) :
        Misses ((r >>= next) (used ++ behind)).1 := by
      rw [andThen_of_ok (h.whole behind)]
      exact hnext.cut behind back hmore hback
    rcases List.append_eq_append_iff.1 hsplit with ⟨behind, rfl, hmore⟩ | ⟨behind, rfl, hused⟩
    · exact hsecond behind hmore
    · by_cases hbehind : behind = []
      · subst hbehind
        simpa using hsecond [] (by simpa using hused.symm)
      · exact misses_andThen (h.cut front behind rfl hbehind)

theorem settled_done (a : α) : Settled (done a) := by
  intro octets a' rest h
  obtain ⟨rfl, rfl⟩ := done_eq_ok_iff.1 h
  refine ⟨[], rfl, fun rest => rfl, fun front back hsplit hback => ?_⟩
  exact absurd (List.append_eq_nil_iff.1 hsplit.symm).2 hback

theorem settled_fail (flaw : Flaw) : Settled (fail flaw : Read α) :=
  fun _ _ _ h => absurd h fail_ne_ok

/-- **One settled read after the other is settled.** -/
theorem Settled.andThen (h : Settled r) (hnext : ∀ a, Settled (next a)) :
    Settled (r >>= next) := by
  intro octets b rest hread
  obtain ⟨a, mid, hr, hread₁⟩ := andThen_eq_ok_iff.1 hread
  obtain ⟨used, rfl, htakes⟩ := h _ _ _ hr
  obtain ⟨more, rfl, htakes₁⟩ := hnext a _ _ _ hread₁
  exact ⟨used ++ more, (List.append_assoc _ _ _).symm, htakes.andThen htakes₁⟩

theorem Settled.ite {p : Prop} [Decidable p] (h : Settled r) (h' : Settled r') :
    Settled (if p then r else r') := by
  split
  · exact h
  · exact h'

theorem settled_gatherFrom (h : Settled r) (n : Nat) (read : List α) :
    Settled (gatherFrom r n read) := by
  induction n generalizing read with
  | zero => exact settled_done _
  | succ n ih => exact h.andThen fun a => ih (a :: read)

theorem settled_gather (h : Settled r) (n : Nat) : Settled (gather n r) :=
  settled_gatherFrom h n []

theorem settled_times {r : Read Unit} (h : Settled r) (n : Nat) : Settled (times n r) := by
  rw [times_eq_gather]
  exact (settled_gather h n).andThen fun _ => settled_done ()

theorem settled_forEach {r : α → Read β} (h : ∀ a, Settled (r a)) (items : List α) :
    Settled (forEach items r) := by
  have hfrom (read : List β) : Settled (forEachFrom r items read) := by
    induction items generalizing read with
    | nil => exact settled_done _
    | cons a items ih => exact (h a).andThen fun b => ih (b :: read)
  exact hfrom []

/-! ## Fields -/

/-- A read of a field of `n` octets is settled, if it says of fewer how many it
needs. -/
theorem settled_of_length
    (hok : ∀ octets a rest, r octets = (.ok a, rest) → ∃ used : Octets, used.length = n ∧
      octets = used ++ rest ∧ ∀ rest, r (used ++ rest) = (.ok a, rest))
    (hshort : ∀ octets, octets.length < n →
      (r octets).1 = .error (.truncated n octets.length)) : Settled r := by
  intro octets a rest h
  obtain ⟨used, hlength, hoctets, hwhole⟩ := hok octets a rest h
  refine ⟨used, hoctets, hwhole, fun front back hsplit hback => ?_⟩
  have hlt : front.length < n := by
    have hpos := List.length_pos_iff.2 hback
    rw [← hlength, hsplit, List.length_append]
    omega
  exact ⟨n, front.length, hlt, hshort front hlt⟩

theorem take_of_short (h : octets.length < n) :
    take n octets = (.error (.truncated n octets.length), octets) := by
  have hshort : ¬ hasAtLeast n octets = true := by
    rw [hasAtLeast_iff]
    omega
  rw [take, if_neg hshort]

theorem u16_of_short (h : octets.length < 2) :
    u16 octets = (.error (.truncated 2 octets.length), octets) := by
  unfold u16
  split
  · simp only [List.length_cons] at h
    omega
  · rfl

theorem i32_of_short (h : octets.length < 4) :
    i32 octets = (.error (.truncated 4 octets.length), octets) := by
  unfold i32
  split
  · simp only [List.length_cons] at h
    omega
  · rfl

theorem settled_take (n : Nat) : Settled (take n) := by
  refine settled_of_length (n := n) (fun octets taken rest h => ?_) fun octets h => ?_
  · obtain ⟨hlength, hoctets⟩ := take_eq_ok_iff.1 h
    exact ⟨taken, hlength, hoctets, fun rest => take_eq_ok_iff.2 ⟨hlength, rfl⟩⟩
  · rw [take_of_short h]

theorem settled_u8 : Settled u8 := by
  refine settled_of_length (n := 1) (fun octets a rest h => ?_) fun octets h => ?_
  · rcases octets with - | ⟨b, octets⟩
    · cases h
    · cases h
      exact ⟨[a], rfl, rfl, fun rest => rfl⟩
  · obtain rfl : octets = [] := List.length_eq_zero_iff.1 (by omega)
    rfl

theorem settled_u16 : Settled u16 := by
  refine settled_of_length (n := 2) (fun octets a rest h => ?_) fun octets h => ?_
  · obtain ⟨m, hm, rfl, rfl⟩ := (reads_u16 octets a rest).1 h
    exact ⟨put16 m, rfl, rfl, fun rest => reads_u16.of_fits hm rest⟩
  · rw [u16_of_short h]

theorem settled_i32 : Settled i32 := by
  refine settled_of_length (n := 4) (fun octets a rest h => ?_) fun octets h => ?_
  · obtain ⟨m, hm, rfl, rfl⟩ := (reads_i32 octets a rest).1 h
    exact ⟨putSigned m, rfl, rfl, fun rest => reads_i32.of_fits hm rest⟩
  · rw [i32_of_short h]

theorem settled_text : Settled text := by
  refine settled_u16.andThen fun length => (settled_take length).andThen fun taken => ?_
  split
  · exact settled_done _
  · exact settled_fail _

theorem settled_octets : Settled Read.octets :=
  settled_i32.andThen fun length => Settled.ite (settled_done none)
    ((settled_take length.toNat).andThen fun taken => settled_done (some taken))

/-- An address is looked at when all its octets are there. -/
theorem settled_host (length : Nat) : Settled (host length) := by
  refine settled_of_length (n := length) (fun octets a rest h => ?_) fun octets h => ?_
  · unfold host at h
    split at h
    · rename_i address left htake
      split at h
      · rename_i found hfound
        cases h
        obtain ⟨hlength, rfl⟩ := take_eq_ok_iff.1 htake
        refine ⟨address, hlength, rfl, fun rest => ?_⟩
        rw [host, take_eq_ok_iff.2 ⟨hlength, rfl⟩]
        simp only [hfound]
      · cases h
    · cases h
  · rw [host, take_of_short h]

theorem settled_endpoint : Settled endpoint :=
  settled_u8.andThen fun length => (settled_host length.toNat).andThen fun _ =>
    settled_i32.andThen fun port => Settled.ite (settled_done _) (settled_fail (.port port))

end Read

/-! ## Bodies -/

open Read (Settled)

theorem settled_skipType (room : Nat) : Settled (skipType room) := by
  induction room with
  | zero => exact Read.settled_fail _
  | succ room ih =>
    rw [ColumnType.skipType_succ]
    refine Read.settled_u16.andThen fun kind => ?_
    have hfield : Settled (Read.text >>= fun _ => skipType room) :=
      Read.settled_text.andThen fun _ => ih
    unfold ColumnType.skipRest
    split
    · exact Read.settled_text.andThen fun _ => Read.settled_done ()
    · exact ih
    · exact ih
    · exact ih.andThen fun _ => ih
    · exact Read.settled_text.andThen fun _ => Read.settled_text.andThen fun _ =>
        Read.settled_u16.andThen fun fields => Read.settled_times hfield fields
    · exact Read.settled_u16.andThen fun items => Read.settled_times ih items
    · exact Read.settled_done ()

theorem settled_skipTable : Settled skipTable :=
  Read.settled_text.andThen fun _ => Read.settled_text.andThen fun _ => Read.settled_done ()

theorem settled_readColumn (shared : Bool) : Settled (readColumn shared) := by
  have hnamed : Settled readNamed := Read.settled_text.andThen fun name =>
    (settled_skipType _).andThen fun _ => Read.settled_done name
  rw [readColumn_eq]
  exact Settled.ite (settled_skipTable.andThen fun _ => hnamed) hnamed

theorem settled_readRow (names : List String) : Settled (readRow names) :=
  (Read.settled_forEach (fun _ => Read.settled_octets.andThen fun _ => Read.settled_done _)
    names).andThen fun _ => Read.settled_done _

theorem settled_readTable (shared : Bool) (width : Nat) : Settled (readTable shared width) :=
  (Read.settled_gather (settled_readColumn shared) width).andThen fun names =>
    Read.settled_i32.andThen fun height => Settled.ite (Read.settled_fail (.rowCount height))
      (Read.settled_gather (settled_readRow names) height.toNat)

theorem settled_readRows : Settled readRows := by
  have hunpaged (flags : Int) (width : Nat) : Settled (readUnpaged flags width) :=
    Settled.ite (Read.settled_fail .noMetadata) (Settled.ite
      (settled_skipTable.andThen fun _ => settled_readTable _ width) (settled_readTable _ width))
  rw [readRows_eq]
  refine Read.settled_i32.andThen fun flags => Read.settled_i32.andThen fun width => ?_
  exact Settled.ite (Read.settled_fail (.columnCount width)) (Settled.ite
    (Read.settled_octets.andThen fun _ => hunpaged flags _) (hunpaged flags _))

theorem settled_readResult : Settled readResult :=
  Read.settled_i32.andThen fun _ => Settled.ite settled_readRows (Read.settled_done [])

theorem settled_readError : Settled readError :=
  Read.settled_i32.andThen fun _ => Read.settled_text.andThen fun _ => Read.settled_done _

theorem settled_readEvent : Settled Host.readEvent := by
  refine Read.settled_text.andThen fun type => Read.settled_text.andThen fun word => ?_
  split
  · exact Read.settled_done none
  · exact Read.settled_endpoint.andThen fun _ => Read.settled_done _

/-- The first `n` octets of a body settle what it is parsed as: every body that
begins with them is parsed alike, and with any of them cut off there are octets
missing. -/
structure SettledBy {α : Type} (parse : Octets → Except Flaw α) (body : Octets) (n : Nat) :
    Prop where
  alike : ∀ other : Octets, other.take n = body.take n → parse other = parse body
  refused : ∀ k < n, ∃ need left : Nat, left < need ∧ (parse (body.take k)).mapError Flaw.fault =
    .error (.protocol s!"truncated frame body: need {need} bytes, have {left}")

/-- What a settled read takes settles what it answers. -/
theorem Read.Settled.settledBy {α : Type} {r : Read α} (h : Settled r) {body : Octets} {a : α}
    (hread : (r.run body).1 = .ok a) : ∃ n, n + (r.run body).2.length = body.length ∧
      SettledBy (fun body => (r.run body).1) body n := by
  obtain ⟨used, hbody, htakes⟩ := h body a (r.run body).2 (Prod.ext hread rfl)
  generalize (r.run body).2 = rest at hbody ⊢
  subst hbody
  refine ⟨used.length, List.length_append.symm, fun other hother => ?_, fun k hk => ?_⟩
  · rw [List.take_left] at hother
    obtain ⟨tail, rfl⟩ : used <+: other := List.prefix_iff_eq_take.2 hother.symm
    simp only [run]
    rw [htakes.whole, htakes.whole]
  · rw [List.take_append_of_le_length (Nat.le_of_lt hk)]
    obtain ⟨need, left, hlt, herror⟩ :=
      htakes.cut (used.take k) (used.drop k) (List.take_append_drop k used).symm
        (by rw [Ne, List.drop_eq_nil_iff]; omega)
    exact ⟨need, left, hlt, by simp only [run, herror]; rfl⟩

/-- **Truncation is told, and what follows does not matter.** A body that is read as
a result, an error or an event is settled by the octets that reading it takes:
every body that begins with them is read alike, and one that ends before them is
refused, because octets are missing. -/
theorem truncation_is_told (body : Octets) :
    (∀ rows, parseRows body = .ok rows → ∃ n,
      n + (readResult.run body).2.length = body.length ∧ SettledBy parseRows body n) ∧
    (∀ event, Host.parseEvent body = .ok event → ∃ n,
      n + (Host.readEvent.run body).2.length = body.length ∧ SettledBy Host.parseEvent body n) ∧
    ∀ error, parseError body = .ok error → ∃ n,
      n + (readError.run body).2.length = body.length ∧ SettledBy parseError body n :=
  ⟨fun _ h => settled_readResult.settledBy h, fun _ h => settled_readEvent.settledBy h,
    fun _ h => settled_readError.settledBy h⟩

/-- The news of a host that is down, and an octet behind it. -/
def downNews : Octets :=
  putText "STATUS_CHANGE" ++ putText "DOWN" ++ [4, 10, 0, 0, 5] ++ putSigned 9042 ++ [255]

/-- Lists in sixteen lists, a host that is down and an error, each with an octet too
many. -/
theorem bodies_settled_but_for_last_octet :
    (parseRows ((ResultSet.nestedLists 16).encode ++ [1]) =
        .ok [⟨[("v", none)]⟩, ⟨[("v", some [7])]⟩] ∧
      ∃ n, n + 1 = ((ResultSet.nestedLists 16).encode ++ [1]).length ∧
        SettledBy parseRows ((ResultSet.nestedLists 16).encode ++ [1]) n) ∧
    (Host.parseEvent downNews = .ok (some ⟨.down, .on (.v4 10 0 0 5) 9042⟩) ∧
      ∃ n, n + 1 = downNews.length ∧ SettledBy Host.parseEvent downNews n) ∧
    parseError (putSigned 8704 ++ putText "unconfigured table" ++ [0]) =
        .ok (8704, "unconfigured table") ∧
      ∃ n, n + 1 = (putSigned 8704 ++ putText "unconfigured table" ++ [0]).length ∧
        SettledBy parseError (putSigned 8704 ++ putText "unconfigured table" ++ [0]) n := by
  have hrows : parseRows ((ResultSet.nestedLists 16).encode ++ [1]) =
      .ok [⟨[("v", none)]⟩, ⟨[("v", some [7])]⟩] := by decide +kernel
  have hevent : Host.parseEvent downNews = .ok (some ⟨.down, .on (.v4 10 0 0 5) 9042⟩) := by
    decide +kernel
  have herror : parseError (putSigned 8704 ++ putText "unconfigured table" ++ [0]) =
      .ok (8704, "unconfigured table") := by decide +kernel
  refine ⟨⟨hrows, ?_⟩, ⟨hevent, ?_⟩, herror, ?_⟩
  · have hleft : (readResult.run ((ResultSet.nestedLists 16).encode ++ [1])).2 = [1] := by
      decide +kernel
    simpa only [hleft, List.length_singleton] using (truncation_is_told _).1 _ hrows
  · have hleft : (Host.readEvent.run downNews).2 = [255] := by decide +kernel
    simpa only [hleft, List.length_singleton] using (truncation_is_told _).2.1 _ hevent
  · have hleft : (readError.run (putSigned 8704 ++ putText "unconfigured table" ++ [0])).2 =
        [0] := by decide +kernel
    simpa only [hleft, List.length_singleton] using (truncation_is_told _).2.2 _ herror

end NodeSidecar.Wire
