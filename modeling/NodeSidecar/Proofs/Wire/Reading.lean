import NodeSidecar.Proofs.Text.Utf8
import NodeSidecar.Wire.Frame
/-!
# Wire — reads and the formats they read

A `Format` says which things can be written, which value each stands for, and
in which octets it is written. `Reads r f` says that the read `r` and the format
`f` are made for each other: `r` answers a value just when something that stands
for it is written in front, and leaves what comes behind. Reads that are made one
after the other are taken apart with `andThen_eq_ok_iff` and put together with
`andThen_of_ok`.
-/

namespace NodeSidecar.Wire

open Text (Octets encodeUtf8)

/-- A number with a sign in four octets. -/
def putSigned (n : Int) : Octets :=
  put32 (n % 4294967296).toNat

/-- How things are written that stand for values. -/
structure Format (δ α : Type) where
  /-- What can be written. -/
  Fits : δ → Prop
  /-- The value that a thing stands for. -/
  value : δ → α
  /-- The octets in which it is written. -/
  encode : δ → Octets

/-- So many things written one after the other. -/
def Format.listOf {δ α : Type} (f : Format δ α) (n : Nat) : Format (List δ) (List α) where
  Fits ds := ds.length = n ∧ ∀ d ∈ ds, f.Fits d
  value := List.map f.value
  encode := List.flatMap f.encode

namespace Read

variable {α β γ δ : Type} {r : Read α} {next : α → Read β} {f : Format δ α}
variable {octets mid rest : Octets} {a : α} {b : β} {flaw : Flaw} {n : Nat}

/-- **The read answers a value just when something that stands for it is written
in front**, and leaves what comes behind. -/
def Reads (r : Read α) (f : Format δ α) : Prop :=
  ∀ octets a rest, r octets = (.ok a, rest) ↔
    ∃ d, f.Fits d ∧ f.value d = a ∧ octets = f.encode d ++ rest

/-- What is written is read. -/
theorem Reads.of_fits (h : Reads r f) {d : δ} (hd : f.Fits d) (rest : Octets) :
    r (f.encode d ++ rest) = (.ok (f.value d), rest) :=
  (h _ _ _).2 ⟨d, hd, rfl, rfl⟩

/-! ## One read after the other -/

theorem andThen_eq_ok_iff : (r >>= next) octets = (.ok b, rest) ↔
    ∃ a mid, r octets = (.ok a, mid) ∧ next a mid = (.ok b, rest) := by
  change r.andThen next octets = _ ↔ _
  unfold andThen
  split
  · rename_i a mid hr
    simp [hr]
  · rename_i flaw mid hr
    simp [hr]

theorem andThen_of_ok (h : r octets = (.ok a, mid)) : (r >>= next) octets = next a mid := by
  change r.andThen next octets = _
  rw [andThen, h]

theorem andThen_of_error (h : (r octets).1 = .error flaw) :
    ((r >>= next) octets).1 = .error flaw := by
  change (r.andThen next octets).1 = _
  rw [andThen]
  split
  · rename_i a mid hr
    rw [hr] at h
    cases h
  · rename_i flaw' mid hr
    rw [hr] at h
    exact congrArg Except.error (Except.error.inj h)

/-- A flaw stops what would be read on, and the octets stay where they are. -/
theorem andThen_of_flaw (h : r octets = (.error flaw, rest)) :
    (r >>= next) octets = (.error flaw, rest) := by
  change r.andThen next octets = _
  rw [andThen, h]

theorem andThen_assoc {last : β → Read γ} :
    (r >>= next) >>= last = r >>= fun a => next a >>= last := by
  funext octets
  change (r.andThen next).andThen last octets = r.andThen (fun a => (next a).andThen last) octets
  simp only [andThen]
  rcases r octets with ⟨flaw | a, mid⟩
  · rfl
  · rfl

theorem done_eq_ok_iff {a' : α} : done a octets = (.ok a', rest) ↔ a = a' ∧ octets = rest := by
  simp [done]

theorem fail_ne_ok : fail flaw octets ≠ (.ok a, rest) := by
  simp [fail]

/-- **Reading on is reading what comes behind**, once something is read that was
written. -/
theorem Reads.andThen_eq_ok_iff (h : Reads r f) : (r >>= next) octets = (.ok b, rest) ↔
    ∃ d mid, f.Fits d ∧ octets = f.encode d ++ mid ∧ next (f.value d) mid = (.ok b, rest) := by
  rw [Read.andThen_eq_ok_iff]
  constructor
  · rintro ⟨a, mid, hr, hnext⟩
    obtain ⟨d, hd, rfl, rfl⟩ := (h _ _ _).1 hr
    exact ⟨d, mid, hd, rfl, hnext⟩
  · rintro ⟨d, mid, hd, rfl, hnext⟩
    exact ⟨_, mid, h.of_fits hd mid, hnext⟩

theorem Reads.andThen_of_fits (h : Reads r f) {d : δ} (hd : f.Fits d) (rest : Octets) :
    (r >>= next) (f.encode d ++ rest) = next (f.value d) rest :=
  andThen_of_ok (h.of_fits hd rest)

/-! ## Numbers -/

theorem take_eq_ok_iff {taken : Octets} : take n octets = (.ok taken, rest) ↔
    taken.length = n ∧ octets = taken ++ rest := by
  unfold take
  constructor
  · intro h
    split at h
    · rename_i hlong
      rw [hasAtLeast_iff] at hlong
      simp only [Prod.mk.injEq, Except.ok.injEq] at h
      obtain ⟨rfl, rfl⟩ := h
      exact ⟨List.length_take_of_le hlong, (List.take_append_drop n octets).symm⟩
    · simp at h
  · rintro ⟨rfl, rfl⟩
    have hlong : hasAtLeast taken.length (taken ++ rest) = true := by simp [hasAtLeast_iff]
    simp [hlong]

theorem u8_andThen (n : UInt8) (rest : Octets) {next : UInt8 → Read β} :
    (u8 >>= next) (n :: rest) = next n rest := rfl

/-- Two octets are those of the number they make. -/
theorem put16_of_octets (a b : UInt8) : put16 (a.toNat * 256 + b.toNat) = [a, b] := by
  have ha : (a.toNat * 256 + b.toNat) / 256 = a.toNat := by
    have := b.toNat_lt
    omega
  have hb : UInt8.ofNat (a.toNat * 256 + b.toNat) = b := by
    rw [← UInt8.toNat_inj, UInt8.toNat_ofNat']
    have := b.toNat_lt
    omega
  rw [put16, ha, hb, UInt8.ofNat_toNat]

/-- **A number of two octets is read as it is written.** -/
theorem reads_u16 : Reads u16 ⟨(· < 65536), id, put16⟩ := by
  intro octets n rest
  simp only [id]
  constructor
  · intro h
    unfold u16 at h
    split at h
    · rename_i a b rest'
      simp only [Prod.mk.injEq, Except.ok.injEq] at h
      obtain ⟨rfl, rfl⟩ := h
      have := a.toNat_lt
      have := b.toNat_lt
      refine ⟨_, by omega, rfl, ?_⟩
      rw [put16_of_octets]
      rfl
    · simp at h
  · rintro ⟨m, hm, rfl, rfl⟩
    have hhigh : (UInt8.ofNat (m / 256)).toNat = m / 256 := by
      rw [UInt8.toNat_ofNat']
      omega
    have hlow : (UInt8.ofNat m).toNat = m % 256 := UInt8.toNat_ofNat'
    simp only [put16, List.cons_append, List.nil_append, u16, hhigh, hlow]
    congr 2
    omega

/-- Four octets are those of the number they make. -/
theorem put32_of_octets (a b c d : UInt8) :
    put32 (((a.toNat * 256 + b.toNat) * 256 + c.toNat) * 256 + d.toNat) = [a, b, c, d] := by
  have ha := a.toNat_lt
  have hb := b.toNat_lt
  have hc := c.toNat_lt
  have hd := d.toNat_lt
  have octet {n : Nat} {k : UInt8} (h : n % 256 = k.toNat) : UInt8.ofNat n = k := by
    rw [← UInt8.toNat_inj, UInt8.toNat_ofNat']
    exact h
  rw [put32, octet (k := a) (by omega), octet (k := b) (by omega), octet (k := c) (by omega),
    octet (k := d) (by omega)]

/-- A number with a sign of thirty-two bits. -/
def Signed32 (n : Int) : Prop :=
  -2147483648 ≤ n ∧ n < 2147483648

theorem signed32_signed {m : Nat} (h : m < 4294967296) :
    Signed32 (signed 32 m) ∧ (signed 32 m % 4294967296).toNat = m := by
  have hhalf : Nat.pow 2 31 = 2147483648 := rfl
  have hwhole : ((Nat.pow 2 32 : Nat) : Int) = 4294967296 := rfl
  simp only [Signed32, signed, Nat.add_one_sub_one, hhalf, hwhole]
  split <;> omega

theorem signed_toNat {n : Int} (h : Signed32 n) : signed 32 (n % 4294967296).toNat = n := by
  have hhalf : Nat.pow 2 31 = 2147483648 := rfl
  have hwhole : ((Nat.pow 2 32 : Nat) : Int) = 4294967296 := rfl
  obtain ⟨hlow, hhigh⟩ := h
  simp only [signed, Nat.add_one_sub_one, hhalf, hwhole]
  split <;> omega

/-- **A number of four octets is read as it is written.** -/
theorem reads_i32 : Reads i32 ⟨Signed32, id, putSigned⟩ := by
  intro octets n rest
  simp only [id]
  constructor
  · intro h
    unfold i32 at h
    split at h
    · rename_i a b c d rest'
      simp only [Prod.mk.injEq, Except.ok.injEq] at h
      obtain ⟨rfl, rfl⟩ := h
      have := a.toNat_lt
      have := b.toNat_lt
      have := c.toNat_lt
      have := d.toNat_lt
      obtain ⟨hsigned, hback⟩ := signed32_signed
        (m := ((a.toNat * 256 + b.toNat) * 256 + c.toNat) * 256 + d.toNat) (by omega)
      refine ⟨_, hsigned, rfl, ?_⟩
      rw [putSigned, hback, put32_of_octets]
      rfl
    · simp at h
  · rintro ⟨n, hn, rfl, rfl⟩
    have hback := signed_toNat hn
    have hlt : (n % 4294967296).toNat < 4294967296 := by omega
    rw [putSigned]
    generalize (n % 4294967296).toNat = m at *
    have octet (k : Nat) : (UInt8.ofNat k).toNat = k % 256 := UInt8.toNat_ofNat'
    have hm : ((m / 16777216 % 256 * 256 + m / 65536 % 256) * 256 + m / 256 % 256) * 256 +
        m % 256 = m := by omega
    simp only [put32, List.cons_append, List.nil_append, i32, octet, hm, hback]

theorem i32_andThen {n : Int} (hn : Signed32 n) (rest : Octets) {next : Int → Read β} :
    (i32 >>= next) (putSigned n ++ rest) = next n rest :=
  reads_i32.andThen_of_fits hn rest

theorem i32_andThen_eq_ok_iff {next : Int → Read β} : (i32 >>= next) octets = (.ok b, rest) ↔
    ∃ n mid, Signed32 n ∧ octets = putSigned n ++ mid ∧ next n mid = (.ok b, rest) :=
  reads_i32.andThen_eq_ok_iff

/-! ## Texts -/

/-- A text whose length fits two octets. -/
def Short (s : String) : Prop :=
  (encodeUtf8 s.toList).length < 65536

instance (s : String) : Decidable (Short s) :=
  inferInstanceAs (Decidable (_ < 65536))

/-- **A text is read as it is written.** -/
theorem reads_text : Reads text ⟨Short, id, putText⟩ := by
  intro octets s rest
  -- What follows once the octets of the text were taken.
  obtain ⟨next, htext, herror, hok⟩ : ∃ next : Octets → Read String,
      text = (u16 >>= fun length => take length >>= next) ∧
      (∀ taken flaw, Text.decodeUtf8 taken = .error flaw → next taken = fail (.text flaw)) ∧
      ∀ taken cs, Text.decodeUtf8 taken = .ok cs → next taken = done (String.ofList cs) :=
    ⟨_, rfl, fun taken flaw h => by simp only [h], fun taken cs h => by simp only [h]⟩
  have hdecode (taken left : Octets) : next taken left = (.ok s, rest) ↔
      taken = encodeUtf8 s.toList ∧ left = rest := by
    rw [← Text.decodeUtf8_eq_ok_iff]
    rcases h : Text.decodeUtf8 taken with flaw | cs
    · simp [herror _ _ h, fail]
    · have hcs : String.ofList cs = s ↔ cs = s.toList := by
        constructor
        · rintro rfl
          simp
        · rintro rfl
          simp
      simp [hok _ _ h, done, hcs]
  simp only [id]
  rw [htext, reads_u16.andThen_eq_ok_iff]
  constructor
  · rintro ⟨n, mid, hn, rfl, hread⟩
    obtain ⟨taken, left, htake, hdecoded⟩ := andThen_eq_ok_iff.1 hread
    obtain ⟨rfl, rfl⟩ := (hdecode taken left).1 hdecoded
    obtain ⟨hlong, rfl⟩ := take_eq_ok_iff.1 htake
    have hlength : (encodeUtf8 s.toList).length = n := hlong
    have hshort : Short s := by
      rw [Short, hlength]
      exact hn
    exact ⟨s, hshort, rfl, by simp [putText, hlength]⟩
  · rintro ⟨s, hs, rfl, rfl⟩
    refine ⟨(encodeUtf8 s.toList).length, encodeUtf8 s.toList ++ rest, hs, ?_, ?_⟩
    · rw [putText, List.append_assoc]
    · exact andThen_eq_ok_iff.2 ⟨_, rest, take_eq_ok_iff.2 ⟨rfl, rfl⟩, (hdecode _ _).2 ⟨rfl, rfl⟩⟩

theorem text_andThen {s : String} (hs : Short s) (rest : Octets) {next : String → Read β} :
    (text >>= next) (putText s ++ rest) = next s rest :=
  reads_text.andThen_of_fits hs rest

/-! ## The same read many times over -/

theorem gatherFrom_succ {read : List α} :
    gatherFrom r (n + 1) read = r >>= fun a => gatherFrom r n (a :: read) := rfl

theorem gatherFrom_eq_ok_iff (h : Reads r f) {read as : List α} :
    gatherFrom r n read octets = (.ok as, rest) ↔
      ∃ ds : List δ, (ds.length = n ∧ ∀ d ∈ ds, f.Fits d) ∧
        read.reverse ++ ds.map f.value = as ∧ octets = ds.flatMap f.encode ++ rest := by
  induction n generalizing read octets with
  | zero => simp [gatherFrom, done]
  | succ n ih =>
    rw [gatherFrom_succ, andThen_eq_ok_iff]
    constructor
    · rintro ⟨a, left, hr, hread⟩
      obtain ⟨d, hd, rfl, rfl⟩ := (h _ _ _).1 hr
      obtain ⟨ds, ⟨rfl, hds⟩, rfl, rfl⟩ := ih.1 hread
      exact ⟨d :: ds, ⟨rfl, by simpa using ⟨hd, hds⟩⟩, by simp, by simp⟩
    · rintro ⟨ds, ⟨hlength, hds⟩, rfl, rfl⟩
      rcases ds with - | ⟨d, ds⟩
      · cases hlength
      obtain ⟨hd, hds⟩ := List.forall_mem_cons.1 hds
      refine ⟨f.value d, ds.flatMap f.encode ++ rest, ?_, ?_⟩
      · rw [List.flatMap_cons, List.append_assoc]
        exact h.of_fits hd _
      · exact ih.2 ⟨ds, ⟨Nat.succ.inj hlength, hds⟩, by simp, rfl⟩

/-- **Many values are read as they are written.** -/
theorem reads_gather (h : Reads r f) (n : Nat) : Reads (gather n r) (f.listOf n) :=
  fun _ _ _ => gatherFrom_eq_ok_iff h

/-- What is read without regard to its value is read all the same. -/
theorem times_eq_gather {r : Read Unit} :
    times n r = gather n r >>= fun _ => done () := by
  have hfrom (read : List Unit) : times n r = gatherFrom r n read >>= fun _ => done () := by
    induction n generalizing read with
    | zero => rfl
    | succ n ih =>
      have hsucc : times (n + 1) r = r >>= fun _ => times n r := by
        funext octets
        change _ = r.andThen (fun _ => times n r) octets
        simp only [times, andThen]
        rcases r octets with ⟨flaw | u, left⟩
        · rfl
        · rfl
      rw [hsucc, gatherFrom_succ, andThen_assoc]
      congr 1
      funext u
      exact ih (u :: read)
  exact hfrom []

/-- **Many things are read over as they are written.** -/
theorem reads_times {r : Read Unit} {f : Format δ Unit} (h : Reads r f) (n : Nat) :
    Reads (times n r) ⟨(f.listOf n).Fits, fun _ => (), (f.listOf n).encode⟩ := by
  intro octets u rest
  rw [times_eq_gather, (reads_gather h n).andThen_eq_ok_iff]
  constructor
  · rintro ⟨ds, mid, hds, rfl, hdone⟩
    obtain ⟨-, rfl⟩ := done_eq_ok_iff.1 hdone
    exact ⟨ds, hds, rfl, rfl⟩
  · rintro ⟨ds, hds, -, rfl⟩
    exact ⟨ds, rest, hds, rfl, done_eq_ok_iff.2 ⟨rfl, rfl⟩⟩

/-- **One value for each item is read as it is written.** -/
theorem reads_forEach {r : α → Read β} {Fits : δ → Prop} {value : α → δ → β}
    {encode : δ → Octets} (h : ∀ a, Reads (r a) ⟨Fits, value a, encode⟩) (items : List α) :
    Reads (forEach items r) ⟨fun ds => ds.length = items.length ∧ ∀ d ∈ ds, Fits d,
      List.zipWith value items, List.flatMap encode⟩ := by
  have hfrom (read : List β) (octets : Octets) (bs : List β) (rest : Octets) :
      forEachFrom r items read octets = (.ok bs, rest) ↔
        ∃ ds : List δ, (ds.length = items.length ∧ ∀ d ∈ ds, Fits d) ∧
          read.reverse ++ List.zipWith value items ds = bs ∧
          octets = ds.flatMap encode ++ rest := by
    induction items generalizing read octets with
    | nil => simp [forEachFrom, done]
    | cons a items ih =>
      have hcons : forEachFrom r (a :: items) read =
          r a >>= fun b => forEachFrom r items (b :: read) := rfl
      rw [hcons, andThen_eq_ok_iff]
      constructor
      · rintro ⟨b, left, hr, hread⟩
        obtain ⟨d, hd, rfl, rfl⟩ := (h a _ _ _).1 hr
        obtain ⟨ds, ⟨hlength, hds⟩, rfl, rfl⟩ := (ih _ _).1 hread
        exact ⟨d :: ds, ⟨by simp [hlength], by simpa using ⟨hd, hds⟩⟩, by simp, by simp⟩
      · rintro ⟨ds, ⟨hlength, hds⟩, rfl, rfl⟩
        rcases ds with - | ⟨d, ds⟩
        · cases hlength
        obtain ⟨hd, hds⟩ := List.forall_mem_cons.1 hds
        refine ⟨value a d, ds.flatMap encode ++ rest, ?_, ?_⟩
        · rw [List.flatMap_cons, List.append_assoc]
          exact (h a).of_fits hd _
        · exact (ih _ _).2 ⟨ds, ⟨Nat.succ.inj hlength, hds⟩, by simp, rfl⟩
  exact hfrom []

/-- **The first thing that cannot be read is where reading many fails.** -/
theorem gather_of_error {P : δ → Prop} {value : δ → α} {encode : δ → Octets} {ds : List δ}
    (hgood : ∀ d ∈ ds, P d → ∀ rest, r (encode d ++ rest) = (.ok (value d), rest))
    (hbad : ∀ d ∈ ds, ¬ P d → ∀ rest, (r (encode d ++ rest)).1 = .error flaw)
    (hds : ∃ d ∈ ds, ¬ P d) (rest : Octets) :
    (gather ds.length r (ds.flatMap encode ++ rest)).1 = .error flaw := by
  have hfrom (read : List α) :
      (gatherFrom r ds.length read (ds.flatMap encode ++ rest)).1 = .error flaw := by
    induction ds generalizing read with
    | nil => simp at hds
    | cons d ds ih =>
      rw [List.length_cons, gatherFrom_succ, List.flatMap_cons, List.append_assoc]
      obtain ⟨hgood, hgoods⟩ := List.forall_mem_cons.1 hgood
      obtain ⟨hbad, hbads⟩ := List.forall_mem_cons.1 hbad
      by_cases hd : P d
      · rw [andThen_of_ok (hgood hd _)]
        exact ih hgoods hbads (by simpa [hd] using hds) _
      · exact andThen_of_error (hbad hd _)
  exact hfrom []

theorem times_of_error {r : Read Unit} {P : δ → Prop} {encode : δ → Octets} {ds : List δ}
    (hgood : ∀ d ∈ ds, P d → ∀ rest, r (encode d ++ rest) = (.ok (), rest))
    (hbad : ∀ d ∈ ds, ¬ P d → ∀ rest, (r (encode d ++ rest)).1 = .error flaw)
    (hds : ∃ d ∈ ds, ¬ P d) (rest : Octets) :
    (times ds.length r (ds.flatMap encode ++ rest)).1 = .error flaw := by
  rw [times_eq_gather]
  exact andThen_of_error (gather_of_error hgood hbad hds rest)

end Read

end NodeSidecar.Wire
