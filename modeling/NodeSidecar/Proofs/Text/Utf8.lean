import Mathlib.Tactic.Common
import NodeSidecar.Text.Utf8
/-!
# Text — UTF-8, both ways

What decoding accepts is what encoding writes: `decodeUtf8_eq_ok_iff`. A look
at the front of some octets finds a character just when the octets of that
character are there (`Spelled.utf8Head`, `spelled_of_utf8Head`); the rest is an
induction on how many octets there are. What is written are the octets that a
string is kept in (`toByteArray_eq`).
-/

namespace NodeSidecar.Text

variable {b b' : UInt8} {c : Char} {rest : Octets} {n length : Nat}

/-! ## Octets as numbers -/

theorem isTail_iff : isTail b = true ↔ 0x80 ≤ b.toNat ∧ b.toNat ≤ 0xBF := by
  simp [isTail, UInt8.le_iff_toNat_le]

/-- A second octet is one that continues a character, and more than that after
four of the first octets. -/
theorem isSecond_iff : isSecond b b' = true ↔ (0x80 ≤ b'.toNat ∧ b'.toNat ≤ 0xBF) ∧
    (b.toNat = 0xE0 → 0xA0 ≤ b'.toNat) ∧ (b.toNat = 0xED → b'.toNat ≤ 0x9F) ∧
    (b.toNat = 0xF0 → 0x90 ≤ b'.toNat) ∧ (b.toNat = 0xF4 → b'.toNat ≤ 0x8F) := by
  have within (k l : UInt8) :
      (k ≤ b' && b' ≤ l) = true ↔ k.toNat ≤ b'.toNat ∧ b'.toNat ≤ l.toNat := by
    simp [UInt8.le_iff_toNat_le]
  simp only [isSecond, ← UInt8.toNat_inj, UInt8.reduceToNat]
  split
  · simp only [within, UInt8.reduceToNat]
    omega
  split
  · simp only [within, UInt8.reduceToNat]
    omega
  split
  · simp only [within, UInt8.reduceToNat]
    omega
  split
  · simp only [within, UInt8.reduceToNat]
    omega
  · rw [isTail_iff]
    omega

theorem ofNat_eq_of_toNat (h : b.toNat = n) : UInt8.ofNat n = b := by
  rw [← h, UInt8.ofNat_toNat]

theorem toNat_ofNat_of_lt (h : n < 256) : (UInt8.ofNat n).toNat = n := by
  rw [UInt8.toNat_ofNat']
  omega

/-- A character is no surrogate and lies below the last code point. -/
theorem toNat_range (c : Char) : c.toNat < 0xD800 ∨ 0xDFFF < c.toNat ∧ c.toNat < 0x110000 :=
  c.valid

theorem toNat_ofNat_char (h : n < 0xD800 ∨ 0xDFFF < n ∧ n < 0x110000) :
    (Char.ofNat n).toNat = n := by
  have hvalid : n.isValidChar := h
  rw [Char.ofNat, dif_pos hvalid]
  rfl

/-! ## One character -/

/-- **How a character is spelled**, by how many octets it takes. -/
inductive Spelled (c : Char) : Octets → Prop
  | one {a : UInt8} : a.toNat < 0x80 → c.toNat = a.toNat → Spelled c [a]
  | two {a b : UInt8} : 0xC2 ≤ a.toNat → a.toNat < 0xE0 → isTail b = true →
      c.toNat = a.toNat % 32 * 64 + tailBits b → Spelled c [a, b]
  | three {a b d : UInt8} : 0xE0 ≤ a.toNat → a.toNat < 0xF0 → isSecond a b = true →
      isTail d = true → c.toNat = (a.toNat % 16 * 64 + tailBits b) * 64 + tailBits d →
      Spelled c [a, b, d]
  | four {a b d e : UInt8} : 0xF0 ≤ a.toNat → a.toNat < 0xF5 → isSecond a b = true →
      isTail d = true → isTail e = true →
      c.toNat = ((a.toNat % 8 * 64 + tailBits b) * 64 + tailBits d) * 64 + tailBits e →
      Spelled c [a, b, d, e]

theorem spelled_encodeChar (c : Char) : Spelled c (encodeChar c) := by
  have hrange := toNat_range c
  have octet (n : Nat) (h : n < 256) : (UInt8.ofNat n).toNat = n := toNat_ofNat_of_lt h
  unfold encodeChar
  dsimp only
  split
  · have ha := octet c.toNat (by omega)
    exact .one (by omega) ha.symm
  split
  · have ha := octet (0xC0 + c.toNat / 64) (by omega)
    have hb := octet (0x80 + c.toNat % 64) (by omega)
    refine .two (by omega) (by omega) (isTail_iff.2 (by omega)) ?_
    rw [tailBits, ha, hb]
    omega
  split
  · have ha := octet (0xE0 + c.toNat / 4096) (by omega)
    have hb := octet (0x80 + c.toNat / 64 % 64) (by omega)
    have hd := octet (0x80 + c.toNat % 64) (by omega)
    refine .three (by omega) (by omega) (isSecond_iff.2 (by omega)) (isTail_iff.2 (by omega)) ?_
    rw [tailBits, tailBits, ha, hb, hd]
    omega
  · have ha := octet (0xF0 + c.toNat / 262144) (by omega)
    have hb := octet (0x80 + c.toNat / 4096 % 64) (by omega)
    have hd := octet (0x80 + c.toNat / 64 % 64) (by omega)
    have he := octet (0x80 + c.toNat % 64) (by omega)
    refine .four (by omega) (by omega) (isSecond_iff.2 (by omega)) (isTail_iff.2 (by omega))
      (isTail_iff.2 (by omega)) ?_
    rw [tailBits, tailBits, tailBits, ha, hb, hd, he]
    omega

/-- A character has one spelling. -/
theorem Spelled.eq_encodeChar {octets : Octets} (h : Spelled c octets) :
    octets = encodeChar c := by
  unfold encodeChar
  dsimp only
  cases h with
  | one h1 hc => rw [if_pos (by omega), ofNat_eq_of_toNat hc.symm]
  | @two a b h1 h2 ht hc =>
    simp only [isTail_iff, tailBits] at ht hc
    rw [if_neg (by omega), if_pos (by omega), ofNat_eq_of_toNat (b := a) (by omega),
      ofNat_eq_of_toNat (b := b) (by omega)]
  | @three a b d h1 h2 hs ht hc =>
    simp only [isTail_iff, isSecond_iff, tailBits] at hs ht hc
    rw [if_neg (by omega), if_neg (by omega), if_pos (by omega),
      ofNat_eq_of_toNat (b := a) (by omega), ofNat_eq_of_toNat (b := b) (by omega),
      ofNat_eq_of_toNat (b := d) (by omega)]
  | @four a b d e h1 h2 hs ht ht' hc =>
    simp only [isTail_iff, isSecond_iff, tailBits] at hs ht ht' hc
    rw [if_neg (by omega), if_neg (by omega), if_neg (by omega),
      ofNat_eq_of_toNat (b := a) (by omega), ofNat_eq_of_toNat (b := b) (by omega),
      ofNat_eq_of_toNat (b := d) (by omega), ofNat_eq_of_toNat (b := e) (by omega)]

/-- **A look at the front finds a character that is spelled there.** -/
theorem Spelled.utf8Head {octets : Octets} (h : Spelled c octets) (rest : Octets) :
    ∃ a tail, octets = a :: tail ∧
      utf8Head a (tail ++ rest) = .char c (tail.length + 1) := by
  have hback := Char.ofNat_toNat c
  cases h with
  | @one a h1 hc =>
    refine ⟨a, [], rfl, ?_⟩
    have hlow : a < 0x80 := h1
    rw [hc] at hback
    simp [Text.utf8Head, hlow, hback]
  | @two a b h1 h2 ht hc =>
    refine ⟨a, [b], rfl, ?_⟩
    rw [hc] at hback
    have hlow : ¬ a < 0x80 := UInt8.not_lt.2 (Nat.le_trans (by decide) h1)
    have hC2 : ¬ a < 0xC2 := UInt8.not_lt.2 (Nat.le_trans (by decide) h1)
    have hE0 : a < 0xE0 := h2
    simp [Text.utf8Head, hlow, hC2, hE0, ht, hback]
  | @three a b d h1 h2 hs ht hc =>
    refine ⟨a, [b, d], rfl, ?_⟩
    rw [hc] at hback
    have hlow : ¬ a < 0x80 := UInt8.not_lt.2 (Nat.le_trans (by decide) h1)
    have hC2 : ¬ a < 0xC2 := UInt8.not_lt.2 (Nat.le_trans (by decide) h1)
    have hE0 : ¬ a < 0xE0 := UInt8.not_lt.2 (Nat.le_trans (by decide) h1)
    have hF0 : a < 0xF0 := h2
    simp [Text.utf8Head, hlow, hC2, hE0, hF0, hs, ht, hback]
  | @four a b d e h1 h2 hs ht ht' hc =>
    refine ⟨a, [b, d, e], rfl, ?_⟩
    rw [hc] at hback
    have hlow : ¬ a < 0x80 := UInt8.not_lt.2 (Nat.le_trans (by decide) h1)
    have hC2 : ¬ a < 0xC2 := UInt8.not_lt.2 (Nat.le_trans (by decide) h1)
    have hE0 : ¬ a < 0xE0 := UInt8.not_lt.2 (Nat.le_trans (by decide) h1)
    have hF0 : ¬ a < 0xF0 := UInt8.not_lt.2 (Nat.le_trans (by decide) h1)
    have hF5 : a < 0xF5 := h2
    simp [Text.utf8Head, hlow, hC2, hE0, hF0, hF5, hs, ht, ht', hback]

/-- **It finds no other character.** -/
theorem spelled_of_utf8Head {a : UInt8} (h : utf8Head a rest = .char c length) :
    ∃ tail rest', rest = tail ++ rest' ∧ Spelled c (a :: tail) ∧ length = tail.length + 1 := by
  unfold utf8Head at h
  simp only [UInt8.lt_iff_toNat_lt, UInt8.reduceToNat] at h
  split at h
  · rename_i h1
    obtain ⟨rfl, rfl⟩ := Utf8Head.char.inj h
    exact ⟨[], rest, rfl, .one h1 (toNat_ofNat_char (by omega)), rfl⟩
  split at h
  · cases h
  split at h
  · cases rest with
    | nil => cases h
    | cons b rest =>
      simp only at h
      split at h
      · rename_i ht
        obtain ⟨rfl, rfl⟩ := Utf8Head.char.inj h
        refine ⟨[b], rest, rfl, .two (by omega) (by omega) ht (toNat_ofNat_char ?_), rfl⟩
        simp only [tailBits]
        omega
      · cases h
  split at h
  · rcases rest with - | ⟨b, - | ⟨d, rest⟩⟩
    · cases h
    · simp only at h
      split at h <;> cases h
    simp only at h
    split at h
    · cases h
    rename_i hs
    split at h
    · cases h
    rename_i ht
    obtain ⟨rfl, rfl⟩ := Utf8Head.char.inj h
    simp only [Bool.not_eq_true', Bool.not_eq_false] at hs ht
    refine ⟨[b, d], rest, rfl, .three (by omega) (by omega) hs ht (toNat_ofNat_char ?_), rfl⟩
    rw [isSecond_iff] at hs
    simp only [tailBits]
    omega
  split at h
  · rcases rest with - | ⟨b, - | ⟨d, - | ⟨e, rest⟩⟩⟩
    · cases h
    · simp only at h
      split at h <;> cases h
    · simp only at h
      split at h
      · cases h
      · split at h <;> cases h
    simp only at h
    split at h
    · cases h
    rename_i hs
    split at h
    · cases h
    rename_i ht
    split at h
    · cases h
    rename_i ht'
    obtain ⟨rfl, rfl⟩ := Utf8Head.char.inj h
    simp only [Bool.not_eq_true', Bool.not_eq_false] at hs ht ht'
    refine ⟨[b, d, e], rest, rfl, .four (by omega) (by omega) hs ht ht' (toNat_ofNat_char ?_),
      rfl⟩
    rw [isSecond_iff] at hs
    simp only [tailBits]
    omega
  · cases h

/-- An octet of a character is the character itself, or neither of the two is ASCII. -/
theorem toNat_of_mem_encodeChar (h : b ∈ encodeChar c) :
    b.toNat = c.toNat ∨ 0x80 ≤ b.toNat ∧ 0x80 ≤ c.toNat := by
  have hrange := toNat_range c
  have octet {n : Nat} (hb : b = UInt8.ofNat n) (hn : n < 256) : b.toNat = n :=
    hb ▸ toNat_ofNat_of_lt hn
  unfold encodeChar at h
  dsimp only at h
  split at h
  · exact .inl (octet (List.mem_singleton.1 h) (by omega))
  refine .inr ⟨?_, by omega⟩
  split at h
  · simp only [List.mem_cons, List.not_mem_nil, or_false] at h
    rcases h with h | h <;> rw [octet h (by omega)] <;> omega
  split at h
  · simp only [List.mem_cons, List.not_mem_nil, or_false] at h
    rcases h with h | h | h <;> rw [octet h (by omega)] <;> omega
  · simp only [List.mem_cons, List.not_mem_nil, or_false] at h
    rcases h with h | h | h | h <;> rw [octet h (by omega)] <;> omega

/-- The standard library spells a character in the same way. -/
theorem encodeChar_eq (c : Char) : encodeChar c = String.utf8EncodeChar c := by
  have hrange := toNat_range c
  have hval : c.val.toNat = c.toNat := rfl
  have octet {m n : Nat} (h : m = n) : UInt8.ofNat m = UInt8.ofNat n := congrArg _ h
  unfold encodeChar String.utf8EncodeChar
  dsimp only
  rw [hval]
  split
  · rw [if_pos (by omega)]
  split
  · rw [if_neg (by omega), if_pos (by omega)]
    simp only [List.cons.injEq, and_true]
    exact ⟨octet (by omega), octet (by omega)⟩
  split
  · rw [if_neg (by omega), if_neg (by omega), if_pos (by omega)]
    simp only [List.cons.injEq, and_true]
    exact ⟨octet (by omega), octet (by omega), octet (by omega)⟩
  · rw [if_neg (by omega), if_neg (by omega), if_neg (by omega)]
    simp only [List.cons.injEq, and_true]
    exact ⟨octet (by omega), octet (by omega), octet (by omega), octet (by omega)⟩

/-! ## A whole text -/

/-- A string is kept in the octets of its text. -/
theorem toByteArray_eq (q : String) : q.toByteArray = (encodeUtf8 q.toList).toByteArray := by
  rw [encodeUtf8, funext encodeChar_eq, ← List.utf8Encode, ← String.toByteArray_ofList,
    String.ofList_toList]

/-- A string can be cut behind the octets of a text that it begins with. -/
theorem isValid_length_encodeUtf8 {q : String} {front back : List Char}
    (h : q.toList = front ++ back) : String.Pos.Raw.IsValid q ⟨(encodeUtf8 front).length⟩ := by
  refine String.Pos.Raw.isValid_iff_exists_append.2
    ⟨String.ofList front, String.ofList back, ?_, ?_⟩
  · rw [← String.ofList_append, ← h, String.ofList_toList]
  · rw [String.rawEndPos, ← String.size_toByteArray, toByteArray_eq, String.toList_ofList,
      List.size_toByteArray]

/-- Octets of the present character are passed over. -/
theorem decodeFrom_skip {tail rest : Octets} {start : Nat} {read : List Char} :
    decodeFrom start tail.length read (tail ++ rest) =
      decodeFrom (start + tail.length) 0 read rest := by
  induction tail generalizing start with
  | nil => rfl
  | cons b tail ih =>
    rw [List.length_cons, List.cons_append, decodeFrom, ih]
    congr 1
    omega

/-- A character that is spelled at the front is read. -/
theorem decodeFrom_spelled {octets : Octets} {start : Nat} {read : List Char}
    (h : Spelled c octets) : decodeFrom start 0 read (octets ++ rest) =
      decodeFrom (start + octets.length) 0 (c :: read) rest := by
  obtain ⟨a, tail, rfl, hhead⟩ := h.utf8Head rest
  rw [List.cons_append, decodeFrom, hhead]
  simp only [Nat.add_sub_cancel, decodeFrom_skip, List.length_cons]
  congr 1
  omega

theorem decodeFrom_encodeUtf8 (cs : List Char) {start : Nat} {read : List Char} :
    decodeFrom start 0 read (encodeUtf8 cs) = .ok (read.reverse ++ cs) := by
  induction cs generalizing start read with
  | nil => simp [encodeUtf8, decodeFrom]
  | cons c cs ih =>
    have hsplit : encodeUtf8 (c :: cs) = encodeChar c ++ encodeUtf8 cs := rfl
    rw [hsplit, decodeFrom_spelled (spelled_encodeChar c), ih]
    simp

/-- What is decoded was encoded; the induction is on how many octets are
left. -/
theorem encodeUtf8_of_decodeFrom {octets : Octets} {start : Nat} {read cs : List Char}
    (h : decodeFrom start 0 read octets = .ok cs) :
    ∃ cs', cs = read.reverse ++ cs' ∧ octets = encodeUtf8 cs' := by
  induction hk : octets.length using Nat.strongRecOn
    generalizing octets start read with
  | ind k ih =>
    rcases octets with - | ⟨a, rest⟩
    · simp only [decodeFrom, Except.ok.injEq] at h
      exact ⟨[], by simp [h], rfl⟩
    rw [decodeFrom] at h
    split at h
    · rename_i c length hhead
      obtain ⟨tail, rest', rfl, hspelled, rfl⟩ := spelled_of_utf8Head hhead
      rw [Nat.add_sub_cancel, decodeFrom_skip] at h
      obtain ⟨cs', rfl, rfl⟩ := ih rest'.length (by simp at hk; omega) h rfl
      refine ⟨c :: cs', by simp, ?_⟩
      rw [← List.cons_append, hspelled.eq_encodeChar]
      rfl
    · cases h
    · cases h

/-- **Octets decode to a text just when they are the octets of that text.** -/
theorem decodeUtf8_eq_ok_iff {octets : Octets} {cs : List Char} :
    decodeUtf8 octets = .ok cs ↔ octets = encodeUtf8 cs := by
  constructor
  · intro h
    obtain ⟨cs', rfl, rfl⟩ := encodeUtf8_of_decodeFrom h
    rfl
  · rintro rfl
    exact decodeFrom_encodeUtf8 cs

end NodeSidecar.Text
