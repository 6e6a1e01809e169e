import NodeSidecar.Json.Read
import NodeSidecar.Json.Write
import NodeSidecar.Proofs.Json.Canonical
/-!
# Json — what was written is read

An object of texts is read back as it was written, its fields in their order and
those of one name all kept (`read?_write_ofTexts`).
-/

namespace NodeSidecar.Json

variable {fuel depth : Nat} {double : UInt64 → String} {entries : List (String × String)}

/-! ## Strings -/

/-- The four digits that a control character is written in, and what they
denote. -/
theorem hex_of_lt : ∀ n < 32,
    Text.hex 4 n = ['0', '0', Nat.digitChar (n / 16), Nat.digitChar (n % 16)] ∧
      unit? '0' '0' (Nat.digitChar (n / 16)) (Nat.digitChar (n % 16)) = some n := by
  decide

/-- **A character is read as it was written.** -/
theorem readString_escaped (read : List Char) (c : Char) (rest : List Char) :
    readString read ((escaped c).toList ++ rest) = readString (c :: read) rest := by
  unfold escaped
  split
  · rename_i hquote
    rw [hquote]
    rfl
  split
  · rename_i hslash
    rw [hslash]
    rfl
  split
  · rename_i hcontrol
    obtain ⟨hhex, hunit⟩ := hex_of_lt c.toNat hcontrol
    have hsmall : c.toNat < 0xD800 := Nat.lt_trans hcontrol (by decide)
    have hback := Char.ofNat_toNat c
    rw [hhex, String.toList_append, String.toList_ofList, String.toList_ofList]
    refine (readString.eq_3 ..).trans ?_
    simp [hunit, hsmall, hback]
  · rename_i hquote hslash hcontrol
    have hblank : ¬ c < ' ' := fun hlt => hcontrol hlt
    rw [String.toList_singleton, List.singleton_append,
      readString.eq_5 _ _ _ hquote (fun _ _ _ _ _ h _ => hslash h) (fun _ _ h _ => hslash h),
      if_neg hblank]

theorem readString_flatMap (cs read rest : List Char) :
    readString read (cs.flatMap (fun c => (escaped c).toList) ++ '"' :: rest) =
      some (String.ofList (read.reverse ++ cs), rest) := by
  induction cs generalizing read with
  | nil => rw [List.flatMap_nil, List.nil_append, readString, List.append_nil]
  | cons c cs ih =>
    rw [List.flatMap_cons, List.append_assoc, readString_escaped, ih, List.reverse_cons,
      List.append_assoc, List.singleton_append]

theorem toList_foldl_escaped (cs : List Char) (out : String) :
    (cs.foldl (fun out c => out ++ escaped c) out).toList =
      out.toList ++ cs.flatMap fun c => (escaped c).toList := by
  induction cs generalizing out with
  | nil => rw [List.foldl_nil, List.flatMap_nil, List.append_nil]
  | cons c cs ih =>
    rw [List.foldl_cons, ih, String.toList_append, List.flatMap_cons, List.append_assoc]

/-- The characters of a text in quotes. -/
theorem toList_quoted (s : String) : (quoted s).toList =
    '"' :: (s.toList.flatMap (fun c => (escaped c).toList) ++ ['"']) := by
  unfold quoted
  rw [String.foldl_eq_foldl_toList, String.toList_append, String.toList_append,
    toList_foldl_escaped]
  rfl

/-- **A text in quotes is read back.** -/
theorem exists_readString_quoted (s : String) (rest : List Char) :
    ∃ cs, (quoted s).toList ++ rest = '"' :: cs ∧ readString [] cs = some (s, rest) := by
  refine ⟨s.toList.flatMap (fun c => (escaped c).toList) ++ '"' :: rest, ?_, ?_⟩
  · rw [toList_quoted, List.cons_append, List.append_assoc, List.singleton_append]
  · rw [readString_flatMap, List.reverse_nil, List.nil_append, String.ofList_toList]

theorem readValue_quoted (s : String) (rest : List Char) :
    readValue (fuel + 1) depth ((quoted s).toList ++ rest) = some (.string s, rest) := by
  obtain ⟨cs, hcs, hread⟩ := exists_readString_quoted s rest
  have hscalar : readValue (fuel + 1) depth ('"' :: cs) = readScalar ('"' :: cs) := rfl
  rw [hcs, hscalar, readScalar, hread]
  rfl

/-! ## Fields -/

theorem skipGap_cons {c : Char} {rest : List Char} (h : isGap c = false) :
    skipGap (c :: rest) = c :: rest :=
  List.dropWhile_cons_of_neg (by simp [h])

/-- A field with another one behind it is read. -/
theorem readFields_comma (read : List (String × Json)) (key s : String) (rest : List Char) :
    readFields (fuel + 2) depth read
        ((quoted key).toList ++ ':' :: ((quoted s).toList ++ ',' :: rest)) =
      readFields (fuel + 1) depth ((key, .string s) :: read) rest := by
  obtain ⟨cs, hcs, hread⟩ :=
    exists_readString_quoted key (':' :: ((quoted s).toList ++ ',' :: rest))
  rw [hcs, readFields, skipGap_cons rfl]
  simp only [hread, skipGap_cons (c := ':') rfl, skipGap_cons (c := ',') rfl, readValue_quoted]

/-- The last field is read, and closes the object. -/
theorem readFields_brace (read : List (String × Json)) (key s : String) (rest : List Char) :
    readFields (fuel + 2) depth read
        ((quoted key).toList ++ ':' :: ((quoted s).toList ++ '\x7d' :: rest)) =
      some (.object ((key, .string s) :: read).reverse, rest) := by
  obtain ⟨cs, hcs, hread⟩ :=
    exists_readString_quoted key (':' :: ((quoted s).toList ++ '\x7d' :: rest))
  rw [hcs, readFields, skipGap_cons rfl]
  simp only [hread, skipGap_cons (c := ':') rfl, skipGap_cons (c := '\x7d') rfl, readValue_quoted]

/-- The characters of the fields of an object of texts. -/
def fieldChars (double : UInt64 → String) (entries : List (String × String)) : List Char :=
  (String.intercalate "," (writeFields double (ofTexts entries))).toList

theorem fieldChars_singleton (double : UInt64 → String) (e : String × String)
    (rest : List Char) :
    fieldChars double [e] ++ rest =
      (quoted e.1).toList ++ ':' :: ((quoted e.2).toList ++ rest) := by
  have hcolon : ":".toList = [':'] := rfl
  have hwrite : writeFields double (ofTexts [e]) = [quoted e.1 ++ ":" ++ quoted e.2] := rfl
  rw [fieldChars, hwrite, String.intercalate_singleton]
  simp only [String.toList_append, hcolon, List.append_assoc, List.cons_append, List.nil_append]

theorem fieldChars_cons_cons (double : UInt64 → String) (e e' : String × String)
    (entries : List (String × String)) (rest : List Char) :
    fieldChars double (e :: e' :: entries) ++ rest =
      (quoted e.1).toList ++ ':' :: ((quoted e.2).toList ++
        ',' :: (fieldChars double (e' :: entries) ++ rest)) := by
  have hcolon : ":".toList = [':'] := rfl
  have hcomma : ",".toList = [','] := rfl
  have hwrite : writeFields double (ofTexts (e :: e' :: entries)) =
    (quoted e.1 ++ ":" ++ quoted e.2) :: (quoted e'.1 ++ ":" ++ quoted e'.2) ::
      writeFields double (ofTexts entries) := rfl
  rw [fieldChars, hwrite, String.intercalate_cons_cons]
  simp only [String.toList_append, hcolon, hcomma, List.append_assoc, List.singleton_append]
  rfl

/-- Fields begin with the quote of the first name. -/
theorem exists_fieldChars_cons (double : UInt64 → String) (e : String × String)
    (entries : List (String × String)) (rest : List Char) :
    ∃ cs, fieldChars double (e :: entries) ++ rest = '"' :: cs := by
  cases entries with
  | nil =>
    rw [fieldChars_singleton, toList_quoted]
    exact ⟨_, rfl⟩
  | cons e' entries =>
    rw [fieldChars_cons_cons, toList_quoted]
    exact ⟨_, rfl⟩

/-- **Fields that were written are read**, up to the brace that closes them. -/
theorem readFields_fieldChars (read : List (String × Json)) (e : String × String)
    (hfuel : entries.length + 1 < fuel) (rest : List Char) :
    readFields fuel depth read (fieldChars double (e :: entries) ++ '\x7d' :: rest) =
      some (.object (read.reverse ++ ofTexts (e :: entries)), rest) := by
  obtain ⟨fuel, rfl⟩ : ∃ n, fuel = n + 2 := ⟨fuel - 2, by omega⟩
  induction entries generalizing fuel read e with
  | nil =>
    rw [fieldChars_singleton, readFields_brace, List.reverse_cons]
    rfl
  | cons e' entries ih =>
    rw [List.length_cons] at hfuel
    obtain ⟨fuel, rfl⟩ : ∃ n, fuel = n + 1 := ⟨fuel - 1, by omega⟩
    rw [fieldChars_cons_cons, readFields_comma, ih _ _ _ (by omega), List.reverse_cons,
      List.append_assoc]
    rfl

/-! ## Objects -/

theorem toList_write_ofTexts (double : UInt64 → String) (entries : List (String × String)) :
    (write double (.object (ofTexts entries))).toList =
      '\x7b' :: (fieldChars double entries ++ ['\x7d']) := by
  unfold write
  rw [String.toList_append, String.toList_append]
  rfl

/-- Each field takes a character at least. -/
theorem length_le_fieldChars (double : UInt64 → String) (entries : List (String × String)) :
    entries.length ≤ (fieldChars double entries).length := by
  cases entries with
  | nil => exact Nat.zero_le _
  | cons e entries =>
    induction entries generalizing e with
    | nil =>
      have hchars := congrArg List.length (fieldChars_singleton double e [])
      simp only [List.append_nil, List.length_append, List.length_cons] at hchars
      simp only [List.length_cons, List.length_nil]
      omega
    | cons e' entries ih =>
      have hrest := ih e'
      have hchars := congrArg List.length (fieldChars_cons_cons double e e' entries [])
      simp only [List.append_nil, List.length_append, List.length_cons] at hchars hrest ⊢
      omega

/-- **An object of texts is read as it was written**: no name and no text comes back
as another, and none of them ends the one it stands in. -/
theorem read?_write_ofTexts (double : UInt64 → String) (entries : List (String × String)) :
    read? (write double (.object (ofTexts entries))).toList = some (.object (ofTexts entries)) := by
  rw [read?, toList_write_ofTexts]
  cases entries with
  | nil => rfl
  | cons e entries =>
    have hlength := length_le_fieldChars double (e :: entries)
    obtain ⟨cs, hcs⟩ := exists_fieldChars_cons double e entries ['\x7d']
    have hopen (fuel depth : Nat) : readValue (fuel + 1) (depth + 1) ('\x7b' :: '"' :: cs) =
      readFields fuel depth [] ('"' :: cs) := rfl
    have hfields : readValue (2 * ('\x7b' :: (fieldChars double (e :: entries) ++
        ['\x7d'])).length + 2) depthLimit ('\x7b' :: (fieldChars double (e :: entries) ++
        ['\x7d'])) = some (.object (ofTexts (e :: entries)), []) := by
      rw [hcs, depthLimit, hopen, ← hcs]
      refine readFields_fieldChars [] e ?_ []
      rw [List.length_cons] at hlength
      simp only [List.length_append, List.length_cons]
      omega
    rw [hfields]
    rfl

end NodeSidecar.Json
