import Mathlib.Data.Multiset.Bind
import NodeSidecar.Fleet.Metrics
import NodeSidecar.Proofs.Node.Counting
import NodeSidecar.Proofs.Text.Cutting
import NodeSidecar.Proofs.Text.Decimal
/-!
# Fleet — the text of what is exposed

The text line for line: each family has a line on what it means, one on its kind
and one for each node (`lines_text`). A line that tells a value tells of which
family and of which node it is (`line_eq_line_iff`), so what a text shows can be
read off it (`Shows`), and the text of samples shows what `shown` lists of each
sample, and nothing else (`shows_text_iff`, `perm_rowsOf_text`).
-/

namespace NodeSidecar.Metrics

/-- The line that tells the value of a node in the family of this name. -/
def line (name : String) (id value : Nat) : String :=
  "cassandra_sidecar_" ++ name ++ "\x7binstance=\"" ++ toString id ++ "\"\x7d " ++ toString value

/-- The rows of a text are its lines without the empty ones and the comments. -/
def rowsOf (text : String) : List String :=
  ((Text.pieces '\n' text.toList).map String.ofList).filter (·.toList.head?.any (· != '#'))

/-- The lines of a family: what it means, its kind, and a line for each node. -/
def Family.lines (f : Family) (samples : Metrics) : List String :=
  ("# HELP cassandra_sidecar_" ++ f.name ++ " " ++ f.help) ::
    ("# TYPE cassandra_sidecar_" ++ f.name ++ " " ++ f.kind) ::
      samples.map fun s => line f.name s.id (f.value s)

/-- A row of the text tells this value of this node. -/
def Shows (text name : String) (id value : Nat) : Prop :=
  line name id value ∈ rowsOf text

/-- What is to be told of a node that is up or not and has these counts: the names of
the families, and the value in each. -/
def shown (up : Bool) (counts : Counts) : List (String × Nat) :=
  [("adapter_swaps_total", counts.swaps), ("instance_up", if up then 1 else 0),
    ("probe_failures_total", counts.failures), ("probes_skipped_total", counts.skipped),
    ("probes_total", counts.probes)]

variable {metrics samples : Metrics} {f : Family} {s : Sample} {name name' : String}
  {id id' value value' : Nat}

/-! ## One line -/

theorem toList_line : (line name id value).toList = "cassandra_sidecar_".toList ++
    (name.toList ++ '\x7b' :: ("instance=\"".toList ++
      (Text.decimal id ++ '"' :: ("\x7d ".toList ++ Text.decimal value)))) := by
  have hdecimal (n : Nat) : toString n = String.ofList (Text.decimal n) := rfl
  have hlabel : "\x7binstance=\"".toList = '\x7b' :: "instance=\"".toList := by decide
  have hend : "\"\x7d ".toList = '"' :: "\x7d ".toList := by decide
  unfold line
  simp only [String.toList_append, hdecimal, String.toList_ofList, hlabel, hend,
    List.append_assoc, List.cons_append]

theorem notMem_decimal {c : Char} (h : c.isDigit = false) (n : Nat) : c ∉ Text.decimal n := by
  intro hc
  have hdigit := (Text.isDigits_iff.1 (Text.isDigits_decimal n)).2 c hc
  rw [h] at hdigit
  cases hdigit

/-- **A line is of one family and one node, and tells one value**, if the name has no
bracket in it. -/
theorem line_eq_line_iff (h : '\x7b' ∉ name.toList) :
    line name id value = line name' id' value' ↔ name = name' ∧ id = id' ∧ value = value' := by
  have hdecimal {m n : Nat} (h : Text.decimal m = Text.decimal n) : m = n := by
    rw [← Text.digitsValue_decimal m, h, Text.digitsValue_decimal]
  constructor
  · intro heq
    have hchars := congrArg String.toList heq
    rw [toList_line, toList_line, List.append_cancel_left_eq] at hchars
    obtain ⟨hname, -, hrest⟩ :=
      (List.append_cons_inj_of_notMem h (by simp [notMem_decimal])).1 hchars
    rw [List.append_cancel_left_eq] at hrest
    obtain ⟨hid, -, hvalue⟩ := (List.append_cons_inj_of_notMem (notMem_decimal rfl _)
      (by simp [notMem_decimal])).1 hrest
    rw [List.append_cancel_left_eq] at hvalue
    exact ⟨String.toList_inj.1 hname, hdecimal hid, hdecimal hvalue⟩
  · rintro ⟨rfl, rfl, rfl⟩
    rfl

/-! ## All lines -/

theorem toList_familyText (f : Family) (samples : Metrics) :
    (f.text samples).toList = (f.lines samples).flatMap (·.toList ++ ['\n']) := by
  have hhelp : "# HELP cassandra_sidecar_".toList =
      "# HELP ".toList ++ "cassandra_sidecar_".toList := by decide
  have hkind : "# TYPE cassandra_sidecar_".toList =
      "# TYPE ".toList ++ "cassandra_sidecar_".toList := by decide
  have hnewline : "\n".toList = ['\n'] := by decide
  have hrow : (fun s => (f.row s).toList) =
      fun s => (line f.name s.id (f.value s)).toList ++ ['\n'] :=
    funext fun s => String.toList_append
  unfold Family.text
  simp only [Family.lines, List.flatMap_cons, List.flatMap_map, String.toList_append,
    String.toList_join, hhelp, hkind, hnewline, hrow, List.append_assoc]

/-- No line is broken in two. -/
theorem newline_notMem (hf : f ∈ families) {l : String} (hl : l ∈ f.lines samples) :
    '\n' ∉ l.toList := by
  have hplain : ∀ f ∈ families,
      '\n' ∉ f.name.toList ∧ '\n' ∉ f.help.toList ∧ '\n' ∉ f.kind.toList := by
    decide
  obtain ⟨hname, hhelp, hkind⟩ := hplain f hf
  rcases List.mem_cons.1 hl with rfl | hl
  · simp [hname, hhelp]
  · rcases List.mem_cons.1 hl with rfl | hl
    · simp [hname, hkind]
    · obtain ⟨s, -, rfl⟩ := List.mem_map.1 hl
      simp [toList_line, hname, notMem_decimal]

/-- **The text, line for line.** -/
theorem lines_text (h : metrics ≠ []) :
    (Text.pieces '\n' metrics.text.toList).map String.ofList =
      families.flatMap (·.lines metrics.sorted) ++ [""] := by
  have htext : metrics.text.toList =
      ((families.flatMap (·.lines metrics.sorted)).map String.toList).flatMap (· ++ ['\n']) := by
    rw [text, if_neg (by simpa using h), String.toList_join, List.flatMap_map, List.flatMap_map,
      List.flatMap_assoc]
    exact List.flatMap_congr fun f _ => toList_familyText f metrics.sorted
  have hfree : ∀ l ∈ (families.flatMap (·.lines metrics.sorted)).map String.toList, '\n' ∉ l := by
    intro chars hchars
    obtain ⟨l, hl, rfl⟩ := List.mem_map.1 hchars
    obtain ⟨f, hf, hl⟩ := List.mem_flatMap.1 hl
    exact newline_notMem hf hl
  rw [htext, Text.pieces_flatMap_concat hfree, List.map_append, List.map_map]
  simp [Function.comp_def]

/-- **The rows of the text**, one for each family and node, and no other. -/
theorem rowsOf_text (metrics : Metrics) : rowsOf metrics.text =
    families.flatMap fun f => metrics.sorted.map fun s => line f.name s.id (f.value s) := by
  by_cases h : metrics = []
  · subst h
    simp [rowsOf, text, sorted]
  · have hrow (s : Sample) (f : Family) :
        (line f.name s.id (f.value s)).toList.head?.any (· != '#') = true := by
      simp [toList_line]
    rw [rowsOf, lines_text h, List.filter_append, List.filter_flatMap]
    simp [Family.lines, List.filter_map, Function.comp_def, hrow]

/-! ## What is shown -/

/-- **Each sample is told of in its five rows**, and there is no other row. -/
theorem perm_rowsOf_text (metrics : Metrics) : (rowsOf metrics.text).Perm
    (metrics.flatMap fun s => (shown s.up s.counts).map fun p => line p.1 s.id p.2) := by
  -- By nodes and not by families.
  have hswap : (families.flatMap fun f =>
        metrics.sorted.map fun s => line f.name s.id (f.value s)).Perm
      (metrics.sorted.flatMap fun s => families.map fun f => line f.name s.id (f.value s)) := by
    rw [← Multiset.coe_eq_coe, ← Multiset.coe_bind, ← Multiset.coe_bind]
    exact Multiset.bind_map_comm (families : Multiset Family) (metrics.sorted : Multiset Sample)
  rw [rowsOf_text]
  exact hswap.trans ((List.mergeSort_perm metrics _).flatMap fun s _ => .refl _)

theorem bracket_notMem {up : Bool} {counts : Counts} (h : (name, value) ∈ shown up counts) :
    '\x7b' ∉ name.toList := by
  simp only [shown, List.mem_cons, Prod.mk.injEq, List.not_mem_nil, or_false] at h
  rcases h with ⟨rfl, -⟩ | ⟨rfl, -⟩ | ⟨rfl, -⟩ | ⟨rfl, -⟩ | ⟨rfl, -⟩ <;> decide

/-- **A text shows what is told of its samples**, and nothing else. -/
theorem shows_text_iff : Shows metrics.text name id value ↔
    ∃ s ∈ metrics, s.id = id ∧ (name, value) ∈ shown s.up s.counts := by
  rw [Shows, (perm_rowsOf_text metrics).mem_iff, List.mem_flatMap]
  constructor
  · rintro ⟨s, hs, hrow⟩
    obtain ⟨⟨n, v⟩, hp, hline⟩ := List.mem_map.1 hrow
    obtain ⟨rfl, rfl, rfl⟩ := (line_eq_line_iff (bracket_notMem hp)).1 hline
    exact ⟨s, hs, rfl, hp⟩
  · rintro ⟨s, hs, rfl, hp⟩
    exact ⟨s, hs, List.mem_map.2 ⟨(name, value), hp, rfl⟩⟩

/-- Where no node has two samples, a text shows of a node what is told of its sample. -/
theorem shows_iff_of_mem (hn : (metrics.map (·.id)).Nodup) (hs : s ∈ metrics) :
    Shows metrics.text name s.id value ↔ (name, value) ∈ shown s.up s.counts := by
  rw [shows_text_iff]
  constructor
  · rintro ⟨s', hs', hid, hp⟩
    obtain rfl := List.inj_on_of_nodup_map hn hs' hs hid
    exact hp
  · intro hp
    exact ⟨s, hs, rfl, hp⟩

/-- With higher counts, a counter has one value that is as high at least. -/
theorem exists_shown_of_atMost {up up' : Bool} {a b : Counts} (h : a.AtMost b)
    (hp : (name, value) ∈ shown up a) (hname : name ≠ "instance_up") :
    ∃ value', value ≤ value' ∧ ∀ v, (name, v) ∈ shown up' b ↔ v = value' := by
  simp only [shown, List.mem_cons, Prod.mk.injEq, List.not_mem_nil, or_false] at hp
  rcases hp with ⟨rfl, rfl⟩ | ⟨rfl, -⟩ | ⟨rfl, rfl⟩ | ⟨rfl, rfl⟩ | ⟨rfl, rfl⟩
  · exact ⟨b.swaps, h.swaps, fun v => by simp [shown]⟩
  · exact absurd rfl hname
  · exact ⟨b.failures, h.failures, fun v => by simp [shown]⟩
  · exact ⟨b.skipped, h.skipped, fun v => by simp [shown]⟩
  · exact ⟨b.probes, h.probes, fun v => by simp [shown]⟩

end NodeSidecar.Metrics
