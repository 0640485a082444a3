import Gatehouse.Proofs.Metrics.Name
import Gatehouse.Proofs.Number.Numeral

/-!
# The body of the exposition

Every line of the exposition is of one of four kinds, and has a name of metrics unless it is empty
(`Exposition.IsWritten`). None holds a line feed, whatever the labels and the name of the
application are : both are escaped, and the names of metrics and the numbers have none. So the lines
can be told from the body (`Registry.splitOn_render`). And none begins with a digit.
-/

namespace Gatehouse

/-! ## Numbers -/

namespace Notation

/-- Numbers and the words for what is no finite number stand on one line. -/
theorem line_feed_not_mem_plain (x : Binary64) : '\n' ∉ (plain x).toList := by
  intro h
  rcases mem_plain x with hword | hfigures
  · have hwords : ∀ w ∈ words, '\n' ∉ w.toList := by decide
    exact hwords _ hword h
  · exact absurd (hfigures _ h) (by decide)

end Notation

/-! ## Lines -/

namespace Exposition

/-- Whether a text is one line. -/
def IsLine (s : String) : Prop :=
  '\n' ∉ s.toList

instance (s : String) : Decidable (IsLine s) :=
  inferInstanceAs (Decidable (¬_))

theorem IsLine.append {s t : String} (hs : IsLine s) (ht : IsLine t) : IsLine (s ++ t) := by
  rw [IsLine, String.toList_append, List.mem_append, not_or]
  exact ⟨hs, ht⟩

theorem line_feed_not_mem_pending (pending : Bool) {text : List Char} (h : '\n' ∉ text) :
    '\n' ∉ (if pending = true then backslash else []) ++ text := by
  have hbackslash : '\n' ∉ if pending = true then backslash else [] := by
    cases pending <;> decide
  exact fun hmem => (List.mem_append.mp hmem).elim hbackslash h

/-- A line feed is escaped, whether or not a backslash stands before it. -/
theorem line_feed_not_mem_escapeFrom (quotes : Bool) : ∀ (pending : Bool) (text : List Char),
    '\n' ∉ escapeFrom quotes pending text
  | pending, [] => by
    rw [escapeFrom, ← List.append_nil (if pending = true then backslash else [])]
    exact line_feed_not_mem_pending pending List.not_mem_nil
  | pending, c :: rest => by
    have hrest (pending : Bool) := line_feed_not_mem_escapeFrom quotes pending rest
    have hcons {a : Char} {text : List Char} (ha : '\n' ≠ a) (h : '\n' ∉ text) : '\n' ∉ a :: text :=
      List.not_mem_cons_of_ne_of_not_mem ha h
    -- A line feed is written as two other characters, and nothing else becomes one.
    rw [escapeFrom]
    by_cases hfeed : c = '\n'
    · rw [if_pos hfeed]
      exact hcons (by decide) (hcons (by decide) (hrest pending))
    rw [if_neg hfeed]
    by_cases hquote : c = '"' ∧ quotes = true
    · rw [if_pos hquote]
      exact hcons (by decide) (hcons (by decide) (hrest false))
    rw [if_neg hquote]
    by_cases hslash : c = '\\'
    · rw [if_pos hslash]
      exact line_feed_not_mem_pending pending (hrest (!pending))
    · rw [if_neg hslash]
      exact line_feed_not_mem_pending pending (hcons (Ne.symm hfeed) (hrest false))

/-- Whatever a label has as its value, it stays on one line. -/
theorem isLine_labelValue (text : String) : IsLine (labelValue text) := by
  rw [IsLine, labelValue, String.toList_ofList]
  exact line_feed_not_mem_escapeFrom true false text.toList

/-- Whatever a description says, it stays on one line. -/
theorem isLine_help (text : String) : IsLine (help text) := by
  rw [IsLine, help, String.toList_ofList]
  exact line_feed_not_mem_escapeFrom false false text.toList

theorem IsMetricName.isLine {metric : String} (h : IsMetricName metric) : IsLine metric := by
  intro hmem
  cases h.isNameChar_of_mem _ hmem

theorem isLine_toString (n : Nat) : IsLine (toString n) := by
  intro h
  cases isDigit_of_mem_toString h

theorem isLine_label {key value : String} (hkey : IsLine key) (hvalue : IsLine value) :
    IsLine (label key value) :=
  ((hkey.append (by decide)).append hvalue).append (by decide)

/-- The three labels of a request stay on one line, whoever has sent it. -/
theorem isLine_of_mem_labels {l : Labels} {s : String} (h : s ∈ labels l) : IsLine s := by
  simp only [labels, List.mem_cons, List.not_mem_nil, or_false] at h
  rcases h with rfl | rfl | rfl
  · exact isLine_label (by decide) (isLine_labelValue _)
  · exact isLine_label (by decide) (isLine_labelValue _)
  · exact isLine_label (by decide) (isLine_labelValue _)

theorem isLine_intercalate : ∀ {parts : List String}, (∀ s ∈ parts, IsLine s) →
    IsLine (",".intercalate parts)
  | [], _ => by decide
  | [s], h => h s List.mem_cons_self
  | s :: t :: parts, h => by
    obtain ⟨hs, hparts⟩ := List.forall_mem_cons.mp h
    rw [IsLine, String.toList_intercalate, List.map_cons, List.map_cons,
      List.intercalate_cons_cons, ← List.map_cons, ← String.toList_intercalate,
      ← String.toList_append, ← String.toList_append]
    exact (hs.append (by decide)).append (isLine_intercalate hparts)

/-- A sample is one line if its parts are. -/
theorem isLine_sample {metric value : String} {parts : List String} (hmetric : IsLine metric)
    (hparts : ∀ s ∈ parts, IsLine s) (hvalue : IsLine value) :
    IsLine (sample metric parts value) := by
  have hlabels : IsLine
      (if parts.isEmpty then "" else "\x7b" ++ ",".intercalate parts ++ "\x7d") := by
    split_ifs
    · decide
    · exact (IsLine.append (by decide) (isLine_intercalate hparts)).append (by decide)
  exact ((hmetric.append hlabels).append (by decide)).append hvalue

/-- What a line of the exposition is. -/
inductive IsWritten : String → Prop
  | blank : IsWritten ""
  | help {metric : String} (h : IsMetricName metric) (description : String) :
    IsWritten ("# HELP " ++ metric ++ " " ++ Exposition.help description)
  | type {metric kind : String} (h : IsMetricName metric) (hkind : IsLine kind) :
    IsWritten ("# TYPE " ++ metric ++ " " ++ kind)
  | sample {metric value : String} {parts : List String} (h : IsMetricName metric)
    (hparts : ∀ s ∈ parts, IsLine s) (hvalue : IsLine value) :
    IsWritten (Exposition.sample metric parts value)

/-- What is written is one line. -/
theorem IsWritten.isLine {line : String} (h : IsWritten line) : IsLine line := by
  cases h with
  | blank => decide
  | help h description =>
    exact ((IsLine.append (by decide) h.isLine).append (by decide)).append (isLine_help _)
  | type h hkind => exact ((IsLine.append (by decide) h.isLine).append (by decide)).append hkind
  | sample h hparts hvalue => exact isLine_sample h.isLine hparts hvalue

theorem IsWritten.beginsWithDigit {line : String} (h : IsWritten line) :
    beginsWithDigit line = false := by
  cases h with
  | blank => decide
  | help h description =>
    rw [String.append_assoc, String.append_assoc, beginsWithDigit_append (by decide)]
    decide
  | type h hkind =>
    rw [String.append_assoc, String.append_assoc, beginsWithDigit_append (by decide)]
    decide
  | sample h hparts hvalue =>
    rw [Exposition.sample, String.append_assoc, String.append_assoc,
      beginsWithDigit_append h.ne_empty]
    exact Bool.eq_false_iff.mpr fun hdigit => not_isMetricName hdigit h

variable {metric line : String} {parts : List String}

theorem isWritten_of_mem_block {kind description : String} {samples : List String}
    (hmetric : IsMetricName metric) (hkind : IsLine kind) (hsamples : ∀ s ∈ samples, IsWritten s)
    (h : line ∈ block metric kind description samples) : IsWritten line := by
  rw [block] at h
  split_ifs at h
  · cases h
  simp only [List.cons_append, List.nil_append, List.mem_cons, List.mem_append, List.not_mem_nil,
    or_false] at h
  rcases h with rfl | rfl | h | rfl
  · exact .help hmetric description
  · exact .type hmetric hkind
  · exact hsamples _ h
  · exact .blank

theorem isWritten_of_mem_counter {description : String} {count : Nat} (hmetric : metric ≠ "")
    (h : line ∈ counter metric description count) : IsWritten line := by
  have hname := isMetricName_name hmetric
  refine isWritten_of_mem_block hname (by decide) (fun s hs => ?_) h
  split_ifs at hs
  · cases hs
  · obtain rfl := List.mem_singleton.mp hs
    exact .sample hname (fun _ h => absurd h List.not_mem_nil) (isLine_toString count)

theorem isWritten_of_mem_totals {s : Summary} (hmetric : IsMetricName metric)
    (hparts : ∀ s ∈ parts, IsLine s) (h : line ∈ totals metric parts s) : IsWritten line := by
  rw [totals, List.mem_pair] at h
  rcases h with rfl | rfl
  · exact .sample (hmetric.append (by decide)) hparts (Notation.line_feed_not_mem_plain _)
  · exact .sample (hmetric.append (by decide)) hparts (isLine_toString _)

theorem isWritten_of_mem_buckets {x : Histogram} (hmetric : IsMetricName metric)
    (hparts : ∀ s ∈ parts, IsLine s) (h : line ∈ buckets metric parts x) : IsWritten line := by
  have hbucket {bound n : String} (hbound : IsLine bound) (hn : IsLine n) :
      IsWritten (sample (metric ++ "_bucket") (parts ++ [label "le" bound]) n) := by
    refine .sample (hmetric.append (by decide)) (fun s hs => ?_) hn
    rcases List.mem_append.mp hs with hs | hs
    · exact hparts s hs
    · obtain rfl := List.mem_singleton.mp hs
      exact isLine_label (by decide) hbound
  rw [buckets, List.mem_append, List.mem_singleton] at h
  rcases h with h | rfl
  · obtain ⟨bound, n, rfl⟩ := exists_of_mem_zipWith h
    exact hbucket (Notation.line_feed_not_mem_plain bound) (isLine_toString n)
  · exact hbucket (by decide) (isLine_toString _)

theorem isWritten_of_mem_summary {description : String} {family : Family Summary}
    (hmetric : IsMetricName metric) (h : line ∈ summary metric description family) :
    IsWritten line := by
  refine isWritten_of_mem_block hmetric (by decide) (fun s hs => ?_) h
  obtain ⟨series, -, hs⟩ := List.mem_flatMap.mp hs
  exact isWritten_of_mem_totals hmetric (fun _ => isLine_of_mem_labels) hs

theorem isWritten_of_mem_histogram {description : String} {family : Family Histogram}
    (hmetric : IsMetricName metric) (h : line ∈ histogram metric description family) :
    IsWritten line := by
  refine isWritten_of_mem_block hmetric (by decide) (fun s hs => ?_) h
  obtain ⟨series, -, hs⟩ := List.mem_flatMap.mp hs
  rcases List.mem_append.mp hs with hs | hs
  · exact isWritten_of_mem_buckets hmetric (fun _ => isLine_of_mem_labels) hs
  · exact isWritten_of_mem_totals hmetric (fun _ => isLine_of_mem_labels) hs

end Exposition

/-! ## The body -/

namespace Registry

open Exposition

variable {r : Registry}

/-- Every line of an exposition is a sample, a comment, or empty. -/
theorem isWritten_of_mem_lines {line : String} (h : line ∈ r.lines) : IsWritten line := by
  have hcounter : ∀ suffix : String, suffix ≠ "" → stem r.app ++ suffix ≠ "" :=
    fun suffix hne hempty => hne (String.append_eq_empty_iff.mp hempty).2
  simp only [lines, List.mem_append] at h
  rcases h with ((((h | h) | h) | h) | h) | h
  · refine isWritten_of_mem_block (by decide) (by decide) (fun s hs => ?_) h
    obtain ⟨series, -, rfl⟩ := List.mem_map.mp hs
    exact .sample (by decide) (fun _ => isLine_of_mem_labels) (isLine_toString _)
  · exact isWritten_of_mem_counter (hcounter _ (by decide)) h
  · exact isWritten_of_mem_counter (hcounter _ (by decide)) h
  · exact isWritten_of_mem_histogram (by decide) h
  · exact isWritten_of_mem_summary (by decide) h
  · exact isWritten_of_mem_summary (by decide) h

/-- Lines that are written one after another are divided again at their ends. -/
theorem splitOn_flatMap : ∀ {lines : List String}, (∀ line ∈ lines, IsLine line) →
    (lines.flatMap fun line => line.toList ++ ['\n']).splitOn '\n' =
      lines.map String.toList ++ [[]]
  | [], _ => rfl
  | line :: lines, h => by
    obtain ⟨hline, hlines⟩ := List.forall_mem_cons.mp h
    have hsplit : line.toList.splitOnP (· == '\n') = [line.toList] :=
      List.splitOnP_eq_singleton fun c hc => beq_false_of_ne fun heq => hline (heq ▸ hc)
    have hrest := splitOn_flatMap hlines
    rw [List.splitOn] at hrest ⊢
    rw [List.flatMap_cons, List.append_assoc, List.singleton_append,
      List.splitOnP_append_cons (p := (· == '\n')) _ _ (beq_self_eq_true _), hsplit, hrest]
    rfl

/-- The body is split into the lines at its line feeds. -/
theorem splitOn_render (r : Registry) :
    r.render.toList.splitOn '\n' = r.lines.map String.toList ++ [[]] := by
  have hrender : r.render.toList = r.lines.flatMap fun line => line.toList ++ ['\n'] := by
    rw [render, String.toList_join, List.flatMap_map]
    simp only [String.toList_append]
    rfl
  rw [hrender]
  exact splitOn_flatMap fun _ hline => (isWritten_of_mem_lines hline).isLine

/-- A text that is not empty is a line of the body exactly if it has been written. -/
theorem mem_splitOn_render_iff {line : String} (h : line ≠ "") :
    line.toList ∈ r.render.toList.splitOn '\n' ↔ line ∈ r.lines := by
  rw [splitOn_render, List.mem_append, List.mem_singleton,
    or_iff_left (mt String.toList_eq_nil_iff.mp h)]
  exact List.mem_map_of_injective fun _ _ => String.toList_inj.mp

/-- A series has its line in the body exactly if it has been written. -/
theorem mem_splitOn_render {series : Labels × Nat} :
    (requestLine series).toList ∈ r.render.toList.splitOn '\n' ↔ requestLine series ∈ r.lines := by
  refine mem_splitOn_render_iff fun hempty => ?_
  have hchars := toList_requestLine series.1 series.2
  rw [hempty] at hchars
  exact List.append_ne_nil_of_left_ne_nil (by decide) _ hchars.symm

end Registry

end Gatehouse
