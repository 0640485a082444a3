import Gatehouse.Proofs.Json.Lexeme
import Gatehouse.Proofs.Metrics.Registry

/-!
# The lines of a registry

The lines of the exposition that begin with the name of the counter of requests and its labels are
those of its series, in order (`Registry.filter_lines`). A label without a backslash, a quote or a
line feed is written as it is and ends at the first quote (`Exposition.escape_split`). So the line
of such a series is the line of no other (`Exposition.requestLine_inj`), and the exposition has it
exactly if the series has that number (`Registry.Counts.mem_lines`).
-/

namespace Gatehouse

namespace Exposition

/-- Whether a character is written as it is. -/
def isPlain (c : Char) : Bool :=
  c != '\\' && c != '"' && c != '\n'

/-- Whether a text is. -/
def IsPlain (text : String) : Prop :=
  ∀ c ∈ text.toList, isPlain c = true

theorem escapeFrom_cons {c : Char} (h : isPlain c = true) (rest : List Char) :
    escapeFrom true false (c :: rest) = c :: escapeFrom true false rest := by
  simp only [isPlain, Bool.and_eq_true, bne_iff_ne] at h
  obtain ⟨⟨hslash, hquote⟩, hfeed⟩ := h
  rw [escapeFrom, if_neg hfeed, if_neg (fun hq => hquote hq.1), if_neg hslash]
  rfl

theorem escapeFrom_of_isPlain : ∀ {text : List Char}, (∀ c ∈ text, isPlain c = true) →
    escapeFrom true false text = text
  | [], _ => rfl
  | c :: text, h => by
    obtain ⟨hc, htext⟩ := List.forall_mem_cons.mp h
    rw [escapeFrom_cons hc, escapeFrom_of_isPlain htext]

/-- Behind a backslash that is still to be written, a backslash comes first. -/
theorem escapeFrom_pending (text : List Char) :
    ∃ rest, escapeFrom true true text = '\\' :: rest := by
  cases text with
  | nil => exact ⟨_, rfl⟩
  | cons c text =>
    simp only [escapeFrom, if_true]
    split_ifs
    · exact ⟨_, rfl⟩
    · exact ⟨_, rfl⟩
    · exact ⟨_, rfl⟩
    · exact ⟨_, rfl⟩

/-- A character that is not written as it is is written with a backslash first. -/
theorem escapeFrom_cons_of_not {c : Char} (h : isPlain c = false) (text : List Char) :
    ∃ rest, escapeFrom true false (c :: text) = '\\' :: rest := by
  simp only [escapeFrom, and_true, Bool.false_eq_true, if_false]
  split_ifs with hfeed hquote hslash
  · exact ⟨_, rfl⟩
  · exact ⟨_, rfl⟩
  · exact escapeFrom_pending text
  · have hplain : isPlain c = true := by simp [isPlain, hfeed, hquote, hslash]
    cases hplain.symm.trans h

/-- The characters of a value in quotes, without the first quote, and what follows. -/
def valueChars (text : String) (rest : List Char) : List Char :=
  escapeFrom true false text.toList ++ '"' :: rest

/-- A plain text in front of a quote is told from every other text that is escaped. -/
theorem escape_split : ∀ {text other s t : List Char}, (∀ c ∈ text, isPlain c = true) →
    text ++ '"' :: s = escapeFrom true false other ++ '"' :: t → text = other ∧ s = t
  | [], [], s, t, _, h => ⟨rfl, (List.cons.inj h).2⟩
  | [], c :: other, s, t, _, h => by
    cases hc : isPlain c with
    | true =>
      rw [escapeFrom_cons hc] at h
      obtain ⟨rfl, -⟩ := List.cons.inj h
      cases hc
    | false =>
      obtain ⟨rest, hrest⟩ := escapeFrom_cons_of_not hc other
      rw [hrest] at h
      cases (List.cons.inj h).1
  | c :: text, [], s, t, hplain, h => by
    obtain ⟨rfl, -⟩ := List.cons.inj h
    cases hplain '"' List.mem_cons_self
  | c :: text, d :: other, s, t, hplain, h => by
    obtain ⟨hc, htext⟩ := List.forall_mem_cons.mp hplain
    cases hd : isPlain d with
    | true =>
      rw [escapeFrom_cons hd] at h
      obtain ⟨rfl, hrest⟩ := List.cons.inj h
      obtain ⟨rfl, rfl⟩ := escape_split htext hrest
      exact ⟨rfl, rfl⟩
    | false =>
      obtain ⟨rest, hrest⟩ := escapeFrom_cons_of_not hd other
      rw [hrest] at h
      obtain ⟨rfl, -⟩ := List.cons.inj h
      cases hc

/-- A plain value ends at its first quotation mark, and so does what is read of it. -/
theorem valueChars_inj {text other : String} {s t : List Char} (h : IsPlain text)
    (heq : valueChars text s = valueChars other t) : text = other ∧ s = t := by
  rw [valueChars, valueChars, escapeFrom_of_isPlain h] at heq
  obtain ⟨htext, hrest⟩ := escape_split h heq
  exact ⟨String.toList_inj.mp htext, hrest⟩

/-! ## The lines of the counter of requests -/

/-- What the lines of the counter of requests begin with. -/
def requestHead : List Char :=
  "http_requests_total\x7b".toList

/-- Whether a line is one of the counter of requests. -/
def isRequestLine (line : String) : Bool :=
  requestHead.isPrefixOf line.toList

/-- The lines of help and of types begin with a hash. -/
theorem isRequestLine_append {s : String} (h : s.toList.head? = some '#') (t : String) :
    isRequestLine (s ++ t) = false := by
  have hhead : requestHead = 'h' :: "ttp_requests_total\x7b".toList := by decide
  obtain ⟨rest, hrest⟩ := List.head?_eq_some_iff.mp h
  rw [isRequestLine, ← Bool.not_eq_true, List.isPrefixOf_iff_prefix, hhead, String.toList_append,
    hrest, List.cons_append, List.cons_prefix_cons]
  rintro ⟨hchar, -⟩
  cases hchar

/-- A line with no brace counts no requests. -/
theorem isRequestLine_of_not_mem {line : String} (h : '\x7b' ∉ line.toList) :
    isRequestLine line = false := by
  rw [isRequestLine, ← Bool.not_eq_true, List.isPrefixOf_iff_prefix]
  exact fun hhead => h (hhead.subset (by decide))

/-- Whether the name of a metric is another one from the start. -/
def IsOther (metric : String) : Prop :=
  13 ≤ metric.toList.length ∧ metric.toList.take 13 ≠ requestHead.take 13

instance (metric : String) : Decidable (IsOther metric) :=
  inferInstanceAs (Decidable (_ ∧ _))

/-- A sample of another family does not begin like one of requests. -/
theorem isRequestLine_sample {metric : String} (h : IsOther metric) (suffix : String)
    (l : List String) (value : String) :
    isRequestLine (sample (metric ++ suffix) l value) = false := by
  rw [isRequestLine, ← Bool.not_eq_true, List.isPrefixOf_iff_prefix]
  rintro ⟨rest, hrest⟩
  have htake := congrArg (List.take 13) hrest
  rw [sample, String.append_assoc, String.append_assoc, String.append_assoc, String.toList_append,
    List.take_append_of_le_length (by decide), List.take_append_of_le_length h.1] at htake
  exact h.2 htake.symm

/-- Of the lines of a metric only those of its samples can be lines of the counter of requests. -/
theorem filter_block (metric kind description : String) (samples : List String) :
    (block metric kind description samples).filter isRequestLine =
      samples.filter isRequestLine := by
  rw [block]
  split_ifs with hempty
  · rw [List.isEmpty_iff.mp hempty]
  · have hhelp : isRequestLine ("# HELP " ++ metric ++ " " ++ help description) = false := by
      rw [String.append_assoc, String.append_assoc]
      exact isRequestLine_append (by decide) _
    have htype : isRequestLine ("# TYPE " ++ metric ++ " " ++ kind) = false := by
      rw [String.append_assoc, String.append_assoc]
      exact isRequestLine_append (by decide) _
    have hblank : isRequestLine "" = false := by decide
    simp [hhelp, htype, hblank]

/-- The name of a metric holds no character but those that names are made of. -/
theorem not_mem_name {d : Char} (hd : (isNameStart d || d.isDigit) = false) (hunderscore : d ≠ '_')
    (text : String) : d ∉ (name text).toList := by
  obtain ⟨hstart, -⟩ := Bool.or_eq_false_iff.mp hd
  have hother : ∀ c : Char, (if isNameStart c || c.isDigit then c else '_') ≠ d := by
    intro c
    split_ifs with hc
    · rintro rfl
      cases hc.symm.trans hd
    · exact hunderscore.symm
  have hfirst : ∀ c : Char, (if isNameStart c then c else '_') ≠ d := by
    intro c
    split_ifs with hc
    · rintro rfl
      cases hc.symm.trans hstart
    · exact hunderscore.symm
  rw [name]
  split
  · exact List.not_mem_nil
  next c rest htext =>
    rw [String.toList_ofList]
    intro hmem
    rcases List.mem_cons.mp hmem with h | h
    · exact hfirst c h.symm
    · obtain ⟨x, -, hx⟩ := List.mem_map.mp h
      exact hother x hx

theorem isDigit_of_mem_toString {n : Nat} {c : Char} (h : c ∈ (toString n).toList) :
    c.isDigit = true := by
  rw [Nat.toString_eq_repr, Nat.toList_repr] at h
  exact Nat.isDigit_of_mem_toDigits (by decide) (by decide) h

theorem filter_counter (metric description : String) (count : Nat) :
    (counter metric description count).filter isRequestLine = [] := by
  rw [counter, filter_block]
  split_ifs
  · rfl
  · have hline : isRequestLine (sample (name metric) [] (toString count)) = false := by
      refine isRequestLine_of_not_mem fun hmem => ?_
      have hline : sample (name metric) [] (toString count) =
          name metric ++ "" ++ " " ++ toString count := rfl
      rw [hline, String.append_empty, String.toList_append, String.toList_append] at hmem
      rcases List.mem_append.mp hmem with hmem | hmem
      · rcases List.mem_append.mp hmem with hmem | hmem
        · exact not_mem_name (by decide) (by decide) metric hmem
        · exact absurd hmem (by decide)
      · cases isDigit_of_mem_toString hmem
    rw [List.filter_singleton, hline]
    rfl

theorem not_isRequestLine_of_mem_totals {metric line : String} (h : IsOther metric)
    {l : List String} {s : Summary}
    (hline : line ∈ totals metric l s) : ¬isRequestLine line = true := by
  rw [totals, List.mem_pair] at hline
  rcases hline with rfl | rfl
  · rw [isRequestLine_sample h]
    exact Bool.false_ne_true
  · rw [isRequestLine_sample h]
    exact Bool.false_ne_true

theorem exists_of_mem_zipWith {α β γ : Type} {f : α → β → γ} {x : γ} :
    ∀ {as : List α} {bs : List β}, x ∈ List.zipWith f as bs → ∃ a b, x = f a b
  | a :: as, b :: bs, h => by
    rw [List.zipWith_cons_cons] at h
    rcases List.mem_cons.mp h with rfl | h
    · exact ⟨a, b, rfl⟩
    · exact exists_of_mem_zipWith h

theorem not_isRequestLine_of_mem_buckets {metric line : String} (h : IsOther metric)
    {l : List String} {x : Histogram}
    (hline : line ∈ buckets metric l x) : ¬isRequestLine line = true := by
  rw [buckets, List.mem_append, List.mem_singleton] at hline
  rcases hline with hline | rfl
  · obtain ⟨bound, n, rfl⟩ := exists_of_mem_zipWith hline
    rw [isRequestLine_sample h]
    exact Bool.false_ne_true
  · rw [isRequestLine_sample h]
    exact Bool.false_ne_true

theorem filter_summary {metric : String} (h : IsOther metric)
    (description : String) (family : Family Summary) :
    (summary metric description family).filter isRequestLine = [] := by
  rw [summary, filter_block, List.filter_eq_nil_iff]
  intro line hline
  obtain ⟨series, -, hline⟩ := List.mem_flatMap.mp hline
  exact not_isRequestLine_of_mem_totals h hline

theorem filter_histogram {metric : String} (h : IsOther metric)
    (description : String) (family : Family Histogram) :
    (histogram metric description family).filter isRequestLine = [] := by
  rw [histogram, filter_block, List.filter_eq_nil_iff]
  intro line hline
  obtain ⟨series, -, hline⟩ := List.mem_flatMap.mp hline
  rcases List.mem_append.mp hline with hline | hline
  · exact not_isRequestLine_of_mem_buckets h hline
  · exact not_isRequestLine_of_mem_totals h hline

/-- The line of a series of the counter of requests. -/
def requestLine (series : Labels × Nat) : String :=
  sample "http_requests_total" (labels series.1) (toString series.2)

theorem sample_three (metric s t u value : String) :
    sample metric [s, t, u] value =
      metric ++ ("\x7b" ++ (s ++ "," ++ t ++ "," ++ u) ++ "\x7d") ++ " " ++ value :=
  rfl

theorem valueChars_append (text : String) (s t : List Char) :
    valueChars text s ++ t = valueChars text (s ++ t) :=
  List.append_assoc _ _ _

theorem toList_label (key value : String) :
    (label key (labelValue value)).toList = key.toList ++ ('=' :: '"' :: valueChars value []) := by
  have hquote : "\"".toList = ['"'] := by decide
  rw [label, labelValue, valueChars, String.toList_append, String.toList_append,
    String.toList_append, String.toList_ofList, String.toList_ofList, hquote]
  simp only [List.append_assoc, List.cons_append, List.nil_append]

/-- The characters of the line : the values of three labels, and the number. -/
theorem toList_requestLine (l : Labels) (n : Nat) :
    (requestLine (l, n)).toList = requestHead ++ ("method=\"".toList ++
      valueChars l.method (",handler=\"".toList ++ valueChars l.handler (",code=\"".toList ++
        valueChars (toString l.status) ("\x7d ".toList ++ (toString n).toList)))) := by
  have hhead : requestHead = "http_requests_total".toList ++ "\x7b".toList := by decide
  have hmethod : "method=\"".toList = "method".toList ++ ['=', '"'] := by decide
  have hhandler : ",handler=\"".toList = ",".toList ++ ("handler".toList ++ ['=', '"']) := by decide
  have hcode : ",code=\"".toList = ",".toList ++ ("code".toList ++ ['=', '"']) := by decide
  have hend : "\x7d ".toList = "\x7d".toList ++ " ".toList := by decide
  rw [requestLine, labels, sample_three, hhead, hmethod, hhandler, hcode, hend]
  simp only [String.toList_append, toList_label, valueChars_append, List.append_assoc,
    List.cons_append, List.nil_append]

example : requestLine (⟨"GET", "/time", 200⟩, 3) =
    "http_requests_total\x7bmethod=\"GET\",handler=\"/time\",code=\"200\"\x7d 3" := by
  decide +kernel

theorem isRequestLine_requestLine (series : Labels × Nat) :
    isRequestLine (requestLine series) = true := by
  rw [isRequestLine, List.isPrefixOf_iff_prefix, toList_requestLine series.1 series.2]
  exact List.prefix_append _ _

theorem isPlain_of_isDigit {c : Char} (h : c.isDigit = true) : isPlain c = true := by
  simp only [isPlain, Bool.and_eq_true, bne_iff_ne]
  refine ⟨⟨?_, ?_⟩, ?_⟩ <;>
  · rintro rfl
    cases h

theorem isPlain_toString (n : Nat) : IsPlain (toString n) :=
  fun _ hc => isPlain_of_isDigit (isDigit_of_mem_toString hc)

theorem toString_inj {m n : Nat} (h : toString m = toString n) : m = n := by
  have hdigits := congrArg String.toList h
  rw [Nat.toString_eq_repr, Nat.toString_eq_repr, Nat.toList_repr, Nat.toList_repr] at hdigits
  rw [← Json.ofDigits_toDigits m, hdigits, Json.ofDigits_toDigits]

/-- The line of a series whose labels are plain is the line of no other. -/
theorem requestLine_inj {l k : Labels} {m n : Nat} (hmethod : IsPlain l.method)
    (hhandler : IsPlain l.handler) (h : requestLine (l, m) = requestLine (k, n)) :
    l = k ∧ m = n := by
  have hchars := congrArg String.toList h
  rw [toList_requestLine, toList_requestLine] at hchars
  obtain ⟨hmethods, hchars⟩ := valueChars_inj hmethod
    (List.append_cancel_left (List.append_cancel_left hchars))
  obtain ⟨hhandlers, hchars⟩ := valueChars_inj hhandler (List.append_cancel_left hchars)
  obtain ⟨hstatus, hchars⟩ := valueChars_inj (isPlain_toString _) (List.append_cancel_left hchars)
  refine ⟨?_, toString_inj (String.toList_inj.mp (List.append_cancel_left hchars))⟩
  cases l
  cases k
  rw [Labels.mk.injEq]
  exact ⟨hmethods, hhandlers, toString_inj hstatus⟩

end Exposition

namespace Registry

open Exposition

/-- The lines of the counter of requests are those of its series, in order. -/
theorem filter_lines (r : Registry) :
    r.lines.filter isRequestLine = r.requests.map requestLine := by
  have hseries : (r.requests.map requestLine).filter isRequestLine = r.requests.map requestLine :=
    List.filter_eq_self.mpr fun line hline => by
      obtain ⟨series, -, rfl⟩ := List.mem_map.mp hline
      exact isRequestLine_requestLine series
  rw [lines]
  simp only [List.filter_append, filter_block, filter_counter, List.append_nil,
    filter_histogram (by decide : IsOther "http_request_duration_seconds"),
    filter_summary (by decide : IsOther "http_request_size_bytes"),
    filter_summary (by decide : IsOther "http_response_size_bytes")]
  exact hseries

variable {r : Registry} {ls : List Labels} {l : Labels} {n : Nat}

/-- The exposition has a line for plain labels exactly if they have occurred, and with the number of
times. -/
theorem Counts.mem_lines (h : r.Counts ls) (hmethod : IsPlain l.method)
    (hhandler : IsPlain l.handler) :
    requestLine (l, n) ∈ r.lines ↔ n = ls.count l ∧ n ≠ 0 := by
  have hlines : requestLine (l, n) ∈ r.lines ↔ requestLine (l, n) ∈ r.requests.map requestLine := by
    rw [← filter_lines, List.mem_filter]
    exact (and_iff_left (isRequestLine_requestLine _)).symm
  have hseries : requestLine (l, n) ∈ r.requests.map requestLine ↔ (l, n) ∈ r.requests := by
    refine ⟨fun hmem => ?_, List.mem_map_of_mem⟩
    obtain ⟨⟨k, m⟩, hmem, hline⟩ := List.mem_map.mp hmem
    obtain ⟨rfl, rfl⟩ := requestLine_inj hmethod hhandler hline.symm
    exact hmem
  rw [hlines, hseries, h.requests, Family.mem_tally]

end Registry

end Gatehouse
