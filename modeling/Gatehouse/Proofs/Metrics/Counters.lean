import Gatehouse.Proofs.Metrics.Body

/-!
# The counters of an application

The counters of an application are named after it, by characters that a name of metrics may have;
but the first of them may be a digit, with which none begins. So a counter stands in the exposition
under the name that it is shown by unless the name of the application begins with a digit; if it
does, no line begins with the name that is shown (`Registry.isExported_measured`).
-/

namespace Gatehouse.Registry

open Exposition

variable {r : Registry}

/-- Nothing is found in a body under a name that begins with a digit. -/
theorem not_prefix_of_mem_splitOn_render {metric : String} {line : List Char}
    (h : beginsWithDigit metric = true) (hline : line ∈ r.render.toList.splitOn '\n') :
    ¬metric.toList <+: line := by
  intro hstart
  rw [splitOn_render, List.mem_append, List.mem_singleton] at hline
  rcases hline with hline | rfl
  · obtain ⟨l, hl, rfl⟩ := List.mem_map.mp hline
    have hdigit := beginsWithDigit_of_isPrefix h hstart
    rw [(isWritten_of_mem_lines hl).beginsWithDigit] at hdigit
    cases hdigit
  · rw [beginsWithDigit, List.prefix_nil.mp hstart] at h
    cases h

/-- The stem of a name has only characters that may go on with a name. -/
theorem isNameChar_of_mem_stem {app : String} {c : Char} (h : c ∈ (stem app).toList) :
    isNameChar c = true := by
  rw [stem, String.toList_ofList] at h
  obtain ⟨d, -, rfl⟩ := List.mem_map.mp h
  split_ifs with hd
  · rw [isWordChar, Char.isAlphanum] at hd
    rw [isNameChar, isNameStart]
    revert hd
    cases d.isAlpha <;> cases d.isDigit <;> cases d == '_' <;> simp
  · decide

/-- Digits are kept in the stem, and nothing else becomes one. -/
theorem isDigit_stem (c : Char) : (if isWordChar c then c else '_').isDigit = c.isDigit := by
  split_ifs with hc
  · rfl
  · rw [isWordChar, Char.isAlphanum, Bool.or_eq_true, Bool.or_eq_true, not_or, not_or] at hc
    exact (Bool.eq_false_iff.mpr hc.1.2).symm

/-- The name of a counter begins with a digit exactly if that of the application does. -/
theorem beginsWithDigit_stem (app : String) {suffix : String}
    (h : beginsWithDigit suffix = false) :
    beginsWithDigit (stem app ++ suffix) = beginsWithDigit app := by
  rw [beginsWithDigit, stem, String.toList_append, String.toList_ofList, beginsWithDigit]
  cases app.toList with
  | nil => exact h
  | cons c rest => exact isDigit_stem c

/-- The registry of an application after measurements. -/
def measured (app : String) (ms : List Measure) : Registry :=
  MeasureSink.recordAll (new app) ms

theorem app_recordAll : ∀ (ms : List Measure) (r : Registry),
    (MeasureSink.recordAll r ms).app = r.app
  | [], _ => rfl
  | m :: ms, r => by
    rw [recordAll_cons, app_recordAll ms]
    cases m <;> rfl

/-- How a counter that is called `metric` stands in a body after it has been increased `n` times. -/
structure IsExported (metric : String) (n : Nat) (body : String) : Prop where
  /-- There is a line for it, with the number, under a name of metrics. -/
  line : 0 < n → (name metric ++ " " ++ toString n).toList ∈ body.toList.splitOn '\n'
  valid : IsMetricName (name metric)
  /-- This is what it is called, unless that begins with a digit. -/
  own : beginsWithDigit metric = false → name metric = metric
  /-- If it does, it is no name of metrics, and no line begins with it. -/
  foreign : beginsWithDigit metric = true →
    ¬IsMetricName metric ∧ ∀ line ∈ body.toList.splitOn '\n', ¬metric.toList <+: line

theorem mem_counter {metric description : String} {n : Nat} (h : 0 < n) :
    name metric ++ " " ++ toString n ∈ counter metric description n := by
  have hsample : sample (name metric) [] (toString n) = name metric ++ " " ++ toString n := by
    rw [sample, List.isEmpty_nil, if_pos rfl, String.append_empty]
  rw [counter, if_neg (Nat.ne_of_gt h), hsample, block, List.isEmpty_cons,
    if_neg Bool.false_ne_true]
  simp

/-- A counter of the lines that is called after an application. -/
theorem isExported_of_counter {app suffix description : String} {n : Nat}
    (hlines : ∀ line ∈ counter (stem app ++ suffix) description n, line ∈ r.lines)
    (hsuffix : IsMetricName suffix) : IsExported (stem app ++ suffix) n r.render := by
  have hne : stem app ++ suffix ≠ "" := fun hempty =>
    hsuffix.ne_empty (String.append_eq_empty_iff.mp hempty).2
  have hchars : ∀ c ∈ (stem app ++ suffix).toList, isNameChar c = true := by
    intro c hc
    rw [String.toList_append] at hc
    exact (List.mem_append.mp hc).elim isNameChar_of_mem_stem (hsuffix.isNameChar_of_mem c)
  refine ⟨fun hn => (mem_splitOn_render_iff ?_).mpr (hlines _ (mem_counter hn)),
    isMetricName_name hne, fun hfirst => (isMetricName_of_chars hne hchars hfirst).name_eq,
    fun hfirst => ⟨not_isMetricName hfirst, fun line hline =>
      not_prefix_of_mem_splitOn_render hfirst hline⟩⟩
  intro hempty
  exact absurd (String.append_eq_empty_iff.mp (String.append_eq_empty_iff.mp hempty).1).2
    (by decide)

/-- Whatever an application is called and whatever is measured : each of its two counters stands in
the exposition under a name of metrics, and under the one that is shown for it unless the name of
the application begins with a digit. If that does, the name that is shown is no name of metrics, and
nothing is found under it. -/
theorem isExported_measured (app : String) (ms : List Measure) :
    (measured app ms).debug = Text.record "PrometheusSink"
      [("root_get_counter", Text.quoted (stem app ++ "_root_get_request_count")),
        ("not_found_counter", Text.quoted (stem app ++ "_root_not_found_request_count"))] ∧
    IsExported (stem app ++ "_root_get_request_count") (ms.count .rootGet)
      (measured app ms).render ∧
    IsExported (stem app ++ "_root_not_found_request_count") (ms.count .notFound)
      (measured app ms).render ∧
    beginsWithDigit (stem app ++ "_root_get_request_count") = beginsWithDigit app ∧
    beginsWithDigit (stem app ++ "_root_not_found_request_count") = beginsWithDigit app := by
  have happ : (measured app ms).app = app := app_recordAll ms (new app)
  have hrootGets : (measured app ms).rootGets = ms.count .rootGet :=
    (rootGets_recordAll ms (new app)).trans (Nat.zero_add _)
  have hnotFounds : (measured app ms).notFounds = ms.count .notFound :=
    (notFounds_recordAll ms (new app)).trans (Nat.zero_add _)
  have hget : IsMetricName "_root_get_request_count" := by decide
  have hfound : IsMetricName "_root_not_found_request_count" := by decide
  have hgetLines : ∀ line ∈ counter (stem app ++ "_root_get_request_count")
      ("Number of GET request handled by " ++ app ++ " default root handler")
      (ms.count .rootGet), line ∈ (measured app ms).lines := by
    intro line hline
    rw [lines, rootGetName, happ, hrootGets]
    simp only [List.mem_append, hline, true_or, or_true]
  have hfoundLines : ∀ line ∈ counter (stem app ++ "_root_not_found_request_count")
      ("Number of page not found handled by " ++ app ++ " default root handler")
      (ms.count .notFound), line ∈ (measured app ms).lines := by
    intro line hline
    rw [lines, notFoundName, happ, hnotFounds]
    simp only [List.mem_append, hline, true_or, or_true]
  refine ⟨?_, isExported_of_counter hgetLines hget, isExported_of_counter hfoundLines hfound,
    beginsWithDigit_stem app (by decide), beginsWithDigit_stem app (by decide)⟩
  rw [debug, rootGetName, notFoundName, happ]

/-- An application whose name begins with a letter has its counters under the names that are shown.
-/
theorem isExported_measured_cloudkit :
    (measured "cloudkit" [.rootGet, .notFound, .notFound]).debug = Text.record "PrometheusSink"
      [("root_get_counter", Text.quoted "cloudkit_root_get_request_count"),
        ("not_found_counter", Text.quoted "cloudkit_root_not_found_request_count")] ∧
    "cloudkit_root_not_found_request_count 2".toList ∈
      (measured "cloudkit" [.rootGet, .notFound, .notFound]).render.toList.splitOn '\n' ∧
    IsMetricName "cloudkit_root_not_found_request_count" := by
  obtain ⟨hdebug, -, hfound, -, hdigit⟩ :=
    isExported_measured "cloudkit" [.rootGet, .notFound, .notFound]
  have hget : stem "cloudkit" ++ "_root_get_request_count" = "cloudkit_root_get_request_count" := by
    decide
  have hname : stem "cloudkit" ++ "_root_not_found_request_count" =
      "cloudkit_root_not_found_request_count" := by
    decide
  rw [hget, hname] at hdebug
  rw [hname] at hfound hdigit
  have hown := hfound.own (hdigit.trans (by decide))
  have hline := hfound.line (by decide)
  have hvalid := hfound.valid
  rw [hown] at hline hvalid
  exact ⟨hdebug, hline, hvalid⟩

/-- The counter of root pages of an application called `9lives` is shown as
`9lives_root_get_request_count`, which is no name of metrics. So once it has been increased no line
of the body begins with it, and its number stands under another name. -/
theorem root_get_of_digit :
    (measured "9lives" [.rootGet]).debug = Text.record "PrometheusSink"
      [("root_get_counter", Text.quoted "9lives_root_get_request_count"),
        ("not_found_counter", Text.quoted "9lives_root_not_found_request_count")] ∧
    (measured "9lives" [.rootGet]).rootGets = 1 ∧
    ¬IsMetricName "9lives_root_get_request_count" ∧
    "9lives_root_get_request_count 1".toList ∉
      (measured "9lives" [.rootGet]).render.toList.splitOn '\n' ∧
    "_lives_root_get_request_count 1".toList ∈
      (measured "9lives" [.rootGet]).render.toList.splitOn '\n' := by
  have hget : (measured "9lives" [.rootGet]).rootGetName = "9lives_root_get_request_count" := by
    decide
  have hfound : (measured "9lives" [.rootGet]).notFoundName =
      "9lives_root_not_found_request_count" := by
    decide
  have hdigit : beginsWithDigit "9lives_root_get_request_count" = true := by decide
  refine ⟨by rw [debug, hget, hfound], rfl, not_isMetricName hdigit, fun hline => ?_,
    (mem_splitOn_render_iff (by decide)).mpr (by decide)⟩
  exact not_prefix_of_mem_splitOn_render hdigit hline (by decide)

end Gatehouse.Registry
