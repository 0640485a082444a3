import Gatehouse.Token.Basic
import Mathlib.Data.List.TakeWhile

/-!
# The segments of a token

A text has the segments `s` if it is their text and neither the second nor the third of them has a
dot in it (`segments?_eq_some_iff`). So a text has at most one division.
-/

namespace Gatehouse.Token

theorem cutLast?_append {before after : List Char} (h : '.' ∉ after) :
    cutLast? (before ++ '.' :: after) = some (before, after) := by
  have hall : ∀ c ∈ after.reverse, (c != '.') = true := by
    intro c hc
    rw [bne_iff_ne]
    rintro rfl
    exact h (List.mem_reverse.mp hc)
  have hrev : (before ++ '.' :: after).reverse = after.reverse ++ '.' :: before.reverse := by
    simp
  rw [cutLast?, hrev, List.dropWhile_append_of_pos hall, List.takeWhile_append_of_pos hall]
  simp

/-- The last dot of a text is the one with no dot behind it. -/
theorem cutLast?_eq_some_iff {text before after : List Char} :
    cutLast? text = some (before, after) ↔ text = before ++ '.' :: after ∧ '.' ∉ after := by
  constructor
  · intro h
    rw [cutLast?] at h
    split at h
    · cases h
    · rename_i c rest hdrop
      obtain ⟨rfl, rfl⟩ := Prod.mk.inj (Option.some.inj h)
      have hc : c = '.' := by
        have hhead := List.head_dropWhile_not (· != '.') (l := text.reverse) (by rw [hdrop]; simp)
        simpa [hdrop] using hhead
      subst hc
      constructor
      · have hsplit := List.takeWhile_append_dropWhile (p := (· != '.')) (l := text.reverse)
        rw [hdrop] at hsplit
        have hrev := congrArg List.reverse hsplit
        simpa using hrev.symm
      · intro hmem
        have hne := List.mem_takeWhile_imp (List.mem_reverse.mp hmem)
        simp at hne
  · rintro ⟨rfl, h⟩
    exact cutLast?_append h

/-- A text is divided in one way. -/
theorem segments?_eq_some_iff {text : List Char} {s : Segments} :
    segments? text = some s ↔ text = s.text ∧ '.' ∉ s.payload ∧ '.' ∉ s.signature := by
  constructor
  · intro h
    obtain ⟨⟨message, signature⟩, hlast, h⟩ := Option.bind_eq_some_iff.mp h
    obtain ⟨⟨header, payload⟩, hfirst, h⟩ := Option.bind_eq_some_iff.mp h
    obtain rfl := Option.some.inj h
    obtain ⟨rfl, hsignature⟩ := cutLast?_eq_some_iff.mp hlast
    obtain ⟨rfl, hpayload⟩ := cutLast?_eq_some_iff.mp hfirst
    exact ⟨rfl, hpayload, hsignature⟩
  · rintro ⟨rfl, hpayload, hsignature⟩
    rw [segments?, Segments.text, cutLast?_append hsignature, Segments.message]
    simp [cutLast?_append hpayload]

theorem exists_last_dot {text : List Char} (h : '.' ∈ text) :
    ∃ before after, text = before ++ '.' :: after ∧ '.' ∉ after := by
  obtain ⟨after, before, hrev, hafter⟩ := List.eq_append_cons_of_mem (List.mem_reverse.mpr h)
  have htext := congrArg List.reverse hrev
  exact ⟨before.reverse, after.reverse, by simpa using htext, by simpa using hafter⟩

/-- Two points make three segments. -/
theorem exists_segments_of_count {text : List Char} (h : 2 ≤ text.count '.') :
    ∃ s, segments? text = some s := by
  obtain ⟨message, signature, rfl, hsignature⟩ :=
    exists_last_dot (List.count_pos_iff.mp (Nat.lt_of_lt_of_le Nat.zero_lt_two h))
  have hmessage : 0 < message.count '.' := by
    rw [List.count_append, List.count_cons_self, List.count_eq_zero_of_not_mem hsignature] at h
    omega
  obtain ⟨header, payload, rfl, hpayload⟩ :=
    exists_last_dot (List.count_pos_iff.mp hmessage)
  exact ⟨⟨header, payload, signature⟩, segments?_eq_some_iff.mpr ⟨rfl, hpayload, hsignature⟩⟩

/-- Further dots belong to the first segment. -/
example : segments? "a.b.c.d".toList = some ⟨"a.b".toList, ['c'], ['d']⟩ := by decide

end Gatehouse.Token
