import Gatehouse.Page
import Mathlib.Data.List.Basic

/-!
# Texts in pages

What a text has to say in a page is never markup (`not_mem_escape`, `exists_entity_of_suffix`), and
nothing of it is lost (`unescape_escape`). So the markup of a page is that of its template, whatever
it shows (`filter_isMark_html`). And since a text ends at the first mark behind it, a page tells
what it shows (`html_inj`).
-/

namespace Gatehouse.Page

/-! ## Entities -/

/-- What a text in HTML stands for. -/
def unescape : List Char → List Char
  | '&' :: 'a' :: 'm' :: 'p' :: ';' :: text => '&' :: unescape text
  | '&' :: 'l' :: 't' :: ';' :: text => '<' :: unescape text
  | '&' :: 'g' :: 't' :: ';' :: text => '>' :: unescape text
  | '&' :: 'q' :: 'u' :: 'o' :: 't' :: ';' :: text => '"' :: unescape text
  | '&' :: '#' :: '3' :: '9' :: ';' :: text => '\x27' :: unescape text
  | c :: text => c :: unescape text
  | [] => []

/-- The characters that have an entity, each with it. -/
def named : List (Char × List Char) :=
  [('&', "&amp;".toList), ('<', "&lt;".toList), ('>', "&gt;".toList), ('"', "&quot;".toList),
    ('\x27', "&#39;".toList)]

/-- The entities. -/
def entities : List (List Char) :=
  named.map Prod.snd

/-- The characters that a text in HTML does not hold. -/
def reserved : List Char :=
  ['<', '>', '"', '\x27']

/-- A character either has an entity or stands for itself. -/
theorem escapeChar_cases (c : Char) :
    (c, escapeChar c) ∈ named ∨ c ∉ '&' :: reserved ∧ escapeChar c = [c] := by
  by_cases h : c ∈ named.map Prod.fst
  · obtain ⟨⟨c, entity⟩, hnamed, rfl⟩ := List.mem_map.mp h
    have hescape : ∀ e ∈ named, escapeChar e.1 = e.2 := by decide
    rw [hescape _ hnamed]
    exact Or.inl hnamed
  · refine Or.inr ⟨h, ?_⟩
    simp only [named, List.map_cons, List.map_nil, List.mem_cons, List.not_mem_nil, or_false,
      not_or] at h
    simp [escapeChar, h]

theorem unescape_cons {c : Char} (h : c ≠ '&') (text : List Char) :
    unescape (c :: text) = c :: unescape text := by
  conv_lhs => unfold unescape
  split <;> simp_all

/-- A character that is escaped is read back in front of any text. -/
theorem unescape_escapeChar_append (c : Char) (text : List Char) :
    unescape (escapeChar c ++ text) = c :: unescape text := by
  rcases escapeChar_cases c with hnamed | ⟨hplain, heq⟩
  · have hread : ∀ e ∈ named, unescape (e.2 ++ text) = e.1 :: unescape text := by
      simp [named, unescape]
    exact hread _ hnamed
  · rw [heq, List.singleton_append, unescape_cons (List.ne_of_not_mem_cons hplain)]

theorem escape_cons (c : Char) (text : List Char) :
    escape (c :: text) = escapeChar c ++ escape text :=
  List.flatMap_cons

/-- No text is changed by being written in HTML and read back. -/
theorem unescape_escape : ∀ text : List Char, unescape (escape text) = text
  | [] => rfl
  | c :: text => by
    rw [escape_cons, unescape_escapeChar_append, unescape_escape text]

theorem escape_inj {s t : List Char} : escape s = escape t ↔ s = t :=
  (Function.LeftInverse.injective unescape_escape).eq_iff

/-- Of the reserved characters none is left. -/
theorem not_mem_escape {c : Char} (h : c ∈ reserved) (text : List Char) : c ∉ escape text := by
  intro hc
  obtain ⟨d, -, hd⟩ := List.mem_flatMap.mp hc
  rcases escapeChar_cases d with hnamed | ⟨hplain, heq⟩
  · have hnone : ∀ e ∈ named, e.2.filter (· ∈ reserved) = [] := by decide
    exact List.filter_eq_nil_iff.mp (hnone _ hnamed) c hd (decide_eq_true h)
  · rw [heq, List.mem_singleton] at hd
    exact hplain (hd ▸ List.mem_cons_of_mem '&' h)

/-- A suffix that begins with a character begins where the character is. -/
theorem suffix_of_suffix_append {c : Char} {rest text : List Char} : ∀ {before : List Char},
    c ∉ before → c :: rest <:+ before ++ text → c :: rest <:+ text
  | [], _, h => h
  | d :: before, hc, h => by
    rw [List.cons_append, List.suffix_cons_iff] at h
    rcases h with h | h
    · exact absurd (List.cons.inj h).1 (List.ne_of_not_mem_cons hc)
    · exact suffix_of_suffix_append (List.not_mem_of_not_mem_cons hc) h

/-- Every ampersand of a text in HTML begins an entity. -/
theorem exists_entity_of_suffix {rest : List Char} : ∀ {text : List Char},
    '&' :: rest <:+ escape text → ∃ entity ∈ entities, entity <+: '&' :: rest
  | [], h => by simp [escape] at h
  | c :: text, h => by
    rw [escape_cons] at h
    rcases escapeChar_cases c with hnamed | ⟨hplain, heq⟩
    · have hentity : ∀ e ∈ named, e.2 = '&' :: e.2.tail ∧ '&' ∉ e.2.tail := by decide
      obtain ⟨heq, htail⟩ : escapeChar c = '&' :: (escapeChar c).tail ∧
        '&' ∉ (escapeChar c).tail := hentity _ hnamed
      -- An ampersand of the rest of the entity would be another one.
      rw [heq, List.cons_append, List.suffix_cons_iff] at h
      rcases h with h | h
      · refine ⟨escapeChar c, List.mem_map.mpr ⟨_, hnamed, rfl⟩, escape text, ?_⟩
        rw [h, ← List.cons_append, ← heq]
      · exact exists_entity_of_suffix (suffix_of_suffix_append htail h)
    · rw [heq] at h
      refine exists_entity_of_suffix (suffix_of_suffix_append ?_ h)
      exact fun hmem => hplain (List.mem_singleton.mp hmem ▸ List.mem_cons_self)

/-! ## Pages -/

/-- The marks that tags and their attributes are made with. -/
def isMark (c : Char) : Bool :=
  c == '<' || c == '>' || c == '"'

/-- A page without its texts. -/
def template : List Char :=
  head.toList ++ titleOpen.toList ++ bodyOpen.toList ++ tail.toList

/-- What is escaped holds no mark of a template. -/
theorem filter_isMark_escape (text : List Char) : (escape text).filter isMark = [] := by
  refine List.filter_eq_nil_iff.mpr fun c hc hmark => not_mem_escape ?_ text hc
  simp only [isMark, Bool.or_eq_true, beq_iff_eq] at hmark
  rcases hmark with (rfl | rfl) | rfl <;> decide

/-- The marks of a page are those of its template, whatever it shows. -/
theorem filter_isMark_html (p : Page) : p.html.filter isMark = template.filter isMark := by
  simp [html, template, filter_isMark_escape]

/-- Texts up to the first of some character can be told apart, whatever comes behind. -/
theorem eq_of_append_cons_eq {c : Char} {rest rest' : List Char} : ∀ {s t : List Char},
    c ∉ s → c ∉ t → s ++ c :: rest = t ++ c :: rest' → s = t ∧ rest = rest'
  | [], [], _, _, h => ⟨rfl, (List.cons.inj h).2⟩
  | [], d :: t, _, ht, h => absurd (List.cons.inj h).1 (List.ne_of_not_mem_cons ht)
  | d :: s, [], hs, _, h => absurd (List.cons.inj h).1.symm (List.ne_of_not_mem_cons hs)
  | d :: s, e :: t, hs, ht, h => by
    obtain ⟨rfl, htail⟩ := List.cons.inj h
    obtain ⟨rfl, hrest⟩ := eq_of_append_cons_eq (List.not_mem_of_not_mem_cons hs)
      (List.not_mem_of_not_mem_cons ht) htail
    exact ⟨rfl, hrest⟩

/-- A page tells its title and its description. -/
theorem html_inj {p q : Page} : p.html = q.html ↔ p = q := by
  refine ⟨fun h => ?_, fun h => h ▸ rfl⟩
  obtain ⟨title, description⟩ := p
  obtain ⟨title', description'⟩ := q
  have hquote : titleOpen.toList = '"' :: titleOpen.toList.tail := by decide
  have hbracket : bodyOpen.toList = '<' :: bodyOpen.toList.tail := by decide
  simp only [html, List.append_assoc, List.append_cancel_left_eq] at h
  -- The description ends at a quotation mark, and the title at the bracket of a tag.
  rw [hquote, List.cons_append, List.cons_append] at h
  obtain ⟨hdescription, h⟩ := eq_of_append_cons_eq (not_mem_escape (by decide) _)
    (not_mem_escape (by decide) _) h
  rw [List.append_cancel_left_eq, hbracket, List.cons_append, List.cons_append] at h
  obtain ⟨htitle, -⟩ := eq_of_append_cons_eq (not_mem_escape (by decide) _)
    (not_mem_escape (by decide) _) h
  rw [escape_inj, String.toList_inj] at hdescription htitle
  rw [hdescription, htitle]

end Gatehouse.Page
